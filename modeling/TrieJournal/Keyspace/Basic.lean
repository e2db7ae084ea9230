import TrieJournal.Text.Quoted

/-!
# Keyspaces

The tables that share the flat keyspace of a node database. Five of them are written to a log
under a name; whatever is in none of the five is unclassified and never written.
-/

namespace TrieJournal

/-- The logical table that a store key belongs to: trie nodes by path, flat accounts and storage
slots, trie nodes by the hash of their encoding, or anything else. -/
inductive Keyspace where
  | accountTrie
  | storageTrie
  | snapshotAccount
  | snapshotStorage
  | hashTrie
  | unclassified
  deriving DecidableEq, Repr

namespace Keyspace

/-- The keyspaces that can stand in a log, in the order of the tables. -/
def classified : List Keyspace :=
  [accountTrie, storageTrie, hashTrie, snapshotAccount, snapshotStorage]

/-- All keyspaces, in the order in which a summary lists its entries. -/
def all : List Keyspace :=
  [accountTrie, storageTrie, snapshotAccount, snapshotStorage, hashTrie, unclassified]

def rank (k : Keyspace) : Nat := all.idxOf k

def isClassified : Keyspace → Bool
  | unclassified => false
  | _ => true

def wireName? : Keyspace → Option String
  | accountTrie => some "PATH_ACCOUNT_TRIE"
  | storageTrie => some "PATH_STORAGE_TRIE"
  | snapshotAccount => some "SNAPSHOT_ACCOUNT"
  | snapshotStorage => some "SNAPSHOT_STORAGE"
  | hashTrie => some "HASH_TRIE"
  | unclassified => none

/-- The name shown, also for keys that are never logged. -/
def name (k : Keyspace) : String := k.wireName?.getD "UNCLASSIFIED"

def description : Keyspace → String
  | accountTrie => "Path-Scheme Account Trie"
  | storageTrie => "Path-Scheme Storage Trie"
  | snapshotAccount => "Snapshot Account"
  | snapshotStorage => "Snapshot Storage"
  | hashTrie => "Hash-Scheme Trie Node"
  | unclassified => "Unclassified"

def ofWireName? (name : String) : Option Keyspace :=
  classified.find? fun k => k.wireName? = some name

def unknownMessage (name : String) : String := s!"Unknown namespace name: {Quoted.text name}"

end Keyspace

end TrieJournal
