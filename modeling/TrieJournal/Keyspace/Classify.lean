import TrieJournal.Keccak
import TrieJournal.Keyspace.Basic

/-!
# Classification of keys

Rules are tried in order and the first that admits the key and its value decides. Four of them ask
for a leading byte, two of these also for a length. The last admits keys of 32 bytes: with a value
at hand, only those that are the hash of it.
-/

namespace TrieJournal

/-- A predicate on keys and the values known for them, and the keyspace it selects. -/
structure Rule where
  keyspace : Keyspace
  admits : Bytes → Option Bytes → Bool

namespace Keyspace

def hashLength : Nat := 32

/-- Paths are stored one nibble per byte and are shorter than a full key. -/
def pathLimit : Nat := 2 * hashLength

/-- An `A`, then a path. -/
def isAccountTrieKey (key : Bytes) : Bool :=
  key.head? = some 0x41 && key.length < 1 + pathLimit

/-- An `O`, then an account hash, then a path. -/
def isStorageTrieKey (key : Bytes) : Bool :=
  key.head? = some 0x4F && 1 + hashLength ≤ key.length && key.length < 1 + hashLength + pathLimit

def isSnapshotAccountKey (key : Bytes) : Bool := key.head? = some 0x61

def isSnapshotStorageKey (key : Bytes) : Bool := key.head? = some 0x6F

/-- A key as long as a hash, and the hash of the value if that is known. -/
def isHashKey (key : Bytes) (value : Option Bytes) : Bool :=
  key.length = hashLength && value.all fun v => Keccak.digest v = key

def rules : List Rule :=
  [⟨accountTrie, fun key _ => isAccountTrieKey key⟩,
    ⟨storageTrie, fun key _ => isStorageTrieKey key⟩,
    ⟨snapshotAccount, fun key _ => isSnapshotAccountKey key⟩,
    ⟨snapshotStorage, fun key _ => isSnapshotStorageKey key⟩,
    ⟨hashTrie, isHashKey⟩]

/-- The keyspace selected by the first of the rules that admits the key. No rule is asked about
the empty key. -/
def classifyBy (rules : List Rule) (key : Bytes) (value : Option Bytes) : Keyspace :=
  if key.isEmpty then unclassified
  else ((rules.find? fun rule => rule.admits key value).map (·.keyspace)).getD unclassified

def classify (key : Bytes) (value : Option Bytes) : Keyspace := classifyBy rules key value

def classifyKey (key : Bytes) : Keyspace := classify key none

end Keyspace

end TrieJournal
