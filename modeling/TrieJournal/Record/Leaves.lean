import TrieJournal.Record.Basic
import TrieJournal.Text.Hex
import TrieJournal.Trie.Account
import TrieJournal.Trie.Node

/-!
# Account leaves

The records of the account trie, those among them whose value is a leaf, and the account that such
a leaf holds. The hash of an account is the path in the key followed by the path in the leaf.
-/

namespace TrieJournal

namespace Record

def inAccountTrie (r : Record) : Bool := r.keyspace = .accountTrie

def isAccountLeaf (r : Record) : Bool :=
  r.inAccountTrie && r.value.any fun v => (Node.decode v).toOption.any Node.isLeaf

def accountTrie (records : List Record) : List Record := records.filter inAccountTrie

def leaves (records : List Record) : List Record := records.filter isAccountLeaf

theorem leaves_accountTrie (records : List Record) :
    leaves (accountTrie records) = leaves records := by
  rw [leaves, accountTrie, List.filter_filter]
  refine List.filter_congr fun r _ => ?_
  rw [isAccountLeaf]
  cases r.inAccountTrie <;> simp

end Record

/-- Why a record holds no account. A path has the wrong length if that of the key and that of the
leaf together have. -/
inductive AccountLeafError where
  | notAccountTrie (keyspace : Keyspace)
  | missingValue
  | node (e : NodeError)
  | notLeaf
  | notNibble (byte : UInt8)
  | pathLength (n : Nat)
  | account (e : Rlp.Error)
  deriving DecidableEq, Repr

def AccountLeafError.message : AccountLeafError → String
  | .notAccountTrie k => s!"Record is in {k.name}, not the account trie"
  | .missingValue => "Record has no value"
  | .node e => e.message
  | .notLeaf => "Node is not a leaf"
  | .notNibble byte => s!"Path byte 0x{Hex.encode [byte]} is not a nibble"
  | .pathLength n => s!"Leaf path has {n} nibbles, expected 64"
  | .account e => s!"Leaf payload is not an account: {e.message}"

/-- An account together with its place in the trie. -/
structure AccountLeaf where
  hash : Digest
  account : Account
  deriving DecidableEq, Repr

namespace AccountLeaf

/-- The path that a key spells out after its leading byte, one nibble per byte. -/
def keyPath : Bytes → Except AccountLeafError (List Nibble)
  | [] => .ok []
  | byte :: rest => do
    match Nibble.ofByte? byte with
    | some n => return n :: (← keyPath rest)
    | none => throw (.notNibble byte)

/-- The hash that a path of 64 nibbles spells out. -/
def hashOfPath (path : List Nibble) : Except AccountLeafError Digest :=
  if path.length = 64 then
    if h : (Nibble.toBytes path).length = 32 then .ok ⟨Nibble.toBytes path, h⟩
    else .error (.pathLength path.length)
  else .error (.pathLength path.length)

def decode (r : Record) : Except AccountLeafError AccountLeaf := do
  if r.inAccountTrie then
    let some value := r.value | throw .missingValue
    let .leaf path payload ← (Node.decode value).mapError .node | throw .notLeaf
    let stored ← keyPath r.key.tail
    let hash ← hashOfPath (stored ++ path)
    let account ← (Account.decode payload).mapError .account
    return { hash, account }
  else throw (.notAccountTrie r.keyspace)

def hashText (leaf : AccountLeaf) : String := "0x" ++ Hex.encode leaf.hash.val

end AccountLeaf

end TrieJournal
