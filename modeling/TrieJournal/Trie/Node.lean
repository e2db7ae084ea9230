import TrieJournal.Rlp.Encoder
import TrieJournal.Trie.CompactPath

/-!
# Trie nodes

A stored node is a list of 17 items (a branch) or of 2 (a leaf or an extension, told apart by the
flag of their compact path). Only this outer layer is read: children and payloads stay encoded.
-/

namespace TrieJournal

/-- The shape of a stored trie node. The children and the value of a branch are not read. -/
inductive Node where
  | branch
  | extension (path : List Nibble)
  | leaf (path : List Nibble) (payload : Bytes)
  deriving DecidableEq, Repr

inductive NodeError where
  | rlp (e : Rlp.Error)
  | notList
  | trailingBytes (n : Nat)
  | itemCount (n : Nat)
  | pathNotBytes
  | emptyPath
  deriving DecidableEq, Repr

def NodeError.message : NodeError → String
  | .rlp e => s!"Invalid RLP: {e.message}"
  | .notList => "Node encoding is not an RLP list"
  | .trailingBytes n => s!"Node encoding has {n} trailing bytes after the outer list"
  | .itemCount n => s!"Expected a list of 17 or 2 items, found {n}"
  | .pathNotBytes => "The compact path of a short node is not a byte string"
  | .emptyPath => "The compact path of a short node is empty"

namespace Node

def isLeaf : Node → Bool
  | leaf _ _ => true
  | _ => false

def branchItems : Nat := 17

def shortItems : Nat := 2

def decodeShort (blob : Bytes) : Except NodeError Node := do
  let (key, rest) ← (Rlp.firstItem blob).mapError .rlp
  if Rlp.isByteString key then
    let pathBytes ← (Rlp.payload key).mapError .rlp
    match CompactPath.decode? pathBytes with
    | none => throw .emptyPath
    | some ⟨nibbles, false⟩ => return extension nibbles
    | some ⟨nibbles, true⟩ =>
      let (item, _) ← (Rlp.splitItem rest).mapError .rlp
      let payload ← (Rlp.payload item).mapError .rlp
      return leaf nibbles payload
  else throw .pathNotBytes

/-- Reads the outer layer of a node. -/
def decode (blob : Bytes) : Except NodeError Node := do
  if Rlp.isList blob then
    let h ← (Rlp.header blob).mapError .rlp
    if h.itemLength < blob.length then throw (.trailingBytes (blob.length - h.itemLength))
    else
      let n := Rlp.itemCount blob
      if n = branchItems then return branch
      else if n = shortItems then decodeShort blob
      else throw (.itemCount n)
  else throw .notList

/-- The encoding of a short node: its compact path and a byte string. -/
def encodeShort (path : CompactPath) (value : Bytes) : Bytes :=
  Rlp.encodeList [Rlp.encodeBytes path.encode, Rlp.encodeBytes value]

end Node

end TrieJournal
