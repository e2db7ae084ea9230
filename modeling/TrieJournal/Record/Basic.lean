import TrieJournal.Keyspace.Classify

/-!
# Operation records

One record describes one store operation: its kind, its key, its value, the sizes stated for both,
and the keyspace of the key. For a range delete the key is the start of the range and the value
its end. Sizes are 64-bit numbers; a record built from an operation states the true ones.
-/

namespace TrieJournal

inductive OpKind where
  | get
  | put
  | delete
  | deleteRange
  deriving DecidableEq, Repr

namespace OpKind

def all : List OpKind := [get, put, delete, deleteRange]

def name : OpKind → String
  | get => "GET"
  | put => "PUT"
  | delete => "DELETE"
  | deleteRange => "DELETE_RANGE"

def ofName? (name : String) : Option OpKind := all.find? fun k => k.name = name

end OpKind

/-- A store operation as it is logged, with the sizes stated for its key and its value. A range has
its start for a key and its end for a value. -/
structure Record where
  kind : OpKind
  key : Bytes
  value : Option Bytes
  keySize : UInt64
  valueSize : UInt64
  keyspace : Keyspace
  deriving DecidableEq, Repr

namespace Record

/-- The record that states the true sizes of its key and value. -/
def ofPayload (kind : OpKind) (key : Bytes) (value : Option Bytes) (keyspace : Keyspace) :
    Record where
  kind := kind
  key := key
  value := value
  keySize := UInt64.ofNat key.length
  valueSize := UInt64.ofNat (value.getD []).length
  keyspace := keyspace

/-- The keyspace of an operation. Reads and writes are classified with their value, deletes by the
key alone. -/
def keyspaceOf (kind : OpKind) (key : Bytes) (value : Option Bytes) : Keyspace :=
  match kind with
  | .get | .put => Keyspace.classify key value
  | .delete | .deleteRange => Keyspace.classifyKey key

/-- The record of an operation, or `none` if its key is unclassified. -/
def classified? (kind : OpKind) (key : Bytes) (value : Option Bytes) : Option Record :=
  let keyspace := keyspaceOf kind key value
  if keyspace.isClassified then some (ofPayload kind key value keyspace) else none

end Record

end TrieJournal
