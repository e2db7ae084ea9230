import TrieJournal.Bytes

/-!
# The store

An ordered map from keys to values, held as a list of entries in ascending order of their keys. A
batch is a list of intents that are applied in order. The map cannot be asked for a range of keys
that ends before it starts, so a range delete makes sure first that its range is not of that kind.
-/

namespace TrieJournal

/-- One change of a batch. A range goes from `start` up to `stop`, or has no upper bound if `stop`
is empty. -/
inductive Intent where
  | put (key value : Bytes)
  | delete (key : Bytes)
  | deleteRange (start stop : Bytes)
  deriving DecidableEq, Repr

/-- The keys from `start` on and, if there is a `stop?`, before it. -/
structure KeyRange where
  start : Bytes
  stop? : Option Bytes
  ascending : ∀ stop ∈ stop?, start ≤ stop

namespace KeyRange

def upTo (start stop : Bytes) (ascending : stop = [] ∨ start ≤ stop) : KeyRange where
  start := start
  stop? := if stop = [] then none else some stop
  ascending := by
    intro other mem
    split at mem
    · cases mem
    · rename_i bounded
      cases mem
      exact ascending.resolve_left bounded

def contains (r : KeyRange) (key : Bytes) : Bool := r.start ≤ key && r.stop?.all (key < ·)

end KeyRange

structure Store where
  entries : List (Bytes × Bytes)
  deriving DecidableEq, Repr

namespace Store

def empty : Store := ⟨[]⟩

def get? (s : Store) (key : Bytes) : Option Bytes := s.entries.lookup key

def contains (s : Store) (key : Bytes) : Bool := (s.get? key).isSome

def insertEntry (key value : Bytes) : List (Bytes × Bytes) → List (Bytes × Bytes)
  | [] => [(key, value)]
  | (k, v) :: rest =>
    if key = k then (key, value) :: rest
    else if key < k then (key, value) :: (k, v) :: rest
    else (k, v) :: insertEntry key value rest

def insert (s : Store) (key value : Bytes) : Store := ⟨insertEntry key value s.entries⟩

def erase (s : Store) (key : Bytes) : Store := ⟨s.entries.filter fun e => e.1 ≠ key⟩

/-- Collects the keys of a range and erases them one by one. -/
def removeRange (s : Store) (r : KeyRange) : Store :=
  ((s.entries.map Prod.fst).filter r.contains).foldl erase s

/-- Removes the keys from `start` up to `stop`. An empty range is not looked up in the map. -/
def eraseRange (s : Store) (start stop : Bytes) : Store :=
  if ascending : stop = [] ∨ start < stop then
    s.removeRange (.upTo start stop (ascending.imp_right List.le_of_lt))
  else s

def apply (s : Store) : Intent → Store
  | .put key value => s.insert key value
  | .delete key => s.erase key
  | .deleteRange start stop => s.eraseRange start stop

def applyAll (s : Store) (intents : List Intent) : Store := intents.foldl apply s

def ofList (entries : List (Bytes × Bytes)) : Store :=
  entries.foldl (fun s e => s.insert e.1 e.2) empty

def size (s : Store) : Nat := s.entries.length

def byteSize (s : Store) : Nat :=
  s.entries.foldl (fun n e => n + (e.1.length + e.2.length)) 0

end Store

end TrieJournal
