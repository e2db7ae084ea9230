import TrieJournal.Store.Basic
import TrieJournal.Store.Property

/-!
# Storage engines

Whatever keeps keys and values and may refuse to. An engine answers every request, reads included,
with the engine as it is afterwards, whether the request succeeds or not. `serve` answers a request
of any kind.

`Store` is an engine that never refuses and that no read changes.
-/

namespace TrieJournal

structure EngineError where
  reason : String
  deriving DecidableEq, Repr

def EngineError.message (e : EngineError) : String := s!"Storage engine error: {e.reason}"

/-- What is done with an engine, whose states have type `σ`. Whether a key has a value is found out
by reading it unless the engine knows a better way. An engine reports some figures about itself, and
the directory that holds its files. -/
class StorageEngine (σ : Type) where
  get : σ → Bytes → Except EngineError (Option Bytes) × σ
  has : σ → Bytes → Except EngineError Bool × σ :=
    fun engine key => (get engine key).map (Except.map Option.isSome) id
  put : σ → Bytes → Bytes → Except EngineError Unit × σ
  delete : σ → Bytes → Except EngineError Unit × σ
  writeBatch : σ → List Intent → Except EngineError Unit × σ
  keyCount : σ → Except EngineError Nat × σ
  property? : σ → Property → Option String × σ
  path? : σ → Option Bytes × σ

namespace StorageEngine

variable {σ : Type} [StorageEngine σ]

/-- Removes the keys of a range, as a batch of one change. -/
def deleteRange (e : σ) (start stop : Bytes) : Except EngineError Unit × σ :=
  writeBatch e [.deleteRange start stop]

end StorageEngine

inductive Request where
  | get (key : Bytes)
  | has (key : Bytes)
  | put (key value : Bytes)
  | delete (key : Bytes)
  | deleteRange (start stop : Bytes)
  | writeBatch (intents : List Intent)
  | keyCount
  | property (p : Property)
  | path
  deriving DecidableEq, Repr

inductive Answer where
  | value (v : Option Bytes)
  | present (b : Bool)
  | done
  | count (n : Nat)
  | figure (text : Option String)
  | directory (path : Option Bytes)
  | refused (e : EngineError)
  deriving DecidableEq, Repr

namespace Answer

def ofRead {α : Type} (answer : α → Answer) : Except EngineError α → Answer
  | .ok a => answer a
  | .error e => refused e

def ofWrite : Except EngineError Unit → Answer
  | .ok () => done
  | .error e => refused e

end Answer

namespace StorageEngine

variable {σ : Type} [StorageEngine σ]

def serve (e : σ) : Request → Answer × σ
  | .get key => (get e key).map (.ofRead .value) id
  | .has key => (has e key).map (.ofRead .present) id
  | .put key value => (put e key value).map .ofWrite id
  | .delete key => (delete e key).map .ofWrite id
  | .deleteRange start stop => (deleteRange e start stop).map .ofWrite id
  | .writeBatch intents => (writeBatch e intents).map .ofWrite id
  | .keyCount => (keyCount e).map (.ofRead .count) id
  | .property p => (property? e p).map .figure id
  | .path => (path? e).map .directory id

end StorageEngine

def Store.figure? (s : Store) : Property → Option String
  | .memoryUsage => some (toString s.byteSize)
  | _ => none

instance : StorageEngine Store where
  get s key := (.ok (s.get? key), s)
  put s key value := (.ok (), s.insert key value)
  delete s key := (.ok (), s.erase key)
  writeBatch s intents := (.ok (), s.applyAll intents)
  keyCount s := (.ok s.size, s)
  property? s p := (s.figure? p, s)
  path? s := (none, s)

end TrieJournal
