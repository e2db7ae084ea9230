import TrieJournal.Store.Engine

/-!
# Guarded stores

A store that refuses what its access mode forbids, and may report figures and a directory of its
own.
-/

namespace TrieJournal

/-- What may be done with a guarded store. One that is `down` can neither be read nor written. -/
inductive Access where
  | full
  | readOnly
  | down
  deriving DecidableEq, Repr

namespace Access

def toWrite : Access → Except EngineError Unit
  | full => .ok ()
  | readOnly => .error ⟨"read only"⟩
  | down => .error ⟨"down"⟩

def toRead : Access → Except EngineError Unit
  | down => .error ⟨"down"⟩
  | _ => .ok ()

end Access

structure GuardedStore where
  store : Store
  access : Access
  figures : List (Property × String)
  directory? : Option Bytes

namespace GuardedStore

def ofStore (s : Store) : GuardedStore := ⟨s, .full, [], none⟩

def write (g : GuardedStore) (change : Store → Store) : Except EngineError Unit × GuardedStore :=
  match g.access.toWrite with
  | .ok () => (.ok (), { g with store := change g.store })
  | .error e => (.error e, g)

def read {α : Type} (g : GuardedStore) (view : Store → α) : Except EngineError α × GuardedStore :=
  (g.access.toRead.map fun () => view g.store, g)

end GuardedStore

instance : StorageEngine GuardedStore where
  get g key := g.read (·.get? key)
  put g key value := g.write (·.insert key value)
  delete g key := g.write (·.erase key)
  writeBatch g intents := g.write (·.applyAll intents)
  keyCount g := g.read (·.size)
  property? g p := ((g.figures.lookup p).or (g.store.figure? p), g)
  path? g := (g.directory?, g)

end TrieJournal
