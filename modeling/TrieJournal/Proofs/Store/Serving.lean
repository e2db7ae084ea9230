import TrieJournal.Proofs.Store.Contents
import TrieJournal.Store.Engine

/-!
# Stores that serve requests

What a request asks an engine to change, and the engine behind requests served one after the other.
A store makes the changes of a request in order and no others, so a batch of changes leaves behind
what the changes leave behind as requests of their own.
-/

namespace TrieJournal

def Request.intents : Request → List Intent
  | .put key value => [.put key value]
  | .delete key => [.delete key]
  | .deleteRange start stop => [.deleteRange start stop]
  | .writeBatch intents => intents
  | _ => []

def Intent.request : Intent → Request
  | .put key value => .put key value
  | .delete key => .delete key
  | .deleteRange start stop => .deleteRange start stop

namespace StorageEngine

def serveAll {σ : Type} [StorageEngine σ] (engine : σ) (requests : List Request) : σ :=
  requests.foldl (fun engine request => (serve engine request).2) engine

theorem serve_store (s : Store) (request : Request) :
    (serve s request).2 = s.applyAll request.intents := by
  cases request <;> rfl

theorem serveAll_store (s : Store) (requests : List Request) :
    serveAll s requests = s.applyAll (requests.flatMap Request.intents) := by
  induction requests generalizing s with
  | nil => rfl
  | cons request requests ih =>
    rw [List.flatMap_cons, Store.applyAll_append, ← ih, ← serve_store]
    rfl

theorem serveAll_singles (s : Store) (intents : List Intent) :
    serveAll s (intents.map Intent.request) = s.applyAll intents := by
  induction intents generalizing s with
  | nil => rfl
  | cons intent intents ih =>
    have one : (serve s intent.request).2 = s.apply intent := by
      cases intent <;> rfl
    rw [List.map_cons, serveAll, List.foldl_cons, one]
    exact ih (s.apply intent)

end StorageEngine

theorem Store.Ordered.serveAll {s : Store} (ordered : s.Ordered) (requests : List Request) :
    (StorageEngine.serveAll s requests).Ordered := by
  rw [StorageEngine.serveAll_store]
  exact ordered.applyAll _

end TrieJournal
