import TrieJournal.Proofs.Log.Appending
import TrieJournal.Proofs.Store.Serving
import TrieJournal.Recorder.Session

/-!
# Serving requests

A recorder answers a request as its engine does and notes the operations of the request: those of
its intents, or the read that found a value. With a sink that never fails, what is noted is what the
log holds.
-/

namespace TrieJournal

namespace Request

def operations {σ : Type} [StorageEngine σ] (engine : σ) : Request → List Operation
  | .get key =>
    match (StorageEngine.get engine key).1 with
    | .ok value => (Operation.ofRead? key value).toList
    | .error _ => []
  | request => request.intents.filterMap Operation.ofIntent?

end Request

namespace Recorder

variable {σ : Type}

/-- A recorder that has written nothing but the header of its log. -/
def fresh (engine : σ) (policy : Log.SinkPolicy) : Recorder σ :=
  ⟨engine, ⟨⟨policy, Log.headerLine⟩, 0⟩, true, ⟨0, 0, 0⟩⟩

theorem append_engine (r : Recorder σ) (records : List Record) :
    (r.append records).engine = r.engine := by
  unfold append
  split
  · split <;> rfl
  · rfl

theorem note_engine (r : Recorder σ) (ops : List Operation) : (r.note ops).engine = r.engine :=
  append_engine _ _

theorem append_withEngine (r : Recorder σ) (engine : σ) (records : List Record) :
    append { r with engine } records = { r.append records with engine } := by
  unfold append
  dsimp only
  split
  · split <;> rfl
  · rfl

theorem note_withEngine (r : Recorder σ) (engine : σ) (ops : List Operation) :
    note { r with engine } ops = { r.note ops with engine } :=
  append_withEngine { r with counts.unclassified := r.counts.unclassified + _ } engine _

theorem close_engine (r : Recorder σ) : r.close.2.engine = r.engine := by
  unfold close
  split <;> rfl

theorem note_nil (r : Recorder σ) : r.note [] = r := by
  simp [note, append]

theorem change_eq (r : Recorder σ) (intents : List Intent)
    (act : σ → Except EngineError Unit × σ) :
    r.change intents act = ((act r.engine).1,
      { r.note (intents.filterMap Operation.ofIntent?) with engine := (act r.engine).2 }) := by
  rw [change, note_engine]

variable [StorageEngine σ]

theorem writeBatch_eq (r : Recorder σ) (intents : List Intent) :
    r.writeBatch intents = ((StorageEngine.writeBatch r.engine intents).1,
      { r.note (intents.filterMap Operation.ofIntent?) with
        engine := (StorageEngine.writeBatch r.engine intents).2 }) :=
  change_eq r intents _

/-- What a recorder does with a request: it answers as its engine does, and notes the operations. -/
theorem serve_eq (r : Recorder σ) (request : Request) :
    r.serve request = ((StorageEngine.serve r.engine request).1,
      { r.note (request.operations r.engine) with
        engine := (StorageEngine.serve r.engine request).2 }) := by
  cases request with
  | get key =>
    simp only [serve, get, StorageEngine.serve, Request.operations]
    obtain ⟨found, engine⟩ := StorageEngine.get r.engine key
    cases found with
    | error e => simp only [note_nil]; rfl
    | ok value => simp only [note_withEngine]; rfl
  | put key value =>
    exact congrArg (Prod.map Answer.ofWrite id)
      (change_eq r [.put key value] (StorageEngine.put · key value))
  | delete key =>
    exact congrArg (Prod.map Answer.ofWrite id)
      (change_eq r [.delete key] (StorageEngine.delete · key))
  | deleteRange start stop => exact congrArg (Prod.map Answer.ofWrite id) (writeBatch_eq r _)
  | writeBatch intents => exact congrArg (Prod.map Answer.ofWrite id) (writeBatch_eq r _)
  | has | keyCount | property | path =>
    simp only [serve, StorageEngine.serve, Request.operations, Request.intents, List.filterMap_nil,
      note_nil]
    rfl

end Recorder

end TrieJournal
