import TrieJournal.Proofs.Recorder.Serving

/-!
# Transparency of recording

Whatever happens to a recorder, its log, its sink and its batches, the answers are those of the
engine alone, and the engine goes through the same states. The engine alone is an `Unrecorded` one:
requests are served by it directly, and a commit writes the intents queued so far as one batch. The
engine is any that deletes a range as a batch of one change.
-/

namespace TrieJournal

/-- An engine that is used directly, and the intents queued for it under each name. -/
structure Unrecorded (σ : Type) where
  engine : σ
  queued : String → List Intent

/-- What a caller learns from an event about the engine and its batches. -/
inductive Sight where
  | answer (a : Answer)
  | batch (result : Except EngineError Unit) (queued : List Intent)
  | nothing

namespace Unrecorded

variable {σ : Type} [StorageEngine σ]

def act (engine : σ) (queued : List Intent) :
    BatchAction → Except EngineError Unit × List Intent × σ
  | .queue intent => (.ok (), queued ++ [intent], engine)
  | .reset => (.ok (), [], engine)
  | .commit =>
    let (result, engine) := StorageEngine.writeBatch engine queued
    (result, [], engine)

/-- Lets an event happen. The log and its sink are not there. -/
def step (u : Unrecorded σ) : Event σ → Sight × Unrecorded σ
  | .request request =>
    let (answer, engine) := StorageEngine.serve u.engine request
    (.answer answer, { u with engine })
  | .batch name action =>
    let (result, queued, engine) := act u.engine (u.queued name) action
    (.batch result queued, ⟨engine, fun other => if other = name then queued else u.queued other⟩)
  | .engine change => (.nothing, { u with engine := change u.engine })
  | .close | .sink _ => (.nothing, u)

def history (u : Unrecorded σ) : List (Event σ) → List (Sight × σ)
  | [] => []
  | event :: events =>
    let (sight, u) := u.step event
    (sight, u.engine) :: u.history events

end Unrecorded

/-- What a reply tells about the engine and the batches, and not about the log. -/
def Reply.sight : Reply → Sight
  | .answer a => .answer a
  | .batch result b => .batch result b.intents
  | .closed _ | .quiet => .nothing

namespace Session

variable {σ : Type}

def unrecorded (s : Session σ) : Unrecorded σ where
  engine := s.recorder.engine
  queued name := (s.batches name).intents

variable [StorageEngine σ]

def history (s : Session σ) : List (Event σ) → List (Sight × σ)
  | [] => []
  | event :: events =>
    let (reply, s) := s.step event
    (reply.sight, s.recorder.engine) :: s.history events

theorem actOn_eq (r : Recorder σ) (b : Batch) (action : BatchAction) :
    let (result, after, r') := r.actOn b action
    (result, after.intents, r'.engine) = Unrecorded.act r.engine b.intents action := by
  cases action with
  | queue intent => rfl
  | reset => rfl
  | commit =>
    rw [Recorder.actOn, Recorder.writeBatch_eq]
    rfl

theorem step_unrecorded (s : Session σ) (event : Event σ) :
    ((s.step event).1.sight, (s.step event).2.unrecorded) = s.unrecorded.step event := by
  cases event with
  | request request =>
    simp only [step, Recorder.serve_eq]
    rfl
  | close =>
    simp only [step, unrecorded, Recorder.close_engine]
    rfl
  | batch name action =>
    have same := actOn_eq s.recorder (s.batches name) action
    simp only [Prod.ext_iff] at same
    simp only [step, Unrecorded.step, unrecorded, Reply.sight, ← same.1, ← same.2.1, ← same.2.2,
      Prod.mk.injEq, Unrecorded.mk.injEq, true_and]
    funext other
    split <;> rfl
  | sink policy => rfl
  | engine change => rfl

/-- Every event is seen with a recorder as it is without one, and leaves the same engine behind. -/
theorem history_unrecorded (s : Session σ) (events : List (Event σ)) :
    s.history events = s.unrecorded.history events := by
  induction events generalizing s with
  | nil => rfl
  | cons event events ih =>
    have same := step_unrecorded s event
    rw [history, Unrecorded.history, ← same]
    exact congrArg (_ :: ·) (ih (s.step event).2)

end Session

end TrieJournal
