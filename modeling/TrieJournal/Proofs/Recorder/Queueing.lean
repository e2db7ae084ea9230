import Mathlib.Data.List.DropRight
import TrieJournal.Proofs.Recorder.Batching
import TrieJournal.Proofs.Recorder.Blocks

/-!
# Queued changes

What is queued in a batch is not seen before it is committed. A session leaves its recorder as if
queueing and resetting had never happened and every commit had been a batch write of the changes
queued since the batch was last reset or committed. Until then the batch holds just these changes,
and its size and its running total are theirs.
-/

namespace TrieJournal

/-! ### Batches -/

/-- The keys, values and range ends of a change. -/
def Intent.operands : Intent → List Bytes
  | put key value => [key, value]
  | delete key => [key]
  | deleteRange start stop => [start, stop]

theorem Intent.byteSize_eq (intent : Intent) :
    intent.byteSize = (intent.operands.map List.length).sum := by
  cases intent <;> simp [byteSize, operands]

theorem Batch.queue_ofIntents (intents : List Intent) (intent : Intent) :
    (ofIntents intents).queue intent = ofIntents (intents ++ [intent]) := by
  rw [ofIntents, ofIntents, List.foldl_append]
  rfl

theorem Batch.valueSize_foldl_queue (b : Batch) (intents : List Intent) :
    (intents.foldl queue b).valueSize =
      b.valueSize + ((intents.flatMap Intent.operands).map List.length).sum := by
  induction intents generalizing b with
  | nil => rfl
  | cons intent intents ih =>
    rw [List.foldl_cons, ih, queue, List.flatMap_cons, List.map_append, List.sum_append,
      Intent.byteSize_eq, Nat.add_assoc]

theorem Batch.valueSize_ofIntents (intents : List Intent) :
    (ofIntents intents).valueSize = ((intents.flatMap Intent.operands).map List.length).sum :=
  (valueSize_foldl_queue empty intents).trans (Nat.zero_add _)

/-! ### Pending changes -/

namespace Event

variable {σ : Type}

def empties (name : String) : Event σ → Bool
  | .batch other .reset | .batch other .commit => other = name
  | .batch _ (.queue _) | .request _ | .close | .sink _ | .engine _ => false

def queued? (name : String) : Event σ → Option Intent
  | .batch other (.queue intent) => if other = name then some intent else none
  | .batch _ .reset | .batch _ .commit | .request _ | .close | .sink _ | .engine _ => none

/-- The changes queued in a batch since it was last reset or committed. -/
def pending (name : String) (past : List (Event σ)) : List Intent :=
  (past.rtakeWhile fun event => !event.empties name).filterMap (queued? name)

theorem pending_concat (name : String) (past : List (Event σ)) (event : Event σ) :
    pending name (past ++ [event]) =
      if event.empties name then [] else pending name past ++ (event.queued? name).toList := by
  have last : [event].filterMap (queued? name) = (event.queued? name).toList := by
    rw [List.filterMap_cons]
    cases event.queued? name <;> rfl
  rw [pending, List.rtakeWhile_concat]
  cases event.empties name with
  | true => rfl
  | false =>
    simp only [Bool.not_false, if_true, Bool.false_eq_true, if_false, List.filterMap_append, last]
    rfl

/-- What an event does to a recorder, as events without batches: a commit writes the pending
changes, and queueing and resetting do nothing. -/
def effect (past : List (Event σ)) : Event σ → List (Event σ)
  | .batch name .commit => [.request (.writeBatch (pending name past))]
  | .batch _ (.queue _) | .batch _ .reset => []
  | .request r => [.request r]
  | .close => [.close]
  | .sink policy => [.sink policy]
  | .engine change => [.engine change]

def effects (past : List (Event σ)) : List (Event σ) → List (Event σ)
  | [] => []
  | event :: events => event.effect past ++ effects (past ++ [event]) events

end Event

/-! ### Sessions -/

theorem Recorder.writeBatch_logText {σ : Type} [StorageEngine σ] (r : Recorder σ)
    (intents : List Intent) :
    let block := if r.recording then r.log.sink.kept (Intent.records intents) else []
    (r.writeBatch intents).2.logText = r.logText ++ block.flatMap Log.recordLine := by
  intro block
  rw [writeBatch_eq]
  change (r.note _).logText = _
  cases opened : r.recording with
  | true =>
    simp only [block, opened, if_true]
    exact note_logText opened _
  | false =>
    simp only [block, opened, Bool.false_eq_true, if_false, note_of_closed opened]
    exact (List.append_nil _).symm

namespace Session

variable {σ : Type} [StorageEngine σ]

omit [StorageEngine σ] in
/-- Every batch holds the changes that are pending after the past events. -/
def Queues (s : Session σ) (past : List (Event σ)) : Prop :=
  ∀ name, s.batches name = .ofIntents (Event.pending name past)

theorem Queues.step {s : Session σ} {past : List (Event σ)} (queues : s.Queues past)
    (event : Event σ) : (s.step event).2.Queues (past ++ [event]) := by
  intro name
  rw [Event.pending_concat]
  cases event with
  | request | close | sink | engine =>
    simp only [Event.empties, Event.queued?, Option.toList_none, List.append_nil]
    exact queues name
  | batch other action =>
    -- An action on another batch neither changes what this one holds nor what is pending for it.
    by_cases same : name = other
    · subst same
      cases action with
      | queue intent =>
        simp only [Session.step, Recorder.actOn, Event.empties, Event.queued?, if_true, queues name,
          Batch.queue_ofIntents]
        rfl
      | reset | commit =>
        simp only [Session.step, Recorder.actOn, Event.empties, decide_true, if_true]
        rfl
    · have differ : ¬other = name := fun h => same h.symm
      cases action with
      | queue | reset | commit =>
        simp only [Session.step, Recorder.actOn, Event.empties, Event.queued?, if_neg same,
          if_neg differ, decide_eq_false differ, Option.toList_none, List.append_nil]
        exact queues name

theorem Queues.run {s : Session σ} {past : List (Event σ)} (queues : s.Queues past)
    (events : List (Event σ)) : (s.run events).2.Queues (past ++ events) := by
  induction events generalizing s past with
  | nil => rwa [List.append_nil]
  | cons event events ih =>
    have rest := ih (queues.step event)
    rwa [List.append_assoc] at rest

theorem Queues.emptied {s : Session σ} (queues : s.Queues []) (events : List (Event σ))
    {event : Event σ} {name : String} (empties : event.empties name = true) :
    let b := (s.run (events ++ [event])).2.batches name
    b.size = 0 ∧ b.valueSize = 0 := by
  intro b
  have nothing : b = .ofIntents (Event.pending name (events ++ [event])) := queues.run _ name
  rw [Event.pending_concat, if_pos empties] at nothing
  rw [nothing]
  exact ⟨rfl, rfl⟩

theorem run_single (s : Session σ) (event : Event σ) : (s.run [event]).2 = (s.step event).2 := rfl

theorem Queues.step_effect {s t : Session σ} {past : List (Event σ)} (queues : s.Queues past)
    (same : t.recorder = s.recorder) (event : Event σ) :
    (t.run (event.effect past)).2.recorder = (s.step event).2.recorder := by
  cases event with
  | request | close | sink | engine =>
    simp only [Event.effect, run_single, Session.step, same]
  | batch name action =>
    cases action with
    | queue | reset => exact same
    | commit =>
      simp only [Event.effect, run_single, Session.step, same, Recorder.actOn, queues name,
        Batch.intents_ofIntents]
      rfl

theorem Queues.run_effects {s t : Session σ} {past : List (Event σ)} (queues : s.Queues past)
    (same : t.recorder = s.recorder) (events : List (Event σ)) :
    (t.run (Event.effects past events)).2.recorder = (s.run events).2.recorder := by
  -- The two sessions differ in their batches: those of the effects' session stay as they began.
  induction events generalizing s t past with
  | nil => exact same
  | cons event events ih =>
    rw [Event.effects, run_append, run_cons]
    exact ih (queues.step event) (queues.step_effect same event)

theorem logText_prefix (s : Session σ) (events : List (Event σ)) :
    s.recorder.logText <+: (s.run events).2.recorder.logText := by
  rw [(s.run_ledger events).1]
  exact List.prefix_append _ _

/-- A session leaves its recorder as the effects of its events do. Its batches hold what is pending
and nothing once they are reset or committed, and what is written of a commit stands in the log in
one piece, behind which nothing stands before the next event. -/
theorem run_eq_effects (r : Recorder σ) (events : List (Event σ)) :
    let s : Session σ := ⟨r, fun _ => .empty⟩
    let after := (s.run events).2
    after.recorder = (s.run (Event.effects [] events)).2.recorder ∧
      ∀ name, let pending := Event.pending name events
        (after.batches name).intents = pending ∧
          (after.batches name).size = pending.length ∧
          (after.batches name).valueSize =
            ((pending.flatMap Intent.operands).map List.length).sum ∧
          (let reset := (s.run (events ++ [.batch name .reset])).2.batches name
          reset.size = 0 ∧ reset.valueSize = 0) ∧
          (let committed := (s.run (events ++ [.batch name .commit])).2.batches name
          committed.size = 0 ∧ committed.valueSize = 0) ∧
          let block := if after.recorder.recording then
            after.recorder.log.sink.kept (Intent.records pending) else []
          block <+: Intent.records pending ∧
            ∀ later, ∃ rest, (later = [] → rest = []) ∧
              (s.run (events ++ .batch name .commit :: later)).2.recorder.logText =
                after.recorder.logText ++ (block.flatMap Log.recordLine ++ rest) := by
  intro s after
  have fresh : s.Queues [] := fun _ => rfl
  refine ⟨(fresh.run_effects rfl events).symm, fun name => ?_⟩
  intro pending
  have held : after.batches name = .ofIntents pending := fresh.run events name
  rw [held]
  refine ⟨Batch.intents_ofIntents pending, ?_, Batch.valueSize_ofIntents pending,
    fresh.emptied _ (decide_eq_true rfl), fresh.emptied _ (decide_eq_true rfl), ?_⟩
  · rw [Batch.size, Batch.intents_ofIntents]
  · intro block
    have kept : block <+: Intent.records pending := by
      simp only [block]
      split
      · exact Log.Sink.kept_prefix _ _
      · exact List.nil_prefix
    refine ⟨kept, fun later => ?_⟩
    have committed : (after.step (.batch name .commit)).2.recorder.logText =
        after.recorder.logText ++ block.flatMap Log.recordLine := by
      simp only [step, Recorder.actOn, held, Batch.intents_ofIntents]
      exact after.recorder.writeBatch_logText pending
    obtain ⟨rest, grown⟩ := logText_prefix (after.step (.batch name .commit)).2 later
    refine ⟨rest, ?_, ?_⟩
    · rintro rfl
      exact List.append_right_eq_self.mp grown
    · rw [run_append, run_cons, ← grown, committed, List.append_assoc]

end Session

end TrieJournal
