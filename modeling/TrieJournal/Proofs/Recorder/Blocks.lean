import TrieJournal.Proofs.Recorder.Noting
import TrieJournal.Proofs.Recorder.Transparency

/-!
# Runs as blocks

The operations that may go to the log are those of the engine alone, without a recorder in front of
it. A run writes them to the log as blocks, one for each event, until the log is closed. The text
and the counts that a run leaves behind are sums over these blocks.
-/

namespace TrieJournal

/-! ### Eligible operations -/

def Intent.operation : Intent → Operation
  | .put key value => ⟨.put, key, some value⟩
  | .delete key => ⟨.delete, key, none⟩
  | .deleteRange start stop => ⟨.deleteRange, start, some stop⟩

/-- Whether an operation may go to the log. Its key is not empty, and neither is the value that is
read or written. The end of a range may be empty. -/
def Operation.eligible (op : Operation) : Bool :=
  match op.kind with
  | .get | .put => !op.key.isEmpty && op.value.any fun value => !value.isEmpty
  | .delete | .deleteRange => !op.key.isEmpty

section
variable {σ : Type} [StorageEngine σ]

/-- The operations that an event has the engine execute, whether or not it accepts them. A read is
one only if it finds a value. -/
def Event.executed (u : Unrecorded σ) : Event σ → List Operation
  | .request (.get key) =>
    match (StorageEngine.get u.engine key).1 with
    | .ok (some value) => [⟨.get, key, some value⟩]
    | _ => []
  | .request other => other.intents.map Intent.operation
  | .batch name .commit => (u.queued name).map Intent.operation
  | .batch _ _ | .close | .sink _ | .engine _ => []

def Unrecorded.eligible (u : Unrecorded σ) : List (Event σ) → List Operation
  | [] => []
  | event :: events =>
    (event.executed u).filter Operation.eligible ++ (u.step event).2.eligible events

end

def Event.closes {σ : Type} : Event σ → Bool
  | .close => true
  | .request _ | .batch _ _ | .sink _ | .engine _ => false

/-- The events before the log is closed. -/
def Event.untilClosed {σ : Type} (events : List (Event σ)) : List (Event σ) :=
  events.takeWhile fun event => !event.closes

theorem Operation.ofIntent?_eq (intent : Intent) :
    ofIntent? intent = if intent.operation.eligible then some intent.operation else none := by
  cases intent with
  | put key value => cases key <;> cases value <;> rfl
  | delete key => cases key <;> rfl
  | deleteRange start stop => cases start <;> rfl

theorem Operation.filterMap_ofIntent? (intents : List Intent) :
    intents.filterMap ofIntent? = (intents.map Intent.operation).filter eligible := by
  induction intents with
  | nil => rfl
  | cons intent intents ih =>
    rw [List.map_cons, List.filter_cons, ← ih, List.filterMap_cons, ofIntent?_eq]
    by_cases eligible : intent.operation.eligible = true
    · rw [if_pos eligible, if_pos eligible]
    · rw [if_neg eligible, if_neg eligible]

theorem Operation.toList_ofRead? (key value : Bytes) :
    (ofRead? key (some value)).toList =
      [(⟨.get, key, some value⟩ : Operation)].filter eligible := by
  cases key <;> cases value <;> rfl

theorem Request.operations_eq {σ : Type} [StorageEngine σ] (u : Unrecorded σ) (request : Request) :
    request.operations u.engine =
      ((Event.request request).executed u).filter Operation.eligible := by
  cases request with
  | get key =>
    rw [operations, Event.executed]
    cases (StorageEngine.get u.engine key).1 with
    | error e => rfl
    | ok found =>
      cases found with
      | none => rfl
      | some value => exact Operation.toList_ofRead? key value
  | put | delete | deleteRange | writeBatch | has | keyCount | property | path =>
    exact Operation.filterMap_ofIntent? _

/-! ### Sessions -/

namespace Recorder

variable {σ : Type}

/-- What a recorder has to show for the past: the text of its log, its counts, and whether the log
is still open. -/
structure Ledger where
  text : Bytes
  counts : Counts
  recording : Bool

def ledger (r : Recorder σ) : Ledger := ⟨r.logText, r.counts, r.recording⟩

/-- The block in which operations are written, unless the log is closed. -/
def blocks (r : Recorder σ) (ops : List Operation) : List Log.Block :=
  if r.recording then [⟨r.log.sink, Operation.records ops⟩] else []

/-- The ledger after blocks have been written and unclassified operations have been seen. -/
def Ledger.add (ledger : Ledger) (blocks : List Log.Block) (unclassified : Nat) : Ledger where
  text := ledger.text ++ (blocks.flatMap Log.Block.kept).flatMap Log.recordLine
  counts := ⟨ledger.counts.recorded + (blocks.map Log.Block.recorded).sum,
    ledger.counts.unclassified + unclassified,
    ledger.counts.logFailures + (blocks.map Log.Block.failed).sum⟩
  recording := ledger.recording

theorem Ledger.add_add (ledger : Ledger) (blocks others : List Log.Block) (m n : Nat) :
    (ledger.add blocks m).add others n = ledger.add (blocks ++ others) (m + n) := by
  simp only [add, List.flatMap_append, List.map_append, List.sum_append, List.append_assoc,
    Nat.add_assoc]

theorem note_ledger (r : Recorder σ) (ops : List Operation) :
    (r.note ops).ledger = r.ledger.add (r.blocks ops) (Operation.unclassified ops) := by
  cases opened : r.recording with
  | true =>
    have text := note_logText opened ops
    have counts := note_counts opened ops
    simp only [ledger, text, counts, note_recording, Ledger.add, blocks, if_pos opened,
      List.flatMap_cons, List.flatMap_nil, List.append_nil, List.map_cons, List.map_nil,
      List.sum_cons, List.sum_nil, Nat.add_zero]
    rfl
  | false =>
    rw [note_of_closed opened, blocks, opened]
    simp only [ledger, passOver, logText, Ledger.add, Bool.false_eq_true, if_false,
      List.flatMap_nil, List.append_nil, List.map_nil, List.sum_nil, Nat.add_zero]

end Recorder

namespace Session

variable {σ : Type} [StorageEngine σ]

def eligible (s : Session σ) (event : Event σ) : List Operation :=
  (event.executed s.unrecorded).filter Operation.eligible

/-- The blocks that events write to the log. -/
def blocks (s : Session σ) : List (Event σ) → List Log.Block
  | [] => []
  | event :: events => s.recorder.blocks (s.eligible event) ++ (s.step event).2.blocks events

/-- What an event does to the ledger: its eligible operations are noted, or the log is closed. -/
theorem step_ledger (s : Session σ) (event : Event σ) :
    (s.step event).2.recorder.ledger = { (s.recorder.note (s.eligible event)).ledger with
      recording := s.recorder.recording && !event.closes } := by
  have staysOpen (ops : List Operation) : { (s.recorder.note ops).ledger with
      recording := s.recorder.recording && !false } = (s.recorder.note ops).ledger := by
    rw [Bool.not_false, Bool.and_true, ← Recorder.note_recording s.recorder ops]
    rfl
  cases event with
  | request request =>
    have operations := Request.operations_eq s.unrecorded request
    rw [Event.closes, staysOpen, eligible, ← operations]
    simp only [step, Recorder.serve_eq]
    rfl
  | close =>
    have nothing : s.eligible .close = [] := rfl
    rw [Event.closes, nothing, Recorder.note_nil, Bool.not_true, Bool.and_false]
    simp only [step, Recorder.close]
    split
    · rfl
    · rename_i closed
      simp only [Recorder.ledger, Bool.not_eq_true _ ▸ closed]
  | batch name action =>
    rw [Event.closes, staysOpen]
    cases action with
    | queue | reset =>
      simp only [eligible, Event.executed, List.filter_nil, Recorder.note_nil]
      rfl
    | commit =>
      have operations := Operation.filterMap_ofIntent? (s.batches name).intents
      simp only [step, Recorder.actOn, Recorder.writeBatch_eq, operations]
      rfl
  | sink | engine =>
    rw [Event.closes, staysOpen]
    simp only [eligible, Event.executed, List.filter_nil, Recorder.note_nil]
    rfl

theorem step_recording (s : Session σ) (event : Event σ) :
    (s.step event).2.recorder.recording = (s.recorder.recording && !event.closes) :=
  congrArg (·.recording) (step_ledger s event)

theorem step_unrecorded_snd (s : Session σ) (event : Event σ) :
    (s.unrecorded.step event).2 = (s.step event).2.unrecorded := by
  rw [← step_unrecorded]

theorem eligible_cons (s : Session σ) (event : Event σ) (events : List (Event σ)) :
    s.unrecorded.eligible (event :: events) =
      s.eligible event ++ (s.step event).2.unrecorded.eligible events := by
  rw [Unrecorded.eligible, step_unrecorded_snd]
  rfl

theorem run_cons (s : Session σ) (event : Event σ) (events : List (Event σ)) :
    (s.run (event :: events)).2 = ((s.step event).2.run events).2 := rfl

theorem run_append (s : Session σ) (events later : List (Event σ)) :
    (s.run (events ++ later)).2 = ((s.run events).2.run later).2 := by
  induction events generalizing s with
  | nil => rfl
  | cons event events ih => exact ih (s.step event).2

/-- The text and the counts behind a run, as sums over its blocks. -/
theorem run_ledger (s : Session σ) (events : List (Event σ)) :
    let sums := s.recorder.ledger.add (s.blocks events)
      (Operation.unclassified (s.unrecorded.eligible events))
    (s.run events).2.recorder.logText = sums.text ∧
      (s.run events).2.recorder.counts = sums.counts := by
  induction events generalizing s with
  | nil =>
    simp [run, blocks, Unrecorded.eligible, Operation.unclassified, Recorder.Ledger.add,
      Recorder.ledger]
  | cons event events ih =>
    obtain ⟨text, counts⟩ := ih (s.step event).2
    rw [step_ledger, Recorder.note_ledger] at text counts
    rw [run_cons, eligible_cons, Operation.unclassified_append, blocks, ← Recorder.Ledger.add_add,
      text, counts]
    exact ⟨rfl, rfl⟩

theorem blocks_of_closed {s : Session σ} (closed : s.recorder.recording = false)
    (events : List (Event σ)) : s.blocks events = [] := by
  induction events generalizing s with
  | nil => rfl
  | cons event events ih =>
    have still : (s.step event).2.recorder.recording = false := by
      rw [step_recording, closed, Bool.false_and]
    rw [blocks, ih still, Recorder.blocks, closed]
    rfl

theorem records_blocks (s : Session σ) (opened : s.recorder.recording = true)
    (events : List (Event σ)) :
    (s.blocks events).flatMap Log.Block.records =
      Operation.records (s.unrecorded.eligible (Event.untilClosed events)) := by
  induction events generalizing s with
  | nil => rfl
  | cons event events ih =>
    have recording := s.step_recording event
    rw [opened, Bool.true_and] at recording
    rw [blocks, List.flatMap_append, Recorder.blocks, if_pos opened, List.flatMap_cons,
      List.flatMap_nil, List.append_nil]
    by_cases closes : event.closes = true
    · have nothing : s.eligible event = [] := by
        cases event <;> first | rfl | cases closes
      have stops : Event.untilClosed (event :: events) = [] := by
        simp [Event.untilClosed, closes]
      rw [closes] at recording
      rw [blocks_of_closed recording, nothing, stops]
      rfl
    · have staysOpen : event.closes = false := by simpa using closes
      have goesOn : Event.untilClosed (event :: events) = event :: Event.untilClosed events := by
        simp [Event.untilClosed, staysOpen]
      rw [staysOpen] at recording
      rw [ih _ recording, goesOn, eligible_cons, Operation.records_append]

omit [StorageEngine σ] in
theorem start_eq_ok {engine : σ} {policy : Log.SinkPolicy} {s : Session σ}
    (started : start engine (.empty policy) = .ok s) :
    policy.flushes = true ∧
      s = ⟨.fresh engine policy, fun _ => .empty⟩ := by
  simp only [start, Recorder.start, Log.Writer.start, Log.Sink.writeLine, Log.Sink.empty,
    Log.Sink.flush, bind, Except.bind] at started
  by_cases keeps : policy.keepsLine [] = true
  · by_cases flushes : policy.flushes = true
    · simp only [keeps, flushes, if_true] at started
      exact ⟨flushes, (Except.ok.inj started).symm⟩
    · simp [keeps, flushes] at started
  · simp [keeps] at started

theorem run_of_start {engine : σ} {policy : Log.SinkPolicy} {s : Session σ}
    (started : start engine (.empty policy) = .ok s) (events : List (Event σ)) :
    let alone : Unrecorded σ := ⟨engine, fun _ => []⟩
    let blocks := s.blocks events
    (s.run events).2.recorder.logText = Log.render (blocks.flatMap Log.Block.kept) ∧
      (s.run events).2.recorder.counts = ⟨(blocks.map Log.Block.recorded).sum,
        Operation.unclassified (alone.eligible events), (blocks.map Log.Block.failed).sum⟩ ∧
      blocks.flatMap Log.Block.records =
        Operation.records (alone.eligible (Event.untilClosed events)) := by
  intro alone blocks
  obtain ⟨-, begun⟩ := start_eq_ok started
  have ledger : s.recorder.ledger = ⟨Log.headerLine, ⟨0, 0, 0⟩, true⟩ := by
    rw [begun]
    rfl
  have same : s.unrecorded = alone := by
    rw [begun]
    rfl
  obtain ⟨text, counts⟩ := s.run_ledger events
  have records := s.records_blocks (congrArg (·.recording) ledger) events
  rw [ledger, same] at text counts
  rw [same] at records
  refine ⟨text, ?_, records⟩
  rw [counts]
  simp only [Recorder.Ledger.add, Nat.zero_add]
  rfl

end Session

end TrieJournal
