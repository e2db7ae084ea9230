import TrieJournal.Proofs.Recorder.Blocks
import TrieJournal.Store.Guarded

/-!
# Conservation of operations

Whatever the engine and the sink do, each eligible operation is counted once, as unclassified, as
recorded or as failed, unless it is classified and comes after the log was closed. What is counted
as failed may be in the log all the same; what is counted as recorded is.
-/

namespace TrieJournal.Session

variable {σ : Type} [StorageEngine σ]

/-- Closing the log settles its text and what is counted of it. -/
theorem run_close (s : Session σ) (later : List (Event σ)) :
    let r := ((s.step .close).2.run later).2.recorder
    r.logText = s.recorder.logText ∧ r.counts.recorded = s.recorder.counts.recorded ∧
      r.counts.logFailures = s.recorder.counts.logFailures := by
  intro r
  have closed : (s.step .close).2.recorder.recording = false := by
    rw [step_recording, Event.closes, Bool.not_true, Bool.and_false]
  have ledger := step_ledger s .close
  have nothing : s.eligible .close = [] := rfl
  rw [nothing, Recorder.note_nil] at ledger
  obtain ⟨text, counts⟩ := run_ledger (s.step .close).2 later
  rw [blocks_of_closed closed, ledger] at text counts
  have recorded := congrArg Counts.recorded counts
  have failures := congrArg Counts.logFailures counts
  exact ⟨text.trans (List.append_nil _), recorded, failures⟩

/-- Every eligible operation is counted once. The log holds the records of some of those that were
executed while it was open, and of these at least as many as are counted as recorded. Once the log
is closed neither its text nor what is counted of it changes. -/
theorem operations_conserved {engine : σ} {policy : Log.SinkPolicy} {s : Session σ}
    (started : start engine (.empty policy) = .ok s) (events : List (Event σ)) :
    let alone : Unrecorded σ := ⟨engine, fun _ => []⟩
    let logged := Operation.records (alone.eligible (Event.untilClosed events))
    let r := (s.run events).2.recorder
    r.counts.unclassified = Operation.unclassified (alone.eligible events) ∧
      r.counts.recorded + r.counts.logFailures = logged.length ∧
      (∃ kept, kept.Sublist logged ∧ r.logText = Log.render kept ∧
        r.counts.recorded ≤ kept.length ∧
        kept.length ≤ r.counts.recorded + r.counts.logFailures) ∧
      ∀ later, let after := (s.run (events ++ .close :: later)).2.recorder
        after.logText = r.logText ∧ after.counts.recorded = r.counts.recorded ∧
          after.counts.logFailures = r.counts.logFailures := by
  intro alone logged r
  let blocks := s.blocks events
  obtain ⟨text, counts, records⟩ := run_of_start started events
  change blocks.flatMap Log.Block.records = logged at records
  have total : r.counts.recorded + r.counts.logFailures = logged.length := by
    rw [counts, ← records]
    exact Log.Block.sum_recorded_add_failed blocks
  have sublist : (blocks.flatMap Log.Block.kept).Sublist logged := by
    rw [← records]
    exact Log.Block.flatMap_kept_sublist blocks
  have recorded : r.counts.recorded ≤ (blocks.flatMap Log.Block.kept).length := by
    rw [counts]
    exact Log.Block.sum_recorded_le blocks
  refine ⟨?_, total, ⟨_, sublist, text, recorded, total ▸ sublist.length_le⟩, fun later => ?_⟩
  · rw [counts]
  · rw [run_append, run_cons]
    exact run_close _ later

/-- A batch of which one line is kept, a write whose flush fails, a write that the engine refuses, a
read, and deletes after the log is closed. Three operations are counted as failed, but only one of
the five is missing from the log. -/
theorem operations_conserved_failing :
    let events : List (Event GuardedStore) := [
      .request (.writeBatch [.put [0x41, 1] [1], .put [0x78] [2], .put [0x41, 2] [],
        .delete [0x41, 3]]),
      .sink (.limited false true none), .request (.put [0x41, 4] [4]), .sink .reliable,
      .engine fun g => { g with access := .readOnly }, .request (.put [0x41, 5] [5]),
      .request (.get [0x41, 4])]
    let first : Operation := ⟨.put, [0x41, 1], some [1]⟩
    let missing : Operation := ⟨.delete, [0x41, 3], none⟩
    let others : List Operation :=
      [⟨.put, [0x41, 4], some [4]⟩, ⟨.put, [0x41, 5], some [5]⟩, ⟨.get, [0x41, 4], some [4]⟩]
    ∃ s, start (.ofStore .empty) (.empty (.limited false false (some 2))) = .ok s ∧
      let r := (s.run events).2.recorder
      let closed := (s.run (events ++ [.close, .request (.delete [0x78]),
        .request (.delete [0x41])])).2.recorder
      (∃ kept, kept.Sublist (Operation.records (first :: missing :: others)) ∧
        r.logText = Log.render kept ∧ 2 ≤ kept.length ∧ kept.length ≤ 5) ∧
      r.logText = Log.render (Operation.records (first :: others)) ∧
      r.counts = ⟨2, 1, 3⟩ ∧ closed.counts = ⟨2, 2, 3⟩ ∧ closed.logText = r.logText := by
  intro events first missing others
  let begun : Session GuardedStore :=
    ⟨.fresh (.ofStore .empty) (.limited false false (some 2)), fun _ => .empty⟩
  have started : start (.ofStore .empty) (.empty (.limited false false (some 2))) = .ok begun := rfl
  obtain ⟨-, -, ⟨kept, sublist, text, recorded, bound⟩, settled⟩ :=
    operations_conserved started events
  have counts : (begun.run events).2.recorder.counts = ⟨2, 1, 3⟩ := by decide +kernel
  rw [counts] at recorded bound
  refine ⟨begun, started, ⟨kept, sublist, text, recorded, bound⟩, ?_, counts, ?_, (settled _).1⟩
  · decide +kernel
  · decide +kernel

end TrieJournal.Session
