import TrieJournal.Proofs.Log.Lines
import TrieJournal.Proofs.Recorder.Blocks

/-!
# Lost lines

A sink whose flushes never fail may still refuse a line in the middle of a block. The block is then
counted as failed, although the lines before that one are in the log. The counts are off by the
number of these lines, and they are exact if each block is kept as a whole or not at all.
-/

namespace TrieJournal

namespace Log.Block

/-- How many lines are kept of a block that is not kept as a whole. -/
def torn (b : Block) : Nat := if b.kept = b.records then 0 else b.kept.length

theorem torn_eq_zero_iff (b : Block) : b.torn = 0 ↔ b.kept = b.records ∨ b.kept = [] := by
  unfold torn
  split
  · rename_i whole
    simp [whole]
  · rename_i part
    simp [part]

theorem recorded_add_torn {b : Block} (flushes : b.sink.policy.flushes = true) :
    b.recorded + b.torn = b.kept.length := by
  have serves_iff : b.sink.Serves b.records ↔ b.kept = b.records := by
    rw [Sink.serves_iff, and_iff_left fun _ => flushes]
    rfl
  unfold recorded torn
  by_cases whole : b.kept = b.records
  · rw [if_pos (serves_iff.mpr whole), if_pos whole, whole, Nat.add_zero]
  · rw [if_neg ((not_congr serves_iff).mpr whole), if_neg whole, Nat.zero_add]

theorem sum_recorded_add_torn {blocks : List Block}
    (flushes : ∀ b ∈ blocks, b.sink.policy.flushes = true) :
    (blocks.map recorded).sum + (blocks.map torn).sum = (blocks.flatMap kept).length := by
  induction blocks with
  | nil => rfl
  | cons b blocks ih =>
    have one := recorded_add_torn (flushes b List.mem_cons_self)
    have rest := ih fun other mem => flushes other (List.mem_cons_of_mem b mem)
    simp only [List.map_cons, List.sum_cons, List.flatMap_cons, List.length_append]
    omega

end Log.Block

/-- Whether the sink still flushes after the event, if it did so before. -/
def Event.flushes {σ : Type} : Event σ → Bool
  | .sink policy => policy.flushes
  | .request _ | .close | .batch _ _ | .engine _ => true

theorem Recorder.note_policy {σ : Type} (r : Recorder σ) (ops : List Operation) :
    (r.note ops).log.sink.policy = r.log.sink.policy := by
  cases opened : r.recording with
  | true =>
    rw [note_sink opened]
    rfl
  | false =>
    rw [note_of_closed opened]
    rfl

namespace Session

variable {σ : Type} [StorageEngine σ]

def Flushes (s : Session σ) : Prop := s.recorder.log.sink.policy.flushes = true

theorem Flushes.step {s : Session σ} (flushes : s.Flushes) {event : Event σ}
    (keeps : event.flushes = true) : (s.step event).2.Flushes := by
  cases event with
  | request request =>
    simp only [Flushes, Session.step, Recorder.serve_eq, Recorder.note_policy]
    exact flushes
  | close =>
    simp only [Flushes, Session.step, Recorder.close]
    split <;> exact flushes
  | batch name action =>
    cases action with
    | queue | reset => exact flushes
    | commit =>
      simp only [Flushes, Session.step, Recorder.actOn, Recorder.writeBatch_eq,
        Recorder.note_policy]
      exact flushes
  | sink policy => exact keeps
  | engine change => exact flushes

theorem Flushes.blocks {s : Session σ} (flushes : s.Flushes) {events : List (Event σ)}
    (keep : ∀ event ∈ events, event.flushes = true) :
    ∀ b ∈ s.blocks events, b.sink.policy.flushes = true := by
  induction events generalizing s with
  | nil => simp [Session.blocks]
  | cons event events ih =>
    have next := flushes.step (keep event List.mem_cons_self)
    have rest := ih next fun other mem => keep other (List.mem_cons_of_mem event mem)
    intro b mem
    rcases List.mem_append.mp mem with here | later
    · unfold Recorder.blocks at here
      split at here
      · rw [List.mem_singleton.mp here]
        exact flushes
      · cases here
    · exact rest b later

/-- If flushes never fail, the counts are off by the lines of torn blocks. -/
theorem counts_of_flushes {engine : σ} {policy : Log.SinkPolicy} {s : Session σ}
    (started : start engine (.empty policy) = .ok s) {events : List (Event σ)}
    (keep : ∀ event ∈ events, event.flushes = true) :
    let alone : Unrecorded σ := ⟨engine, fun _ => []⟩
    let logged := Operation.records (alone.eligible (Event.untilClosed events))
    let torn := ((s.blocks events).map Log.Block.torn).sum
    let r := (s.run events).2.recorder
    ∃ kept, kept.Sublist logged ∧ r.logText = Log.render kept ∧
      r.counts.recorded + torn = kept.length ∧
      r.counts.logFailures = logged.length - kept.length + torn ∧
      (torn = 0 ↔ ∀ b ∈ s.blocks events, b.kept = b.records ∨ b.kept = []) := by
  intro alone logged torn r
  let blocks := s.blocks events
  obtain ⟨text, counts, records⟩ := run_of_start started events
  change blocks.flatMap Log.Block.records = logged at records
  have flushes : s.Flushes := by
    obtain ⟨flushes, rfl⟩ := start_eq_ok started
    exact flushes
  have sublist : (blocks.flatMap Log.Block.kept).Sublist logged := by
    rw [← records]
    exact Log.Block.flatMap_kept_sublist blocks
  have total : r.counts.recorded + r.counts.logFailures = logged.length := by
    rw [counts, ← records]
    exact Log.Block.sum_recorded_add_failed blocks
  have recorded : r.counts.recorded + torn = (blocks.flatMap Log.Block.kept).length := by
    rw [counts]
    exact Log.Block.sum_recorded_add_torn (flushes.blocks keep)
  have within := sublist.length_le
  refine ⟨_, sublist, text, recorded, by omega, ?_⟩
  rw [List.sum_eq_zero_iff_forall_eq_nat, List.forall_mem_map]
  exact forall₂_congr fun b _ => b.torn_eq_zero_iff

/-- A sink with room for one more line is given two, and is then emptied of its limits. Two
operations are counted as failed, and one of them is in the log. -/
theorem counts_of_flushes_torn :
    let events : List (Event Store) :=
      [.request (.writeBatch [.put [0x41, 1] [1], .put [0x41, 2] [1]]), .sink .reliable,
        .request (.put [0x41, 3] [3])]
    let logged := Operation.records [⟨.put, [0x41, 1], some [1]⟩, ⟨.put, [0x41, 2], some [1]⟩,
      ⟨.put, [0x41, 3], some [3]⟩]
    ∃ s, start .empty (.empty (.limited false false (some 2))) = .ok s ∧
      let r := (s.run events).2.recorder
      r.counts = ⟨1, 0, 2⟩ ∧
        ∃ kept, kept.Sublist logged ∧ r.logText = Log.render kept ∧ kept.length = 2 := by
  intro events logged
  let begun : Session Store := ⟨.fresh .empty (.limited false false (some 2)), fun _ => .empty⟩
  have started : start .empty (.empty (.limited false false (some 2))) = .ok begun := rfl
  have keep : ∀ event ∈ events, event.flushes = true := by decide
  obtain ⟨kept, sublist, text, recorded, -⟩ := counts_of_flushes started keep
  have counts : (begun.run events).2.recorder.counts = ⟨1, 0, 2⟩ := by decide +kernel
  have torn : ((begun.blocks events).map Log.Block.torn).sum = 1 := by decide +kernel
  rw [counts, torn] at recorded
  exact ⟨begun, started, counts, kept, sublist, text, recorded.symm⟩

/-- Of two operations that are to be logged the first is in the log. None is counted as recorded,
and both as failed. -/
theorem torn_batch_miscounted :
    let events : List (Event Store) :=
      [.request (.writeBatch [.put [0x41, 1] [1], .put [0x41, 2] [1]])]
    let alone : Unrecorded Store := ⟨.empty, fun _ => []⟩
    let logged := Operation.records (alone.eligible (Event.untilClosed events))
    ∃ s, start Store.empty (.empty (.limited false false (some 2))) = .ok s ∧
      let r := (s.run events).2.recorder
      logged.length = 2 ∧ r.logText = Log.render (logged.take 1) ∧
        (Log.rows r.logText).length = 1 ∧ r.counts = ⟨0, 0, 2⟩ := by
  intro events alone logged
  let begun : Session Store := ⟨.fresh .empty (.limited false false (some 2)), fun _ => .empty⟩
  have text : (begun.run events).2.recorder.logText = Log.render (logged.take 1) := by
    decide +kernel
  refine ⟨begun, rfl, by decide +kernel, text, ?_, by decide +kernel⟩
  rw [text, Log.rows_render]
  decide +kernel

end Session

end TrieJournal
