import Mathlib
import TrieJournal.Log.Writer

/-!
# What a sink keeps

Of the lines of a block a sink keeps those before the first one that it refuses. Since its policy
looks at nothing but the text held so far, it goes on refusing until the policy is exchanged. So a
sink that is given two blocks in turn ends up with the text of both as one block.
-/

namespace TrieJournal.Log

namespace Sink

/-- The records whose lines are kept, up to the first one that is refused. -/
def kept (s : Sink) : List Record → List Record
  | [] => []
  | r :: records =>
    if s.policy.keepsLine s.text then r :: kept { s with text := s.text ++ recordLine r } records
    else []

def keep (s : Sink) (records : List Record) : Sink :=
  { s with text := s.text ++ (s.kept records).flatMap recordLine }

/-- Neither a line nor a flush fails while the lines of records are written and flushed. -/
def Serves (s : Sink) : List Record → Prop
  | [] => True
  | r :: records => s.policy.keepsLine s.text = true ∧ s.policy.flushes = true ∧
      Serves { s with text := s.text ++ recordLine r } records

theorem kept_of_keepsLine {s : Sink} (keeps : s.policy.keepsLine s.text = true) (r : Record)
    (records : List Record) :
    s.kept (r :: records) = r :: kept { s with text := s.text ++ recordLine r } records := by
  rw [kept, if_pos keeps]

theorem kept_of_refuses {s : Sink} (refuses : ¬s.policy.keepsLine s.text = true)
    (records : List Record) : s.kept records = [] := by
  cases records with
  | nil => rfl
  | cons r records => rw [kept, if_neg refuses]

theorem keep_of_keepsLine {s : Sink} (keeps : s.policy.keepsLine s.text = true) (r : Record)
    (records : List Record) :
    s.keep (r :: records) = keep { s with text := s.text ++ recordLine r } records := by
  simp only [keep, kept_of_keepsLine keeps, List.flatMap_cons, List.append_assoc]

theorem keep_of_refuses {s : Sink} (refuses : ¬s.policy.keepsLine s.text = true)
    (records : List Record) : s.keep records = s := by
  rw [keep, kept_of_refuses refuses, List.flatMap_nil, List.append_nil]

theorem keep_nil (s : Sink) : s.keep [] = s := by
  rw [keep, kept, List.flatMap_nil, List.append_nil]

theorem kept_prefix (s : Sink) (records : List Record) : s.kept records <+: records := by
  induction records generalizing s with
  | nil => exact List.prefix_refl []
  | cons r records ih =>
    by_cases keeps : s.policy.keepsLine s.text = true
    · rw [kept_of_keepsLine keeps]
      exact (List.prefix_cons_inj r).mpr (ih _)
    · rw [kept_of_refuses keeps]
      exact List.nil_prefix

theorem keep_append (s : Sink) (records others : List Record) :
    s.keep (records ++ others) = (s.keep records).keep others := by
  induction records generalizing s with
  | nil => rw [List.nil_append, keep_nil]
  | cons r records ih =>
    by_cases keeps : s.policy.keepsLine s.text = true
    · rw [List.cons_append, keep_of_keepsLine keeps, keep_of_keepsLine keeps, ih]
    · rw [keep_of_refuses keeps, keep_of_refuses keeps, keep_of_refuses keeps]

theorem serves_reliable {s : Sink} (reliable : s.policy = .reliable) (records : List Record) :
    s.Serves records := by
  induction records generalizing s with
  | nil => trivial
  | cons r records ih =>
    rw [Serves, reliable]
    exact ⟨rfl, rfl, ih rfl⟩

theorem serves_append (s : Sink) (records others : List Record) :
    s.Serves (records ++ others) ↔ s.Serves records ∧ (s.keep records).Serves others := by
  induction records generalizing s with
  | nil => rw [List.nil_append, keep_nil, Serves, true_and]
  | cons r records ih =>
    rw [List.cons_append, Serves, Serves, ih, and_assoc, and_assoc]
    refine and_congr_right fun keeps => ?_
    rw [keep_of_keepsLine keeps]

/-- A sink serves a block by keeping all of it, and by flushing unless there is nothing to do. -/
theorem serves_iff (s : Sink) (records : List Record) :
    s.Serves records ↔
      s.kept records = records ∧ (records ≠ [] → s.policy.flushes = true) := by
  induction records generalizing s with
  | nil => simp [Serves, kept]
  | cons r records ih =>
    rw [Serves, ih]
    by_cases keeps : s.policy.keepsLine s.text = true
    · rw [kept_of_keepsLine keeps, List.cons_inj_right]
      constructor
      · rintro ⟨-, flushes, whole, -⟩
        exact ⟨whole, fun _ => flushes⟩
      · rintro ⟨whole, flushes⟩
        have flushes := flushes (List.cons_ne_nil r records)
        exact ⟨keeps, flushes, whole, fun _ => flushes⟩
    · simp [keeps, kept_of_refuses keeps]

instance (s : Sink) (records : List Record) : Decidable (s.Serves records) :=
  decidable_of_iff _ (serves_iff s records).symm

end Sink

namespace Writer

theorem append_sink (w : Writer) (r : Record) : (w.append r).2.sink = w.sink.keep [r] := by
  rw [append, Sink.writeLine]
  by_cases keeps : w.sink.policy.keepsLine w.sink.text = true
  · rw [if_pos keeps, Sink.keep_of_keepsLine keeps, Sink.keep_nil]
    simp only
    split <;> rfl
  · rw [if_neg keeps, Sink.keep_of_refuses keeps]

theorem append_ok_iff (w : Writer) (r : Record) : (w.append r).1 = .ok () ↔ w.sink.Serves [r] := by
  rw [append, Sink.writeLine, Sink.Serves, Sink.Serves, and_true]
  by_cases keeps : w.sink.policy.keepsLine w.sink.text = true
  · by_cases flushes : w.sink.policy.flushes = true
    · simp [keeps, flushes, Sink.flush]
    · simp [keeps, flushes, Sink.flush]
  · simp [keeps]

theorem appendAll_sink (w : Writer) (records : List Record) :
    (w.appendAll records).2.sink = w.sink.keep records := by
  induction records generalizing w with
  | nil => rw [appendAll, Sink.keep_nil]
  | cons r records ih =>
    rw [appendAll, Sink.writeLine]
    by_cases keeps : w.sink.policy.keepsLine w.sink.text = true
    · rw [if_pos keeps, Sink.keep_of_keepsLine keeps]
      exact ih _
    · rw [if_neg keeps, Sink.keep_of_refuses keeps]

/-- Unlike a single record, no record at all is flushed too. -/
theorem appendAll_ok_iff (w : Writer) (records : List Record) :
    (w.appendAll records).1 = .ok () ↔
      w.sink.kept records = records ∧ w.sink.policy.flushes = true := by
  induction records generalizing w with
  | nil => simp [appendAll, Sink.flush, Sink.kept]
  | cons r records ih =>
    rw [appendAll, Sink.writeLine]
    by_cases keeps : w.sink.policy.keepsLine w.sink.text = true
    · rw [if_pos keeps, Sink.kept_of_keepsLine keeps, List.cons_inj_right]
      exact ih _
    · simp [keeps, Sink.kept_of_refuses keeps]

theorem appendBlock_sink (w : Writer) (records : List Record) :
    (w.appendBlock records).2.sink = w.sink.keep records := by
  unfold appendBlock
  split
  · exact append_sink w _
  · exact appendAll_sink w records

theorem appendBlock_ok_iff (w : Writer) {records : List Record} (nonempty : records ≠ []) :
    (w.appendBlock records).1 = .ok () ↔ w.sink.Serves records := by
  unfold appendBlock
  split
  · exact append_ok_iff w _
  · rw [appendAll_ok_iff, Sink.serves_iff, imp_iff_right nonempty]

end Writer

/-! ### Blocks -/

structure Block where
  sink : Sink
  records : List Record

namespace Block

/-- The records whose lines end up in the log. -/
def kept (b : Block) : List Record := b.sink.kept b.records

/-- What is counted as recorded: all of the block or nothing. -/
def recorded (b : Block) : Nat := if b.sink.Serves b.records then b.records.length else 0

/-- What is counted as failed: all of the block or nothing. -/
def failed (b : Block) : Nat := if b.sink.Serves b.records then 0 else b.records.length

theorem recorded_add_failed (b : Block) : b.recorded + b.failed = b.records.length := by
  unfold recorded failed
  split <;> omega

theorem recorded_le (b : Block) : b.recorded ≤ b.kept.length := by
  unfold recorded
  split
  · rename_i serves
    have whole : b.kept = b.records := ((Sink.serves_iff _ _).mp serves).1
    exact Nat.le_of_eq (congrArg List.length whole.symm)
  · exact Nat.zero_le _

theorem kept_sublist (b : Block) : b.kept.Sublist b.records := (b.sink.kept_prefix _).sublist

/-! Blocks that are written one after the other. -/

theorem sum_recorded_add_failed (blocks : List Block) :
    (blocks.map recorded).sum + (blocks.map failed).sum = (blocks.flatMap records).length := by
  induction blocks with
  | nil => rfl
  | cons b blocks ih =>
    have one := b.recorded_add_failed
    simp only [List.map_cons, List.sum_cons, List.flatMap_cons, List.length_append]
    omega

theorem sum_recorded_le (blocks : List Block) :
    (blocks.map recorded).sum ≤ (blocks.flatMap kept).length := by
  induction blocks with
  | nil => exact Nat.le_refl 0
  | cons b blocks ih =>
    have one := b.recorded_le
    simp only [List.map_cons, List.sum_cons, List.flatMap_cons, List.length_append]
    omega

theorem flatMap_kept_sublist (blocks : List Block) :
    (blocks.flatMap kept).Sublist (blocks.flatMap records) := by
  induction blocks with
  | nil => exact List.nil_sublist _
  | cons b blocks ih =>
    rw [List.flatMap_cons, List.flatMap_cons]
    exact b.kept_sublist.append ih

end Block

end TrieJournal.Log
