import TrieJournal.Proofs.Log.Keeping
import TrieJournal.Proofs.Recorder.Serving

/-!
# Noting operations

Noting operations writes their records to the log as one block and books the block as a whole: as
recorded if the sink has served all of it, and as failed if not, however many of its lines were
kept. Operations without a record are counted whether or not the log is open.
-/

namespace TrieJournal

namespace Operation

def records (ops : List Operation) : List Record := ops.filterMap record?

def unclassified (ops : List Operation) : Nat := ops.countP fun op => op.record?.isNone

theorem records_append (ops others : List Operation) :
    records (ops ++ others) = records ops ++ records others :=
  List.filterMap_append

theorem unclassified_append (ops others : List Operation) :
    unclassified (ops ++ others) = unclassified ops + unclassified others :=
  List.countP_append

/-- Every operation has a record or is unclassified. -/
theorem length_records_add (ops : List Operation) :
    (records ops).length + unclassified ops = ops.length := by
  induction ops with
  | nil => rfl
  | cons op ops ih =>
    rw [records, unclassified] at ih ⊢
    rw [List.countP_cons, List.length_cons]
    cases logged : op.record? with
    | none =>
      rw [List.filterMap_cons_none logged]
      simp only [Option.isNone_none, if_true]
      omega
    | some r =>
      rw [List.filterMap_cons_some logged, List.length_cons]
      simp only [Option.isNone_some, Bool.false_eq_true, if_false]
      omega

end Operation

namespace Recorder

variable {σ : Type}

/-! ### Blocks -/

theorem append_recording (r : Recorder σ) (records : List Record) :
    (r.append records).recording = r.recording := by
  unfold append
  split
  · split <;> rfl
  · rfl

theorem append_unclassified (r : Recorder σ) (records : List Record) :
    (r.append records).counts.unclassified = r.counts.unclassified := by
  unfold append
  split
  · split <;> rfl
  · rfl

theorem append_of_closed {r : Recorder σ} (closed : r.recording = false) (records : List Record) :
    r.append records = r := by
  rw [append, closed]
  rfl

theorem append_nil (r : Recorder σ) : r.append [] = r := by
  simp [append]

section Open
variable {r : Recorder σ} (opened : r.recording = true)
include opened

theorem append_sink (records : List Record) :
    (r.append records).log.sink = r.log.sink.keep records := by
  by_cases empty : records = []
  · rw [empty, append_nil, Log.Sink.keep_nil]
  · have written := r.log.appendBlock_sink records
    rw [append, opened, Bool.true_and, if_pos (by simpa using empty)]
    split
    · rename_i log block
      rwa [block] at written
    · rename_i log block
      rwa [block] at written

theorem append_counts (records : List Record) :
    let block : Log.Block := ⟨r.log.sink, records⟩
    (r.append records).counts = ⟨r.counts.recorded + block.recorded, r.counts.unclassified,
      r.counts.logFailures + block.failed⟩ := by
  intro block
  by_cases empty : records = []
  · subst empty
    rw [append_nil]
    rfl
  · have served := r.log.appendBlock_ok_iff empty
    rw [append, opened, Bool.true_and, if_pos (by simpa using empty)]
    split
    · rename_i log written
      rw [written] at served
      have serves : block.sink.Serves block.records := served.mp rfl
      rw [Log.Block.recorded, Log.Block.failed, if_pos serves, if_pos serves]
      rfl
    · rename_i e log written
      rw [written] at served
      have fails : ¬block.sink.Serves block.records := fun serves => by cases served.mpr serves
      rw [Log.Block.recorded, Log.Block.failed, if_neg fails, if_neg fails]
      rfl

end Open

/-! ### Operations -/

def passOver (r : Recorder σ) (n : Nat) : Recorder σ :=
  { r with counts.unclassified := r.counts.unclassified + n }

theorem note_eq (r : Recorder σ) (ops : List Operation) :
    r.note ops = (r.passOver (Operation.unclassified ops)).append (Operation.records ops) := by
  have split := Operation.length_records_add ops
  have without : ops.length - (Operation.records ops).length = Operation.unclassified ops := by
    omega
  rw [← without]
  rfl

theorem note_recording (r : Recorder σ) (ops : List Operation) :
    (r.note ops).recording = r.recording := by
  rw [note_eq, append_recording, passOver]

theorem note_unclassified (r : Recorder σ) (ops : List Operation) :
    (r.note ops).counts.unclassified = r.counts.unclassified + Operation.unclassified ops := by
  rw [note_eq, append_unclassified, passOver]

theorem note_of_closed {r : Recorder σ} (closed : r.recording = false) (ops : List Operation) :
    r.note ops = r.passOver (Operation.unclassified ops) := by
  rw [note_eq]
  exact append_of_closed (r := r.passOver _) closed _

section Open
variable {r : Recorder σ} (opened : r.recording = true)
include opened

theorem note_sink (ops : List Operation) :
    (r.note ops).log.sink = r.log.sink.keep (Operation.records ops) := by
  rw [note_eq]
  exact append_sink (r := r.passOver _) opened _

theorem note_logText (ops : List Operation) :
    (r.note ops).logText =
      r.logText ++ (r.log.sink.kept (Operation.records ops)).flatMap Log.recordLine := by
  rw [logText, note_sink opened]
  rfl

theorem note_counts (ops : List Operation) :
    let block : Log.Block := ⟨r.log.sink, Operation.records ops⟩
    (r.note ops).counts = ⟨r.counts.recorded + block.recorded,
      r.counts.unclassified + Operation.unclassified ops, r.counts.logFailures + block.failed⟩ := by
  rw [note_eq]
  exact append_counts (r := r.passOver _) opened _

end Open

end Recorder

end TrieJournal
