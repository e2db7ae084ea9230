import TrieJournal.Proofs.Record.Row
import TrieJournal.Proofs.Replay.Steps
import TrieJournal.Proofs.Store.Contents
import TrieJournal.Proofs.Summary.Tallies

/-!
# Replaying the rows of records

On a store that never refuses, the row of a record does what the record says. If every read finds
what its record holds, a replay completes as long as the bytes of the values fit in 64 bits; then
all rows are applied, and the totals are the tally of the records.
-/

namespace TrieJournal

namespace Record

/-- The change that a record describes. A read changes nothing. -/
def intent? (r : Record) : Option Intent :=
  match r.kind with
  | .get => none
  | .put => some (.put r.key (r.value.getD []))
  | .delete => some (.delete r.key)
  | .deleteRange => some (.deleteRange r.key (r.value.getD []))

/-- The size stated for the value is its true size. -/
def Sized (r : Record) : Prop := r.valueSize = UInt64.ofNat (r.value.getD []).length

/-- The bytes that the values of the records of a kind hold. -/
def bytesOf (kind : OpKind) (records : List Record) : Nat :=
  ((records.filter fun r => r.kind = kind).map fun r => (r.value.getD []).length).sum

/-- The bytes of the values written and of those read add up to no more than fits in 64 bits. -/
def ValuesFit (records : List Record) : Prop :=
  bytesOf .put records < UInt64.size ∧ bytesOf .get records < UInt64.size

theorem bytesOf_cons (kind : OpKind) (r : Record) (records : List Record) :
    bytesOf kind (r :: records) =
      (if r.kind = kind then (r.value.getD []).length else 0) + bytesOf kind records := by
  by_cases same : r.kind = kind
  · rw [bytesOf, List.filter_cons_of_pos (by simpa using same), List.map_cons, List.sum_cons,
      ← bytesOf, if_pos same]
  · rw [bytesOf, List.filter_cons_of_neg (by simpa using same), ← bytesOf, if_neg same,
      Nat.zero_add]

theorem Sized.toNat {r : Record} (sized : r.Sized)
    (small : (r.value.getD []).length < UInt64.size) :
    r.valueSize.toNat = (r.value.getD []).length := by
  rw [sized, UInt64.toNat_ofNat_of_lt' small]

def request (r : Record) : Request :=
  match r.kind with
  | .get => .get r.key
  | .put => .put r.key (r.value.getD [])
  | .delete => .delete r.key
  | .deleteRange => .deleteRange r.key (r.value.getD [])

def ReadFrom (s : Store) (r : Record) : Prop :=
  r.kind = .get → ∃ v, r.value = some v ∧ s.get? r.key = some v

end Record

/-- Each read finds its value in the store that the records before it have left behind. -/
def ReadsFound : Store → List Record → Prop
  | _, [] => True
  | s, r :: records => r.ReadFrom s ∧ ReadsFound (s.applyAll r.intent?.toList) records

namespace Store

theorem applyAll_filterMap_cons (s : Store) (r : Record) (records : List Record) :
    s.applyAll ((r :: records).filterMap Record.intent?) =
      (s.applyAll r.intent?.toList).applyAll (records.filterMap Record.intent?) := by
  rw [← applyAll_append, List.filterMap_cons]
  cases r.intent? <;> rfl

end Store

theorem readsFound_append (s : Store) (records others : List Record) :
    ReadsFound s (records ++ others) ↔ ReadsFound s records ∧
      ReadsFound (s.applyAll (records.filterMap Record.intent?)) others := by
  induction records generalizing s with
  | nil => simp [ReadsFound, Store.applyAll]
  | cons r records ih =>
    rw [List.cons_append, ReadsFound, ReadsFound, ih, Store.applyAll_filterMap_cons, and_assoc]

/-! ### Rows -/

theorem decode_value_ofRecord (r : Record) :
    Hex.decode (Row.ofRecord r).value = .ok (r.value.getD []) := by
  rw [Row.value_ofRecord, Hex.decode_encode]

namespace Row

variable {s : Store} {r : Record}

theorem request_ofRecord (r : Record) : (ofRecord r).request = .ok r.request := by
  have key : Hex.decode (ofRecord r).key = .ok r.key := Hex.decode_encode r.key
  have kind : OpKind.ofName? (ofRecord r).operation = some r.kind := OpKind.ofName?_name r.kind
  rw [request, key, kind, decode_value_ofRecord, Record.request]
  cases r.kind <;> rfl

theorem attempt_ofRecord (found : r.ReadFrom s) :
    (ofRecord r).attempt s = (.applied, s.applyAll r.intent?.toList) := by
  rw [attempt, request_ofRecord, Record.request, Record.intent?]
  cases kind : r.kind with
  | get =>
    obtain ⟨v, -, present⟩ := found kind
    have read : StorageEngine.get s r.key = (.ok (some v), s) :=
      congrArg (fun answer => (Except.ok answer, s)) present
    simp only [StorageEngine.serve, read]
    rfl
  | put | delete | deleteRange => rfl

theorem written_ofRecord (r : Record) : (ofRecord r).written .applied =
    if r.kind = .put then (r.value.getD []).length else 0 := by
  simp only [written, request_ofRecord, Record.request]
  cases r.kind <;> rfl

theorem found_ofRecord (found : r.ReadFrom s) : (ofRecord r).found s .applied =
    if r.kind = .get then (r.value.getD []).length else 0 := by
  simp only [Row.found, request_ofRecord, Record.request]
  cases kind : r.kind with
  | get =>
    obtain ⟨v, stated, present⟩ := found kind
    have read : (StorageEngine.get s r.key).1 = .ok (some v) := congrArg Except.ok present
    simp only [read, stated]
    rfl
  | put | delete | deleteRange => rfl

end Row

namespace Trial

variable {s : Store} {records : List Record}

theorem sum_written_ofRecord (found : ReadsFound s records) :
    ((ofRows s (records.map Row.ofRecord)).map written).sum = Record.bytesOf .put records := by
  induction records generalizing s with
  | nil => rfl
  | cons r records ih =>
    obtain ⟨first, later⟩ := found
    rw [List.map_cons, ofRows, Row.attempt_ofRecord first, List.map_cons, List.sum_cons, ih later,
      Record.bytesOf_cons, written, Row.written_ofRecord]

theorem sum_found_ofRecord (found : ReadsFound s records) :
    ((ofRows s (records.map Row.ofRecord)).map Trial.found).sum = Record.bytesOf .get records := by
  induction records generalizing s with
  | nil => rfl
  | cons r records ih =>
    obtain ⟨first, later⟩ := found
    rw [List.map_cons, ofRows, Row.attempt_ofRecord first, List.map_cons, List.sum_cons, ih later,
      Record.bytesOf_cons, Trial.found, Row.found_ofRecord first]

end Trial

/-! ### Totals -/

def ReplayStats.tally (s : ReplayStats) : Tally :=
  ⟨s.getOps, s.putOps, s.deleteOps, s.bytesRead, s.bytesWritten⟩

theorem ReplayStats.enter_ofRecord (s : ReplayStats) (r : Record) :
    (s.enter (Row.ofRecord r)).totalOps = s.totalOps + 1 ∧
      (s.enter (Row.ofRecord r)).getOps = s.getOps + Figure.gets.weight r ∧
      (s.enter (Row.ofRecord r)).putOps = s.putOps + Figure.puts.weight r ∧
      (s.enter (Row.ofRecord r)).deleteOps = s.deleteOps + Figure.deletes.weight r := by
  have key : Hex.decode (Row.ofRecord r).key = .ok r.key := Hex.decode_encode r.key
  have kind : OpKind.ofName? (Row.ofRecord r).operation = some r.kind := OpKind.ofName?_name r.kind
  simp only [enter, key, kind, Figure.weight]
  cases r.kind <;> exact ⟨rfl, rfl, rfl, rfl⟩

namespace Replay

variable {r last : Replay Store} {records : List Record} {outcomes : List Outcome}

/-- What a replay of records has done if all of them were applied as they say. -/
structure Followed (r : Replay Store) (records : List Record) (outcomes : List Outcome)
    (last : Replay Store) : Prop where
  applied : outcomes = List.replicate records.length .applied
  engine : last.engine = r.engine.applyAll (records.filterMap Record.intent?)
  totalOps : last.stats.totalOps = r.stats.totalOps + records.length
  skipped : last.stats.skipped = r.stats.skipped
  figures : ∀ f, last.stats.tally.amount f = r.stats.tally.amount f + f.sum records

theorem followed_step {next : Replay Store} {record : Record} {outcome : Outcome}
    (step : r.Step (Row.ofRecord record) outcome next) (sized : record.Sized)
    (found : record.ReadFrom r.engine) :
    outcome = .applied ∧ next.engine = r.engine.applyAll record.intent?.toList ∧
      ∀ f, next.stats.tally.amount f = r.stats.tally.amount f + f.weight record := by
  have attempted := Row.attempt_ofRecord found
  obtain ⟨-, gets, puts, deletes⟩ := r.stats.enter_ofRecord record
  obtain rfl : outcome = .applied := step.attempted.trans (congrArg Prod.fst attempted)
  have written := step.written
  have read := step.found
  rw [Row.written_ofRecord] at written
  rw [Row.found_ofRecord found] at read
  -- The new totals fit, so the value is short enough for its size to be true.
  have short : record.kind = .put ∨ record.kind = .get →
      record.valueSize.toNat = (record.value.getD []).length := by
    have belowWritten : next.stats.bytesWritten.toNat < UInt64.size := UInt64.toNat_lt _
    have belowRead : next.stats.bytesRead.toNat < UInt64.size := UInt64.toNat_lt _
    rintro (put | get)
    · rw [if_pos put] at written
      exact sized.toNat (by omega)
    · rw [if_pos get] at read
      exact sized.toNat (by omega)
  refine ⟨rfl, step.engine.trans (congrArg Prod.snd attempted), fun f => ?_⟩
  cases f with
  | gets => exact step.getOps.trans gets
  | puts => exact step.putOps.trans puts
  | deletes => exact step.deleteOps.trans deletes
  | putBytes =>
    refine written.trans (congrArg _ ?_)
    cases kind : record.kind <;> simp_all [Figure.weight]
  | getBytes =>
    refine read.trans (congrArg _ ?_)
    cases kind : record.kind <;> simp_all [Figure.weight]

/-- A replay of records whose reads are found follows them. -/
theorem followed_of_run? (run : r.run? (records.map Row.ofRecord) = some (outcomes, last))
    (sized : ∀ record ∈ records, record.Sized) (found : ReadsFound r.engine records) :
    r.Followed records outcomes last := by
  induction records generalizing r outcomes with
  | nil =>
    obtain ⟨rfl, rfl⟩ := Prod.mk.inj (Option.some.inj run)
    exact ⟨rfl, rfl, rfl, rfl, fun _ => rfl⟩
  | cons record records ih =>
    obtain ⟨first, later⟩ := found
    obtain ⟨outcome, next, applied, rest, remaining, rfl⟩ := run?_cons.mp run
    have step := step_of_step? applied
    obtain ⟨rfl, engine, figures⟩ := followed_step step (sized record List.mem_cons_self) first
    have followed := ih remaining (fun other mem => sized other (List.mem_cons_of_mem _ mem))
      (engine ▸ later)
    constructor
    case applied => rw [followed.applied, List.length_cons, List.replicate_succ]
    case engine => rw [followed.engine, engine, Store.applyAll_filterMap_cons]
    case totalOps =>
      rw [followed.totalOps, step.totalOps, (r.stats.enter_ofRecord record).1, List.length_cons]
      omega
    case skipped => rw [followed.skipped, step.skipped, Outcome.note]
    case figures =>
      intro f
      rw [followed.figures, figures, f.sum_cons, Nat.add_assoc]

theorem exists_run?_ofRecord {s : Store} (found : ReadsFound s records) :
    (∃ outcomes last, (start s).run? (records.map Row.ofRecord) = some (outcomes, last)) ↔
      Record.ValuesFit records := by
  rw [exists_run?_start, Trial.Fit, Trial.sum_written_ofRecord found,
    Trial.sum_found_ofRecord found, Record.ValuesFit]

end Replay

end TrieJournal
