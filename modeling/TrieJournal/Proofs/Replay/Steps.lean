import Mathlib.Algebra.GroupWithZero.Nat
import TrieJournal.Proofs.Recorder.Serving
import TrieJournal.Replay

/-!
# What rows do

A row is read by itself. If it can be read it asks the engine for one thing, and what becomes of it
is what the engine answers, whatever has been replayed before. So rows can be tried on an engine
without any totals. A replay keeps the totals of that trial: it takes a row in when its key and its
kind have been read, and once more when its outcome is known. It completes if and only if the bytes
that are written and found add up to no more than fits in 64 bits.
-/

namespace TrieJournal

theorem OpKind.eq_name {name : String} {kind : OpKind} (known : ofName? name = some kind) :
    name = kind.name := by
  have named := List.find?_some known
  exact (of_decide_eq_true named).symm

/-- What a row asks of an engine, or why it asks nothing. -/
def Row.request (row : Row) : Except SkipReason Request :=
  match Hex.decode row.key, OpKind.ofName? row.operation, Hex.decode row.value with
  | .error _, _, _ => .error .malformedKey
  | .ok _, none, _ => .error .unknownOperation
  | .ok key, some .get, _ => .ok (.get key)
  | .ok key, some .delete, _ => .ok (.delete key)
  | .ok _, some .put, .error _ | .ok _, some .deleteRange, .error _ => .error .malformedValue
  | .ok key, some .put, .ok value => .ok (.put key value)
  | .ok start, some .deleteRange, .ok stop => .ok (.deleteRange start stop)

namespace Outcome

def ofAnswer : Answer → Outcome
  | .refused _ => skipped .engineFailure
  | .value none => skipped .missingKey
  | _ => applied

/-- The skips with one more outcome. -/
def note (c : SkipCounts) : Outcome → SkipCounts
  | applied => c
  | skipped reason => c.count reason

end Outcome

namespace Row

variable {σ : Type} [StorageEngine σ]

/-- The outcome of a row on an engine, and the engine after it. -/
def attempt (row : Row) (engine : σ) : Outcome × σ :=
  match row.request with
  | .error reason => (.skipped reason, engine)
  | .ok request => (StorageEngine.serve engine request).map Outcome.ofAnswer id

def written (row : Row) (outcome : Outcome) : Nat :=
  match row.request, outcome with
  | .ok (.put _ value), .applied => value.length
  | _, _ => 0

def found (row : Row) (engine : σ) (outcome : Outcome) : Nat :=
  match row.request, outcome with
  | .ok (.get key), .applied => ((StorageEngine.get engine key).1.toOption.join.getD []).length
  | _, _ => 0

end Row

/-! ### Trials -/

/-- A row that was tried, with the engine before it and its outcome. -/
structure Trial (σ : Type) where
  engine : σ
  row : Row
  outcome : Outcome

namespace Trial

variable {σ : Type} [StorageEngine σ]

def written (t : Trial σ) : Nat := t.row.written t.outcome

def found (t : Trial σ) : Nat := t.row.found t.engine t.outcome

def ofRows (engine : σ) : List Row → List (Trial σ)
  | [] => []
  | row :: rows =>
    ⟨engine, row, (row.attempt engine).1⟩ :: ofRows (row.attempt engine).2 rows

def engineAfter (engine : σ) (rows : List Row) : σ :=
  rows.foldl (fun engine row => (row.attempt engine).2) engine

theorem engineAfter_cons (engine : σ) (row : Row) (rows : List Row) :
    engineAfter engine (row :: rows) = engineAfter (row.attempt engine).2 rows := rfl

theorem row_ofRows (engine : σ) (rows : List Row) : (ofRows engine rows).map row = rows := by
  induction rows generalizing engine with
  | nil => rfl
  | cons row rows ih => rw [ofRows, List.map_cons, ih]

/-- The bytes that tried rows write and find add up to no more than fits in 64 bits. -/
def Fit (trials : List (Trial σ)) : Prop :=
  (trials.map written).sum < UInt64.size ∧ (trials.map found).sum < UInt64.size

end Trial

/-! ### Totals -/

theorem Bytes.addTo?_zero (total : UInt64) : addTo? total 0 = some total :=
  addTo?_eq_some.mpr (Nat.add_zero _).symm

theorem Bytes.exists_addTo? {total : UInt64} {n : Nat} :
    (∃ sum, addTo? total n = some sum) ↔ total.toNat + n < UInt64.size := by
  simp only [addTo?_eq_some]
  constructor
  · rintro ⟨sum, exact⟩
    exact exact ▸ sum.toNat_lt
  · intro fits
    exact ⟨.ofNat _, UInt64.toNat_ofNat_of_lt' fits⟩

namespace ReplayStats

/-- The totals with the operation of a row. -/
def enter (s : ReplayStats) (row : Row) : ReplayStats :=
  match Hex.decode row.key, OpKind.ofName? row.operation with
  | .error _, _ => s
  | .ok _, none => { s with totalOps := s.totalOps + 1 }
  | .ok _, some .get => { s with totalOps := s.totalOps + 1, getOps := s.getOps + 1 }
  | .ok _, some .put => { s with totalOps := s.totalOps + 1, putOps := s.putOps + 1 }
  | .ok _, some .delete | .ok _, some .deleteRange =>
    { s with totalOps := s.totalOps + 1, deleteOps := s.deleteOps + 1 }

/-- The totals with what has become of a row, unless its bytes do not fit. -/
def close? (s : ReplayStats) (outcome : Outcome) (written found : Nat) : Option ReplayStats := do
  let bytesWritten ← Bytes.addTo? s.bytesWritten written
  let bytesRead ← Bytes.addTo? s.bytesRead found
  return { s with bytesWritten, bytesRead, skipped := outcome.note s.skipped }

theorem close?_zero (s : ReplayStats) (outcome : Outcome) :
    s.close? outcome 0 0 = some { s with skipped := outcome.note s.skipped } := by
  simp [close?, Bytes.addTo?_zero]

theorem close?_written (s : ReplayStats) (n : Nat) : s.close? .applied n 0 =
    (Bytes.addTo? s.bytesWritten n).map fun bytesWritten => { s with bytesWritten } := by
  simp only [close?, Bytes.addTo?_zero, Outcome.note]
  cases Bytes.addTo? s.bytesWritten n <;> rfl

theorem close?_found (s : ReplayStats) (n : Nat) : s.close? .applied 0 n =
    (Bytes.addTo? s.bytesRead n).map fun bytesRead => { s with bytesRead } := by
  simp only [close?, Bytes.addTo?_zero, Outcome.note]
  cases Bytes.addTo? s.bytesRead n <;> rfl

theorem close?_eq_some {s closed : ReplayStats} {outcome : Outcome} {written found : Nat} :
    s.close? outcome written found = some closed ↔
      closed.bytesWritten.toNat = s.bytesWritten.toNat + written ∧
      closed.bytesRead.toNat = s.bytesRead.toNat + found ∧
      { s with
        bytesWritten := closed.bytesWritten
        bytesRead := closed.bytesRead
        skipped := outcome.note s.skipped } = closed := by
  obtain ⟨total, gets, puts, deletes, bytesWritten, bytesRead, skipped⟩ := closed
  simp only [close?, Option.bind_eq_bind, Option.pure_def, Option.bind_eq_some_iff,
    Bytes.addTo?_eq_some, Option.some.injEq, mk.injEq]
  grind

theorem exists_close? {s : ReplayStats} {outcome : Outcome} {written found : Nat} :
    (∃ closed, s.close? outcome written found = some closed) ↔
      s.bytesWritten.toNat + written < UInt64.size ∧ s.bytesRead.toNat + found < UInt64.size := by
  rw [← Bytes.exists_addTo?, ← Bytes.exists_addTo?]
  simp only [close?, Option.bind_eq_bind, Option.pure_def, Option.bind_eq_some_iff]
  grind

theorem bytes_enter (s : ReplayStats) (row : Row) :
    (s.enter row).bytesWritten = s.bytesWritten ∧ (s.enter row).bytesRead = s.bytesRead ∧
      (s.enter row).skipped = s.skipped := by
  unfold enter
  split <;> exact ⟨rfl, rfl, rfl⟩

end ReplayStats

namespace Replay

variable {σ : Type}

/-- A replay that has come to an end of a row, unless the totals do not fit. -/
def close? (engine : σ) (stats : ReplayStats) (outcome : Outcome) (written found : Nat) :
    Option (Outcome × Replay σ) :=
  (stats.close? outcome written found).map fun stats => (outcome, ⟨engine, stats⟩)

theorem skip_eq (r : Replay σ) (reason : SkipReason) :
    some (r.skip reason) = close? r.engine r.stats (.skipped reason) 0 0 := by
  rw [close?, ReplayStats.close?_zero]
  rfl

theorem settle_eq (r : Replay σ) (result : Except EngineError Unit × σ) :
    some (r.settle result) = close? result.2 r.stats (.ofAnswer (.ofWrite result.1)) 0 0 := by
  obtain ⟨answer, engine⟩ := result
  rw [close?, ReplayStats.close?_zero]
  cases answer <;> rfl

variable [StorageEngine σ]

/-- All that a row does to an engine and to the totals. -/
theorem step?_eq (r : Replay σ) (row : Row) :
    let outcome := (row.attempt r.engine).1
    r.step? row = close? (row.attempt r.engine).2 (r.stats.enter row) outcome
      (row.written outcome) (row.found r.engine outcome) := by
  simp only [step?, Row.attempt, Row.written, Row.found, Row.request, ReplayStats.enter]
  cases key : Hex.decode row.key with
  | error e => exact skip_eq r _
  | ok k =>
    cases known : OpKind.ofName? row.operation with
    | none => exact skip_eq _ _
    | some kind =>
      cases kind with
      | get =>
        simp only [perform?, StorageEngine.serve]
        rcases read : StorageEngine.get r.engine k with ⟨e | _ | value, engine⟩
        · exact skip_eq _ _
        · exact skip_eq _ _
        · simp only [close?, Prod.map, Answer.ofRead, Outcome.ofAnswer, ReplayStats.close?_found,
            Option.map_map, read]
          rfl
      | put =>
        simp only [perform?, StorageEngine.serve]
        cases value : Hex.decode row.value with
        | error e => exact skip_eq _ _
        | ok v =>
          simp only
          rcases StorageEngine.put r.engine k v with ⟨e | done, engine⟩
          · exact skip_eq ⟨engine, _⟩ .engineFailure
          · simp only [close?, settle, Prod.map, Answer.ofWrite, Outcome.ofAnswer,
              ReplayStats.close?_written, Option.map_map]
            rfl
      | delete => exact settle_eq _ _
      | deleteRange =>
        simp only [perform?]
        cases value : Hex.decode row.value with
        | error e => exact skip_eq _ _
        | ok v => exact settle_eq _ _

/-- What a row that is replayed does to the engine and to the totals. -/
structure Step (r : Replay σ) (row : Row) (outcome : Outcome) (next : Replay σ) : Prop where
  attempted : outcome = (row.attempt r.engine).1
  engine : next.engine = (row.attempt r.engine).2
  written : next.stats.bytesWritten.toNat = r.stats.bytesWritten.toNat + row.written outcome
  found : next.stats.bytesRead.toNat = r.stats.bytesRead.toNat + row.found r.engine outcome
  skipped : next.stats.skipped = outcome.note r.stats.skipped
  totalOps : next.stats.totalOps = (r.stats.enter row).totalOps
  getOps : next.stats.getOps = (r.stats.enter row).getOps
  putOps : next.stats.putOps = (r.stats.enter row).putOps
  deleteOps : next.stats.deleteOps = (r.stats.enter row).deleteOps

variable {r next : Replay σ} {row : Row} {outcome : Outcome}

theorem step_of_step? (applied : r.step? row = some (outcome, next)) :
    r.Step row outcome next := by
  rw [step?_eq, close?] at applied
  obtain ⟨stats, closed, result⟩ := Option.map_eq_some_iff.mp applied
  obtain ⟨rfl, rfl⟩ := Prod.mk.inj result
  obtain ⟨written, found, counts⟩ := ReplayStats.close?_eq_some.mp closed
  obtain ⟨sameWritten, sameRead, sameSkipped⟩ := r.stats.bytes_enter row
  rw [sameWritten] at written
  rw [sameRead] at found
  rw [sameSkipped] at counts
  refine ⟨rfl, rfl, written, found, ?_, ?_, ?_, ?_, ?_⟩
  all_goals rw [← counts]

theorem exists_step? : (∃ outcome next, r.step? row = some (outcome, next)) ↔
    r.stats.bytesWritten.toNat + row.written (row.attempt r.engine).1 < UInt64.size ∧
      r.stats.bytesRead.toNat + row.found r.engine (row.attempt r.engine).1 < UInt64.size := by
  obtain ⟨sameWritten, sameRead, -⟩ := r.stats.bytes_enter row
  rw [← sameWritten, ← sameRead, ← ReplayStats.exists_close?, step?_eq]
  constructor
  · rintro ⟨outcome, next, applied⟩
    obtain ⟨closed, closes, -⟩ := Option.map_eq_some_iff.mp applied
    exact ⟨closed, closes⟩
  · rintro ⟨closed, closes⟩
    exact ⟨_, _, by rw [close?, closes, Option.map_some]⟩

/-! ### Runs -/

/-- What rows that are replayed do to the engine and to the bytes. -/
structure Ran (r : Replay σ) (rows : List Row) (outcomes : List Outcome) (last : Replay σ) :
    Prop where
  outcomes : outcomes = (Trial.ofRows r.engine rows).map Trial.outcome
  engine : last.engine = Trial.engineAfter r.engine rows
  written : last.stats.bytesWritten.toNat =
    r.stats.bytesWritten.toNat + ((Trial.ofRows r.engine rows).map Trial.written).sum
  found : last.stats.bytesRead.toNat =
    r.stats.bytesRead.toNat + ((Trial.ofRows r.engine rows).map Trial.found).sum

variable {rows : List Row} {outcomes : List Outcome} {last : Replay σ}

theorem run?_cons : r.run? (row :: rows) = some (outcomes, last) ↔
    ∃ outcome next, r.step? row = some (outcome, next) ∧
      ∃ rest, next.run? rows = some (rest, last) ∧ outcome :: rest = outcomes := by
  simp only [run?, Option.bind_eq_bind, Option.bind_eq_some_iff, Option.pure_def,
    Option.some.injEq, Prod.exists, Prod.mk.injEq]
  grind

theorem ran_of_run? (run : r.run? rows = some (outcomes, last)) : r.Ran rows outcomes last := by
  induction rows generalizing r outcomes with
  | nil =>
    obtain ⟨rfl, rfl⟩ := Prod.mk.inj (Option.some.inj run)
    exact ⟨rfl, rfl, rfl, rfl⟩
  | cons row rows ih =>
    obtain ⟨outcome, next, applied, rest, later, rfl⟩ := run?_cons.mp run
    have step := step_of_step? applied
    obtain ⟨outcomes, engine, written, found⟩ := ih later
    rw [step.engine] at outcomes engine written found
    rw [step.written] at written
    rw [step.found] at found
    have same := step.attempted
    subst same
    refine ⟨?_, engine, ?_, ?_⟩
    · rw [outcomes, Trial.ofRows, List.map_cons]
    · rw [written, Trial.ofRows, List.map_cons, List.sum_cons, Nat.add_assoc, Trial.written]
    · rw [found, Trial.ofRows, List.map_cons, List.sum_cons, Nat.add_assoc, Trial.found]

/-- A replay completes if and only if its bytes fit. -/
theorem exists_run? : (∃ outcomes last, r.run? rows = some (outcomes, last)) ↔
    r.stats.bytesWritten.toNat + ((Trial.ofRows r.engine rows).map Trial.written).sum <
        UInt64.size ∧
      r.stats.bytesRead.toNat + ((Trial.ofRows r.engine rows).map Trial.found).sum <
        UInt64.size := by
  constructor
  · rintro ⟨outcomes, last, run⟩
    have ran := ran_of_run? run
    rw [← ran.written, ← ran.found]
    exact ⟨last.stats.bytesWritten.toNat_lt, last.stats.bytesRead.toNat_lt⟩
  · induction rows generalizing r with
    | nil => exact fun _ => ⟨[], r, rfl⟩
    | cons row rows ih =>
      rintro ⟨written, found⟩
      rw [Trial.ofRows, List.map_cons, List.sum_cons, ← Nat.add_assoc] at written found
      obtain ⟨outcome, next, applied⟩ := exists_step?.mpr
        ⟨Nat.lt_of_le_of_lt (Nat.le_add_right ..) written,
          Nat.lt_of_le_of_lt (Nat.le_add_right ..) found⟩
      have step := step_of_step? applied
      have same := step.attempted
      subst same
      rw [Trial.written, ← step.written, ← step.engine] at written
      rw [Trial.found, ← step.found, ← step.engine] at found
      obtain ⟨rest, last, run⟩ := ih ⟨written, found⟩
      exact ⟨_, last, run?_cons.mpr ⟨_, next, applied, rest, run, rfl⟩⟩

theorem exists_run?_start {engine : σ} :
    (∃ outcomes last, (start engine).run? rows = some (outcomes, last)) ↔
      Trial.Fit (Trial.ofRows engine rows) := by
  rw [exists_run?]
  simp only [start, ReplayStats.zero, UInt64.toNat_zero, Nat.zero_add, Trial.Fit]

end Replay

end TrieJournal
