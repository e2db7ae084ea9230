import TrieJournal.Proofs.Replay.Steps

/-!
# The books of a replay

Every row is counted once by how far it could be read and once by what has become of it. The bytes
are those of the rows that were applied. The skips are sorted by kinds of rows: only a read can miss
its key, and only a write or a range can have a value that cannot be read.
-/

namespace TrieJournal

def Trial.isOf {σ : Type} (kinds : List OpKind) (outcome : Outcome) (t : Trial σ) : Bool :=
  t.outcome = outcome && kinds.any fun kind => t.row.operation = kind.name

/-! ### What can become of a row -/

/-- How far a row can be read, and what can become of it then. -/
inductive Row.Fate (row : Row) : Outcome → Prop where
  | noKey {e : HexError} (key : Hex.decode row.key = .error e) : Fate row (.skipped .malformedKey)
  | noKind {k : Bytes} (key : Hex.decode row.key = .ok k)
      (unknown : OpKind.ofName? row.operation = none) : Fate row (.skipped .unknownOperation)
  | noValue {k : Bytes} {kind : OpKind} (key : Hex.decode row.key = .ok k)
      (known : OpKind.ofName? row.operation = some kind)
      (valued : kind = .put ∨ kind = .deleteRange) :
      Fate row (.skipped .malformedValue)
  | missed {k : Bytes} (key : Hex.decode row.key = .ok k)
      (known : OpKind.ofName? row.operation = some .get) : Fate row (.skipped .missingKey)
  | refused {k : Bytes} {kind : OpKind} (key : Hex.decode row.key = .ok k)
      (known : OpKind.ofName? row.operation = some kind) : Fate row (.skipped .engineFailure)
  | applied {k : Bytes} {kind : OpKind} (key : Hex.decode row.key = .ok k)
      (known : OpKind.ofName? row.operation = some kind) : Fate row .applied

namespace Row

variable {row : Row}

theorem fate_of_write {k : Bytes} {kind : OpKind} (key : Hex.decode row.key = .ok k)
    (known : OpKind.ofName? row.operation = some kind) (result : Except EngineError Unit) :
    row.Fate (.ofAnswer (.ofWrite result)) := by
  cases result with
  | error e => exact .refused key known
  | ok done => exact .applied key known

theorem fate_attempt {σ : Type} [StorageEngine σ] (row : Row) (engine : σ) :
    row.Fate (row.attempt engine).1 := by
  unfold attempt request
  cases key : Hex.decode row.key with
  | error e => exact .noKey key
  | ok k =>
    cases known : OpKind.ofName? row.operation with
    | none => exact .noKind key known
    | some kind =>
      cases kind with
      | get =>
        simp only [StorageEngine.serve]
        rcases StorageEngine.get engine k with ⟨e | _ | value, _⟩
        · exact .refused key known
        · exact .missed key known
        · exact .applied key known
      | put =>
        cases Hex.decode row.value with
        | error e => exact .noValue key known (Or.inl rfl)
        | ok value => exact fate_of_write key known _
      | delete => exact fate_of_write key known _
      | deleteRange =>
        cases Hex.decode row.value with
        | error e => exact .noValue key known (Or.inr rfl)
        | ok stop => exact fate_of_write key known _

end Row

/-! ### What is counted of it -/

namespace SkipCounts

variable (c : SkipCounts) (outcome : Outcome)

theorem total_note : (outcome.note c).total + (if outcome = .applied then 1 else 0) =
    c.total + 1 := by
  cases outcome with
  | applied => rfl
  | skipped reason =>
    cases reason <;> simp only [Outcome.note, count, total, reduceCtorEq, if_false] <;> omega

theorem missingKey_note : (outcome.note c).missingKey =
    c.missingKey + if outcome = .skipped .missingKey then 1 else 0 := by
  cases outcome with
  | applied => rfl
  | skipped reason => cases reason <;> rfl

theorem malformedValue_note : (outcome.note c).malformedValue =
    c.malformedValue + if outcome = .skipped .malformedValue then 1 else 0 := by
  cases outcome with
  | applied => rfl
  | skipped reason => cases reason <;> rfl

end SkipCounts

namespace ReplayStats

def sorted (s : ReplayStats) : Nat := s.getOps + s.putOps + s.deleteOps

variable (s : ReplayStats) {row : Row}

theorem enter_noKey {e : HexError} (key : Hex.decode row.key = .error e) : s.enter row = s := by
  simp only [enter, key]

theorem enter_noKind {k : Bytes} (key : Hex.decode row.key = .ok k)
    (unknown : OpKind.ofName? row.operation = none) :
    s.enter row = { s with totalOps := s.totalOps + 1 } := by
  simp only [enter, key, unknown]

theorem enter_kind {k : Bytes} {kind : OpKind} (key : Hex.decode row.key = .ok k)
    (known : OpKind.ofName? row.operation = some kind) :
    (s.enter row).totalOps = s.totalOps + 1 ∧ (s.enter row).sorted = s.sorted + 1 := by
  constructor
  · cases kind <;> simp only [enter, key, known]
  · cases kind <;> simp only [enter, key, known, sorted] <;> omega

/-- A row without a key is counted as such, and any other one in the total. -/
theorem rows_enter {outcome : Outcome} (fate : row.Fate outcome) :
    (s.enter row).totalOps + (outcome.note s.skipped).malformedKey =
      s.totalOps + s.skipped.malformedKey + 1 := by
  cases fate with
  | noKey key =>
    rw [enter_noKey s key]
    rfl
  | noKind key unknown =>
    rw [enter_noKind s key unknown]
    exact Nat.add_right_comm _ _ _
  | noValue key known | missed key known | refused key known | applied key known =>
    have entered := (enter_kind s key known).1
    simp only [Outcome.note, SkipCounts.count]
    omega

/-- A row in the total is counted by its kind or as one of no kind. -/
theorem kinds_enter {outcome : Outcome} (fate : row.Fate outcome)
    (kinds : s.totalOps = s.sorted + s.skipped.unknownOperation) :
    (s.enter row).totalOps =
      (s.enter row).sorted + (outcome.note s.skipped).unknownOperation := by
  cases fate with
  | noKey key =>
    rw [enter_noKey s key]
    exact kinds
  | noKind key unknown =>
    rw [enter_noKind s key unknown]
    exact congrArg (· + 1) kinds
  | noValue key known | missed key known | refused key known | applied key known =>
    obtain ⟨total, sorts⟩ := enter_kind s key known
    simp only [Outcome.note, SkipCounts.count]
    omega

end ReplayStats

namespace Row.Fate

variable {σ : Type} {row : Row} {outcome : Outcome}

theorem isOf_missed (fate : row.Fate outcome) (engine : σ) :
    (⟨engine, row, outcome⟩ : Trial σ).isOf [.get] (.skipped .missingKey) =
      (outcome = .skipped .missingKey) := by
  cases fate with
  | missed key known => simp [Trial.isOf, OpKind.eq_name known]
  | noKey | noKind | noValue | refused | applied => simp [Trial.isOf]

theorem isOf_noValue (fate : row.Fate outcome) (engine : σ) :
    (⟨engine, row, outcome⟩ : Trial σ).isOf [.put, .deleteRange] (.skipped .malformedValue) =
      (outcome = .skipped .malformedValue) := by
  cases fate with
  | noValue key known valued =>
    rcases valued with rfl | rfl <;> simp [Trial.isOf, OpKind.eq_name known]
  | noKey | noKind | missed | refused | applied => simp [Trial.isOf]

end Row.Fate

/-! ### Runs -/

namespace Replay

variable {σ : Type} [StorageEngine σ]

/-- The totals account for the rows replayed so far. -/
structure Booked (trials : List (Trial σ)) (s : ReplayStats) : Prop where
  rows : s.totalOps + s.skipped.malformedKey = trials.length
  outcomes : trials.countP (fun t => t.outcome = .applied) + s.skipped.total = trials.length
  kinds : s.totalOps = s.getOps + s.putOps + s.deleteOps + s.skipped.unknownOperation
  written : s.bytesWritten.toNat = (trials.map Trial.written).sum
  read : s.bytesRead.toNat = (trials.map Trial.found).sum
  missing : s.skipped.missingKey = trials.countP (Trial.isOf [.get] (.skipped .missingKey))
  malformed : s.skipped.malformedValue =
    trials.countP (Trial.isOf [.put, .deleteRange] (.skipped .malformedValue))

theorem booked_nil : Booked (σ := σ) [] .zero := by
  constructor <;> rfl

variable {r : Replay σ} {trials : List (Trial σ)}

theorem Booked.step (booked : Booked trials r.stats) {row : Row} {outcome : Outcome}
    {next : Replay σ} (step : r.Step row outcome next) :
    Booked (trials ++ [⟨r.engine, row, outcome⟩]) next.stats := by
  have fate := row.fate_attempt r.engine
  rw [← step.attempted] at fate
  constructor
  case rows =>
    rw [step.skipped, step.totalOps, ReplayStats.rows_enter r.stats fate, booked.rows,
      List.length_append, List.length_singleton]
  case outcomes =>
    have noted := r.stats.skipped.total_note outcome
    have before := booked.outcomes
    simp only [step.skipped, List.countP_append, List.countP_singleton, List.length_append,
      List.length_singleton, decide_eq_true_eq]
    omega
  case kinds =>
    rw [step.skipped, step.totalOps, step.getOps, step.putOps, step.deleteOps]
    exact ReplayStats.kinds_enter r.stats fate booked.kinds
  case written =>
    rw [step.written, booked.written, List.map_append, List.sum_append]
    rfl
  case read =>
    rw [step.found, booked.read, List.map_append, List.sum_append]
    rfl
  case missing =>
    rw [step.skipped, SkipCounts.missingKey_note, booked.missing, List.countP_append,
      List.countP_singleton]
    simp only [fate.isOf_missed]
  case malformed =>
    rw [step.skipped, SkipCounts.malformedValue_note, booked.malformed, List.countP_append,
      List.countP_singleton]
    simp only [fate.isOf_noValue]

theorem Booked.run (booked : Booked trials r.stats) {rows : List Row} {outcomes : List Outcome}
    {last : Replay σ} (run : r.run? rows = some (outcomes, last)) :
    Booked (trials ++ Trial.ofRows r.engine rows) last.stats := by
  induction rows generalizing r trials outcomes with
  | nil =>
    obtain ⟨-, rfl⟩ := Prod.mk.inj (Option.some.inj run)
    rwa [Trial.ofRows, List.append_nil]
  | cons row rows ih =>
    obtain ⟨outcome, next, applied, rest, later, -⟩ := run?_cons.mp run
    have step := step_of_step? applied
    have rest := ih (booked.step step) later
    rwa [List.append_assoc, step.engine, step.attempted] at rest

/-- Rows can be replayed if and only if the bytes that they write and find fit, and then the totals
account for them. -/
theorem booked_start (engine : σ) (rows : List Row) :
    let trials := Trial.ofRows engine rows
    trials.map Trial.row = rows ∧
      ((∃ outcomes last, (start engine).run? rows = some (outcomes, last)) ↔ Trial.Fit trials) ∧
      ∀ outcomes last, (start engine).run? rows = some (outcomes, last) →
        outcomes = trials.map Trial.outcome ∧ Booked trials last.stats :=
  ⟨Trial.row_ofRows engine rows, exists_run?_start, fun _ _ run =>
    ⟨(ran_of_run? run).outcomes, booked_nil.run (r := start engine) run⟩⟩

/-- A write that is read back and a row for every reason to be skipped but a failure. -/
theorem booked_start_mixed :
    let put : Row := ⟨"PUT", "41", "abcd", "1", "2", "HASH_TRIE"⟩
    let get : Row := ⟨"GET", "41", "", "1", "2", "HASH_TRIE"⟩
    let miss : Row := ⟨"GET", "42", "", "1", "0", "HASH_TRIE"⟩
    let noValue : Row := ⟨"PUT", "41", "zz", "1", "1", "HASH_TRIE"⟩
    let merge : Row := ⟨"MERGE", "41", "", "1", "0", "HASH_TRIE"⟩
    let noKey : Row := ⟨"DELETE", "4", "", "1", "0", "HASH_TRIE"⟩
    let rows := [put, get, miss, noValue, merge, noKey]
    let trials := Trial.ofRows Store.empty rows
    ∃ last, (start Store.empty).run? rows = some (trials.map Trial.outcome, last) ∧
      Booked trials last.stats ∧ last.stats = ⟨5, 2, 2, 0, 2, 2, ⟨1, 1, 1, 1, 0⟩⟩ := by
  intro put get miss noValue merge noKey rows trials
  obtain ⟨-, completes, booked⟩ := booked_start Store.empty rows
  obtain ⟨outcomes, last, run⟩ := completes.mpr ⟨by decide +kernel, by decide +kernel⟩
  obtain ⟨rfl, books⟩ := booked _ _ run
  refine ⟨last, run, books, ?_⟩
  have stats : ((start Store.empty).run? rows).map (fun result => result.2.stats) =
      some ⟨5, 2, 2, 0, 2, 2, ⟨1, 1, 1, 1, 0⟩⟩ := by
    decide +kernel
  rw [run] at stats
  exact Option.some.inj stats

end Replay

end TrieJournal
