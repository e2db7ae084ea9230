import TrieJournal.Proofs.Record.Row
import TrieJournal.Proofs.Replay.Steps
import TrieJournal.Proofs.Store.Contents
import TrieJournal.Store.Guarded

/-!
# Replaying without skipped rows

On a store, whatever access there is to it, a row that is skipped leaves nothing behind but its
count, and a read nothing but its count and its bytes. A replay goes on alike with such rows and
without them. So what a replay does to a store is what the applied rows ask for, in order.
-/

namespace TrieJournal

/-- What is left of a list without some of its elements, each of which satisfies `P`. -/
inductive Thinned {α : Type} (P : α → Prop) : List α → List α → Prop where
  | nil : Thinned P [] []
  | keep {l kept : List α} (a : α) (rest : Thinned P l kept) : Thinned P (a :: l) (a :: kept)
  | drop {l kept : List α} {a : α} (idle : P a) (rest : Thinned P l kept) : Thinned P (a :: l) kept

def Outcome.done (intents : List Intent) : Outcome → List Intent
  | applied => intents
  | skipped _ => []

namespace Row

def intents (row : Row) : List Intent := (row.request.toOption.map Request.intents).getD []

/-- A row that changes nothing: one that is skipped, or a read. -/
def Idle (row : Row) (outcome : Outcome) : Prop :=
  (∃ reason, outcome = .skipped reason) ∨ row.operation = OpKind.get.name

theorem request_read {row : Row} (read : row.operation = OpKind.get.name) :
    row.request = .error .malformedKey ∨ ∃ key, row.request = .ok (.get key) := by
  rw [request, read, OpKind.ofName?_name]
  cases Hex.decode row.key with
  | error e => exact Or.inl rfl
  | ok key => exact Or.inr ⟨key, rfl⟩

variable {row : Row} {outcome : Outcome}

theorem Idle.done (idle : row.Idle outcome) : outcome.done row.intents = [] := by
  rcases idle with ⟨reason, rfl⟩ | read
  · rfl
  · have nothing : row.intents = [] := by
      rw [intents]
      rcases request_read read with unread | ⟨key, asks⟩
      · rw [unread]
        rfl
      · rw [asks]
        rfl
    rw [nothing]
    cases outcome <;> rfl

theorem written_skipped (row : Row) (reason : SkipReason) : row.written (.skipped reason) = 0 := by
  unfold written
  split <;> simp_all

theorem Idle.written (idle : row.Idle outcome) : row.written outcome = 0 := by
  rcases idle with ⟨reason, rfl⟩ | read
  · exact written_skipped row reason
  · unfold Row.written
    rcases request_read read with unread | ⟨key, asks⟩
    · rw [unread]
    · rw [asks]

theorem found_skipped {σ : Type} [StorageEngine σ] (row : Row) (engine : σ) (reason : SkipReason) :
    row.found engine (.skipped reason) = 0 := by
  unfold found
  split <;> simp_all

end Row

/-! ### Stores -/

theorem GuardedStore.serve_snd (g : GuardedStore) (request : Request) :
    (StorageEngine.serve g request).2 = { g with store := g.store.applyAll <|
      (Outcome.ofAnswer (StorageEngine.serve g request).1).done request.intents } := by
  cases request with
  | get | has | keyCount | property | path =>
    cases Outcome.ofAnswer _ <;> rfl
  | put key value | delete key | deleteRange start stop | writeBatch intents =>
    obtain ⟨store, access, figures, directory⟩ := g
    cases access <;> rfl

theorem Row.attempt_guarded (row : Row) (g : GuardedStore) : (row.attempt g).2 =
    { g with store := g.store.applyAll ((row.attempt g).1.done row.intents) } := by
  unfold attempt intents
  cases row.request with
  | error reason => rfl
  | ok request => exact g.serve_snd request

theorem Row.attempt_idle {row : Row} {g : GuardedStore} (idle : row.Idle (row.attempt g).1) :
    (row.attempt g).2 = g := by
  rw [attempt_guarded, idle.done]
  rfl

namespace Trial

theorem engineAfter_guarded (g : GuardedStore) (rows : List Row) : engineAfter g rows =
    { g with store := g.store.applyAll <|
      (rows.zip ((ofRows g rows).map outcome)).flatMap fun e => e.2.done e.1.intents } := by
  induction rows generalizing g with
  | nil => rfl
  | cons row rows ih =>
    rw [engineAfter_cons, ih, ofRows, List.map_cons, List.zip_cons_cons, List.flatMap_cons,
      Store.applyAll_append]
    simp only [Row.attempt_guarded]

/-! ### Two trials -/

/-- Rows that are kept have the outcomes that are given with them, and end on the same engine as all
rows, with as much written and no more found; if `reads`, with as much found. -/
structure Agree (reads : Prop) (g : GuardedStore) (rows : List Row)
    (kept : List (Row × Outcome)) : Prop where
  outcomes : (ofRows g (kept.map Prod.fst)).map outcome = kept.map Prod.snd
  engine : engineAfter g (kept.map Prod.fst) = engineAfter g rows
  written : ((ofRows g (kept.map Prod.fst)).map written).sum = ((ofRows g rows).map written).sum
  less : ((ofRows g (kept.map Prod.fst)).map found).sum ≤ ((ofRows g rows).map found).sum
  found : reads → ((ofRows g (kept.map Prod.fst)).map found).sum = ((ofRows g rows).map found).sum

variable {reads : Prop} {g : GuardedStore} {rows : List Row} {kept : List (Row × Outcome)}

theorem agree_of_thinned {P : Row × Outcome → Prop}
    (idle : ∀ e, P e → e.1.Idle e.2 ∧ (reads → ∃ reason, e.2 = .skipped reason))
    (thinned : Thinned P (rows.zip ((ofRows g rows).map outcome)) kept) :
    Agree reads g rows kept := by
  induction rows generalizing g kept with
  | nil =>
    cases thinned
    exact ⟨rfl, rfl, rfl, Nat.le_refl _, fun _ => rfl⟩
  | cons row rows ih =>
    rw [ofRows, List.map_cons, List.zip_cons_cons] at thinned
    -- Both trials take a row that is kept. A row that is dropped leaves the engine as it was.
    cases thinned with
    | keep _ rest =>
      obtain ⟨outcomes, engine, written, less, found⟩ := ih rest
      refine ⟨?_, engine, ?_, ?_, fun compared => ?_⟩
      · exact congrArg ((row.attempt g).1 :: ·) outcomes
      · exact congrArg (row.written (row.attempt g).1 + ·) written
      · exact Nat.add_le_add_left less _
      · exact congrArg (row.found g (row.attempt g).1 + ·) (found compared)
    | drop dropped rest =>
      obtain ⟨idleRow, unread⟩ := idle _ dropped
      have same : (row.attempt g).2 = g := Row.attempt_idle idleRow
      rw [same] at rest
      obtain ⟨outcomes, engine, written, less, found⟩ := ih rest
      refine ⟨outcomes, ?_, ?_, ?_, fun compared => ?_⟩
      · rw [engine, engineAfter_cons, same]
      · rw [written, ofRows, same, List.map_cons, List.sum_cons, Trial.written, idleRow.written,
          Nat.zero_add]
      · rw [ofRows, same, List.map_cons, List.sum_cons]
        exact Nat.le_add_left_of_le less
      · obtain ⟨reason, skipped⟩ := unread compared
        have nothing : row.found g (row.attempt g).1 = 0 := by
          rw [show (row.attempt g).1 = _ from skipped, Row.found_skipped]
        rw [found compared, ofRows, same, List.map_cons, List.sum_cons, Trial.found, nothing,
          Nat.zero_add]

end Trial

/-! ### Ranges -/

/-- A range without an end removes all that is not below its start. -/
theorem Store.eraseRange_unbounded (s : Store) (start : Bytes) :
    (s.eraseRange start []).entries = s.entries.filter fun e => e.1 < start := by
  rw [eraseRange_eq]
  refine List.filter_congr fun e _ => ?_
  simp only [inRange, List.isEmpty_nil, Bool.true_or, Bool.and_true]
  by_cases below : e.1 < start
  · have outside := List.not_le.mpr below
    simp only [below, outside, decide_true, decide_false, Bool.not_false]
  · have inside := List.not_lt.mp below
    simp only [below, inside, decide_true, decide_false, Bool.not_true]

theorem Row.intents_deleteRange {row : Row} {first stop : Bytes}
    (range : row.operation = OpKind.deleteRange.name) (key : Hex.decode row.key = .ok first)
    (value : Hex.decode row.value = .ok stop) : row.intents = [.deleteRange first stop] := by
  rw [intents, request, range, OpKind.ofName?_name, key, value]
  rfl

namespace Replay

variable {g : GuardedStore} {rows : List Row} {outcomes : List Outcome} {full : Replay GuardedStore}

theorem length_of_run? {σ : Type} [StorageEngine σ] {r last : Replay σ}
    (run : r.run? rows = some (outcomes, last)) : outcomes.length = rows.length := by
  rw [(ran_of_run? run).outcomes, List.length_map, ← List.length_map Trial.row,
    Trial.row_ofRows]

theorem store_unbounded {r next : Replay GuardedStore} {row : Row} {first : Bytes}
    (range : row.operation = OpKind.deleteRange.name) (key : Hex.decode row.key = .ok first)
    (value : Hex.decode row.value = .ok []) (applied : r.step? row = some (.applied, next)) :
    next.engine.store.entries = r.engine.store.entries.filter fun e => e.1 < first := by
  have step := step_of_step? applied
  rw [step.engine, Row.attempt_guarded, ← step.attempted, Outcome.done,
    Row.intents_deleteRange range key value]
  exact r.engine.store.eraseRange_unbounded first

theorem run?_of_agree {reads : Prop} {kept : List (Row × Outcome)}
    (run : (start g).run? rows = some (outcomes, full)) (agree : Trial.Agree reads g rows kept) :
    ∃ short, (start g).run? (kept.map Prod.fst) = some (kept.map Prod.snd, short) ∧
      short.engine = full.engine ∧ short.stats.bytesWritten = full.stats.bytesWritten ∧
      (reads → short.stats.bytesRead = full.stats.bytesRead) := by
  have ran := ran_of_run? run
  obtain ⟨written, found⟩ := exists_run?_start.mp ⟨_, _, run⟩
  obtain ⟨others, short, again⟩ :=
    exists_run?_start.mpr ⟨agree.written ▸ written, Nat.lt_of_le_of_lt agree.less found⟩
  have ranAgain := ran_of_run? again
  obtain rfl := ranAgain.outcomes.trans agree.outcomes
  refine ⟨short, again, ?_, UInt64.toNat_inj.mp ?_, fun compared => UInt64.toNat_inj.mp ?_⟩
  · exact ranAgain.engine.trans (agree.engine.trans ran.engine.symm)
  · rw [ranAgain.written, ran.written]
    exact congrArg _ agree.written
  · rw [ranAgain.found, ran.found]
    exact congrArg _ (agree.found compared)

/-- A replay completes if and only if its bytes fit, and a skipped row leaves the store as it was.
Then every row has an outcome. Without some of the skipped rows a replay has the same outcomes for
the others, ends on the same store and has written and read as much; without some of the reads, too,
only how much is read can change of this. The store holds the changes of the applied rows, in order,
and a range whose end is empty has no upper bound. -/
theorem run_without_skipped (g : GuardedStore) (rows : List Row) :
    ((∃ outcomes full, (start g).run? rows = some (outcomes, full)) ↔
      Trial.Fit (Trial.ofRows g rows)) ∧
    (∀ (r next : Replay GuardedStore) (row : Row) (reason : SkipReason),
      r.step? row = some (.skipped reason, next) → next.engine = r.engine) ∧
    (∀ outcomes full, (start g).run? rows = some (outcomes, full) →
      outcomes.length = rows.length ∧
      (∀ kept, Thinned (fun e => ∃ reason, e.2 = Outcome.skipped reason) (rows.zip outcomes) kept →
        ∃ short, (start g).run? (kept.map Prod.fst) = some (kept.map Prod.snd, short) ∧
          short.engine = full.engine ∧ short.stats.bytesWritten = full.stats.bytesWritten ∧
          short.stats.bytesRead = full.stats.bytesRead) ∧
      (∀ kept, Thinned (fun e => e.1.Idle e.2) (rows.zip outcomes) kept →
        ∃ short, (start g).run? (kept.map Prod.fst) = some (kept.map Prod.snd, short) ∧
          short.engine = full.engine ∧ short.stats.bytesWritten = full.stats.bytesWritten) ∧
      full.engine = { g with store := g.store.applyAll <|
        (rows.zip outcomes).flatMap fun e => e.2.done e.1.intents }) ∧
    ∀ (r next : Replay GuardedStore) (row : Row) (first : Bytes),
      row.operation = OpKind.deleteRange.name → Hex.decode row.key = .ok first →
      Hex.decode row.value = .ok [] → r.step? row = some (.applied, next) →
      next.engine.store.entries = r.engine.store.entries.filter fun e => e.1 < first := by
  refine ⟨exists_run?_start, fun r next row reason applied => ?_, fun outcomes full run => ?_, ?_⟩
  · have step := step_of_step? applied
    rw [step.engine]
    exact Row.attempt_idle (Or.inl ⟨reason, step.attempted.symm⟩)
  · have ran := ran_of_run? run
    refine ⟨length_of_run? run, fun kept thinned => ?_, fun kept thinned => ?_, ?_⟩
    · rw [ran.outcomes] at thinned
      have agree : Trial.Agree True g rows kept :=
        Trial.agree_of_thinned (fun _ skipped => ⟨Or.inl skipped, fun _ => skipped⟩) thinned
      obtain ⟨short, again, engine, written, read⟩ := run?_of_agree run agree
      exact ⟨short, again, engine, written, read trivial⟩
    · rw [ran.outcomes] at thinned
      have agree : Trial.Agree False g rows kept :=
        Trial.agree_of_thinned (fun _ idle => ⟨idle, False.elim⟩) thinned
      obtain ⟨short, again, engine, written, -⟩ := run?_of_agree run agree
      exact ⟨short, again, engine, written⟩
    · rw [ran.engine, ran.outcomes]
      exact Trial.engineAfter_guarded g rows
  · exact fun r next row first range key value applied => store_unbounded range key value applied

/-- Three skipped rows go, and then a read, too; a skipped row and a range without an end stay. -/
theorem run_without_skipped_mixed :
    let g : GuardedStore := ⟨⟨[([0x41], [1]), ([0x42], [2, 3])]⟩, .full, [], none⟩
    let put : Row := ⟨"PUT", "40", "ab", "1", "1", "HASH_TRIE"⟩
    let noValue : Row := ⟨"PUT", "41", "zz", "1", "1", "HASH_TRIE"⟩
    let get : Row := ⟨"GET", "42", "", "1", "2", "HASH_TRIE"⟩
    let merge : Row := ⟨"MERGE", "42", "", "1", "0", "HASH_TRIE"⟩
    let range : Row := ⟨"DELETE_RANGE", "42", "0x", "1", "0", "HASH_TRIE"⟩
    let noKey : Row := ⟨"DELETE", "4", "", "1", "0", "HASH_TRIE"⟩
    ∃ full unskipped unread,
      (start g).run? [put, noValue, get, merge, range, noKey, get] =
        some ([.applied, .skipped .malformedValue, .applied, .skipped .unknownOperation, .applied,
          .skipped .malformedKey, .skipped .missingKey], full) ∧
      full.engine.store.entries = [([0x40], [0xAB]), ([0x41], [1])] ∧
      (start g).run? [put, get, range, get] =
        some ([.applied, .applied, .applied, .skipped .missingKey], unskipped) ∧
      unskipped.engine = full.engine ∧
      unskipped.stats.bytesRead = full.stats.bytesRead ∧
      (start g).run? [put, range, get] =
        some ([.applied, .applied, .skipped .missingKey], unread) ∧
      unread.engine = full.engine ∧ full.stats.bytesRead = 2 := by
  intro g put noValue get merge range noKey
  obtain ⟨completes, -, thinner, -⟩ :=
    run_without_skipped g [put, noValue, get, merge, range, noKey, get]
  obtain ⟨outcomes, full, run⟩ := completes.mpr ⟨by decide +kernel, by decide +kernel⟩
  obtain ⟨-, noSkips, noReads, content⟩ := thinner outcomes full run
  have ran := ran_of_run? run
  obtain rfl : outcomes = [.applied, .skipped .malformedValue, .applied,
      .skipped .unknownOperation, .applied, .skipped .malformedKey, .skipped .missingKey] :=
    ran.outcomes.trans (by decide +kernel)
  obtain ⟨unskipped, first, engine, -, read⟩ := noSkips [(put, .applied), (get, .applied),
    (range, .applied), (get, .skipped .missingKey)] <| .keep _ <| .drop ⟨_, rfl⟩ <| .keep _ <|
      .drop ⟨_, rfl⟩ <| .keep _ <| .drop ⟨_, rfl⟩ <| .keep _ .nil
  obtain ⟨unread, second, engine', -⟩ := noReads [(put, .applied), (range, .applied),
    (get, .skipped .missingKey)] <| .keep _ <| .drop (.inl ⟨_, rfl⟩) <| .drop (.inr rfl) <|
      .drop (.inl ⟨_, rfl⟩) <| .keep _ <| .drop (.inl ⟨_, rfl⟩) <| .keep _ .nil
  refine ⟨full, unskipped, unread, run, ?_, first, engine, read, second, engine', ?_⟩
  · rw [content]
    decide +kernel
  · exact UInt64.toNat_inj.mp (ran.found.trans (by decide +kernel))

end Replay

end TrieJournal
