import TrieJournal.Extraction.Listing
import TrieJournal.Proofs.Recorder.Integrity
import TrieJournal.Proofs.Replay.Rows
import TrieJournal.Proofs.Store.Contents
import TrieJournal.Proofs.Summary.Tallies

/-!
# The baseline of a recorded run

The leaves of a log are found by keyspace and value, whatever the kind of their operation. A delete
has no value, so it is never a leaf. A range delete has the end of its range for a value, and any
byte string can be an end: if it starts in the account trie and its end reads as a leaf, it is kept
in the baseline, counts as a delete there, and removes keys when the baseline is replayed. Without
such range deletes the baseline holds only reads and writes of leaves.
-/

namespace TrieJournal

/-! ### Kinds of records -/

theorem Figure.sum_deletes (records : List Record) : deletes.sum records =
    records.countP fun r => r.kind = .delete || r.kind = .deleteRange := by
  induction records with
  | nil => rfl
  | cons r records ih =>
    rw [sum_cons, ih, List.countP_cons, Nat.add_comm]
    cases kind : r.kind <;> simp [weight, kind]

theorem Comparison.deletes_baseline {records : List Record} {c : Comparison}
    (counted : ofRecords? records = some c) :
    c.baseline.deletes = (Record.leaves records).countP fun r =>
      r.kind = .delete || r.kind = .deleteRange := by
  have figures := Tally.ofRecords?_eq_some.mp (ofRecords?_eq_some.mp counted).2
  exact (figures .deletes).trans (Figure.sum_deletes _)

namespace SeenAccount

theorem sum_countOf (accounts : List SeenAccount) :
    countOf .get accounts + countOf .put accounts + countOf .delete accounts +
      countOf .deleteRange accounts = accounts.length := by
  induction accounts with
  | nil => rfl
  | cons a accounts ih =>
    unfold countOf at ih ⊢
    simp only [List.countP_cons, List.length_cons]
    cases a.kind <;> simp <;> omega

theorem countOf_eq_zero {kind : OpKind} {records : List Record}
    (other : ∀ r ∈ records, r.kind ≠ kind) : countOf kind (ofRecords records) = 0 := by
  refine List.countP_eq_zero.mpr fun a mem => ?_
  obtain ⟨r, present, seen⟩ := List.mem_filterMap.mp mem
  obtain ⟨leaf, -, rfl⟩ := Option.map_eq_some_iff.mp seen
  simpa using other r present

theorem sum_countOf_of_ne {records : List Record} (other : ∀ r ∈ records, r.kind ≠ .delete) :
    countOf .get (ofRecords records) + countOf .put (ofRecords records) +
      countOf .deleteRange (ofRecords records) = (ofRecords records).length := by
  have sum := sum_countOf (ofRecords records)
  have none := countOf_eq_zero other
  omega

end SeenAccount

/-! ### Replaying reads and writes -/

namespace Replay

theorem run?_concat {σ : Type} [StorageEngine σ] {r last : Replay σ} {rows : List Row} {row : Row}
    {outcomes : List Outcome} (run : r.run? (rows ++ [row]) = some (outcomes, last)) :
    ∃ earlier before outcome, r.run? rows = some (earlier, before) ∧
      before.step? row = some (outcome, last) := by
  induction rows generalizing r outcomes with
  | nil =>
    obtain ⟨outcome, next, applied, rest, done, -⟩ := run?_cons.mp run
    obtain ⟨-, rfl⟩ := Prod.mk.inj (Option.some.inj done)
    exact ⟨[], r, outcome, rfl, applied⟩
  | cons first rows ih =>
    obtain ⟨outcome, next, applied, rest, remaining, -⟩ := run?_cons.mp run
    obtain ⟨earlier, before, last, begun, ended⟩ := ih remaining
    exact ⟨_, before, last, run?_cons.mpr ⟨outcome, next, applied, earlier, begun, rfl⟩, ended⟩

theorem contains_attempt {s : Store} {record : Record}
    (kept : record.kind = .get ∨ record.kind = .put) {key : Bytes}
    (present : s.contains key = true) :
    ((Row.ofRecord record).attempt s).2.contains key = true := by
  simp only [Row.attempt, Row.request_ofRecord, Record.request]
  rcases kept with kind | kind
  · rw [kind]
    exact present
  · rw [kind]
    change (s.insert record.key (record.value.getD [])).contains key = true
    rw [Store.contains, Store.get?_insert]
    split
    · rfl
    · exact present

theorem contains_of_rows {records : List Record}
    (kept : ∀ r ∈ records, r.kind = .get ∨ r.kind = .put) {before after : List Row} {row : Row}
    (split : Log.rows (Log.render records) = before ++ row :: after) {store : Store}
    {outcomes : List Outcome} {last : Replay Store}
    (run : (Replay.start store).run? (before ++ [row]) = some (outcomes, last)) :
    ∃ earlier prior, (Replay.start store).run? before = some (earlier, prior) ∧
      ∀ key, prior.engine.contains key = true → last.engine.contains key = true := by
  rw [Log.rows_render] at split
  have mem : row ∈ records.map Row.ofRecord := by
    rw [split]
    simp
  obtain ⟨r, among, rfl⟩ := List.mem_map.mp mem
  obtain ⟨earlier, prior, outcome, begun, ended⟩ := run?_concat run
  refine ⟨earlier, prior, begun, fun key present => ?_⟩
  rw [(step_of_step? ended).engine]
  exact contains_attempt (kept r among) present

end Replay

/-! ### Records of a run -/

/-- A range delete that starts in the account trie and ends at a key that reads as a leaf. -/
def Operation.EndsAtLeaf (op : Operation) : Prop :=
  op.kind = .deleteRange ∧ Keyspace.classifyKey op.key = .accountTrie ∧
    (op.value.any fun stop => (Node.decode stop).toOption.any Node.isLeaf) = true

instance (op : Operation) : Decidable op.EndsAtLeaf := instDecidableAnd

theorem Unrecorded.value_of_delete {σ : Type} [StorageEngine σ] {u : Unrecorded σ}
    {events : List (Event σ)} :
    ∀ op ∈ u.eligible events, op.kind = .delete → op.value = none := by
  have ofIntents : ∀ intents : List Intent, ∀ op ∈ intents.map Intent.operation,
      op.kind = .delete → op.value = none := by
    intro intents op mem kind
    obtain ⟨intent, -, rfl⟩ := List.mem_map.mp mem
    cases intent with
    | put | deleteRange => cases kind
    | delete => rfl
  induction events generalizing u with
  | nil => simp [Unrecorded.eligible]
  | cons event events ih =>
    intro op mem
    rcases List.mem_append.mp mem with now | later
    · have executed := (List.mem_filter.mp now).1
      cases event with
      | request request =>
        cases request with
        | get key =>
          simp only [Event.executed] at executed
          split at executed
          · obtain rfl := List.mem_singleton.mp executed
            intro kind
            cases kind
          · cases executed
        | put | delete | deleteRange | writeBatch | has | keyCount | property | path =>
          exact ofIntents (Request.intents _) op executed
      | batch name action =>
        cases action with
        | commit => exact ofIntents (u.queued name) op executed
        | queue | reset => cases executed
      | close | sink | engine => cases executed
    · exact ih op later

namespace Session

variable {σ : Type} [StorageEngine σ]

/-- A leaf of a log is a read, a write, or a range delete that ends at a leaf. -/
theorem kind_of_leaf {engine : σ} {policy : Log.SinkPolicy} {s : Session σ}
    (started : start engine (.empty policy) = .ok s) (events : List (Event σ)) :
    let alone : Unrecorded σ := ⟨engine, fun _ => []⟩
    ∀ r ∈ Record.leaves (Log.records (s.run events).2.recorder.logText),
      r.kind = .get ∨ r.kind = .put ∨ r.kind = .deleteRange ∧
        ∃ op ∈ alone.eligible (Event.untilClosed events), op.EndsAtLeaf := by
  intro alone r mem
  obtain ⟨kept, text, logged⟩ := kept_of_run started events
  obtain ⟨present, leaf⟩ := List.mem_filter.mp mem
  have classified : ∀ r ∈ kept, r.keyspace.isClassified = true := by
    intro r mem
    obtain ⟨op, -, record⟩ := logged r mem
    exact Operation.isClassified_of_record? record
  rw [text, Log.records_render classified] at present
  obtain ⟨written, among, rfl⟩ := List.mem_map.mp present
  obtain ⟨op, executed, record⟩ := logged written among
  obtain ⟨-, rfl⟩ := Record.classified?_eq_some.mp record
  obtain ⟨kind, key, value⟩ := op
  obtain ⟨inTrie, reads⟩ := Bool.and_eq_true_iff.mp leaf
  cases kind with
  | get => exact Or.inl rfl
  | put => exact Or.inr (Or.inl rfl)
  | delete =>
    obtain rfl : value = none := Unrecorded.value_of_delete _ executed rfl
    cases reads
  | deleteRange =>
    refine Or.inr (Or.inr ⟨rfl, _, executed, rfl, of_decide_eq_true inTrie, ?_⟩)
    cases value with
    | none => cases reads
    | some stop =>
      by_cases empty : stop = []
      · subst empty
        cases reads
      · rwa [Record.asRead_ofPayload empty] at reads

/-- The baseline of a run holds reads, writes and range deletes that end at leaves. Without the
latter it holds no deletes, its reads and writes add up to its accounts, and none of its rows
removes a key when it is replayed. -/
theorem leaves_of_run {engine : σ} {policy : Log.SinkPolicy} {s : Session σ}
    (started : start engine (.empty policy) = .ok s) (events : List (Event σ)) :
    let alone : Unrecorded σ := ⟨engine, fun _ => []⟩
    let records := Log.records (s.run events).2.recorder.logText
    let leaves := Record.leaves records
    let accounts := SeenAccount.ofRecords leaves
    let readsAndWrites := SeenAccount.countOf .get accounts + SeenAccount.countOf .put accounts
    (∀ r ∈ leaves, r.kind = .get ∨ r.kind = .put ∨ r.kind = .deleteRange) ∧
      ((∃ c, Comparison.ofRecords? records = some c) ↔ Record.Fit (Record.accountTrie records)) ∧
      (∀ c, Comparison.ofRecords? records = some c →
        c.baseline.deletes = leaves.countP fun r => r.kind = .deleteRange) ∧
      readsAndWrites + SeenAccount.countOf .deleteRange accounts = accounts.length ∧
      ((∀ op ∈ alone.eligible (Event.untilClosed events), ¬op.EndsAtLeaf) →
        (∀ r ∈ leaves, r.kind = .get ∨ r.kind = .put) ∧
          (∀ c, Comparison.ofRecords? records = some c → c.baseline.deletes = 0) ∧
          readsAndWrites = accounts.length ∧
          ∀ before row after, Log.rows (Log.render leaves) = before ++ row :: after →
            ∀ (store : Store) outcomes last,
              (Replay.start store).run? (before ++ [row]) = some (outcomes, last) →
              ∃ earlier prior, (Replay.start store).run? before = some (earlier, prior) ∧
                ∀ key, prior.engine.contains key = true → last.engine.contains key = true) := by
  intro alone records leaves accounts readsAndWrites
  have kinds : ∀ r ∈ leaves, _ := kind_of_leaf started events
  have noDelete : ∀ r ∈ leaves, r.kind ≠ .delete := by
    intro r mem
    rcases kinds r mem with kind | kind | ⟨kind, -⟩
    all_goals
      rw [kind]
      decide
  have deletes (c : Comparison) (counted : Comparison.ofRecords? records = some c) :
      c.baseline.deletes = leaves.countP fun r => r.kind = .deleteRange := by
    rw [Comparison.deletes_baseline counted]
    refine List.countP_congr fun r mem => ?_
    simp [noDelete r mem]
  have total : readsAndWrites + SeenAccount.countOf .deleteRange accounts = accounts.length :=
    SeenAccount.sum_countOf_of_ne noDelete
  refine ⟨fun r mem => (kinds r mem).imp_right (Or.imp_right And.left),
    Comparison.exists_ofRecords?, deletes, total, ?_⟩
  intro plain
  have kept : ∀ r ∈ leaves, r.kind = .get ∨ r.kind = .put := by
    intro r mem
    rcases kinds r mem with kind | kind | ⟨-, op, executed, ends⟩
    · exact Or.inl kind
    · exact Or.inr kind
    · exact absurd ends (plain op executed)
  have noRange : ∀ r ∈ leaves, r.kind ≠ .deleteRange := by
    intro r mem
    rcases kept r mem with kind | kind
    all_goals
      rw [kind]
      decide
  have none : SeenAccount.countOf .deleteRange accounts = 0 := SeenAccount.countOf_eq_zero noRange
  refine ⟨kept, fun c counted => ?_, by omega, ?_⟩
  · rw [deletes c counted]
    exact List.countP_eq_zero.mpr fun r mem => by simpa using noRange r mem
  · intro before row after split store outcomes last run
    exact Replay.contains_of_rows kept split run

/-- Of a write and a read of a leaf, a write of something else and three deletes two rows are kept.
One of the ranges ends at the leaf but starts outside of the account trie. -/
theorem leaves_of_run_plain :
    let leaf : Bytes := [0xC2, 0x20, 1]
    let events : List (Event Store) := [.request (.put [0x41, 1] leaf), .request (.get [0x41, 1]),
      .request (.put [0x41, 2] [1]), .request (.delete [0x41, 1]),
      .request (.writeBatch [.deleteRange [0x41] [0x42], .deleteRange [0x61] leaf])]
    ∃ s, start Store.empty (.empty .reliable) = .ok s ∧
      let records := Log.records (s.run events).2.recorder.logText
      let leaves := Record.leaves records
      records.length = 6 ∧ leaves.length = 2 ∧ (∀ r ∈ leaves, r.kind = .get ∨ r.kind = .put) ∧
        ∃ c, Comparison.ofRecords? records = some c ∧ c.baseline.deletes = 0 := by
  intro leaf events
  let begun : Session Store := ⟨.fresh .empty .reliable, fun _ => .empty⟩
  have started : start Store.empty (.empty .reliable) = .ok begun := rfl
  have plain : ∀ op ∈ (⟨.empty, fun _ => []⟩ : Unrecorded Store).eligible
      (Event.untilClosed events), ¬op.EndsAtLeaf := by
    decide +kernel
  obtain ⟨-, compared, -, -, without⟩ := leaves_of_run started events
  obtain ⟨kept, deletes, -, -⟩ := without plain
  have text : (begun.run events).2.recorder.logText = Log.render (Operation.records
      [⟨.put, [0x41, 1], some leaf⟩, ⟨.get, [0x41, 1], some leaf⟩, ⟨.put, [0x41, 2], some [1]⟩,
        ⟨.delete, [0x41, 1], none⟩, ⟨.deleteRange, [0x41], some [0x42]⟩,
        ⟨.deleteRange, [0x61], some leaf⟩]) := by
    decide +kernel
  have records := congrArg Log.records text
  rw [Log.records_render (by decide +kernel)] at records
  refine ⟨begun, started, ?_, ?_, kept, ?_⟩
  · rw [records]
    decide +kernel
  · rw [records]
    decide +kernel
  · obtain ⟨c, counted⟩ := compared.mpr (by rw [records]; decide +kernel)
    exact ⟨c, counted, deletes c counted⟩

/-- A range delete that ends at a leaf is kept in the baseline and counts as a delete there, and
replaying it removes the key that the row before it has written. -/
theorem range_kept_as_leaf :
    let leaf : Bytes := [0xC2, 0x20, 1]
    let events : List (Event Store) :=
      [.request (.put [0x41, 1] leaf), .request (.deleteRange [0x41] leaf)]
    ∃ s, start Store.empty (.empty .reliable) = .ok s ∧
      let records := Log.records (s.run events).2.recorder.logText
      let leaves := Record.leaves records
      let kept (n : Nat) :=
        ((Replay.start Store.empty).run? ((Log.rows (Log.render leaves)).take n)).map
          fun result => result.2.engine.contains [0x41, 1]
      leaves.map Record.kind = [.put, .deleteRange] ∧
        (Comparison.ofRecords? records).map (fun c => c.baseline.deletes) = some 1 ∧
        kept 1 = some true ∧ kept 2 = some false := by
  intro leaf events
  let begun : Session Store := ⟨.fresh .empty .reliable, fun _ => .empty⟩
  have text : (begun.run events).2.recorder.logText = Log.render (Operation.records
      [⟨.put, [0x41, 1], some leaf⟩, ⟨.deleteRange, [0x41], some leaf⟩]) := by
    decide +kernel
  have records := congrArg Log.records text
  rw [Log.records_render (by decide +kernel)] at records
  refine ⟨begun, rfl, ?_⟩
  rw [records]
  intro read leaves kept
  have rows : Log.rows (Log.render leaves) = leaves.map Row.ofRecord := Log.rows_render leaves
  refine ⟨by decide +kernel, by decide +kernel, ?_, ?_⟩
  · simp only [kept]
    rw [rows]
    decide +kernel
  · simp only [kept]
    rw [rows]
    decide +kernel

end Session

end TrieJournal
