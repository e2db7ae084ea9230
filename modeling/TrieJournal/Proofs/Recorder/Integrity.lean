import TrieJournal.Proofs.Keyspace.Classify
import TrieJournal.Proofs.Recorder.Blocks
import TrieJournal.Proofs.Recorder.Recorded
import TrieJournal.Store.Guarded

/-!
# Integrity of recorded logs

Reads and writes are classified with their value and deletes without one, at different moments of a
run. A value can only unclassify a key, and what is unclassified is not logged. So the keyspace of a
logged operation is that of its key alone, and rows with the same key agree on it. Whatever engine
and sink do, each row of the log decodes to an operation that it states truly.
-/

namespace TrieJournal

theorem Record.keyspaceOf_eq {kind : OpKind} {key : Bytes} {value : Option Bytes}
    (classified : (keyspaceOf kind key value).isClassified = true) :
    keyspaceOf kind key value = Keyspace.classifyKey key := by
  have known : (Keyspace.classify key value).isClassified = true →
      Keyspace.classify key value = Keyspace.classifyKey key := by
    intro classified
    cases value with
    | none => rfl
    | some v =>
      rcases Keyspace.classify_some key v with same | unclassified
      · exact same
      · rw [unclassified] at classified
        cases classified
  cases kind with
  | get | put => exact known classified
  | delete | deleteRange => rfl

/-- The record states its own sizes, and the keyspace that its operation is classified into. -/
structure Record.Truthful (r : Record) : Prop where
  keySize : r.keySize = UInt64.ofNat r.key.length
  valueSize : r.valueSize = UInt64.ofNat (r.value.getD []).length
  keyspace : r.keyspace = keyspaceOf r.kind r.key r.value
  classified : r.keyspace.isClassified = true

namespace Operation

/-- Of an eligible operation only the end of a range can be empty, which is read back as no value
and is not looked at when the operation is classified. -/
theorem truthful_asRead {op : Operation} {r : Record} (eligible : op.eligible = true)
    (logged : op.record? = some r) : r.asRead.Truthful := by
  obtain ⟨classified, rfl⟩ := Record.classified?_eq_some.mp logged
  refine ⟨rfl, ?_, ?_, classified⟩
  · rw [Record.getD_value_asRead]
    rfl
  · obtain ⟨kind, key, value⟩ := op
    cases kind with
    | get | put =>
      have present : value ≠ some [] := by
        rintro rfl
        simp [Operation.eligible] at eligible
      rw [Record.asRead_eq_iff.mpr present]
      rfl
    | delete | deleteRange => rfl

end Operation

theorem Unrecorded.eligible_of_mem {σ : Type} [StorageEngine σ] {u : Unrecorded σ}
    {events : List (Event σ)} : ∀ op ∈ u.eligible events, op.eligible = true := by
  induction events generalizing u with
  | nil => simp [Unrecorded.eligible]
  | cons event events ih =>
    intro op mem
    rcases List.mem_append.mp mem with now | later
    · exact (List.mem_filter.mp now).2
    · exact ih op later

/-! ### Rows of a run -/

namespace Session

variable {σ : Type} [StorageEngine σ]

/-- The log of a run holds the records of some of the eligible operations. -/
theorem kept_of_run {engine : σ} {policy : Log.SinkPolicy} {s : Session σ}
    (started : start engine (.empty policy) = .ok s) (events : List (Event σ)) :
    let alone : Unrecorded σ := ⟨engine, fun _ => []⟩
    ∃ kept, (s.run events).2.recorder.logText = Log.render kept ∧
      ∀ r ∈ kept, ∃ op ∈ alone.eligible (Event.untilClosed events), op.record? = some r := by
  intro alone
  obtain ⟨text, -, records⟩ := run_of_start started events
  refine ⟨_, text, fun r mem => ?_⟩
  have logged := (Log.Block.flatMap_kept_sublist _).subset mem
  rw [records] at logged
  exact List.mem_filterMap.mp logged

end Session

/-- The row decodes to a record, states the sizes of its key and its value, and names the keyspace
that the operation of the record is classified into. -/
structure Row.States (row : Row) (r : Record) : Prop where
  decoded : row.decode = .ok r
  keySize : row.keySize = toString (r.key.length % UInt64.size)
  valueSize : row.valueSize = toString ((r.value.getD []).length % UInt64.size)
  named : row.keyspace ≠ Keyspace.unclassified.name
  keyspace : row.keyspace = (Record.keyspaceOf r.kind r.key r.value).name

theorem Record.Truthful.states {r : Record} (truthful : r.asRead.Truthful) :
    (Row.ofRecord r).States r.asRead := by
  have classified : r.keyspace.isClassified = true := truthful.classified
  refine ⟨Row.decode_ofRecord classified, ?_, ?_, ?_, ?_⟩
  · have size := congrArg UInt64.toNat truthful.keySize
    rw [UInt64.toNat_ofNat'] at size
    exact congrArg toString size
  · have size := congrArg UInt64.toNat truthful.valueSize
    rw [UInt64.toNat_ofNat'] at size
    exact congrArg toString size
  · intro same
    have named : r.keyspace.name = Keyspace.unclassified.name := same
    revert named classified
    cases r.keyspace <;> decide
  · rw [← truthful.keyspace]
    rfl

namespace Session

variable {σ : Type} [StorageEngine σ]

/-- Every row of the log of a run states its operation, and rows with the same key name the same
keyspace. -/
theorem rows_state {engine : σ} {policy : Log.SinkPolicy} {s : Session σ}
    (started : start engine (.empty policy) = .ok s) (events : List (Event σ)) :
    let rows := Log.rows (s.run events).2.recorder.logText
    (∀ row ∈ rows, ∃ r, row.States r) ∧
      ∀ row ∈ rows, ∀ other ∈ rows, ∀ r r', row.decode = .ok r → other.decode = .ok r' →
        r.key = r'.key → row.keyspace = other.keyspace := by
  intro rows
  obtain ⟨kept, text, logged⟩ := kept_of_run started events
  have truthful : ∀ row ∈ rows,
      ∃ r, row.States r ∧ row.keyspace = (Keyspace.classifyKey r.key).name := by
    intro row mem
    change row ∈ Log.rows _ at mem
    rw [text, Log.rows_render] at mem
    obtain ⟨r, present, rfl⟩ := List.mem_map.mp mem
    obtain ⟨op, among, record⟩ := logged r present
    have truthful := Operation.truthful_asRead (Unrecorded.eligible_of_mem op among) record
    have classified := truthful.classified
    refine ⟨r.asRead, truthful.states, ?_⟩
    rw [truthful.keyspace] at classified
    rw [truthful.states.keyspace, Record.keyspaceOf_eq classified]
  refine ⟨fun row mem => ?_, ?_⟩
  · obtain ⟨r, states, -⟩ := truthful row mem
    exact ⟨r, states⟩
  · intro row mem other mem' r r' decoded decoded' sameKey
    obtain ⟨t, states, named⟩ := truthful row mem
    obtain ⟨t', states', named'⟩ := truthful other mem'
    obtain rfl : t = r := Except.ok.inj (states.decoded.symm.trans decoded)
    obtain rfl : t' = r' := Except.ok.inj (states'.decoded.symm.trans decoded')
    rw [named, named', sameKey]

/-- A log of four rows: of a batch whose last line is dropped, and of a write that the engine
refuses. The deleted key is as long as a hash, and too short for the prefix that it starts with. -/
theorem rows_state_refused :
    let hashed : Bytes := 0x4F :: List.replicate 31 7
    let events : List (Event GuardedStore) := [
      .engine fun g => { g with access := .readOnly },
      .request (.writeBatch [.put [0x41, 1] [1], .deleteRange [0x41, 1] [], .delete hashed,
        .delete [0x61]]),
      .sink .reliable, .request (.put [0x41, 1] [2, 3])]
    ∃ s, start (.ofStore .empty) (.empty (.limited false false (some 4))) = .ok s ∧
      let rows := Log.rows (s.run events).2.recorder.logText
      rows.map Row.keyspace =
          ["PATH_ACCOUNT_TRIE", "PATH_ACCOUNT_TRIE", "HASH_TRIE", "PATH_ACCOUNT_TRIE"] ∧
        ∀ row ∈ rows, ∃ r, row.States r := by
  intro hashed events
  let begun : Session GuardedStore :=
    ⟨.fresh (.ofStore .empty) (.limited false false (some 4)), fun _ => .empty⟩
  have started : start (.ofStore .empty) (.empty (.limited false false (some 4))) = .ok begun := rfl
  have text : (begun.run events).2.recorder.logText = Log.render (Operation.records
      [⟨.put, [0x41, 1], some [1]⟩, ⟨.deleteRange, [0x41, 1], some []⟩, ⟨.delete, hashed, none⟩,
        ⟨.put, [0x41, 1], some [2, 3]⟩]) := by
    decide +kernel
  refine ⟨begun, started, ?_, (rows_state started events).1⟩
  rw [text, Log.rows_render]
  decide +kernel

end Session

end TrieJournal
