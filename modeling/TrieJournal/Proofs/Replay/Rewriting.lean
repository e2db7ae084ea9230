import TrieJournal.Proofs.Extraction.Again
import TrieJournal.Proofs.Record.Decoding
import TrieJournal.Proofs.Replay.Rows
import TrieJournal.Proofs.Replay.Steps
import TrieJournal.Store.Guarded

/-!
# Replaying rewritten logs

Of a row a replay sees no more than its kind, the bytes of its key and the bytes of its value. All
of these are left in the record that the row decodes to, and in the row of that record. So a log is
replayed in the same way however its rows are written.
-/

namespace TrieJournal

namespace Replay

variable {σ : Type} [StorageEngine σ]

/-- Rows that read alike are replayed alike. -/
theorem step?_congr (r : Replay σ) {row other : Row}
    (operation : OpKind.ofName? row.operation = OpKind.ofName? other.operation)
    (key : Hex.decode row.key = Hex.decode other.key)
    (value : Hex.decode row.value = Hex.decode other.value) : r.step? row = r.step? other := by
  have performed (s : Replay σ) (k : Bytes) (kind : OpKind) :
      s.perform? k row.value kind = s.perform? k other.value kind := by
    cases kind <;> simp only [perform?, value]
  simp only [step?, key, operation, performed]

theorem step?_rewritten (r : Replay σ) {row : Row} {record : Record}
    (decoded : row.decode = .ok record) : r.step? (Row.ofRecord record) = r.step? row := by
  obtain ⟨kind, key, value, -⟩ := Row.decode_eq_ok.mp decoded
  apply step?_congr
  · exact (OpKind.ofName?_name record.kind).trans (Row.decodeKind_eq_ok.mp kind).symm
  · exact (Hex.decode_encode record.key).trans key.symm
  · exact (decode_value_ofRecord record).trans (Row.decode_of_decodeValue value).symm

theorem run?_rewritten (r : Replay σ) {rows : List Row} {records : List Record}
    (decoded : rows.map Row.decode = records.map .ok) :
    r.run? (records.map Row.ofRecord) = r.run? rows := by
  induction rows generalizing r records with
  | nil =>
    obtain rfl := List.map_eq_nil_iff.mp decoded.symm
    rfl
  | cons row rows ih =>
    obtain ⟨record, others, rfl, first, rest⟩ := List.map_eq_cons_iff.mp decoded.symm
    simp only [List.map_cons, run?, step?_rewritten r first.symm, ih _ rest.symm]

end Replay

/-! ### Filtered logs -/

/-- A row that decodes to a record that passes a filter. -/
def Row.shows (keep : Record → Bool) (row : Row) : Bool := row.decode.toOption.any keep

theorem Log.decode_shown (keep : Record → Bool) (rows : List Row) :
    (rows.filter (Row.shows keep)).map Row.decode = ((decodeRows rows).filter keep).map .ok := by
  induction rows with
  | nil => rfl
  | cons row rows ih =>
    cases decoded : row.decode with
    | error e =>
      have noRecord : row.decode.toOption = none := by rw [decoded, Except.toOption]
      have hidden : ¬row.shows keep = true := by simp [Row.shows, noRecord]
      have records : decodeRows (row :: rows) = decodeRows rows := List.filterMap_cons_none noRecord
      rw [List.filter_cons_of_neg hidden, records, ih]
    | ok record =>
      have someRecord : row.decode.toOption = some record := by rw [decoded, Except.toOption]
      have shown : row.shows keep = keep record := by rw [Row.shows, someRecord, Option.any_some]
      have records : decodeRows (row :: rows) = record :: decodeRows rows :=
        List.filterMap_cons_some someRecord
      rw [records, List.filter_cons, List.filter_cons, shown]
      split
      · rw [List.map_cons, List.map_cons, ih, decoded]
      · exact ih

namespace Replay

variable {σ : Type} [StorageEngine σ]

theorem run?_take (r : Replay σ) {rows : List Row} {records : List Record}
    (decoded : rows.map Row.decode = records.map .ok) (n : Nat) :
    r.run? ((records.map Row.ofRecord).take n) = r.run? (rows.take n) := by
  have begins : (rows.take n).map Row.decode = (records.take n).map .ok := by
    rw [List.map_take, decoded, List.map_take]
  rw [← List.map_take, run?_rewritten r begins]

theorem run?_render (r : Replay σ) (keep : Record → Bool) (log : Bytes) (n : Nat) :
    r.run? ((Log.rows (Log.render ((Log.records log).filter keep))).take n) =
      r.run? (((Log.rows log).filter (Row.shows keep)).take n) := by
  rw [Log.rows_render]
  exact run?_take r (Log.decode_shown keep (Log.rows log)) n

/-- Rows that decode are replayed as the rows of their records are: with the same outcomes, totals
and engine after any number of rows, or without a result if the bytes do not fit. So the log of the
account trie and the log of its leaves are replayed as the rows that they were made of. -/
theorem run_reencoded (r : Replay σ) :
    (∀ (rows : List Row) (records : List Record), rows.map Row.decode = records.map .ok →
      ∀ n, r.run? ((records.map Row.ofRecord).take n) = r.run? (rows.take n)) ∧
    ∀ (log : Bytes) (n : Nat),
      r.run? ((Log.rows (Extraction.trieLog log)).take n) =
          r.run? (((Log.rows log).filter (Row.shows Record.inAccountTrie)).take n) ∧
        r.run? ((Log.rows (Extraction.leavesLog log)).take n) =
          r.run? (((Log.rows log).filter (Row.shows Record.isAccountLeaf)).take n) := by
  refine ⟨fun rows records decoded n => run?_take r decoded n, fun log n => ⟨?_, ?_⟩⟩
  · exact run?_render r Record.inAccountTrie log n
  · rw [Extraction.leavesLog, Record.leaves_accountTrie]
    exact run?_render r Record.isAccountLeaf log n

/-- Marks, capital digits, a sign, sizes that are not true, values that are empty or a mark alone,
and a range without an end, on a store that holds a key in the range. -/
theorem run_reencoded_variants :
    let store : GuardedStore := ⟨⟨[([0x42], [1])]⟩, .full, [], none⟩
    let rows : List Row := [⟨"PUT", "0X4101", "0xAb", "+7", "99", "HASH_TRIE"⟩,
      ⟨"GET", "4101", "0x", "2", "0", "PATH_ACCOUNT_TRIE"⟩,
      ⟨"PUT", "4F", "", "0", "0", "HASH_TRIE"⟩,
      ⟨"DELETE_RANGE", "0x42", "0X", "1", "5", "SNAPSHOT_ACCOUNT"⟩]
    let records : List Record := [⟨.put, [0x41, 1], some [0xAB], 7, 99, .hashTrie⟩,
      ⟨.get, [0x41, 1], some [], 2, 0, .accountTrie⟩, ⟨.put, [0x4F], none, 0, 0, .hashTrie⟩,
      ⟨.deleteRange, [0x42], some [], 1, 5, .snapshotAccount⟩]
    rows.map Row.decode = records.map .ok ∧
      (records.map Row.ofRecord).map Row.value = ["ab", "", "", ""] ∧
      ((start store).run? (records.map Row.ofRecord)).map (fun result =>
        (result.1, result.2.engine.store.entries)) =
          some (List.replicate 4 .applied, [([0x41, 1], [0xAB])]) := by
  intro store rows records
  have decoded : rows.map Row.decode = records.map .ok := by rfl
  have replayed := (run_reencoded (start store)).1 rows records decoded 4
  rw [List.take_of_length_le (by decide), List.take_of_length_le (by decide)] at replayed
  rw [replayed]
  exact ⟨decoded, by decide +kernel, by decide +kernel⟩

end Replay

end TrieJournal
