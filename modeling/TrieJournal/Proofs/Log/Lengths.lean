import Mathlib.Algebra.GroupWithZero.Nat
import TrieJournal.Proofs.Log.Lines
import TrieJournal.Proofs.Record.Grammar

/-!
# The length of a log

Each column is cut out of its line and each line out of the log, and a byte of a value takes at
least one character. So the values of a log's records are together no longer than the log.
-/

namespace TrieJournal

/-! ### Cutting -/

theorem flatten_splitOn_sublist {α : Type} [DecidableEq α] (sep : α) (l : List α) :
    (splitOn sep l).flatten.Sublist l :=
  flatten_splitOn sep l ▸ List.filter_sublist

theorem Utf8.length_le_encode (s : String) : s.toList.length ≤ (encode s).length := by
  rw [encode]
  induction s.toList with
  | nil => exact Nat.le_refl 0
  | cons c text ih =>
    have first := c.utf8Size_pos
    rw [List.flatMap_cons, List.length_append, List.length_cons, String.length_utf8EncodeChar]
    omega

theorem Utf8.length_le_of_decode? {b : Bytes} {s : String} (read : decode? b = some s) :
    s.toList.length ≤ b.length := by
  rw [decode?, String.fromUTF8?] at read
  split at read
  · rename_i valid
    obtain rfl := Option.some.inj read
    have same : (encode (String.fromUTF8 b.toByteArray valid)).toByteArray = b.toByteArray :=
      String.utf8Encode_toList
    have sizes := congrArg ByteArray.size same
    rw [List.size_toByteArray, List.size_toByteArray] at sizes
    exact sizes ▸ length_le_encode _
  · cases read

theorem Hex.Spells.length_le {s : String} {b : Bytes} (spelled : Spells s b) :
    b.length ≤ s.toList.length := by
  obtain ⟨mark, -, digits, split, spelled⟩ := spells_iff.mp spelled
  have length := congrArg List.length spelled
  rw [List.length_map, List.length_map, Nibble.length_ofBytes] at length
  rw [split, List.length_append]
  omega

/-! ### Rows and records -/

namespace Row

theorem text_sublist_of_parseLine? {line : String} {row : Row} (parsed : parseLine? line = some row)
    (c : Column) : (row.text c).toList.Sublist line.toList := by
  obtain ⟨field, cut, clean⟩ := exists_field_of_parseLine? parsed (text_mem_texts row c)
  rw [← clean]
  refine (toList_cleanField_sublist field).trans ?_
  exact (List.sublist_flatten_of_mem cut).trans (flatten_splitOn_sublist _ _)

theorem length_value_of_decode {row : Row} {r : Record} (read : row.decode = .ok r) :
    (r.value.getD []).length ≤ row.value.toList.length := by
  have spells := decode_eq_ok_iff_spells.mp read
  cases value : r.value with
  | none => exact Nat.zero_le _
  | some v => exact (spells.value v value).length_le

end Row

namespace Log

theorem length_text_of_rowOfLine? {line : Bytes} {row : Row} (read : rowOfLine? line = some row)
    (c : Column) : (row.text c).toList.length ≤ line.length := by
  simp only [rowOfLine?, bind, Option.bind_eq_some_iff] at read
  obtain ⟨text, decoded, parsed, parse, kept⟩ := read
  split at kept
  · cases kept
  · obtain rfl := Option.some.inj kept
    exact Nat.le_trans (Row.text_sublist_of_parseLine? parse c).length_le
      (Utf8.length_le_of_decode? decoded)

theorem length_value_of_rowOfLine? {line : Bytes} {row : Row} {r : Record}
    (inLine : rowOfLine? line = some row) (read : row.decode = .ok r) :
    (r.value.getD []).length ≤ line.length :=
  (Row.length_value_of_decode read).trans (length_text_of_rowOfLine? inLine .value)

/-- Whatever is at most the length of its line for each record is at most the length of the log for
all of them. -/
theorem sum_map_records_le {w : Record → Nat} (bounded : ∀ line row r,
      rowOfLine? line = some row → row.decode = .ok r → w r ≤ line.length) (log : Bytes) :
    ((Log.records log).map w).sum ≤ log.length := by
  rw [Log.records, decodeRows, rows_eq]
  refine Nat.le_trans ?_ (flatten_splitOn_sublist Bytes.newline log).length_le
  generalize splitOn Bytes.newline log = parts
  induction parts with
  | nil => exact Nat.le_refl 0
  | cons line parts ih =>
    rw [List.flatten_cons, List.length_append]
    cases row : rowOfLine? line with
    | none =>
      rw [List.filterMap_cons_none row]
      omega
    | some row' =>
      rw [List.filterMap_cons_some row]
      cases read : row'.decode with
      | error e =>
        rw [List.filterMap_cons_none (by rw [read]; rfl)]
        omega
      | ok r =>
        have here := bounded line row' r row read
        rw [List.filterMap_cons_some (by rw [read]; rfl), List.map_cons, List.sum_cons]
        omega

end Log

end TrieJournal
