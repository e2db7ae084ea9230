import TrieJournal.Proofs.Reading
import TrieJournal.Proofs.Record.Row

/-!
# Decoding rows

A row decodes if each of its columns can be read. The value that is read may be none, but the bytes
of the column are the same as those of the record.
-/

namespace TrieJournal

namespace Row

theorem decodeKind_eq_ok {text : String} {kind : OpKind} :
    decodeKind text = .ok kind ↔ OpKind.ofName? text = some kind := by
  unfold decodeKind
  split <;> simp_all

theorem decode_eq_ok {row : Row} {r : Record} : row.decode = .ok r ↔
    decodeKind row.operation = .ok r.kind ∧ Hex.decode row.key = .ok r.key ∧
      decodeValue row.value = .ok r.value ∧ decodeSize .keySize row.keySize = .ok r.keySize ∧
      decodeSize .valueSize row.valueSize = .ok r.valueSize ∧
      decodeKeyspace row.keyspace = .ok r.keyspace := by
  simp only [decode, bind_eq_ok, mapError_eq_ok]
  constructor
  · rintro ⟨kind, kindRead, key, keyRead, value, valueRead, keySize, keySizeRead, valueSize,
      valueSizeRead, keyspace, keyspaceRead, same⟩
    obtain rfl := Except.ok.inj same
    exact ⟨kindRead, keyRead, valueRead, keySizeRead, valueSizeRead, keyspaceRead⟩
  · rintro ⟨kind, key, value, keySize, valueSize, keyspace⟩
    exact ⟨_, kind, _, key, _, value, _, keySize, _, valueSize, _, keyspace, rfl⟩

/-- No value and an empty one have the same bytes, which are those of the column. -/
theorem decode_of_decodeValue {text : String} {value : Option Bytes}
    (read : decodeValue text = .ok value) : Hex.decode text = .ok (value.getD []) := by
  unfold decodeValue at read
  split at read
  · rename_i empty
    obtain rfl := Except.ok.inj read
    rw [String.isEmpty_iff.mp empty]
    rfl
  · cases digits : Hex.decode text with
    | error e =>
      rw [digits] at read
      cases read
    | ok bytes =>
      rw [digits] at read
      obtain rfl := Except.ok.inj read
      rfl

end Row

end TrieJournal
