import TrieJournal.Proofs.Log.Appending
import TrieJournal.Proofs.Log.Lines

/-!
# Reading back what was written

On a sink that never fails the text of a log depends on the records alone, and not on how they were
divided among calls. Its rows are those of the records, and a row decodes to the record that it was
made of, except that an empty value is read as no value. The row of an unclassified record does not
decode.
-/

namespace TrieJournal.Log

/-- Makes calls one after the other, up to the first that fails. -/
def Writer.callAll (w : Writer) : List Writer.Call → Except SinkError Writer
  | [] => .ok w
  | call :: calls =>
    match w.perform call with
    | (.ok (), w) => w.callAll calls
    | (.error e, _) => .error e

/-- The text of a log that is started on a sink without text, written by calls and finished. -/
def written (policy : SinkPolicy) (calls : List Writer.Call) : Except SinkError Bytes := do
  let w ← Writer.start (.empty policy)
  let w ← w.callAll calls
  w.finish
  return w.sink.text

theorem Writer.callAll_reliable {w : Writer} (reliable : w.sink.policy = .reliable)
    (calls : List Writer.Call) : w.callAll calls = .ok (w.extend (calls.flatMap Call.records)) := by
  induction calls generalizing w with
  | nil => rw [callAll, List.flatMap_nil, extend_nil]
  | cons call calls ih =>
    have rest := ih (w := w.extend call.records) reliable
    rw [extend_extend] at rest
    rw [callAll, perform_reliable reliable]
    exact rest

theorem written_reliable (calls : List Writer.Call) :
    written .reliable calls = .ok (render (calls.flatMap Writer.Call.records)) := by
  let started : Writer := ⟨⟨.reliable, headerLine⟩, 0⟩
  have start : Writer.start (.empty .reliable) = .ok started := rfl
  have calling := started.callAll_reliable rfl calls
  simp only [written, start, bind, Except.bind, calling]
  rfl

/-- What is written is read back, but for values that are empty and records that are
unclassified. -/
theorem rows_written (calls : List Writer.Call) :
    let records := calls.flatMap Writer.Call.records
    written .reliable calls = .ok (render records) ∧
      rows (render records) = records.map Row.ofRecord ∧
      ∀ r ∈ records,
        (r.keyspace.isClassified = true →
          (Row.ofRecord r).decode =
              .ok { r with value := if r.value = some [] then none else r.value } ∧
            ((Row.ofRecord r).decode = .ok r ↔ r.value ≠ some [])) ∧
        (r.keyspace.isClassified = false →
          (Row.ofRecord r).decode = .error (.unknownKeyspace "UNCLASSIFIED")) := by
  intro records
  refine ⟨written_reliable calls, rows_render records, fun r _ => ⟨?_, ?_⟩⟩
  · intro classified
    have decoded := Row.decode_ofRecord classified
    refine ⟨decoded, ?_⟩
    rw [decoded, Except.ok.injEq]
    exact Record.asRead_eq_iff
  · intro unclassified
    have decoded := Row.decode_ofRecord_unclassified unclassified
    rwa [Keyspace.name_of_unclassified unclassified] at decoded

/-- Three records by two calls. The first is read back as it is, the second has an empty value and
sizes that are not its own, and the third is unclassified. -/
theorem rows_written_mixed :
    let first := Record.ofPayload .put [0x41, 1] (some [0xC0]) .accountTrie
    let second : Record := ⟨.get, [0x30, 0x78], some [], 7, 0xFFFFFFFFFFFFFFFF, .hashTrie⟩
    let third := Record.ofPayload .delete [] none .unclassified
    written .reliable [.append first, .appendAll [second, third]] =
        .ok (render [first, second, third]) ∧
      rows (render [first, second, third]) = [first, second, third].map Row.ofRecord ∧
      (Row.ofRecord first).decode = .ok first ∧
      (Row.ofRecord second).decode = .ok { second with value := none } ∧
      (Row.ofRecord third).decode = .error (.unknownKeyspace "UNCLASSIFIED") := by
  intro first second third
  obtain ⟨text, rows, decoded⟩ := rows_written [.append first, .appendAll [second, third]]
  have ofFirst := (decoded first (by decide)).1 (by decide)
  have ofSecond := (decoded second (by decide)).1 (by decide)
  have ofThird := (decoded third (by decide)).2 (by decide)
  exact ⟨text, rows, ofFirst.1, ofSecond.1, ofThird⟩

end TrieJournal.Log
