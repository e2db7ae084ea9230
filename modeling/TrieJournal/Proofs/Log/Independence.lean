import TrieJournal.Files.LogFile
import TrieJournal.Proofs.Files.Writing
import TrieJournal.Proofs.Log.Crash
import TrieJournal.Proofs.Log.RoundTrip

/-!
# Lines that stand for themselves

A log is read line by line, and an empty line holds no row. So the rows of texts that are joined by
a newline are the rows of the one and then those of the other, a line that is exchanged for another
changes its own row and no other, and what is appended to an open log is read behind what was there.
-/

namespace TrieJournal

namespace Log

/-! ### Lines inside of a log -/

/-- A line can stand between the two texts: it begins where `front` ends and ends where `back`
begins. -/
structure Around (front back : Bytes) : Prop where
  begins : front = [] ∨ front.getLast? = some Bytes.newline
  ends : back = [] ∨ back.head? = some Bytes.newline

theorem Around.rows_eq {front back line : Bytes} (around : Around front back)
    (whole : Bytes.newline ∉ line) :
    rows (front ++ (line ++ back)) = rows front ++ ((rowOfLine? line).toList ++ rows back) := by
  have behind : rows (line ++ back) = (rowOfLine? line).toList ++ rows back := by
    rcases around.ends with rfl | newline
    · rw [List.append_nil, rows_of_line whole]
      exact (List.append_nil _).symm
    · obtain ⟨rest, rfl⟩ := List.head?_eq_some_iff.mp newline
      rw [rows_append_newline, rows_of_line whole]
      exact congrArg _ (rows_append_newline [] rest).symm
  rcases around.begins with rfl | newline
  · exact behind
  · obtain ⟨text, rfl⟩ := List.getLast?_eq_some_iff.mp newline
    rw [List.append_assoc, List.singleton_append, rows_append_newline, behind, rows_ended]

/-! ### Opened logs -/

/-- Opening a log that is not empty leaves its rows as they are and ends its last line. -/
theorem reopen_eq {log : Bytes} (present : log ≠ []) :
    ∃ text, reopen log = text ++ [Bytes.newline] ∧ rows text = rows log := by
  have last := List.getLast?_eq_some_getLast present
  rw [reopen, last]
  dsimp only
  split
  · rename_i ended
    rw [ended] at last
    obtain ⟨text, rfl⟩ := List.getLast?_eq_some_iff.mp last
    exact ⟨text, rfl, (rows_ended text).symm⟩
  · exact ⟨log, rfl, rfl⟩

theorem rows_continued {log : Bytes} (present : log ≠ []) (records : List Record) :
    rows (continued log records) = rows log ++ records.map Row.ofRecord := by
  obtain ⟨text, opened, same⟩ := reopen_eq present
  rw [continued, opened, List.append_assoc, List.singleton_append, rows_append_newline, same,
    rows_flatMap_recordLine]

/-- The rows of joined texts are those of the one and then those of the other, a line exchanged for
another changes its own row only, and records appended to a log that is not empty are read behind
the rows that were there. -/
theorem rows_independent :
    (∀ log rest, rows (log ++ Bytes.newline :: rest) = rows log ++ rows rest) ∧
      (∀ front back, Around front back → ∀ old new, Bytes.newline ∉ old → Bytes.newline ∉ new →
        rows (front ++ (old ++ back)) = rows front ++ ((rowOfLine? old).toList ++ rows back) ∧
          rows (front ++ (new ++ back)) = rows front ++ ((rowOfLine? new).toList ++ rows back)) ∧
      ∀ log, log ≠ [] → ∀ calls : List Writer.Call,
        let records := calls.flatMap Writer.Call.records
        (∃ w, (Writer.opened log).callAll calls = .ok w ∧ w.sink.text = continued log records) ∧
          (∀ (t : Tree) (path : Path), t.read path = .ok log →
            ∃ t', t.continueLog path records = .ok t' ∧
              t'.read path = .ok (continued log records)) ∧
          rows (continued log records) = rows log ++ records.map Row.ofRecord := by
  refine ⟨rows_append_newline, fun front back around old new oldLine newLine =>
    ⟨around.rows_eq oldLine, around.rows_eq newLine⟩, fun log present calls => ⟨?_, ?_, ?_⟩⟩
  · exact ⟨_, Writer.callAll_reliable rfl calls, rfl⟩
  · exact fun t path read => Tree.read_update read _
  · exact rows_continued present _

/-- A line between the header and another line is exchanged for half a character. In a file that is
cut behind that half the line is then appended again. -/
theorem rows_independent_torn :
    let first : Record := .ofPayload .put [0x41, 1] (some [0xC0]) .accountTrie
    let second : Record := .ofPayload .delete [0x61] none .snapshotAccount
    let back := Bytes.newline :: recordLine second
    let torn := headerLine ++ [0xC3]
    let path : Path := [0x2F, 0x61]
    let t : Tree := ⟨[], [([[0x61]], .file torn)]⟩
    rows (headerLine ++ ((Line.record first).text ++ back)) = [first, second].map Row.ofRecord ∧
      rows (headerLine ++ ([0xC3] ++ back)) = [Row.ofRecord second] ∧
      ∃ w t', (Writer.opened torn).callAll [.append first] = .ok w ∧
        t.continueLog path [first] = .ok t' ∧ t'.read path = .ok w.sink.text ∧
        rows w.sink.text = [Row.ofRecord first] := by
  intro first second back torn path t
  have around : Around headerLine back := ⟨Or.inr (by decide +kernel), Or.inr rfl⟩
  obtain ⟨-, exchanged, opened⟩ := rows_independent
  obtain ⟨old, new⟩ := exchanged headerLine back around (Line.record first).text [0xC3]
    (Line.record first).newline_not_mem (by decide)
  obtain ⟨⟨w, called, text⟩, continues, appended⟩ :=
    opened torn (by decide +kernel) [.append first]
  obtain ⟨t', changed, read⟩ := continues t path (by decide +kernel)
  have front : rows headerLine = [] := by decide +kernel
  have behind : rows back = [Row.ofRecord second] := by decide +kernel
  have half : rowOfLine? [0xC3] = none := by decide +kernel
  have cut : rows torn = [] := by decide +kernel
  rw [front, behind, Line.rowOfLine?_record] at old
  rw [front, behind, half] at new
  rw [← text] at read appended
  rw [cut] at appended
  exact ⟨old, new, w, t', called, changed, read, appended⟩

end Log

end TrieJournal
