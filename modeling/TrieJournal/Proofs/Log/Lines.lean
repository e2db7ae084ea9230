import TrieJournal.Log.Reader
import TrieJournal.Log.Writer
import TrieJournal.Proofs.Record.Row

/-!
# Lines of logs

A log is read line by line: the header holds no row, the line of a record holds the record's row,
and a line cut short holds no record. So a rendered log is read back row by row.
-/

namespace TrieJournal.Log

/-- A line that is written to a log. -/
inductive Line where
  | header
  | record (r : Record)

namespace Line

def row : Line → Row
  | header => .header
  | record r => .ofRecord r

/-- The line without its newline. -/
@[irreducible] def text (l : Line) : Bytes := Utf8.encode l.row.render

theorem text_record (r : Record) : (record r).text = Utf8.encode r.line := by
  rw [text, row, Record.line]

theorem ofWords (l : Line) : l.row.OfWords := by
  cases l with
  | header =>
    simp only [Row.OfWords, isWord_iff_all, ← List.all_eq_true]
    decide
  | record r => exact Row.ofWords_ofRecord r

theorem newline_not_mem (l : Line) : Bytes.newline ∉ l.text := by
  rw [text, ← String.ofList_toList (s := l.row.render), Utf8.encode_of_ascii l.ofWords.render_ascii]
  intro mem
  obtain ⟨c, inLine, byte⟩ := List.mem_map.mp mem
  have ascii := l.ofWords.render_ascii c inLine
  have same : c.toNat = 10 := by
    have value := congrArg UInt8.toNat byte
    simpa [Nat.mod_eq_of_lt (show c.toNat < 256 by omega), Bytes.newline] using value
  rcases l.ofWords.render_char inLine with rfl | word
  · revert same
    decide
  · have range := (isWordChar_iff c).mp word
    omega

theorem text_ne_nil (l : Line) : l.text ≠ [] := by
  intro empty
  have read := Utf8.decode?_encode l.row.render
  rw [text] at empty
  rw [empty] at read
  have parsed := Row.parseLine?_render l.ofWords
  rw [← Option.some.inj read] at parsed
  cases parsed

/-! ### What a line holds -/

/-- A prefix of a line that holds a row. -/
theorem rowOfLine?_cut {l : Line} {cut : Row} {p : Bytes} (inLine : p <+: l.text)
    (read : rowOfLine? p = some cut) :
    cut.isHeader = false ∧ ∃ last, last <+: l.row.keyspace.toList ∧
      cut = { l.row with keyspace := String.ofList last } ∧ p = Utf8.encode cut.render := by
  rw [text, ← String.ofList_toList (s := l.row.render)] at inLine
  obtain ⟨part, inText, rfl⟩ := Utf8.encode_cut l.ofWords.render_ascii inLine
  simp only [rowOfLine?, Utf8.decode?_encode, bind, Option.bind_some, Option.bind_eq_some_iff]
    at read
  obtain ⟨parsed, parse, kept⟩ := read
  split at kept
  · cases kept
  · rename_i header
    obtain rfl := Option.some.inj kept
    obtain ⟨last, inLast, same, chars⟩ := Row.parseLine?_cut l.ofWords inText parse
    exact ⟨by simpa using header, last, inLast, same, by rw [chars, String.ofList_toList]⟩

/-- The header holds no row, however short it is cut. -/
theorem rowOfLine?_header {p : Bytes} (cut : p <+: header.text) : rowOfLine? p = none := by
  rw [Option.eq_none_iff_forall_not_mem]
  intro row read
  obtain ⟨other, last, -, rfl, -⟩ := rowOfLine?_cut cut read
  revert other
  simp [Row.isHeader, Line.row, Row.header]

theorem rowOfLine?_record (r : Record) : rowOfLine? (record r).text = some (Row.ofRecord r) := by
  have parsed := Row.parseLine?_render (Row.ofWords_ofRecord r)
  have header : (Row.ofRecord r).isHeader = false := Row.isHeader_ofRecord r r.keyspace.name
  simp [rowOfLine?, text, row, Utf8.decode?_encode, parsed, header]

/-- A record's line cut short holds no row, or one that does not decode and shows the record in all
columns but the last. -/
theorem rowOfLine?_record_cut {r : Record} {p : Bytes} {row : Row} (cut : p <+: (record r).text)
    (short : p ≠ (record r).text) (read : rowOfLine? p = some row) :
    row.texts.take 5 = (Row.ofRecord r).texts.take 5 ∧ row.decode.toOption = none := by
  obtain ⟨-, last, inLast, rfl, bytes⟩ := rowOfLine?_cut cut read
  refine ⟨rfl, Row.decode_cut r inLast fun whole => short ?_⟩
  rw [bytes, whole, String.ofList_toList, text]
  rfl

end Line

/-! ### Rows and records of a text -/

theorem rowOfLine?_nil : rowOfLine? [] = none := by
  decide

/-- The part behind the last newline may be read as a line even if it is empty. -/
theorem rows_eq (log : Bytes) : rows log = (splitOn Bytes.newline log).filterMap rowOfLine? := by
  rw [rows, Bytes.lines]
  split
  · rename_i ended
    obtain ⟨front, parts⟩ := List.getLast?_eq_some_iff.mp ended
    rw [parts, List.dropLast_concat, List.filterMap_append, List.filterMap_cons_none rowOfLine?_nil,
      List.filterMap_nil, List.append_nil]
  · rfl

theorem rows_append_newline (log rest : Bytes) :
    rows (log ++ Bytes.newline :: rest) = rows log ++ rows rest := by
  rw [rows_eq, rows_eq, rows_eq, splitOn_append_cons, List.filterMap_append]

theorem rows_ended (log : Bytes) : rows (log ++ [Bytes.newline]) = rows log := by
  rw [rows_append_newline]
  exact List.append_nil _

theorem rows_of_line {line : Bytes} (whole : Bytes.newline ∉ line) :
    rows line = (rowOfLine? line).toList := by
  rw [rows_eq, splitOn_of_not_mem whole, List.filterMap_cons]
  cases rowOfLine? line <;> rfl

theorem rows_line {line : Bytes} (whole : Bytes.newline ∉ line) (rest : Bytes) :
    rows (line ++ Bytes.newline :: rest) = (rowOfLine? line).toList ++ rows rest := by
  rw [rows_append_newline, rows_of_line whole]

theorem records_line {line : Bytes} (whole : Bytes.newline ∉ line) (rest : Bytes) :
    Log.records (line ++ Bytes.newline :: rest) =
      ((rowOfLine? line).bind fun row => row.decode.toOption).toList ++ Log.records rest := by
  rw [Log.records, rows_line whole, decodeRows, List.filterMap_append]
  cases rowOfLine? line with
  | none => rfl
  | some row =>
    rw [Option.toList_some, List.filterMap_cons, Option.bind_some]
    cases row.decode.toOption <;> rfl

theorem headerLine_eq : headerLine = Line.header.text ++ [Bytes.newline] := by
  rw [headerLine, lineOf, Line.text, Line.row]

theorem recordLine_eq (r : Record) : recordLine r = (Line.record r).text ++ [Bytes.newline] := by
  rw [recordLine, lineOf, Line.text_record]

theorem rows_recordLine (r : Record) (rest : Bytes) :
    rows (recordLine r ++ rest) = Row.ofRecord r :: rows rest := by
  rw [recordLine_eq, List.append_assoc, List.singleton_append,
    rows_line (Line.record r).newline_not_mem, Line.rowOfLine?_record]
  rfl

theorem rows_headerLine (rest : Bytes) : rows (headerLine ++ rest) = rows rest := by
  rw [headerLine_eq, List.append_assoc, List.singleton_append,
    rows_line Line.header.newline_not_mem, Line.rowOfLine?_header (List.prefix_refl _)]
  rfl

theorem rows_flatMap_recordLine (records : List Record) :
    rows (records.flatMap recordLine) = records.map Row.ofRecord := by
  induction records with
  | nil => rfl
  | cons r records ih => rw [List.flatMap_cons, rows_recordLine, ih, List.map_cons]

theorem rows_render (records : List Record) : rows (render records) = records.map Row.ofRecord := by
  rw [render, rows_headerLine, rows_flatMap_recordLine]

theorem decodeRows_ofRecord {records : List Record}
    (classified : ∀ r ∈ records, r.keyspace.isClassified = true) :
    decodeRows (records.map Row.ofRecord) = records.map Record.asRead := by
  induction records with
  | nil => rfl
  | cons r records ih =>
    have rest := ih fun other mem => classified other (List.mem_cons_of_mem _ mem)
    rw [decodeRows] at rest
    rw [List.map_cons, decodeRows, List.filterMap_cons_some
      (by rw [Row.decode_ofRecord (classified r List.mem_cons_self)]; rfl), rest, List.map_cons]

theorem records_render {records : List Record}
    (classified : ∀ r ∈ records, r.keyspace.isClassified = true) :
    Log.records (render records) = records.map Record.asRead := by
  rw [Log.records, rows_render, decodeRows_ofRecord classified]

end TrieJournal.Log
