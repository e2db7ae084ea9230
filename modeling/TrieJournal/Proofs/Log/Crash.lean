import Mathlib.Data.List.Basic
import TrieJournal.Proofs.Log.Appending
import TrieJournal.Proofs.Log.Lines
import TrieJournal.Proofs.Text.Split

/-!
# Log files that lose their ends

A log file is opened again and again, records are appended, and now and then the file is cut short,
anywhere. Opening it ends a line that was cut, so what is appended starts a line of its own. After
any such history the file holds the records whose lines have survived every cut, and no others.
-/

namespace TrieJournal.Log

/-! ### Histories of a file -/

/-- A log file is opened, the calls are made on its writer, and then the file is cut to a length. It
stays as it is if it is not longer than that. -/
structure Episode where
  calls : List Writer.Call
  cut : Nat

def Writer.opened (file : Bytes) : Writer := ⟨⟨.reliable, reopen file⟩, 0⟩

def Episode.records (e : Episode) : List Record := e.calls.flatMap Writer.Call.records

def Episode.written (e : Episode) (file : Bytes) : Bytes :=
  ((Writer.opened file).performAll e.calls).sink.text

/-- A record, and where its line ends in the file, not counting the newline. -/
structure Entry where
  record : Record
  stop : Nat

/-- Records whose lines follow each other from a place in the file on. -/
def Entry.layout (place : Nat) : List Record → List Entry
  | [] => []
  | r :: records =>
    ⟨r, place + (Utf8.encode r.line).length⟩ :: layout (place + (recordLine r).length) records

/-- A log file, which may be absent, and the records whose lines have survived every cut so far. -/
structure Survival where
  file : Option Bytes
  entries : List Entry

namespace Survival

def text (s : Survival) : Bytes := s.file.getD []

def records (s : Survival) : List Record := s.entries.map Entry.record

/-- What an episode leaves behind. A line survives if the file is not cut before its end. -/
def after (s : Survival) (e : Episode) : Survival where
  file := some ((e.written s.text).take e.cut)
  entries := (s.entries ++ Entry.layout (reopen s.text).length e.records).filter
    fun entry => entry.stop ≤ e.cut

def afterAll (s : Survival) (episodes : List Episode) : Survival := episodes.foldl after s

end Survival

theorem Episode.written_eq (e : Episode) (file : Bytes) :
    e.written file = continued file e.records := by
  rw [written, Writer.performAll_reliable rfl]
  rfl

/-! ### Fragments -/

def Line.record? : Line → Option Record
  | header => none
  | record r => some r

structure Fragment where
  line : Line
  kept : Bytes
  isCut : kept <+: line.text

namespace Fragment

def whole (l : Line) : Fragment := ⟨l, l.text, List.prefix_refl _⟩

def textOf (fragments : List Fragment) : Bytes :=
  fragments.flatMap fun f => f.kept ++ [Bytes.newline]

/-- The record of a fragment of which nothing is lost. -/
def survivor? (place : Nat) (f : Fragment) : Option Entry :=
  if f.kept = f.line.text then f.line.record?.map (⟨·, place + f.kept.length⟩) else none

def entriesOf (place : Nat) : List Fragment → List Entry
  | [] => []
  | f :: fragments => (f.survivor? place).toList ++ entriesOf (place + f.kept.length + 1) fragments

/-- The records of the lines of fragments, however much is left of them. -/
def recordsOf (fragments : List Fragment) : List Record :=
  (fragments.map Fragment.line).filterMap Line.record?

theorem textOf_cons (f : Fragment) (fragments : List Fragment) :
    textOf (f :: fragments) = f.kept ++ Bytes.newline :: textOf fragments := by
  rw [textOf, List.flatMap_cons, List.append_assoc]
  rfl

theorem textOf_append (fragments others : List Fragment) :
    textOf (fragments ++ others) = textOf fragments ++ textOf others :=
  List.flatMap_append

theorem getLast?_textOf {fragments : List Fragment} (nonempty : fragments ≠ []) :
    (textOf fragments).getLast? = some Bytes.newline := by
  obtain ⟨front, f, rfl⟩ := List.eq_nil_or_concat fragments |>.resolve_left nonempty
  rw [List.concat_eq_append, textOf_append, textOf_cons, ← List.append_assoc,
    List.getLast?_append_cons]
  rfl

theorem entriesOf_append (place : Nat) (fragments others : List Fragment) :
    entriesOf place (fragments ++ others) =
      entriesOf place fragments ++ entriesOf (place + (textOf fragments).length) others := by
  induction fragments generalizing place with
  | nil => rfl
  | cons f fragments ih =>
    rw [List.cons_append, entriesOf, entriesOf, ih, textOf_cons, List.append_assoc]
    simp only [List.length_append, List.length_cons, Nat.add_assoc, Nat.add_comm 1]

theorem textOf_whole (records : List Record) :
    textOf (records.map fun r => whole (.record r)) = records.flatMap recordLine := by
  induction records with
  | nil => rfl
  | cons r records ih =>
    rw [List.map_cons, textOf_cons, ih, List.flatMap_cons, recordLine_eq, List.append_assoc]
    rfl

theorem entriesOf_header (place : Nat) : entriesOf place [whole .header] = [] := by
  unfold entriesOf survivor?
  split <;> rfl

theorem survivor?_whole (place : Nat) (r : Record) :
    (whole (.record r)).survivor? place = some ⟨r, place + (Utf8.encode r.line).length⟩ := by
  simp only [survivor?, whole, if_true, Line.record?, Option.map_some, Line.text_record]

theorem entriesOf_whole (place : Nat) (records : List Record) :
    entriesOf place (records.map fun r => whole (.record r)) = Entry.layout place records := by
  induction records generalizing place with
  | nil => rfl
  | cons r records ih =>
    have length : place + (whole (.record r)).kept.length + 1 = place + (recordLine r).length := by
      rw [recordLine_eq, List.length_append, List.length_singleton, Nat.add_assoc, whole]
    rw [List.map_cons, entriesOf, survivor?_whole, length, ih, Entry.layout]
    rfl

theorem recordsOf_cons (f : Fragment) (fragments : List Fragment) :
    recordsOf (f :: fragments) = f.line.record?.toList ++ recordsOf fragments := by
  rw [recordsOf, List.map_cons, List.filterMap_cons]
  cases f.line.record? <;> rfl

theorem recordsOf_whole (records : List Record) :
    recordsOf (records.map fun r => whole (.record r)) = records := by
  rw [recordsOf, List.map_map, List.filterMap_map]
  exact List.filterMap_some

theorem survivor?_eq_some {place : Nat} {f : Fragment} {entry : Entry}
    (same : f.survivor? place = some entry) :
    f.kept = f.line.text ∧ f.line.record? = some entry.record ∧
      entry.stop = place + f.kept.length := by
  unfold survivor? at same
  split at same
  · rename_i intact
    obtain ⟨r, record, rfl⟩ := Option.map_eq_some_iff.mp same
    exact ⟨intact, record, rfl⟩
  · cases same

theorem lt_stop {place : Nat} {fragments : List Fragment} {entry : Entry}
    (mem : entry ∈ entriesOf place fragments) : place < entry.stop := by
  induction fragments generalizing place with
  | nil => cases mem
  | cons f fragments ih =>
    rw [entriesOf, List.mem_append, Option.mem_toList] at mem
    rcases mem with here | later
    · obtain ⟨intact, -, stop⟩ := survivor?_eq_some here
      have nonempty := List.length_pos_iff.mpr f.line.text_ne_nil
      rw [← intact] at nonempty
      omega
    · have below := ih later
      omega

theorem filter_entriesOf_of_le {place n : Nat} {fragments : List Fragment} (short : n ≤ place) :
    (entriesOf place fragments).filter (fun entry => entry.stop ≤ n) = [] := by
  rw [List.filter_eq_nil_iff]
  intro entry mem within
  have stop := lt_stop mem
  have bound := of_decide_eq_true within
  omega

theorem filter_survivor? {place n : Nat} (f : Fragment) :
    (f.survivor? place).toList.filter (fun entry => entry.stop ≤ n) =
      if place + f.kept.length ≤ n then (f.survivor? place).toList else [] := by
  split
  · rename_i within
    rw [List.filter_eq_self]
    intro entry mem
    obtain ⟨-, -, stop⟩ := survivor?_eq_some (Option.mem_toList.mp mem)
    rw [stop]
    exact decide_eq_true within
  · rename_i beyond
    rw [List.filter_eq_nil_iff]
    intro entry mem within
    obtain ⟨-, -, stop⟩ := survivor?_eq_some (Option.mem_toList.mp mem)
    rw [stop] at within
    exact beyond (of_decide_eq_true within)

theorem newline_not_mem (f : Fragment) : Bytes.newline ∉ f.kept :=
  fun mem => f.line.newline_not_mem (f.isCut.subset mem)

end Fragment

/-! ### Cutting and opening -/

open Fragment

/-- The text holds the fragments. Its last line may lack its newline. -/
def Holds (text : Bytes) (fragments : List Fragment) : Prop :=
  text = textOf fragments ∨
    text ≠ [] ∧ text.getLast? ≠ some Bytes.newline ∧ text ++ [Bytes.newline] = textOf fragments

namespace Holds
variable {text : Bytes} {fragments : List Fragment}

theorem cons (holds : Holds text fragments) (f : Fragment) :
    Holds (f.kept ++ Bytes.newline :: text) (f :: fragments) := by
  rcases holds with ended | ⟨nonempty, unended, ended⟩
  · exact Or.inl (by rw [textOf_cons, ended])
  · refine Or.inr ⟨by simp, ?_, ?_⟩
    · rwa [List.getLast?_append_cons, List.getLast?_cons_of_ne_nil nonempty]
    · rw [textOf_cons, ← ended, List.append_assoc, List.cons_append]

theorem unended {f : Fragment} (nonempty : f.kept ≠ []) : Holds f.kept [f] := by
  refine Or.inr ⟨nonempty, fun last => f.newline_not_mem (List.mem_of_getLast? last), ?_⟩
  rw [textOf_cons]
  rfl

end Holds

/-- A cut leaves the fragments before it, and a part of the one that it falls into. -/
theorem holds_take (fragments : List Fragment) (place n : Nat) :
    ∃ rest, Holds ((textOf fragments).take n) rest ∧
      rest.map Fragment.line <+: fragments.map Fragment.line ∧
      (entriesOf place fragments).filter (fun entry => entry.stop ≤ place + n) =
        entriesOf place rest := by
  induction fragments generalizing place n with
  | nil => exact ⟨[], Or.inl List.take_nil, List.nil_prefix, rfl⟩
  | cons f fragments ih =>
    rcases Nat.eq_zero_or_pos n with rfl | positive
    · exact ⟨[], Or.inl List.take_zero, List.nil_prefix, filter_entriesOf_of_le (Nat.le_refl _)⟩
    rw [textOf_cons, entriesOf, List.filter_append, filter_survivor?]
    -- The cut falls into the line, right before its newline, or behind it.
    rcases Nat.lt_trichotomy n f.kept.length with inside | atEnd | beyond
    · let part : Fragment := ⟨f.line, f.kept.take n, (List.take_prefix n f.kept).trans f.isCut⟩
      have nonempty : part.kept ≠ [] := by
        rw [← List.length_pos_iff, List.length_take]
        omega
      have short : part.kept ≠ part.line.text := by
        intro same
        have length := f.isCut.length_le
        rw [← same, List.length_take] at length
        omega
      refine ⟨[part], ?_, List.prefix_append [f.line] _, ?_⟩
      · rw [List.take_append_of_le_length (by omega)]
        exact .unended nonempty
      · rw [if_neg (by omega), filter_entriesOf_of_le (by omega), entriesOf, survivor?,
          if_neg short]
        rfl
    · refine ⟨[f], ?_, List.prefix_append [f.line] _, ?_⟩
      · rw [atEnd, List.take_left]
        exact .unended (List.length_pos_iff.mp (atEnd ▸ positive))
      · rw [if_pos (by omega), filter_entriesOf_of_le (by omega)]
        rfl
    · obtain ⟨m, rfl⟩ : ∃ m, n = f.kept.length + (m + 1) := ⟨n - (f.kept.length + 1), by omega⟩
      obtain ⟨rest, holds, lines, entries⟩ := ih (place + f.kept.length + 1) m
      refine ⟨f :: rest, ?_, (List.prefix_cons_inj _).mpr lines, ?_⟩
      · rw [List.take_length_add_append, List.take_succ_cons]
        exact holds.cons f
      · have bound : place + f.kept.length + 1 + m = place + (f.kept.length + (m + 1)) := by omega
        rw [if_pos (by omega), entriesOf, ← entries, bound]

/-- Opening a file ends its last line, or begins it with the header if it is empty. -/
theorem Holds.reopen {text : Bytes} {fragments : List Fragment} (holds : Holds text fragments) :
    ∃ opened, reopen text = textOf opened ∧ entriesOf 0 opened = entriesOf 0 fragments ∧
      recordsOf opened = recordsOf fragments := by
  rcases holds with rfl | ⟨present, unended, ended⟩
  · cases fragments with
    | nil =>
      -- Nothing is left of the file, so it begins anew.
      refine ⟨[whole .header], ?_, entriesOf_header 0, rfl⟩
      rw [textOf_cons]
      exact headerLine_eq
    | cons f fragments =>
      refine ⟨f :: fragments, ?_, rfl, rfl⟩
      rw [Log.reopen, getLast?_textOf (List.cons_ne_nil _ _)]
      exact if_pos rfl
  · refine ⟨fragments, ?_, rfl, rfl⟩
    have last := List.getLast?_eq_some_getLast present
    rw [last, ne_eq, Option.some.injEq] at unended
    rw [Log.reopen, last, ← ended]
    exact if_neg unended

/-! ### What survives -/

/-- The file holds fragments of appended lines, and its entries are those of which nothing is
lost. -/
structure Survival.Holding (s : Survival) (appended : List Record) (fragments : List Fragment) :
    Prop where
  text : Holds s.text fragments
  entries : s.entries = entriesOf 0 fragments
  records : (recordsOf fragments).Sublist appended

theorem Survival.Holding.after {s : Survival} {appended : List Record} {fragments : List Fragment}
    (holding : s.Holding appended fragments) (e : Episode) :
    ∃ rest, (s.after e).Holding (appended ++ e.records) rest := by
  obtain ⟨opened, text, entries, records⟩ := holding.text.reopen
  let written := opened ++ e.records.map fun r => whole (.record r)
  have file : e.written s.text = textOf written := by
    rw [Episode.written_eq, continued, text, textOf_append, textOf_whole]
  have ledger : s.entries ++ Entry.layout (reopen s.text).length e.records =
      entriesOf 0 written := by
    rw [entriesOf_append, entries, ← holding.entries, entriesOf_whole, Nat.zero_add, text]
  have lines : (recordsOf written).Sublist (appended ++ e.records) := by
    have both : recordsOf written = recordsOf opened ++ e.records := by
      rw [recordsOf, List.map_append, List.filterMap_append, ← recordsOf, ← recordsOf,
        recordsOf_whole]
    rw [both, records]
    exact holding.records.append_right _
  obtain ⟨rest, holds, left, kept⟩ := holds_take written 0 e.cut
  refine ⟨rest, ?_, ?_, ?_⟩
  · rwa [← file] at holds
  · rw [Nat.zero_add, ← ledger] at kept
    exact kept
  · exact (left.filterMap Line.record?).sublist.trans lines

theorem Survival.Holding.afterAll {s : Survival} {appended : List Record}
    {fragments : List Fragment} (holding : s.Holding appended fragments) (episodes : List Episode) :
    ∃ rest, (s.afterAll episodes).Holding (appended ++ episodes.flatMap Episode.records) rest := by
  induction episodes generalizing s appended fragments with
  | nil => exact ⟨fragments, by rwa [List.flatMap_nil, List.append_nil]⟩
  | cons e episodes ih =>
    obtain ⟨next, held⟩ := holding.after e
    obtain ⟨rest, final⟩ := ih held
    rw [List.append_assoc] at final
    exact ⟨rest, final⟩

/-! ### Reading what has survived -/

/-- The row agrees with that of the record in all columns but the last. -/
def Shows (row : Row) (r : Record) : Prop := row.texts.take 5 = (Row.ofRecord r).texts.take 5

theorem rows_textOf_cons (f : Fragment) (fragments : List Fragment) :
    rows (textOf (f :: fragments)) = (rowOfLine? f.kept).toList ++ rows (textOf fragments) := by
  rw [textOf_cons, rows_line f.newline_not_mem]

theorem Holds.rows_eq {text : Bytes} {fragments : List Fragment} (holds : Holds text fragments) :
    rows text = rows (textOf fragments) := by
  rcases holds with rfl | ⟨-, -, ended⟩
  · rfl
  · rw [← ended, rows_ended]

theorem Fragment.shows {f : Fragment} {row : Row} (read : rowOfLine? f.kept = some row) :
    ∃ r, f.line.record? = some r ∧ Shows row r := by
  obtain ⟨line, kept, isCut⟩ := f
  cases line with
  | header =>
    rw [Line.rowOfLine?_header isCut] at read
    cases read
  | record r =>
    refine ⟨r, rfl, ?_⟩
    by_cases intact : kept = (Line.record r).text
    · subst intact
      rw [Line.rowOfLine?_record, Option.some.injEq] at read
      rw [← read, Shows]
    · exact (Line.rowOfLine?_record_cut isCut intact read).1

/-- A fragment is read as the record of its line if nothing of it is lost, and as no record else. -/
theorem Fragment.decoded {f : Fragment} (place : Nat)
    (classified : ∀ r ∈ f.line.record?, r.keyspace.isClassified = true) :
    (rowOfLine? f.kept).bind (fun row => row.decode.toOption) =
      (f.survivor? place).map fun entry => entry.record.asRead := by
  obtain ⟨line, kept, isCut⟩ := f
  cases line with
  | header =>
    rw [Line.rowOfLine?_header isCut, survivor?]
    split <;> rfl
  | record r =>
    by_cases intact : kept = (Line.record r).text
    · subst intact
      have decode := Row.decode_ofRecord (classified r rfl)
      rw [Line.rowOfLine?_record, Option.bind_some, decode, survivor?, if_pos rfl]
      rfl
    · rw [survivor?, if_neg intact]
      cases read : rowOfLine? kept with
      | none => rfl
      | some row => exact (Line.rowOfLine?_record_cut isCut intact read).2

theorem shows_rows (fragments : List Fragment) :
    ∃ shown, shown.Sublist (recordsOf fragments) ∧
      List.Forall₂ Shows (rows (textOf fragments)) shown := by
  induction fragments with
  | nil => exact ⟨[], List.nil_sublist _, .nil⟩
  | cons f fragments ih =>
    obtain ⟨shown, sublist, agree⟩ := ih
    rw [rows_textOf_cons, recordsOf_cons]
    cases read : rowOfLine? f.kept with
    | none => exact ⟨shown, sublist.trans (List.sublist_append_right _ _), agree⟩
    | some row =>
      obtain ⟨r, record, here⟩ := Fragment.shows read
      rw [record]
      exact ⟨r :: shown, sublist.cons_cons r, .cons here agree⟩

theorem records_textOf (place : Nat) {fragments : List Fragment}
    (classified : ∀ r ∈ recordsOf fragments, r.keyspace.isClassified = true) :
    Log.records (textOf fragments) =
      (entriesOf place fragments).map fun entry => entry.record.asRead := by
  induction fragments generalizing place with
  | nil => rfl
  | cons f fragments ih =>
    rw [recordsOf_cons] at classified
    have here := f.decoded place fun r record =>
      classified r (List.mem_append_left _ (Option.mem_toList.mpr record))
    have rest := ih (place + f.kept.length + 1) fun r mem =>
      classified r (List.mem_append_right _ mem)
    rw [textOf_cons, records_line f.newline_not_mem, here, rest, entriesOf, List.map_append]
    cases f.survivor? place <;> rfl

/-- After any history of a log file, its records are those whose lines have survived every cut, and
each of its rows shows another one of the appended records, in the order in which they were
appended. -/
theorem records_afterAll (file : Option Bytes) (fresh : file = none ∨ file = some [])
    (episodes : List Episode)
    (classified : ∀ e ∈ episodes, ∀ r ∈ e.records, r.keyspace.isClassified = true) :
    let s := Survival.afterAll ⟨file, []⟩ episodes
    Log.records s.text = s.records.map Record.asRead ∧
      ∃ shown, shown.Sublist (episodes.flatMap Episode.records) ∧
        List.Forall₂ Shows (rows s.text) shown := by
  have begun : Survival.Holding ⟨file, []⟩ [] [] := by
    refine ⟨Or.inl ?_, rfl, List.nil_sublist _⟩
    rcases fresh with rfl | rfl <;> rfl
  obtain ⟨fragments, holding⟩ := begun.afterAll episodes
  rw [List.nil_append] at holding
  have known : ∀ r ∈ recordsOf fragments, r.keyspace.isClassified = true := by
    intro r mem
    obtain ⟨e, present, appended⟩ := List.mem_flatMap.mp (holding.records.subset mem)
    exact classified e present r appended
  have rows := holding.text.rows_eq
  refine ⟨?_, ?_⟩
  · rw [Log.records, rows, ← Log.records, records_textOf 0 known, ← holding.entries,
      Survival.records, List.map_map]
    rfl
  · obtain ⟨shown, sublist, agree⟩ := shows_rows fragments
    rw [rows]
    exact ⟨shown, sublist.trans holding.records, agree⟩

/-- A file whose second line is cut inside the last column before two more lines follow. -/
theorem records_afterAll_cut :
    let first : Record := .ofPayload .put [0x41, 1] (some [0xC0]) .accountTrie
    let second : Record := .ofPayload .put [0x41, 2] (some []) .accountTrie
    let s := Survival.afterAll ⟨none, []⟩
      [⟨[.append first, .append second], 100⟩, ⟨[.appendAll [second, first]], 1000⟩]
    Log.records s.text = [first, { second with value := none }, first] ∧
      ∃ shown, shown.Sublist [first, second, second, first] ∧
        List.Forall₂ Shows (rows s.text) shown := by
  intro first second s
  obtain ⟨records, shown⟩ := records_afterAll none (Or.inl rfl)
    [⟨[.append first, .append second], 100⟩, ⟨[.appendAll [second, first]], 1000⟩]
    (by decide)
  have survived : s.records = [first, second, first] := by decide +kernel
  exact ⟨records.trans (congrArg (List.map Record.asRead) survived), shown⟩

end TrieJournal.Log
