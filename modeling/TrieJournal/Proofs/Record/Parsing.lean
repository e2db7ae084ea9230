import TrieJournal.Proofs.Text.Trimming
import TrieJournal.Record.Row

/-!
# Lines that are rows

A line is a row if and only if it has at least five commas. The texts of the row are the first six
fields of the line, each trimmed of blanks and then of quotes, which may bare further blanks. So a
row is read back from its line if and only if none of its texts has a comma, or a blank or a quote
at an end.
-/

namespace TrieJournal.Row
open Blank (Trimmed)

/-- A text that a line gives back as it is. -/
structure Bare (text : String) : Prop where
  undivided : ',' ∉ text.toList
  unblank : Trimmed Blank.isBlank text.toList
  unquoted : Trimmed (· = '"') text.toList

/-! ### Fields -/

theorem toList_cleanField_sublist (field : List Char) :
    (cleanField field).toList.Sublist field := by
  rw [cleanField, String.toList_ofList]
  exact (Blank.trimBoth_sublist _ _).trans (Blank.trimBoth_sublist _ _)

theorem unquoted_cleanField (field : List Char) : Trimmed (· = '"') (cleanField field).toList := by
  rw [cleanField, String.toList_ofList]
  exact Blank.trimmed_trimBoth _ _

/-- Cleaning keeps a text only if each of its two steps does, since neither adds anything. -/
theorem cleanField_eq_self_iff {text : String} : cleanField text.toList = text ↔
    Trimmed Blank.isBlank text.toList ∧ Trimmed (· = '"') text.toList := by
  rw [← Blank.trimBoth_eq_self_iff, ← Blank.trimBoth_eq_self_iff, ← Blank.trim, cleanField]
  constructor
  · intro clean
    have whole := congrArg String.toList clean
    rw [String.toList_ofList] at whole
    have back := Blank.trimBoth_sublist (· = '"') (Blank.trim text.toList)
    rw [whole] at back
    have unblank : Blank.trim text.toList = text.toList :=
      (Blank.trimBoth_sublist _ _).antisymm back
    rw [unblank] at whole
    exact ⟨unblank, whole⟩
  · rintro ⟨unblank, unquoted⟩
    rw [unblank, unquoted, String.ofList_toList]

theorem cleanField_dropRightWhile (field : List Char) :
    cleanField (dropRightWhile (fun c => c = '\r' || c = '\n') field) = cleanField field := by
  have blank : ∀ c : Char, (c = '\r' || c = '\n') = true → Blank.isBlank c = true := by
    intro c ends
    simp only [Bool.or_eq_true, decide_eq_true_eq] at ends
    rcases ends with rfl | rfl <;> decide
  rw [cleanField, Blank.trim, Blank.trimBoth_dropRightWhile blank, ← Blank.trim, ← cleanField]

/-! ### Lines -/

/-- The texts of a line's row are its first six fields, cleaned. The line end belongs to the last
field and is blank. -/
theorem parseLine?_eq_some_iff {line : String} {row : Row} :
    parseLine? line = some row ↔ row.texts <+: (splitOn ',' line.toList).map cleanField := by
  rw [parseLine?, map_splitOn_dropRightWhile (by decide) cleanField_dropRightWhile]
  constructor
  · intro parsed
    split at parsed
    · rename_i rest fields
      obtain rfl := Option.some.inj parsed
      exact ⟨rest, fields.symm⟩
    · cases parsed
  · rintro ⟨rest, fields⟩
    rw [← fields]
    rfl

theorem exists_texts_prefix_iff {fields : List String} :
    (∃ row : Row, row.texts <+: fields) ↔ 6 ≤ fields.length := by
  constructor
  · rintro ⟨row, front⟩
    exact front.length_le
  · intro long
    match fields, long with
    | operation :: key :: value :: keySize :: valueSize :: keyspace :: rest, _ =>
      exact ⟨⟨operation, key, value, keySize, valueSize, keyspace⟩, rest, rfl⟩

theorem exists_parseLine?_iff {line : String} :
    (∃ row, parseLine? line = some row) ↔ 5 ≤ line.toList.count ',' := by
  simp only [parseLine?_eq_some_iff, exists_texts_prefix_iff, List.length_map, length_splitOn]
  omega

theorem exists_field_of_parseLine? {line : String} {row : Row} (parsed : parseLine? line = some row)
    {text : String} (mem : text ∈ row.texts) :
    ∃ field ∈ splitOn ',' line.toList, cleanField field = text :=
  List.mem_map.mp ((parseLine?_eq_some_iff.mp parsed).subset mem)

theorem unquoted_of_parseLine? {line : String} {row : Row} (parsed : parseLine? line = some row) :
    ∀ text ∈ row.texts, ',' ∉ text.toList ∧ Trimmed (· = '"') text.toList := by
  intro text mem
  obtain ⟨field, isField, rfl⟩ := exists_field_of_parseLine? parsed mem
  refine ⟨fun comma => ?_, unquoted_cleanField field⟩
  exact not_mem_of_mem_splitOn isField ((toList_cleanField_sublist field).subset comma)

/-! ### Lines of rows -/

theorem toList_render (row : Row) :
    row.render.toList = [','].intercalate (row.texts.map String.toList) :=
  String.toList_intercalate

theorem texts_ne_nil (row : Row) : row.texts.map String.toList ≠ [] := by
  simp [texts]

theorem splitOn_render {row : Row} (undivided : ∀ text ∈ row.texts, ',' ∉ text.toList) :
    splitOn ',' row.render.toList = row.texts.map String.toList := by
  rw [splitOn_eq, toList_render, List.splitOn_intercalate ',' _ row.texts_ne_nil]
  exact List.forall_mem_map.mpr undivided

theorem parseLine?_render_iff_clean {row : Row}
    (undivided : ∀ text ∈ row.texts, ',' ∉ text.toList) :
    parseLine? row.render = some row ↔ ∀ text ∈ row.texts, cleanField text.toList = text := by
  rw [parseLine?_eq_some_iff, splitOn_render undivided, List.map_map]
  constructor
  · intro front
    have clean : row.texts.map id = row.texts.map (cleanField ∘ String.toList) := by
      rw [List.map_id]
      exact front.eq_of_length (List.length_map _).symm
    exact fun text mem => (List.map_inj_left.mp clean text mem).symm
  · intro clean
    have same : row.texts.map (cleanField ∘ String.toList) = row.texts :=
      (List.map_congr_left clean).trans (List.map_id _)
    exact ⟨[], by rw [same, List.append_nil]⟩

theorem parseLine?_render_iff {row : Row} :
    parseLine? row.render = some row ↔ ∀ text ∈ row.texts, Bare text := by
  constructor
  · intro parsed text mem
    -- No text that was read has a comma, so the fields of the line are the texts of the row.
    have undivided := fun text mem => (unquoted_of_parseLine? parsed text mem).1
    have clean := (parseLine?_render_iff_clean undivided).mp parsed text mem
    obtain ⟨unblank, unquoted⟩ := cleanField_eq_self_iff.mp clean
    exact ⟨undivided text mem, unblank, unquoted⟩
  · intro bare
    refine (parseLine?_render_iff_clean fun text mem => (bare text mem).undivided).mpr ?_
    exact fun text mem =>
      cleanField_eq_self_iff.mpr ⟨(bare text mem).unblank, (bare text mem).unquoted⟩

/-- A row is read back from its line if and only if its texts are bare. The lines that are rows are
those with at least five commas, and no text of such a row has a comma, or a quote at an end. -/
theorem parseLine?_bare :
    (∀ row : Row, parseLine? row.render = some row ↔ ∀ text ∈ row.texts, Bare text) ∧
    ∀ line : String,
      ((∃ row, parseLine? line = some row) ↔ 5 ≤ line.toList.count ',') ∧
      ∀ row, parseLine? line = some row →
        ∀ text ∈ row.texts, ',' ∉ text.toList ∧ Trimmed (· = '"') text.toList :=
  ⟨fun _ => parseLine?_render_iff,
    fun _ => ⟨exists_parseLine?_iff, fun _ parsed => unquoted_of_parseLine? parsed⟩⟩

/-- Quotes keep the blank inside them from being trimmed, and the row that is left is not read
back. -/
theorem parseLine?_bare_uncovered :
    let row : Row := ⟨" GET", "41", "", "1", "0", "HASH_TRIE"⟩
    parseLine? "\" GET\",41,, 1 ,0,HASH_TRIE,,\r\n" = some row ∧
      (∀ text ∈ row.texts, ',' ∉ text.toList ∧ Trimmed (· = '"') text.toList) ∧
      parseLine? row.render ≠ some row := by
  intro row
  have parsed : parseLine? "\" GET\",41,, 1 ,0,HASH_TRIE,,\r\n" = some row := by decide +kernel
  refine ⟨parsed, (parseLine?_bare.2 _).2 row parsed, fun back => ?_⟩
  have bare := (parseLine?_bare.1 row).mp back " GET" List.mem_cons_self
  have first : ' ' ∈ " GET".toList.head? := by decide +kernel
  cases bare.unblank.front ' ' first

end TrieJournal.Row
