import TrieJournal.Proofs.Record.Parsing
import TrieJournal.Proofs.Text.Codec

/-!
# Rows of records

The columns of a record's row are words, so its line is parsed back into the same row, and a prefix
of the line that still has six columns differs from it in the last column only. Decoding gives the
record back, without its value if that is empty, unless the keyspace is unclassified.
-/

namespace TrieJournal

/-! ### Parsing -/

namespace Row

def OfWords (row : Row) : Prop := ∀ text ∈ row.texts, IsWord text.toList

namespace OfWords
variable {row : Row} (words : row.OfWords)
include words

theorem comma_not_mem : ∀ field ∈ row.texts.map String.toList, ',' ∉ field := by
  intro field mem
  obtain ⟨text, present, rfl⟩ := List.mem_map.mp mem
  exact (words text present).not_mem (by decide)

theorem render_char {c : Char} (mem : c ∈ row.render.toList) : c = ',' ∨ isWordChar c = true := by
  rw [toList_render] at mem
  refine (mem_of_mem_intercalate mem).imp_right ?_
  rintro ⟨field, present, inField⟩
  obtain ⟨text, inTexts, rfl⟩ := List.mem_map.mp present
  exact words text inTexts c inField

theorem render_ascii : ∀ c ∈ row.render.toList, c.toNat < 128 := by
  intro c mem
  rcases words.render_char mem with rfl | word
  · decide
  · exact isWordChar_toNat_lt word

end OfWords

theorem bare_of_isWord {text : String} (word : IsWord text.toList) : Bare text where
  undivided := word.not_mem (by decide)
  unblank := .of_forall fun c mem => not_isBlank_of_isWordChar (word c mem)
  unquoted := .of_forall fun _ mem => decide_eq_false fun same =>
    word.not_mem (c := '"') (by decide) (same ▸ mem)

theorem cleanField_of_isWord {field : List Char} (word : IsWord field) :
    cleanField field = String.ofList field := by
  have bare : Bare (String.ofList field) := bare_of_isWord (by rwa [String.toList_ofList])
  have clean := cleanField_eq_self_iff.mpr ⟨bare.unblank, bare.unquoted⟩
  rwa [String.toList_ofList] at clean

theorem parseLine?_render {row : Row} (words : row.OfWords) : parseLine? row.render = some row :=
  parseLine?_render_iff.mpr fun text mem => bare_of_isWord (words text mem)

/-- A prefix of the line that still has six columns is the line of a row whose last column may have
been cut short. -/
theorem parseLine?_cut {row cut : Row} {part : List Char} (words : row.OfWords)
    (inLine : part <+: row.render.toList) (parsed : parseLine? (String.ofList part) = some cut) :
    ∃ last, last <+: row.keyspace.toList ∧ cut = { row with keyspace := String.ofList last } ∧
      part = cut.render.toList := by
  rw [toList_render] at inLine
  obtain ⟨done, field, rest, last, fields, inField, joined, parts⟩ :=
    splitOn_cut row.texts_ne_nil words.comma_not_mem inLine
  rw [parseLine?_eq_some_iff, String.toList_ofList, parts] at parsed
  -- Six columns take all fields of the line, of which the prefix ends in the last.
  have columns : 6 ≤ (done ++ [last]).length := by
    rw [← List.length_map cleanField]
    exact parsed.length_le
  have count : 6 = (done ++ field :: rest).length := congrArg List.length fields
  simp only [List.length_append, List.length_cons, List.length_nil] at columns count
  obtain rfl : rest = [] := List.eq_nil_of_length_eq_zero (by omega)
  have split : [row.operation, row.key, row.value, row.keySize, row.valueSize].map String.toList ++
      [row.keyspace.toList] = done ++ [field] := fields
  obtain ⟨rfl, same⟩ := List.append_inj' split rfl
  obtain rfl := List.singleton_inj.mp same
  have word : ∀ text ∈ row.texts, cleanField text.toList = text := by
    intro text mem
    rw [cleanField_of_isWord (words text mem), String.ofList_toList]
  have lastWord : IsWord last := (words row.keyspace (by simp [texts])).of_cut inField
  have whole := parsed.eq_of_length (by simp [texts])
  simp only [texts, List.mem_cons, List.not_mem_nil, or_false, forall_eq_or_imp, forall_eq] at word
  simp only [texts, List.map_cons, List.map_nil, List.cons_append, List.nil_append, word,
    cleanField_of_isWord lastWord, List.cons.injEq, and_true] at whole
  obtain rfl : cut = { row with keyspace := String.ofList last } := by
    cases cut
    simp_all
  refine ⟨last, inField, rfl, ?_⟩
  rw [joined, toList_render]
  simp [texts]

end Row

/-! ### Rows of records -/

namespace OpKind

theorem isWord_name (kind : OpKind) : IsWord kind.name.toList := by
  rw [isWord_iff_all]
  cases kind <;> decide

theorem ofName?_name (kind : OpKind) : ofName? kind.name = some kind := by
  cases kind <;> rfl

end OpKind

namespace Keyspace

theorem isWord_name (k : Keyspace) : IsWord k.name.toList := by
  rw [isWord_iff_all]
  cases k <;> decide

theorem ofWireName?_name {k : Keyspace} (classified : k.isClassified = true) :
    ofWireName? k.name = some k := by
  cases k <;> first | rfl | cases classified

theorem name_of_unclassified {k : Keyspace} (unclassified : k.isClassified = false) :
    k.name = "UNCLASSIFIED" := by
  cases k <;> first | rfl | cases unclassified

theorem ofWireName?_name_unclassified {k : Keyspace} (unclassified : k.isClassified = false) :
    ofWireName? k.name = none := by
  cases k <;> first | rfl | cases unclassified

/-- No name in a log begins another name. -/
theorem eq_of_name_cut {k other : Keyspace} (classified : other.isClassified = true)
    (cut : other.name.toList <+: k.name.toList) : other = k := by
  revert cut
  cases k <;> cases other <;> first | cases classified; done | decide

theorem name_of_wireName? {k : Keyspace} {name : String} (wire : k.wireName? = some name) :
    k.isClassified = true ∧ k.name = name := by
  cases k <;> simp_all [wireName?, isClassified, Keyspace.name]

theorem ofWireName?_cut {k : Keyspace} {last : List Char} (cut : last <+: k.name.toList)
    (short : last ≠ k.name.toList) : ofWireName? (String.ofList last) = none := by
  rw [ofWireName?, List.find?_eq_none]
  intro other _ same
  obtain ⟨classified, named⟩ := name_of_wireName? (of_decide_eq_true same)
  have chars : other.name.toList = last := by rw [named, String.toList_ofList]
  have equal := eq_of_name_cut classified (chars ▸ cut)
  exact short (by rw [← chars, equal])

end Keyspace

namespace Record

/-- The record as it is read back from its line: an empty value is no value. -/
def asRead (r : Record) : Record := { r with value := if r.value = some [] then none else r.value }

theorem asRead_ofPayload {kind : OpKind} {key value : Bytes} {k : Keyspace} (ne_nil : value ≠ []) :
    (ofPayload kind key (some value) k).asRead = ofPayload kind key (some value) k := by
  rw [asRead, if_neg (by simpa [ofPayload] using ne_nil)]

theorem asRead_eq_iff {r : Record} : r.asRead = r ↔ r.value ≠ some [] := by
  constructor
  · intro same empty
    have value := congrArg Record.value same
    rw [asRead, if_pos empty, empty] at value
    cases value
  · intro present
    rw [asRead, if_neg present]

theorem getD_value_asRead (r : Record) : r.asRead.value.getD [] = r.value.getD [] := by
  rw [asRead]
  split
  · rename_i empty
    rw [empty]
    rfl
  · rfl

end Record

namespace Row

theorem ofWords_ofRecord (r : Record) : (ofRecord r).OfWords := by
  have value : IsWord (ofRecord r).value.toList := by
    cases h : r.value with
    | none => simp [ofRecord, h, IsWord]
    | some v => simpa [ofRecord, h] using Hex.isWord_encode v
  simp only [OfWords, texts, List.mem_cons, List.not_mem_nil, or_false, forall_eq_or_imp, forall_eq]
  exact ⟨r.kind.isWord_name, Hex.isWord_encode r.key, value, Decimal.isWord_toString _,
    Decimal.isWord_toString _, r.keyspace.isWord_name⟩

theorem decodeValue_ofRecord (r : Record) :
    decodeValue (ofRecord r).value = .ok r.asRead.value := by
  simp only [ofRecord, Record.asRead]
  match r.value with
  | none => rfl
  | some [] => rfl
  | some (byte :: rest) =>
    have some : (Hex.encode (byte :: rest)).isEmpty = false := by
      rw [← Bool.not_eq_true, String.isEmpty_iff, Hex.encode_eq_empty_iff]
      exact List.cons_ne_nil _ _
    rw [Option.map_some, Option.getD_some, decodeValue, some, Hex.decode_encode]
    rfl

theorem value_ofRecord (r : Record) : (ofRecord r).value = Hex.encode (r.value.getD []) := by
  rw [ofRecord]
  cases r.value with
  | none => exact (Hex.encode_eq_empty_iff.mpr rfl).symm
  | some v => rfl

theorem ofRecord_asRead (r : Record) : ofRecord r.asRead = ofRecord r := by
  have value : (ofRecord r.asRead).value = (ofRecord r).value := by
    rw [value_ofRecord, value_ofRecord, Record.getD_value_asRead]
  calc ofRecord r.asRead = { ofRecord r with value := (ofRecord r.asRead).value } := rfl
    _ = ofRecord r := by rw [value]

theorem decodeSize_toString (column : Column) (n : UInt64) :
    decodeSize column (toString n.toNat) = .ok n := by
  rw [decodeSize, Decimal.word?_toString]

/-- Decoding the row of a record, with whatever keyspace its last column names. -/
theorem decode_ofRecord_with (r : Record) (text : String) :
    decode { ofRecord r with keyspace := text } =
      (decodeKeyspace text).map fun k => { r.asRead with keyspace := k } := by
  have kind : decodeKind r.kind.name = .ok r.kind := by rw [decodeKind, OpKind.ofName?_name]
  have value := decodeValue_ofRecord r
  simp only [ofRecord] at value
  simp only [decode, ofRecord, kind, Hex.decode_encode, value, decodeSize_toString]
  cases decodeKeyspace text <;> rfl

theorem decode_ofRecord {r : Record} (classified : r.keyspace.isClassified = true) :
    (ofRecord r).decode = .ok r.asRead := by
  have decoded := decode_ofRecord_with r r.keyspace.name
  rwa [decodeKeyspace, Keyspace.ofWireName?_name classified] at decoded

theorem decode_ofRecord_unclassified {r : Record} (unclassified : r.keyspace.isClassified = false) :
    (ofRecord r).decode = .error (.unknownKeyspace r.keyspace.name) := by
  have decoded := decode_ofRecord_with r r.keyspace.name
  rwa [decodeKeyspace, Keyspace.ofWireName?_name_unclassified unclassified] at decoded

/-- The row of a record does not decode once its last column is cut short. -/
theorem decode_cut (r : Record) {last : List Char} (cut : last <+: r.keyspace.name.toList)
    (short : last ≠ r.keyspace.name.toList) :
    ({ ofRecord r with keyspace := String.ofList last } : Row).decode.toOption = none := by
  rw [decode_ofRecord_with, decodeKeyspace, Keyspace.ofWireName?_cut cut short]
  rfl

theorem isHeader_ofRecord (r : Record) (text : String) :
    ({ ofRecord r with keyspace := text } : Row).isHeader = false := by
  have other : r.kind.name ≠ Column.operation.name := by
    cases r.kind <;> decide
  simp [isHeader, ofRecord, other]

end Row

end TrieJournal
