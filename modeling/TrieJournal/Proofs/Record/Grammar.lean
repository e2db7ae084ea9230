import TrieJournal.Proofs.Record.Decoding
import TrieJournal.Proofs.Text.Grammar

/-!
# The rows that decode

A row decodes if each of its columns holds a text that fits the column, whatever the others hold.
The record is then what the texts spell. Otherwise the error is about the leftmost text that does
not fit.
-/

namespace TrieJournal

/-! ### Columns -/

namespace Column

def all : List Column := [operation, key, value, keySize, valueSize, keyspace]

theorem mem_all (c : Column) : c ∈ all := by
  cases c <;> decide

def Admits : Column → String → Prop
  | operation, text => ∃ kind : OpKind, kind.name = text
  | key, text | value, text => Hex.IsHex text
  | keySize, text | valueSize, text => ∃ n < UInt64.size, Decimal.Spells text n
  | keyspace, text => ∃ k : Keyspace, k.wireName? = some text

end Column

def RecordError.column : RecordError → Column
  | unknownOperation _ => .operation
  | notHex column _ | notSize column _ => column
  | unknownKeyspace _ => .keyspace

namespace Row

def text (row : Row) : Column → String
  | .operation => row.operation
  | .key => row.key
  | .value => row.value
  | .keySize => row.keySize
  | .valueSize => row.valueSize
  | .keyspace => row.keyspace

theorem texts_eq (row : Row) : row.texts = Column.all.map row.text := rfl

theorem text_mem_texts (row : Row) (c : Column) : row.text c ∈ row.texts :=
  row.texts_eq ▸ List.mem_map_of_mem c.mem_all

/-- The record is what the texts of the row spell. -/
structure Spells (row : Row) (r : Record) : Prop where
  operation : r.kind.name = row.operation
  key : Hex.Spells row.key r.key
  noValue : r.value = none ↔ row.value = ""
  value : ∀ v, r.value = some v → Hex.Spells row.value v
  keySize : Decimal.Spells row.keySize r.keySize.toNat
  valueSize : Decimal.Spells row.valueSize r.valueSize.toNat
  keyspace : r.keyspace.wireName? = some row.keyspace

/-- The column is the leftmost whose text does not fit it. -/
def FirstFault (row : Row) (c : Column) : Prop :=
  ∃ before after, Column.all = before ++ c :: after ∧
    (∀ d ∈ before, d.Admits (row.text d)) ∧ ¬c.Admits (row.text c)

end Row

/-! ### Readings -/

theorem OpKind.ofName?_eq_some {text : String} {kind : OpKind} :
    ofName? text = some kind ↔ kind.name = text := by
  constructor
  · intro found
    have named := List.find?_some found
    exact of_decide_eq_true named
  · rintro rfl
    exact ofName?_name kind

theorem Keyspace.ofWireName?_eq_some {text : String} {k : Keyspace} :
    ofWireName? text = some k ↔ k.wireName? = some text := by
  constructor
  · intro found
    have named := List.find?_some found
    exact of_decide_eq_true named
  · intro named
    obtain ⟨classified, rfl⟩ := name_of_wireName? named
    exact ofWireName?_name classified

namespace Row

theorem decodeKeyspace_eq_ok {text : String} {k : Keyspace} :
    decodeKeyspace text = .ok k ↔ k.wireName? = some text := by
  rw [← Keyspace.ofWireName?_eq_some]
  unfold decodeKeyspace
  split <;> simp_all

theorem decodeSize_eq_ok {column : Column} {text : String} {n : UInt64} :
    decodeSize column text = .ok n ↔ Decimal.Spells text n.toNat := by
  rw [← Decimal.word?_eq_some_iff]
  unfold decodeSize
  split <;> simp_all

theorem decodeValue_eq_ok {text : String} {value : Option Bytes} :
    decodeValue text = .ok value ↔
      (value = none ↔ text = "") ∧ ∀ v, value = some v → Hex.Spells text v := by
  by_cases empty : text = ""
  · subst empty
    constructor
    · intro read
      obtain rfl := Except.ok.inj read
      exact ⟨by simp, nofun⟩
    · rintro ⟨absent, -⟩
      rw [absent.mpr rfl]
      rfl
  · have filled : text.isEmpty = false := by simpa using empty
    rw [decodeValue, filled, if_neg Bool.false_ne_true]
    simp only [map_eq_ok, mapError_eq_ok, Hex.decode_eq_ok_iff]
    constructor
    · rintro ⟨v, spelled, rfl⟩
      refine ⟨by simp [empty], fun w same => ?_⟩
      rwa [← Option.some.inj same]
    · rintro ⟨absent, spelled⟩
      cases value with
      | none => exact absurd (absent.mp rfl) empty
      | some v => exact ⟨v, spelled v rfl, rfl⟩

theorem exists_decodeValue_iff {text : String} :
    (∃ value, decodeValue text = .ok value) ↔ Hex.IsHex text := by
  rw [← Hex.exists_spells_iff]
  constructor
  · rintro ⟨value, read⟩
    exact ⟨_, Hex.decode_eq_ok_iff.mp (decode_of_decodeValue read)⟩
  · rintro ⟨b, spelled⟩
    by_cases empty : text = ""
    · exact ⟨none, decodeValue_eq_ok.mpr ⟨by simp [empty], nofun⟩⟩
    · refine ⟨some b, decodeValue_eq_ok.mpr ⟨by simp [empty], fun v same => ?_⟩⟩
      rwa [← Option.some.inj same]

/-! ### Errors -/

/-- The error that the text of one column gives by itself. -/
def fault? (row : Row) : Column → Option RecordError
  | .operation => error? (decodeKind row.operation)
  | .key => error? ((Hex.decode row.key).mapError (.notHex .key))
  | .value => error? (decodeValue row.value)
  | .keySize => error? (decodeSize .keySize row.keySize)
  | .valueSize => error? (decodeSize .valueSize row.valueSize)
  | .keyspace => error? (decodeKeyspace row.keyspace)

theorem error?_decode (row : Row) : error? row.decode = Column.all.findSome? row.fault? := by
  unfold decode
  simp only [Column.all, List.findSome?_cons, List.findSome?_nil, fault?]
  cases decodeKind row.operation
  case error => rfl
  cases (Hex.decode row.key).mapError (RecordError.notHex .key)
  case error => rfl
  cases decodeValue row.value
  case error => rfl
  cases decodeSize .keySize row.keySize
  case error => rfl
  cases decodeSize .valueSize row.valueSize
  case error => rfl
  cases decodeKeyspace row.keyspace <;> rfl

theorem fault?_eq_none {row : Row} {c : Column} :
    row.fault? c = none ↔ c.Admits (row.text c) := by
  cases c
  all_goals simp only [fault?, error?_eq_none, decodeKind_eq_ok, OpKind.ofName?_eq_some,
    mapError_eq_ok, Hex.decode_eq_ok_iff, Hex.exists_spells_iff, exists_decodeValue_iff,
    decodeSize_eq_ok, Decimal.exists_word_iff, decodeKeyspace_eq_ok, Column.Admits, text]

theorem column_of_fault? {row : Row} {c : Column} {e : RecordError}
    (fault : row.fault? c = some e) : e.column = c := by
  cases c
  all_goals rw [fault?, error?_eq_some] at fault
  case operation =>
    unfold decodeKind at fault
    split at fault
    · cases fault
    · cases fault
      rfl
  case key =>
    obtain ⟨_, -, rfl⟩ := mapError_eq_error.mp fault
    rfl
  case value =>
    unfold decodeValue at fault
    split at fault
    · cases fault
    · obtain ⟨_, -, rfl⟩ := mapError_eq_error.mp (map_eq_error.mp fault)
      rfl
  case keySize | valueSize =>
    unfold decodeSize at fault
    split at fault
    · cases fault
    · cases fault
      rfl
  case keyspace =>
    unfold decodeKeyspace at fault
    split at fault
    · cases fault
    · cases fault
      rfl

/-- The error of a row is about its leftmost text that does not fit. -/
theorem firstFault_iff {row : Row} {c : Column} :
    row.FirstFault c ↔ ∃ e, row.decode = .error e ∧ e.column = c := by
  simp only [← error?_eq_some, error?_decode, List.findSome?_eq_some_iff, fault?_eq_none]
  constructor
  · rintro ⟨before, after, order, fits, unfit⟩
    obtain ⟨e, fault⟩ := Option.ne_none_iff_exists'.mp (mt fault?_eq_none.mp unfit)
    exact ⟨e, ⟨before, c, after, order, fault, fits⟩, column_of_fault? fault⟩
  · rintro ⟨e, ⟨before, d, after, order, fault, fits⟩, about⟩
    obtain rfl := (column_of_fault? fault).symm.trans about
    refine ⟨before, after, order, fits, fun fit => ?_⟩
    rw [fault?_eq_none.mpr fit] at fault
    cases fault

theorem decode_eq_ok_iff_spells {row : Row} {r : Record} : row.decode = .ok r ↔ row.Spells r := by
  simp only [decode_eq_ok, decodeKind_eq_ok, OpKind.ofName?_eq_some, Hex.decode_eq_ok_iff,
    decodeValue_eq_ok, decodeSize_eq_ok, decodeKeyspace_eq_ok]
  constructor
  · rintro ⟨operation, key, ⟨noValue, value⟩, keySize, valueSize, keyspace⟩
    exact ⟨operation, key, noValue, value, keySize, valueSize, keyspace⟩
  · rintro ⟨operation, key, noValue, value, keySize, valueSize, keyspace⟩
    exact ⟨operation, key, ⟨noValue, value⟩, keySize, valueSize, keyspace⟩

theorem exists_decode_iff {row : Row} :
    (∃ r, row.decode = .ok r) ↔ ∀ c : Column, c.Admits (row.text c) := by
  simp only [← error?_eq_none, error?_decode, List.findSome?_eq_none_iff, fault?_eq_none]
  exact ⟨fun fits c => fits c c.mem_all, fun fits c _ => fits c⟩

/-- A row decodes if and only if the text of each column fits it, and to the record that the texts
spell. Otherwise the error is about the leftmost column whose text does not fit. -/
theorem decode_grammar (row : Row) :
    ((∃ r, row.decode = .ok r) ↔ ∀ c : Column, c.Admits (row.text c)) ∧
    (∀ r, row.decode = .ok r ↔ row.Spells r) ∧
    ∀ c, (∃ e, row.decode = .error e ∧ e.column = c) ↔ row.FirstFault c :=
  ⟨exists_decode_iff, fun _ => decode_eq_ok_iff_spells, fun _ => firstFault_iff.symm⟩

end Row

end TrieJournal
