import TrieJournal.Text.Blank
import TrieJournal.Text.Decimal
import TrieJournal.Text.Hex

/-!
# Texts that read back

What is encoded in UTF-8, packed from nibbles, written as hex digits or written in decimal is read
back as it was. Hex and decimal digits make up words: texts of ASCII letters, digits and
underscores. Each character of a word is one byte, and none of them separates fields, ends a line or
is trimmed.
-/

namespace TrieJournal

/-! ### Words -/

def isWordChar (c : Char) : Bool :=
  ('A' ≤ c ∧ c ≤ 'Z') ∨ ('a' ≤ c ∧ c ≤ 'z') ∨ ('0' ≤ c ∧ c ≤ '9') ∨ c = '_'

/-- A text of ASCII letters, digits and underscores. -/
def IsWord (text : List Char) : Prop := ∀ c ∈ text, isWordChar c = true

theorem isWord_iff_all {text : List Char} : IsWord text ↔ text.all isWordChar = true :=
  List.all_eq_true.symm

theorem IsWord.of_cut {text part : List Char} (word : IsWord text) (cut : part <+: text) :
    IsWord part :=
  fun c mem => word c (cut.subset mem)

theorem isWordChar_iff (c : Char) : isWordChar c = true ↔ (65 ≤ c.toNat ∧ c.toNat ≤ 90) ∨
    (97 ≤ c.toNat ∧ c.toNat ≤ 122) ∨ (48 ≤ c.toNat ∧ c.toNat ≤ 57) ∨ c.toNat = 95 := by
  have underscore : c = '_' ↔ c.toNat = 95 := by
    rw [← Char.toNat_inj]
    rfl
  rw [isWordChar, decide_eq_true_eq, underscore]
  simp only [Char.le_def, UInt32.le_iff_toNat_le]
  rfl

theorem isWordChar_toNat_lt {c : Char} (word : isWordChar c = true) : c.toNat < 128 := by
  have range := (isWordChar_iff c).mp word
  omega

theorem not_isBlank_of_isWordChar {c : Char} (word : isWordChar c = true) :
    Blank.isBlank c = false := by
  have range := (isWordChar_iff c).mp word
  simp only [Blank.isBlank, Bool.or_eq_false_iff, Bool.and_eq_false_iff, decide_eq_false_iff_not]
  omega

theorem IsWord.not_mem {text : List Char} {c : Char} (word : IsWord text)
    (other : isWordChar c = false) : c ∉ text := by
  intro mem
  rw [word c mem] at other
  cases other

/-! ### UTF-8 -/

namespace Utf8

theorem decode?_encode (s : String) : decode? (encode s) = some s := by
  have bytes : (encode s).toByteArray = s.toByteArray := String.utf8Encode_toList
  rw [decode?, bytes, String.fromUTF8?, dif_pos s.isValidUTF8]
  rfl

theorem encode_of_ascii {text : List Char} (ascii : ∀ c ∈ text, c.toNat < 128) :
    encode (String.ofList text) = text.map fun c => UInt8.ofNat c.toNat := by
  induction text with
  | nil => rfl
  | cons c text ih =>
    have first : String.utf8EncodeChar c = [UInt8.ofNat c.toNat] := by
      have small : c.val.toNat ≤ 0x7f := Nat.le_of_lt_succ (ascii c List.mem_cons_self)
      rw [String.utf8EncodeChar, if_pos small]
      rfl
    have rest := ih fun d mem => ascii d (List.mem_cons_of_mem c mem)
    simp only [encode, String.toList_ofList] at rest ⊢
    rw [List.flatMap_cons, first, rest]
    rfl

/-- A prefix of an encoded ASCII text encodes a prefix of the text. -/
theorem encode_cut {text : List Char} {p : Bytes} (ascii : ∀ c ∈ text, c.toNat < 128)
    (cut : p <+: encode (String.ofList text)) :
    ∃ part, part <+: text ∧ p = encode (String.ofList part) := by
  rw [encode_of_ascii ascii] at cut
  obtain ⟨part, inText, rfl⟩ := List.prefix_map_iff.mp cut
  exact ⟨part, inText, (encode_of_ascii fun c mem => ascii c (inText.subset mem)).symm⟩

end Utf8

/-! ### Nibbles -/

namespace Nibble

theorem pack_high_low (byte : UInt8) : pack (high byte) (low byte) = byte := by
  apply UInt8.toNat_inj.mp
  simp only [pack, high, low, Nat.div_add_mod, UInt8.ofNat_toNat]

theorem length_ofBytes (b : Bytes) : (ofBytes b).length = 2 * b.length := by
  induction b with
  | nil => rfl
  | cons byte b ih =>
    simp only [ofBytes, List.flatMap_cons, List.length_append, List.length_cons] at ih ⊢
    simp only [ih, List.length_nil]
    omega

theorem toNat_pack (h l : Nibble) : (pack h l).toNat = 16 * h.val + l.val := by
  have highBound := h.isLt
  have lowBound := l.isLt
  rw [pack, UInt8.toNat_ofNat']
  omega

theorem high_pack (h l : Nibble) : high (pack h l) = h := by
  have lowBound := l.isLt
  apply Fin.ext
  simp only [high, toNat_pack]
  omega

theorem low_pack (h l : Nibble) : low (pack h l) = l := by
  have lowBound := l.isLt
  apply Fin.ext
  simp only [low, toNat_pack]
  omega

theorem ofBytes_cons (byte : UInt8) (b : Bytes) :
    ofBytes (byte :: b) = high byte :: low byte :: ofBytes b := rfl

theorem toBytes_ofBytes (b : Bytes) : toBytes (ofBytes b) = b := by
  induction b with
  | nil => rfl
  | cons byte b ih => rw [ofBytes_cons, toBytes, pack_high_low, ih]

theorem ofBytes_toBytes {l : List Nibble} (even : l.length % 2 = 0) : ofBytes (toBytes l) = l := by
  fun_induction toBytes l with
  | case1 h l rest ih =>
    simp only [List.length_cons] at even
    rw [ofBytes_cons, high_pack, low_pack, ih (by omega)]
  | case2 l noPair =>
    match l with
    | [] => rfl
    | [n] => simp at even
    | h :: l :: rest => exact absurd rfl (noPair h l rest)

theorem length_toBytes (l : List Nibble) : (toBytes l).length = l.length / 2 := by
  fun_induction toBytes l with
  | case1 h l rest ih =>
    simp only [List.length_cons, ih]
    omega
  | case2 l noPair =>
    match l with
    | [] => rfl
    | [n] => simp
    | h :: l :: rest => exact absurd rfl (noPair h l rest)

theorem isWordChar_digit (n : Nibble) : isWordChar n.digit = true := by
  decide +revert

end Nibble

/-! ### Hex digits -/

namespace Hex

theorem isWord_encode (b : Bytes) : IsWord (encode b).toList := by
  intro c mem
  rw [encode, String.toList_ofList] at mem
  obtain ⟨n, -, rfl⟩ := List.mem_map.mp mem
  exact n.isWordChar_digit

theorem encode_eq_empty_iff {b : Bytes} : encode b = "" ↔ b = [] := by
  cases b <;> simp [encode, Nibble.ofBytes]

def digitByte (n : Nibble) : UInt8 := UInt8.ofNat n.digit.toNat

theorem digit?_digitByte (n : Nibble) : digit? (digitByte n) = some n := by
  decide +revert

theorem digitByte_ne_mark (n : Nibble) : digitByte n ≠ 120 ∧ digitByte n ≠ 88 := by
  decide +revert

theorem utf8_encode (b : Bytes) : Utf8.encode (encode b) = (Nibble.ofBytes b).map digitByte := by
  rw [encode, Utf8.encode_of_ascii, List.map_map]
  · rfl
  · intro c mem
    obtain ⟨n, -, rfl⟩ := List.mem_map.mp mem
    exact isWordChar_toNat_lt n.isWordChar_digit

theorem dropMark_digits (l : List Nibble) : dropMark (l.map digitByte) = l.map digitByte := by
  match l with
  | [] => rfl
  | [n] => simp [dropMark]
  | m :: n :: rest =>
    obtain ⟨small, large⟩ := digitByte_ne_mark n
    simp only [List.map_cons]
    unfold dropMark
    split <;> simp_all

theorem decodePairs_digits (offset : Nat) (b : Bytes) :
    decodePairs offset ((Nibble.ofBytes b).map digitByte) = .ok b := by
  induction b generalizing offset with
  | nil => rfl
  | cons byte b ih =>
    simp only [Nibble.ofBytes, List.flatMap_cons, List.map_cons, List.cons_append, List.nil_append,
      decodePairs, digitAt, digit?_digitByte]
    have rest := ih (offset + 2)
    simp only [Nibble.ofBytes] at rest
    simp only [rest, bind, Except.bind, pure, Except.pure, Nibble.pack_high_low]

theorem decode_encode (b : Bytes) : decode (encode b) = .ok b := by
  have even : ((Nibble.ofBytes b).map digitByte).length % 2 = 0 := by
    rw [List.length_map, Nibble.length_ofBytes, Nat.mul_mod_right]
  rw [decode, utf8_encode, dropMark_digits, decodeDigits, if_neg (by omega), decodePairs_digits]

end Hex

/-! ### Decimal digits -/

namespace Decimal

theorem isWord_toString (n : Nat) : IsWord (toString n).toList := by
  intro c mem
  rw [Nat.toString_eq_repr, Nat.toList_repr] at mem
  have digit := Nat.isDigit_of_mem_toDigits (by decide) (by decide) mem
  obtain ⟨low, high⟩ := Bool.and_eq_true_iff.mp digit
  have range : '0' ≤ c ∧ c ≤ '9' := ⟨of_decide_eq_true low, of_decide_eq_true high⟩
  exact decide_eq_true (Or.inr (Or.inr (Or.inl range)))

theorem digit?_digitChar {d : Nat} (small : d < 10) : digit? (Nat.digitChar d) = some d := by
  revert small
  revert d
  decide

theorem value?_toDigits (n : Nat) : value? (Nat.toDigits 10 n) = some n := by
  induction n using Nat.strongRecOn with
  | ind n ih =>
    by_cases small : n < 10
    · simp [Nat.toDigits_of_lt_base small, value?, digit?_digitChar small]
    · have front := ih (n / 10) (by omega)
      have last := digit?_digitChar (Nat.mod_lt n (show 0 < 10 by decide))
      simp only [value?] at front ⊢
      rw [Nat.toDigits_of_base_le (by decide) (by omega), List.foldlM_append, front]
      simp only [List.foldlM_cons, List.foldlM_nil, last, Option.map_some, bind, Option.bind_some,
        pure, Option.some.injEq]
      omega

theorem wordOfDigits?_toDigits (n : UInt64) :
    wordOfDigits? (Nat.toDigits 10 n.toNat) = some n := by
  simp [wordOfDigits?, Nat.toDigits_ne_nil, value?_toDigits, n.toNat_lt]

theorem word?_toString (n : UInt64) : word? (toString n.toNat) = some n := by
  have unsigned : '+' ∉ Nat.toDigits 10 n.toNat := by
    have word := (isWord_toString n.toNat).not_mem (c := '+') (by decide)
    rwa [Nat.toString_eq_repr, Nat.toList_repr] at word
  rw [word?, Nat.toString_eq_repr, Nat.toList_repr]
  split
  · rename_i digits split
    exact absurd (split ▸ List.mem_cons_self) unsigned
  · exact wordOfDigits?_toDigits n

end Decimal

end TrieJournal
