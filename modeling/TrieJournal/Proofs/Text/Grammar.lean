import Mathlib.Data.List.Basic
import TrieJournal.Proofs.Reading
import TrieJournal.Proofs.Text.Codec

/-!
# Texts that are numbers

The readers of hex and decimal texts accept exactly these: pairs of hex digits of either case behind
at most one mark, and decimal digits, at least one, behind at most one plus sign, for a number below
`2 ^ 64`. Digits and marks are ASCII, so each of their characters is one byte.
-/

namespace TrieJournal

/-! ### ASCII in UTF-8 -/

namespace Utf8

def asciiByte (c : Char) : UInt8 := UInt8.ofNat c.toNat

theorem exists_large_byte {c : Char} (wide : ¬c.toNat < 128) :
    ∃ byte ∈ String.utf8EncodeChar c, ¬byte.toNat < 128 := by
  have wide : ¬c.val.toNat ≤ 0x7f := fun small => wide (Nat.lt_succ_of_le small)
  refine ⟨UInt8.ofNat (c.val.toNat % 0x40 + 0x80), ?_, ?_⟩
  · rw [String.utf8EncodeChar, if_neg wide]
    split
    · simp
    · split <;> simp
  · rw [UInt8.toNat_ofNat']
    omega

theorem ascii_of_encode {s : String} (small : ∀ byte ∈ encode s, byte.toNat < 128) :
    ∀ c ∈ s.toList, c.toNat < 128 := by
  intro c mem
  by_contra wide
  obtain ⟨byte, inChar, large⟩ := exists_large_byte wide
  exact large (small byte (List.mem_flatMap.mpr ⟨c, mem, inChar⟩))

theorem encode_eq_map {s : String} (ascii : ∀ c ∈ s.toList, c.toNat < 128) :
    encode s = s.toList.map asciiByte := by
  have encoded := encode_of_ascii ascii
  rwa [String.ofList_toList] at encoded

theorem forall_ascii {p : Char → Prop} (table : ∀ n < 128, p (Char.ofNat n)) {c : Char}
    (ascii : c.toNat < 128) : p c := by
  have entry := table c.toNat ascii
  rwa [Char.ofNat_toNat] at entry

theorem toNat_asciiByte {c : Char} (ascii : c.toNat < 128) : (asciiByte c).toNat = c.toNat := by
  rw [asciiByte, UInt8.toNat_ofNat', Nat.mod_eq_of_lt (by omega)]

/-- ASCII characters are told apart by their bytes. -/
theorem eq_of_map_asciiByte {l other : List Char} (ascii : ∀ c ∈ l, c.toNat < 128)
    (asciiOther : ∀ c ∈ other, c.toNat < 128)
    (same : l.map asciiByte = other.map asciiByte) : l = other := by
  have back {l : List Char} (ascii : ∀ c ∈ l, c.toNat < 128) :
      (l.map asciiByte).map (fun byte => Char.ofNat byte.toNat) = l := by
    rw [List.map_map]
    refine (List.map_congr_left fun c mem => ?_).trans (List.map_id l)
    rw [Function.comp_apply, toNat_asciiByte (ascii c mem), Char.ofNat_toNat]
    rfl
  rw [← back ascii, same, back asciiOther]

end Utf8

/-! ### Hex -/

namespace Hex
open Utf8 (asciiByte)

def isDigit (c : Char) : Bool :=
  c.isDigit || decide ('a' ≤ c ∧ c ≤ 'f') || decide ('A' ≤ c ∧ c ≤ 'F')

/-- What may stand in front of the digits. -/
def marks : List (List Char) := [[], ['0', 'x'], ['0', 'X']]

/-- An even number of digits, behind at most one mark. -/
def IsHex (s : String) : Prop :=
  ∃ mark ∈ marks, ∃ digits, s.toList = mark ++ digits ∧ digits.length % 2 = 0 ∧
    ∀ c ∈ digits, isDigit c = true

/-- In lower case, the digits of the text are those that encode the bytes. -/
def Spells (s : String) (b : Bytes) : Prop :=
  ∃ mark ∈ marks, ∃ digits, s.toList = mark ++ digits ∧
    String.ofList (digits.map Char.toLower) = encode b

theorem toLower_of_large {c : Char} (wide : ¬c.toNat < 128) : c.toLower = c := by
  have above : ¬(c.val ≥ 'A'.val ∧ c.val ≤ 'Z'.val) := by
    rintro ⟨-, small⟩
    exact wide (Nat.lt_of_le_of_lt small (by decide))
  exact dif_neg above

theorem ascii_of_toLower {c : Char} {n : Nibble} (spelled : c.toLower = n.digit) :
    c.toNat < 128 := by
  by_contra wide
  rw [toLower_of_large wide] at spelled
  exact wide (spelled ▸ isWordChar_toNat_lt n.isWordChar_digit)

theorem digit?_asciiByte {c : Char} (ascii : c.toNat < 128) (n : Nibble) :
    digit? (asciiByte c) = some n ↔ c.toLower = n.digit := by
  revert n
  exact Utf8.forall_ascii (p := fun c => ∀ n : Nibble, digit? (asciiByte c) = some n ↔
    c.toLower = n.digit) (by decide +kernel) ascii

theorem ascii_of_isDigit {c : Char} (digit : isDigit c = true) : c.toNat < 128 := by
  simp only [isDigit, Char.isDigit, Bool.or_eq_true, Bool.and_eq_true, decide_eq_true_eq,
    Char.le_def, UInt32.le_iff_toNat_le, ge_iff_le] at digit
  rcases digit with (⟨-, h⟩ | ⟨-, h⟩) | ⟨-, h⟩
  all_goals exact Nat.lt_of_le_of_lt h (by decide)

theorem isDigit_iff (c : Char) : isDigit c = true ↔ ∃ n : Nibble, c.toLower = n.digit := by
  by_cases ascii : c.toNat < 128
  · exact Utf8.forall_ascii (p := fun c => isDigit c = true ↔ ∃ n : Nibble, c.toLower = n.digit)
      (by decide +kernel) ascii
  · refine ⟨fun digit => absurd (ascii_of_isDigit digit) ascii, ?_⟩
    rintro ⟨n, spelled⟩
    exact absurd (ascii_of_toLower spelled) ascii

/-- Digits in either case that are, in lower case, those of the nibbles. -/
theorem map_digit?_iff {digits : List Char} (ascii : ∀ c ∈ digits, c.toNat < 128)
    {nibbles : List Nibble} : (digits.map asciiByte).map digit? = nibbles.map some ↔
      digits.map Char.toLower = nibbles.map Nibble.digit := by
  induction digits generalizing nibbles with
  | nil => cases nibbles <;> simp
  | cons c digits ih =>
    obtain ⟨first, others⟩ := List.forall_mem_cons.mp ascii
    cases nibbles with
    | nil => simp
    | cons n nibbles =>
      simp only [List.map_cons, List.cons.injEq, digit?_asciiByte first, ih others]

theorem exists_nibbles {digits : List Char} (all : ∀ c ∈ digits, isDigit c = true) :
    ∃ nibbles : List Nibble, digits.map Char.toLower = nibbles.map Nibble.digit := by
  induction digits with
  | nil => exact ⟨[], rfl⟩
  | cons c digits ih =>
    obtain ⟨first, others⟩ := List.forall_mem_cons.mp all
    obtain ⟨n, same⟩ := (isDigit_iff c).mp first
    obtain ⟨nibbles, rest⟩ := ih others
    exact ⟨n :: nibbles, by rw [List.map_cons, List.map_cons, same, rest]⟩

theorem isDigit_of_map {digits : List Char} {nibbles : List Nibble}
    (spelled : digits.map Char.toLower = nibbles.map Nibble.digit) :
    ∀ c ∈ digits, isDigit c = true := by
  intro c mem
  have lower : c.toLower ∈ nibbles.map Nibble.digit := spelled ▸ List.mem_map_of_mem mem
  obtain ⟨n, -, same⟩ := List.mem_map.mp lower
  exact (isDigit_iff c).mpr ⟨n, same.symm⟩

theorem spells_iff {s : String} {b : Bytes} : Spells s b ↔ ∃ mark ∈ marks, ∃ digits,
    s.toList = mark ++ digits ∧ digits.map Char.toLower = (Nibble.ofBytes b).map Nibble.digit := by
  simp only [Spells, encode, String.ofList_inj]

/-- A text spells some bytes if and only if it is hex. -/
theorem exists_spells_iff {s : String} : (∃ b, Spells s b) ↔ IsHex s := by
  simp only [spells_iff]
  constructor
  · rintro ⟨b, mark, isMark, digits, split, spelled⟩
    have length := congrArg List.length spelled
    rw [List.length_map, List.length_map, Nibble.length_ofBytes] at length
    exact ⟨mark, isMark, digits, split, by omega, isDigit_of_map spelled⟩
  · rintro ⟨mark, isMark, digits, split, even, all⟩
    obtain ⟨nibbles, spelled⟩ := exists_nibbles all
    have length := congrArg List.length spelled
    rw [List.length_map, List.length_map] at length
    have paired : Nibble.ofBytes (Nibble.toBytes nibbles) = nibbles :=
      Nibble.ofBytes_toBytes (by omega)
    exact ⟨Nibble.toBytes nibbles, mark, isMark, digits, split, by rw [paired, spelled]⟩

/-! ### Reading hex -/

theorem digitAt_eq_ok {byte : UInt8} {offset : Nat} {n : Nibble} :
    digitAt byte offset = .ok n ↔ digit? byte = some n := by
  unfold digitAt
  split <;> simp_all

theorem decodePairs_eq_ok {offset : Nat} {digits b : Bytes} (even : digits.length % 2 = 0) :
    decodePairs offset digits = .ok b ↔ digits.map digit? = (Nibble.ofBytes b).map some := by
  induction offset, digits using decodePairs.induct generalizing b with
  | case1 offset h l rest ih =>
    have rest {bytes : Bytes} := ih (b := bytes) (by simp only [List.length_cons] at even; omega)
    simp only [decodePairs, bind_eq_ok, digitAt_eq_ok, rest]
    constructor
    · rintro ⟨high, highRead, low, lowRead, bytes, bytesRead, same⟩
      obtain rfl := Except.ok.inj same
      simp only [List.map_cons, Nibble.ofBytes_cons, Nibble.high_pack, Nibble.low_pack, highRead,
        lowRead, bytesRead]
    · intro read
      cases b with
      | nil => simp [Nibble.ofBytes] at read
      | cons byte bytes =>
        simp only [List.map_cons, Nibble.ofBytes_cons, List.cons.injEq] at read
        obtain ⟨highRead, lowRead, bytesRead⟩ := read
        exact ⟨_, highRead, _, lowRead, bytes, bytesRead, by rw [Nibble.pack_high_low]; rfl⟩
  | case2 digits offset noPair =>
    rcases digits with _ | ⟨h, _ | ⟨l, rest⟩⟩
    · cases b <;> simp [decodePairs, Nibble.ofBytes]
    · simp at even
    · exact absurd rfl (noPair h l rest)

theorem decodeDigits_eq_ok {digits b : Bytes} :
    decodeDigits digits = .ok b ↔ digits.map digit? = (Nibble.ofBytes b).map some := by
  by_cases odd : digits.length % 2 = 1
  · rw [decodeDigits, if_pos odd]
    constructor
    · intro failed
      cases failed
    · intro read
      have length := congrArg List.length read
      rw [List.length_map, List.length_map, Nibble.length_ofBytes] at length
      omega
  · rw [decodeDigits, if_neg odd]
    exact decodePairs_eq_ok (by omega)

theorem digit?_lt {byte : UInt8} {n : Nibble} (digit : digit? byte = some n) :
    byte.toNat < 128 := by
  unfold digit? at digit
  simp only at digit
  split at digit
  · omega
  · split at digit
    · omega
    · split at digit
      · omega
      · cases digit

theorem ascii_of_marks {mark : List Char} (isMark : mark ∈ marks) : ∀ c ∈ mark, c.toNat < 128 := by
  simp only [marks, List.mem_cons, List.not_mem_nil, or_false] at isMark
  rcases isMark with rfl | rfl | rfl <;> simp

theorem exists_mark (b : Bytes) : ∃ mark ∈ marks, b = mark.map asciiByte ++ dropMark b := by
  unfold dropMark
  split
  · exact ⟨['0', 'x'], by decide, rfl⟩
  · exact ⟨['0', 'X'], by decide, rfl⟩
  · exact ⟨[], by decide, rfl⟩

theorem exists_digit {digits : Bytes} {nibbles : List Nibble}
    (read : digits.map digit? = nibbles.map some) : ∀ byte ∈ digits, ∃ n, digit? byte = some n := by
  intro byte mem
  have digit : digit? byte ∈ nibbles.map some := read ▸ List.mem_map_of_mem mem
  obtain ⟨n, -, same⟩ := List.mem_map.mp digit
  exact ⟨n, same.symm⟩

/-- No mark is taken from digits, since the second character of one is no digit. -/
theorem dropMark_append {mark : List Char} (isMark : mark ∈ marks) {digits : Bytes}
    {nibbles : List Nibble} (read : digits.map digit? = nibbles.map some) :
    dropMark (mark.map asciiByte ++ digits) = digits := by
  simp only [marks, List.mem_cons, List.not_mem_nil, or_false] at isMark
  rcases isMark with rfl | rfl | rfl
  · rw [List.map_nil, List.nil_append]
    unfold dropMark
    split
    case h_1 | h_2 =>
      obtain ⟨n, digit⟩ := exists_digit read _ (List.mem_cons_of_mem _ List.mem_cons_self)
      cases digit
    case h_3 => rfl
  · rfl
  · rfl

/-- Reading succeeds on exactly the texts that spell bytes, and gives these. -/
theorem decode_eq_ok_iff {s : String} {b : Bytes} : decode s = .ok b ↔ Spells s b := by
  rw [decode, decodeDigits_eq_ok, spells_iff]
  constructor
  · intro read
    obtain ⟨mark, isMark, cut⟩ := exists_mark (Utf8.encode s)
    have ascii : ∀ c ∈ s.toList, c.toNat < 128 := by
      refine Utf8.ascii_of_encode fun byte mem => ?_
      rw [cut] at mem
      rcases List.mem_append.mp mem with inMark | inDigits
      · obtain ⟨c, present, rfl⟩ := List.mem_map.mp inMark
        have small := ascii_of_marks isMark c present
        rwa [Utf8.toNat_asciiByte small]
      · obtain ⟨n, digit⟩ := exists_digit read byte inDigits
        exact digit?_lt digit
    rw [Utf8.encode_eq_map ascii] at cut read
    obtain ⟨front, digits, whole, frontBytes, digitBytes⟩ := List.map_eq_append_iff.mp cut
    rw [whole] at ascii
    obtain ⟨asciiFront, asciiDigits⟩ := List.forall_mem_append.mp ascii
    obtain rfl := Utf8.eq_of_map_asciiByte asciiFront (ascii_of_marks isMark) frontBytes
    rw [← digitBytes] at read
    exact ⟨front, isMark, digits, whole, (map_digit?_iff asciiDigits).mp read⟩
  · rintro ⟨mark, isMark, digits, split, spelled⟩
    have ascii : ∀ c ∈ digits, c.toNat < 128 :=
      fun c mem => ascii_of_isDigit (isDigit_of_map spelled c mem)
    have read := (map_digit?_iff ascii).mpr spelled
    have whole : Utf8.encode s = mark.map asciiByte ++ digits.map asciiByte := by
      rw [Utf8.encode_eq_map, split, List.map_append]
      intro c mem
      rw [split] at mem
      exact (List.mem_append.mp mem).elim (ascii_of_marks isMark c) (ascii c)
    rw [whole, dropMark_append isMark read, read]

end Hex

/-! ### Decimal numbers -/

namespace Decimal

/-- Decimal digits, at least one, behind at most one plus sign, that stand for the number. -/
def Spells (s : String) (n : Nat) : Prop :=
  ∃ sign ∈ [[], ['+']], ∃ digits, s.toList = sign ++ digits ∧ digits ≠ [] ∧
    (∀ c ∈ digits, c.isDigit = true) ∧ Nat.ofDigitChars 10 digits 0 = n

theorem digit?_eq (c : Char) :
    digit? c = if c.isDigit then some (c.toNat - '0'.toNat) else none := by
  simp only [digit?, Char.isDigit, Char.le_def, ge_iff_le, Bool.and_eq_true, decide_eq_true_eq]

theorem foldlM_eq_some {digits : List Char} {init n : Nat} :
    digits.foldlM (fun n c => (digit? c).map (10 * n + ·)) init = some n ↔
      (∀ c ∈ digits, c.isDigit = true) ∧ Nat.ofDigitChars 10 digits init = n := by
  induction digits generalizing init with
  | nil => simp [pure]
  | cons c digits ih =>
    rw [List.foldlM_cons, digit?_eq, List.forall_mem_cons, Nat.ofDigitChars_cons]
    by_cases digit : c.isDigit = true
    · simp only [digit, if_true, Option.map_some, bind, Option.bind_some, ih, true_and]
    · simp [digit]

theorem wordOfDigits?_eq_some {digits : List Char} {n : UInt64} : wordOfDigits? digits = some n ↔
    digits ≠ [] ∧ (∀ c ∈ digits, c.isDigit = true) ∧ Nat.ofDigitChars 10 digits 0 = n.toNat := by
  rw [wordOfDigits?, ← foldlM_eq_some, ← value?]
  by_cases nil : digits = []
  · simp [nil]
  have filled : digits.isEmpty = false := by simpa using nil
  rw [filled, if_neg Bool.false_ne_true, Option.bind_eq_some_iff]
  constructor
  · rintro ⟨m, read, fits⟩
    split at fits
    · rename_i small
      obtain rfl := Option.some.inj fits
      refine ⟨nil, ?_⟩
      rw [read, UInt64.toNat_ofNat', Nat.mod_eq_of_lt small]
    · cases fits
  · rintro ⟨-, read⟩
    refine ⟨n.toNat, read, ?_⟩
    rw [if_pos n.toNat_lt, UInt64.ofNat_toNat]

theorem exists_word_iff {s : String} :
    (∃ n : UInt64, Spells s n.toNat) ↔ ∃ n < UInt64.size, Spells s n := by
  constructor
  · rintro ⟨n, spelled⟩
    exact ⟨n.toNat, n.toNat_lt, spelled⟩
  · rintro ⟨n, small, spelled⟩
    refine ⟨UInt64.ofNat n, ?_⟩
    rwa [UInt64.toNat_ofNat', Nat.mod_eq_of_lt small]

/-- Reading succeeds on exactly the texts that spell a number of 64 bits, and gives it. -/
theorem word?_eq_some_iff {s : String} {n : UInt64} : word? s = some n ↔ Spells s n.toNat := by
  unfold word?
  constructor
  · intro read
    split at read
    · rename_i digits split
      exact ⟨['+'], by simp, digits, split, wordOfDigits?_eq_some.mp read⟩
    · exact ⟨[], by simp, s.toList, rfl, wordOfDigits?_eq_some.mp read⟩
  · rintro ⟨sign, isSign, digits, split, spelled⟩
    have read := wordOfDigits?_eq_some.mpr spelled
    simp only [List.mem_cons, List.not_mem_nil, or_false] at isSign
    rcases isSign with rfl | rfl
    · rw [split, List.nil_append]
      split
      · exact absurd (spelled.2.1 '+' List.mem_cons_self) (by decide)
      · exact read
    · rw [split]
      exact read

end Decimal

end TrieJournal
