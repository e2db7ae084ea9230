import TrieJournal.Proofs.Text.Digits
import TrieJournal.Proofs.Text.Split

/-!
# Digits in groups

The commas of a grouped number are put in from left to right: before each digit, the first one
apart, from which on a multiple of three digits are left. So they cut its digits into groups of
three, with one to three digits in front, and without them the text is the number's. From right to
left, the digits are the last three behind those of the thousands.
-/

namespace TrieJournal.Decimal

/-! ### From left to right -/

theorem filter_digit {c : Char} (digit : c ≠ ',') (text : List Char) :
    (c :: text).filter (· ≠ ',') = c :: text.filter (· ≠ ',') :=
  List.filter_cons_of_pos (decide_eq_true digit)

theorem filter_punctuate {digits : List Char} (free : ∀ c ∈ digits, c ≠ ',') :
    (punctuate digits).filter (· ≠ ',') = digits := by
  induction digits with
  | nil => rfl
  | cons c rest ih =>
    obtain ⟨here, later⟩ := List.forall_mem_cons.mp free
    rw [punctuate]
    split
    · rw [List.filter_cons_of_neg (by simp), filter_digit here, ih later]
    · rw [filter_digit here, ih later]

theorem filter_separate {digits : List Char} (free : ∀ c ∈ digits, c ≠ ',') :
    (separate digits).filter (· ≠ ',') = digits := by
  cases digits with
  | nil => rfl
  | cons c rest =>
    obtain ⟨here, later⟩ := List.forall_mem_cons.mp free
    rw [separate, filter_digit here, filter_punctuate later]

theorem splitOn_digit {c : Char} (digit : c ≠ ',') {text first : List Char}
    {rest : List (List Char)} (groups : splitOn ',' text = first :: rest) :
    splitOn ',' (c :: text) = (c :: first) :: rest := by
  rw [splitOn_eq] at groups ⊢
  rw [List.splitOn_cons_eq_if_modifyHead, if_neg (by simpa using digit), groups]
  rfl

/-- The digits that are left complete the group they are in and fill groups of three. -/
theorem splitOn_punctuate {digits : List Char} (free : ∀ c ∈ digits, c ≠ ',') :
    ∃ first rest, splitOn ',' (punctuate digits) = first :: rest ∧
      first.length = digits.length % 3 ∧ ∀ group ∈ rest, group.length = 3 := by
  induction digits with
  | nil => exact ⟨[], [], rfl, rfl, by simp⟩
  | cons c rest ih =>
    obtain ⟨here, later⟩ := List.forall_mem_cons.mp free
    obtain ⟨first, groups, parts, length, full⟩ := ih later
    have next := splitOn_digit here parts
    rw [punctuate, List.length_cons]
    split
    · rename_i complete
      refine ⟨[], (c :: first) :: groups, ?_, complete.symm, ?_⟩
      · rw [splitOn_eq, List.splitOn_cons_eq_if_modifyHead, if_pos (by simp), ← splitOn_eq, next]
      · refine List.forall_mem_cons.mpr ⟨?_, full⟩
        rw [List.length_cons, length]
        omega
    · refine ⟨c :: first, groups, next, ?_, full⟩
      rw [List.length_cons, length]
      omega

/-- One to three digits in front, and three in all other groups. -/
theorem splitOn_separate {digits : List Char} (filled : digits ≠ [])
    (free : ∀ c ∈ digits, c ≠ ',') :
    ∃ first rest, splitOn ',' (separate digits) = first :: rest ∧
      1 ≤ first.length ∧ first.length ≤ 3 ∧ ∀ group ∈ rest, group.length = 3 := by
  cases digits with
  | nil => exact absurd rfl filled
  | cons c rest =>
    obtain ⟨here, later⟩ := List.forall_mem_cons.mp free
    obtain ⟨first, groups, parts, length, full⟩ := splitOn_punctuate later
    refine ⟨c :: first, groups, splitOn_digit here parts, ?_, ?_, full⟩
    all_goals
      rw [List.length_cons, length]
      omega

/-! ### From right to left -/

theorem punctuate_append {back : List Char} (whole : back.length % 3 = 0) (front : List Char) :
    punctuate (front ++ back) = punctuate front ++ punctuate back := by
  induction front with
  | nil => rfl
  | cons c front ih =>
    have left : ((front ++ back).length + 1) % 3 = 0 ↔ (front.length + 1) % 3 = 0 := by
      rw [List.length_append]
      omega
    rw [List.cons_append, punctuate, punctuate, ih]
    simp only [left]
    split <;> rfl

theorem separate_append {front back : List Char} (filled : front ≠ [])
    (whole : back.length % 3 = 0) :
    separate (front ++ back) = separate front ++ punctuate back := by
  cases front with
  | nil => exact absurd rfl filled
  | cons c front =>
    rw [List.cons_append, separate, separate, punctuate_append whole, List.cons_append]

theorem separate_short {digits : List Char} (short : digits.length ≤ 3) :
    separate digits = digits := by
  match digits, short with
  | [], _ | [_], _ | [_, _], _ | [_, _, _], _ => rfl

/-- The three decimal digits of a number below a thousand, zeros in front included. -/
def threeDigits (n : Nat) : List Char :=
  [Nat.digitChar (n / 100 % 10), Nat.digitChar (n / 10 % 10), Nat.digitChar (n % 10)]

theorem length_threeDigits (n : Nat) : (threeDigits n).length = 3 := rfl

theorem punctuate_threeDigits (n : Nat) : punctuate (threeDigits n) = ',' :: threeDigits n := by
  simp [threeDigits, punctuate]

/-- The last three digits of a number that has more, and the digits of the number before them. -/
theorem toDigits_thousands {n : Nat} (large : 1000 ≤ n) :
    Nat.toDigits 10 n = Nat.toDigits 10 (n / 1000) ++ threeDigits (n % 1000) := by
  rw [Nat.toDigits_of_base_le (by decide) (show 10 ≤ n by omega),
    Nat.toDigits_of_base_le (by decide) (show 10 ≤ n / 10 by omega),
    Nat.toDigits_of_base_le (by decide) (show 10 ≤ n / 10 / 10 by omega),
    show n / 10 / 10 / 10 = n / 1000 by omega, threeDigits,
    show n % 1000 / 100 % 10 = n / 10 / 10 % 10 by omega,
    show n % 1000 / 10 % 10 = n / 10 % 10 by omega, show n % 1000 % 10 = n % 10 by omega]
  simp

theorem toList_grouped (n : Nat) : (grouped n).toList = separate (toString n).toList :=
  String.toList_ofList

/-- A number is its thousands in groups, a comma and three digits, if it has more than three. -/
theorem toList_grouped_thousands (n : Nat) : (grouped n).toList =
    if n < 1000 then Nat.toDigits 10 n
    else (grouped (n / 1000)).toList ++ ',' :: threeDigits (n % 1000) := by
  rw [toList_grouped, toList_grouped, toList_toString, toList_toString]
  by_cases small : n < 1000
  · have short : (Nat.toDigits 10 n).length ≤ 3 :=
      (Nat.length_toDigits_le_iff (by decide) (by decide)).mpr small
    rw [if_pos small, separate_short short]
  · rw [if_neg small, toDigits_thousands (by omega),
      separate_append Nat.toDigits_ne_nil (by rw [length_threeDigits]), punctuate_threeDigits]

theorem ne_comma_of_mem_toString (n : Nat) : ∀ c ∈ (toString n).toList, c ≠ ',' := by
  intro c mem comma
  rw [toList_toString, comma] at mem
  exact absurd (isDigit_of_mem mem) (by decide)

theorem filter_grouped (n : Nat) : (grouped n).toList.filter (· ≠ ',') = (toString n).toList := by
  rw [toList_grouped, filter_separate (ne_comma_of_mem_toString n)]

/-- Without its commas a grouped number is the number's text, and the commas cut that into groups of
digits, one to three in the first and three in all others. So no two numbers are grouped alike. -/
theorem grouped_groups :
    (∀ n : Nat, (grouped n).toList.filter (· ≠ ',') = (toString n).toList ∧
      ∃ first rest, splitOn ',' (grouped n).toList = first :: rest ∧
        1 ≤ first.length ∧ first.length ≤ 3 ∧ (∀ group ∈ rest, group.length = 3) ∧
        ∀ group ∈ first :: rest, ∀ c ∈ group, c.isDigit = true) ∧
    Function.Injective grouped := by
  refine ⟨fun n => ⟨filter_grouped n, ?_⟩, fun m n same => ?_⟩
  · have filled : (toString n).toList ≠ [] := by
      rw [toList_toString]
      exact Nat.toDigits_ne_nil
    obtain ⟨first, rest, parts, least, most, full⟩ :=
      splitOn_separate filled (ne_comma_of_mem_toString n)
    rw [← toList_grouped] at parts
    refine ⟨first, rest, parts, least, most, full, fun group mem c inGroup => ?_⟩
    have inText : c ∈ (splitOn ',' (grouped n).toList).flatten :=
      List.mem_flatten_of_mem (parts ▸ mem) inGroup
    rw [flatten_splitOn, filter_grouped, toList_toString] at inText
    exact isDigit_of_mem inText
  · have digits : Nat.toDigits 10 m = Nat.toDigits 10 n := by
      rw [← toList_toString, ← toList_toString, ← filter_grouped, same, filter_grouped]
    calc m = Nat.ofDigitChars 10 (Nat.toDigits 10 m) 0 := Nat.ofDigitChars_ten_toDigits.symm
      _ = Nat.ofDigitChars 10 (Nat.toDigits 10 n) 0 := by rw [digits]
      _ = n := Nat.ofDigitChars_ten_toDigits

example : grouped 1234567 = "1,234,567" := by cbv

end TrieJournal.Decimal
