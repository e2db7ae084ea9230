import Mathlib.Algebra.GroupWithZero.Nat
import Mathlib.Data.List.Basic
import TrieJournal.Text.Decimal
import TrieJournal.Text.Layout

/-!
# Digits of a number

The decimal text of a number has no zeros in front. Padded with zeros it stands for the same number,
and any number below `10 ^ width` can be padded to `width` digits.
-/

namespace TrieJournal

theorem Layout.toList_rightWith (fill : Char) (width : Nat) (s : String) :
    (rightWith fill width s).toList = List.replicate (width - s.length) fill ++ s.toList := by
  have pushed (n : Nat) : ("".pushn fill n).toList = List.replicate n fill := by
    rw [String.pushn_eq_repeat_push]
    induction n with
    | zero => rfl
    | succ n ih => rw [Nat.repeat, String.toList_push, ih, List.replicate_succ']
  rw [rightWith, String.toList_append, pushed]

namespace Decimal

/-- Decimal digits, at least one and without zeros in front of others, that stand for the number. -/
structure Writes (digits : List Char) (n : Nat) : Prop where
  filled : digits ≠ []
  all : ∀ c ∈ digits, c.isDigit = true
  shortest : digits.head? = some '0' → digits = ['0']
  value : Nat.ofDigitChars 10 digits 0 = n

theorem isDigit_of_mem {n : Nat} {c : Char} (mem : c ∈ Nat.toDigits 10 n) : c.isDigit = true :=
  Nat.isDigit_of_mem_toDigits (by decide) (by decide) mem

theorem head?_toDigits {n : Nat} (positive : 0 < n) : (Nat.toDigits 10 n).head? ≠ some '0' := by
  induction n using Nat.strongRecOn with
  | ind n ih =>
    by_cases small : n < 10
    · have nonzero : ∀ d < 10, 0 < d → d.digitChar ≠ '0' := by decide
      rw [Nat.toDigits_of_lt_base small, List.head?_cons, ne_eq, Option.some.injEq]
      exact nonzero n small positive
    · rw [Nat.toDigits_of_base_le (by decide) (by omega),
        List.head?_append_of_ne_nil _ Nat.toDigits_ne_nil]
      exact ih (n / 10) (by omega) (by omega)

theorem writes_toDigits (n : Nat) : Writes (Nat.toDigits 10 n) n where
  filled := Nat.toDigits_ne_nil
  all _ mem := isDigit_of_mem mem
  value := Nat.ofDigitChars_ten_toDigits
  shortest zero := by
    cases n with
    | zero => rfl
    | succ n => exact absurd zero (head?_toDigits n.succ_pos)

theorem toList_toString (n : Nat) : (toString n).toList = Nat.toDigits 10 n := by
  rw [Nat.toString_eq_ofList_toDigits, String.toList_ofList]

/-- A number below `10 ^ width`, with zeros in front up to `width` digits. -/
theorem padded {width n : Nat} (wide : 0 < width) (fits : n < 10 ^ width) :
    ∃ digits, (Layout.rightWith '0' width (toString n)).toList = digits ∧
      digits.length = width ∧ (∀ c ∈ digits, c.isDigit = true) ∧
      Nat.ofDigitChars 10 digits 0 = n := by
  have length : (Nat.toDigits 10 n).length ≤ width :=
    (Nat.length_toDigits_le_iff (by decide) wide).mpr fits
  refine ⟨_, rfl, ?_, ?_, ?_⟩
  all_goals rw [Layout.toList_rightWith, toList_toString, ← String.length_toList, toList_toString]
  · rw [List.length_append, List.length_replicate]
    omega
  · intro c mem
    rcases List.mem_append.mp mem with zero | digit
    · obtain rfl := List.eq_of_mem_replicate zero
      rfl
    · exact isDigit_of_mem digit
  · rw [Nat.ofDigitChars_append, Nat.ofDigitChars_replicate_zero, Nat.mul_zero,
      Nat.ofDigitChars_ten_toDigits]

end Decimal

end TrieJournal
