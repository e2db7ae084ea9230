import TrieJournal.Rlp.Encoder

/-!
# Numbers as bytes

A number is read back from its shortest byte string, which is the only one that has no leading zero.
-/

namespace TrieJournal

namespace Bytes

theorem ofNat_go_zero (rest : Bytes) : ofNat.go 0 rest = rest := by
  rw [ofNat.go, if_pos rfl]

theorem ofNat_go_of_ne_zero {n : Nat} (nonzero : n ≠ 0) (rest : Bytes) :
    ofNat.go n rest = ofNat.go (n / 256) (UInt8.ofNat (n % 256) :: rest) := by
  rw [ofNat.go, if_neg nonzero]

theorem ofNat_go_append (n : Nat) (rest : Bytes) : ofNat.go n rest = ofNat n ++ rest := by
  unfold ofNat
  induction n using Nat.strongRecOn generalizing rest with
  | ind n ih =>
    by_cases zero : n = 0
    · subst zero
      rw [ofNat_go_zero, ofNat_go_zero, List.nil_append]
    · have smaller : n / 256 < n := by omega
      rw [ofNat_go_of_ne_zero zero, ofNat_go_of_ne_zero zero, ih _ smaller, ih _ smaller [_],
        List.append_assoc]
      rfl

theorem ofNat_zero : ofNat 0 = [] := ofNat_go_zero []

theorem ofNat_of_pos {n : Nat} (pos : 0 < n) :
    ofNat n = ofNat (n / 256) ++ [UInt8.ofNat (n % 256)] := by
  rw [← ofNat_go_append, ofNat, ofNat_go_of_ne_zero (by omega)]

theorem toNat_ofNat (n : Nat) : toNat (ofNat n) = n := by
  induction n using Nat.strongRecOn with
  | ind n ih =>
    by_cases zero : n = 0
    · rw [zero, ofNat_zero]
      rfl
    · have last : (UInt8.ofNat (n % 256)).toNat = n % 256 := by
        rw [UInt8.toNat_ofNat']
        omega
      rw [ofNat_of_pos (by omega), toNat_append_singleton, ih _ (by omega), last]
      omega

theorem ofNat_ne_nil {n : Nat} (pos : 0 < n) : ofNat n ≠ [] := by
  rw [ofNat_of_pos pos]
  simp

theorem head?_ofNat (n : Nat) : (ofNat n).head? ≠ some 0 := by
  induction n using Nat.strongRecOn with
  | ind n ih =>
    by_cases zero : n = 0
    · simp [zero, ofNat_zero]
    · rw [ofNat_of_pos (by omega)]
      by_cases small : n < 256
      · have front : n / 256 = 0 := by omega
        rw [front, ofNat_zero, List.nil_append, List.head?_cons]
        intro same
        have value := congrArg UInt8.toNat (Option.some.inj same)
        rw [UInt8.toNat_ofNat'] at value
        change n % 256 % 256 = 0 at value
        omega
      · obtain ⟨lead, others, digits⟩ :=
          List.exists_cons_of_ne_nil (ofNat_ne_nil (show 0 < n / 256 by omega))
        have first := ih (n / 256) (by omega)
        rw [digits] at first ⊢
        exact first

theorem length_ofNat_le {n k : Nat} (small : n < capacity k) : (ofNat n).length ≤ k := by
  induction k generalizing n with
  | zero =>
    have zero : n = 0 := by
      change n < 1 at small
      omega
    rw [zero, ofNat_zero]
    exact Nat.le_refl 0
  | succ k ih =>
    by_cases zero : n = 0
    · rw [zero, ofNat_zero]
      exact Nat.zero_le _
    · rw [capacity_succ] at small
      have front := ih (n := n / 256) (by omega)
      rw [ofNat_of_pos (by omega), List.length_append, List.length_singleton]
      omega

/-- Without a leading zero a byte string is the shortest one that reads as its number. -/
theorem ofNat_toNat {b : Bytes} (lead : b.head? ≠ some 0) : ofNat (toNat b) = b := by
  -- The last byte is the lowest digit, so the induction takes bytes off the end.
  suffices reversed : ∀ l : Bytes, l.reverse.head? ≠ some 0 →
      ofNat (toNat l.reverse) = l.reverse by
    simpa using reversed b.reverse (by simpa using lead)
  intro l
  induction l with
  | nil => intro _; exact ofNat_zero
  | cons last l ih =>
    intro lead
    rw [List.reverse_cons] at lead ⊢
    have byte := last.toNat_lt
    by_cases single : l = []
    · subst single
      have nonzero : 0 < last.toNat := by
        rcases Nat.eq_zero_or_pos last.toNat with zero | positive
        · exact absurd (congrArg some (UInt8.toNat_inj.mp zero)) lead
        · exact positive
      have value : toNat ([].reverse ++ [last]) = last.toNat := by simp [toNat]
      rw [value, ofNat_of_pos nonzero, show last.toNat / 256 = 0 by omega, ofNat_zero,
        show last.toNat % 256 = last.toNat by omega, UInt8.ofNat_toNat]
      rfl
    · have front : l.reverse.head? ≠ some 0 := by
        intro zero
        rw [List.head?_append, zero] at lead
        exact lead rfl
      have again := ih front
      have positive : 0 < toNat l.reverse := by
        rcases Nat.eq_zero_or_pos (toNat l.reverse) with zero | positive
        · rw [zero, ofNat_zero] at again
          exact absurd (List.reverse_eq_nil_iff.mp again.symm) single
        · exact positive
      rw [toNat_append_singleton, ofNat_of_pos (by omega),
        show (256 * toNat l.reverse + last.toNat) / 256 = toNat l.reverse by omega, again,
        show (256 * toNat l.reverse + last.toNat) % 256 = last.toNat by omega, UInt8.ofNat_toNat]

end Bytes

end TrieJournal
