import Mathlib.Algebra.BigOperators.Group.List.Basic
import TrieJournal.Extraction.Listing
import TrieJournal.Proofs.Text.Digits

/-!
# The total balance

A sum that stops at the greatest balance is the true sum or that balance, whichever is less, so it
does not depend on the order of the accounts. In ether it is printed with all 18 places, so nothing
of it is lost.
-/

namespace TrieJournal.SeenAccount

/-- The sum of all balances, which may exceed the greatest one. -/
def trueBalance (accounts : List SeenAccount) : Nat :=
  (accounts.map fun a => a.leaf.account.balance.val).sum

theorem trueBalance_perm {accounts others : List SeenAccount} (perm : accounts.Perm others) :
    trueBalance accounts = trueBalance others :=
  (perm.map _).sum_nat

theorem foldl_balance {total : Nat} (fits : total ≤ greatest) (accounts : List SeenAccount) :
    accounts.foldl (fun total a => min (total + a.leaf.account.balance.val) greatest) total =
      min (total + trueBalance accounts) greatest := by
  induction accounts generalizing total with
  | nil => exact (Nat.min_eq_left fits).symm
  | cons a accounts ih =>
    rw [List.foldl_cons, ih (Nat.min_le_right _ _), trueBalance, trueBalance, List.map_cons,
      List.sum_cons]
    omega

theorem totalBalance_eq (accounts : List SeenAccount) :
    totalBalance accounts = min (trueBalance accounts) greatest := by
  rw [totalBalance, foldl_balance (Nat.zero_le _), Nat.zero_add]

theorem toList_etherText (wei : Nat) :
    ∃ places, (etherText wei).toList = Nat.toDigits 10 (wei / weiPerEther) ++ '.' :: places ∧
      places.length = 18 ∧ (∀ c ∈ places, c.isDigit = true) ∧
      Nat.ofDigitChars 10 places 0 = wei % weiPerEther := by
  have fits : wei % weiPerEther < 10 ^ 18 := Nat.mod_lt _ (by decide)
  obtain ⟨places, padded, spelled⟩ := Decimal.padded (by decide) fits
  refine ⟨places, ?_, spelled⟩
  have point : ".".toList = ['.'] := by decide +kernel
  rw [etherText, ← padded, ← Decimal.toList_toString]
  change (toString (wei / weiPerEther) ++ "." ++ _).toList = _
  rw [String.toList_append, String.toList_append, point, List.append_assoc]
  rfl

theorem listing_getLast? (limit : Nat) (accounts : List SeenAccount) :
    (listing limit accounts).getLast? = some
      s!"Total balance: {totalBalance accounts} wei ({etherText (totalBalance accounts)} ETH)" := by
  rw [listing, List.getLast?_append]
  rfl

/-- The printed total is the sum of all balances, or the greatest balance if the sum exceeds it, in
whatever order the accounts are listed. In ether it is printed exactly. -/
theorem totalBalance_printed (limit : Nat) (accounts : List SeenAccount) :
    let total := totalBalance accounts
    total = min (accounts.map fun a => a.leaf.account.balance.val).sum (2 ^ 256 - 1) ∧
      (∀ others, others.Perm accounts → totalBalance others = total) ∧
      (listing limit accounts).getLast? =
        some s!"Total balance: {total} wei ({etherText total} ETH)" ∧
      Decimal.Writes (toString total).toList total ∧
      ∃ whole ether places, (etherText total).toList = whole ++ '.' :: places ∧
        Decimal.Writes whole ether ∧ places.length = 18 ∧ (∀ c ∈ places, c.isDigit = true) ∧
        ether * 10 ^ 18 + Nat.ofDigitChars 10 places 0 = total := by
  intro total
  have clamped : total = min (trueBalance accounts) greatest := totalBalance_eq accounts
  refine ⟨clamped, fun others perm => ?_, listing_getLast? limit accounts, ?_, ?_⟩
  · rw [totalBalance_eq, trueBalance_perm perm]
    exact clamped.symm
  · rw [Decimal.toList_toString]
    exact Decimal.writes_toDigits total
  · obtain ⟨places, text, length, digits, value⟩ := toList_etherText total
    refine ⟨_, total / weiPerEther, places, text, Decimal.writes_toDigits _, length, digits, ?_⟩
    rw [value]
    exact Nat.div_add_mod' total weiPerEther

end TrieJournal.SeenAccount
