/-!
# Byte strings

Keys, values and files are lists of bytes, compared in lexicographic order. `splitOn` cuts a list
at every occurrence of a separator, and `lines` cuts a byte string at its newlines. Totals of bytes
have 64 bits, and an addition that would leave them fails.
-/

namespace TrieJournal

/-- A byte string. Its order is the lexicographic one, a proper prefix first. -/
abbrev Bytes := List UInt8

/-- Cuts a list at every occurrence of `sep`. The parts number one more than the separators. -/
def splitOn {α : Type} [DecidableEq α] (sep : α) (l : List α) : List (List α) :=
  go [] l
where
  /-- Continues with a part whose elements so far are `part`, the latest first. -/
  go (part : List α) : List α → List (List α)
    | [] => [part.reverse]
    | a :: l => if a = sep then part.reverse :: go [] l else go (a :: part) l

def splitFirst? {α : Type} [DecidableEq α] (sep : α) (l : List α) : Option (List α × List α) :=
  match l.dropWhile (· ≠ sep) with
  | [] => none
  | _ :: rest => some (l.takeWhile (· ≠ sep), rest)

def dropRightWhile {α : Type} (p : α → Bool) (l : List α) : List α :=
  (l.reverse.dropWhile p).reverse

namespace Bytes

def newline : UInt8 := 10

/-- The lines of a byte string without their newlines. What follows the last newline is a line
only if it is not empty. -/
def lines (b : Bytes) : List Bytes :=
  let parts := splitOn newline b
  if parts.getLast? = some [] then parts.dropLast else parts

/-- The number read from a byte string with the most significant byte first. -/
def toNat (b : Bytes) : Nat :=
  b.foldl (fun n byte => 256 * n + byte.toNat) 0

/-- The shortest byte string that reads as `n` with the most significant byte first. -/
def ofNat (n : Nat) : Bytes :=
  go n []
where
  /-- Puts the bytes of `n` before `rest`. -/
  go (n : Nat) (rest : Bytes) : Bytes :=
    if n = 0 then rest else go (n / 256) (UInt8.ofNat (n % 256) :: rest)

/-- The number of byte strings of `n` bytes. -/
def capacity (n : Nat) : Nat := Nat.pow 256 n

theorem capacity_succ (n : Nat) : capacity (n + 1) = 256 * capacity n := Nat.mul_comm _ _

theorem capacity_mono {m n : Nat} (le : m ≤ n) : capacity m ≤ capacity n :=
  Nat.pow_le_pow_right (by decide) le

theorem toNat_append_singleton (b : Bytes) (byte : UInt8) :
    toNat (b ++ [byte]) = 256 * toNat b + byte.toNat := by
  simp [toNat]

theorem toNat_lt (b : Bytes) : toNat b < capacity b.length := by
  suffices h : ∀ (l : Bytes), toNat l.reverse < capacity l.length by
    simpa using h b.reverse
  intro l
  induction l with
  | nil => decide
  | cons byte l ih =>
    have hb := byte.toNat_lt
    rw [List.reverse_cons, toNat_append_singleton, List.length_cons, capacity_succ]
    omega

/-- A total with `n` more bytes, or `none` if that does not fit in 64 bits. -/
def addTo? (total : UInt64) (n : Nat) : Option UInt64 :=
  if total.toNat + n < UInt64.size then some (total + UInt64.ofNat n) else none

theorem addTo?_eq_some {total sum : UInt64} {n : Nat} :
    addTo? total n = some sum ↔ sum.toNat = total.toNat + n := by
  rw [addTo?]
  by_cases fits : total.toNat + n < UInt64.size
  · have small : n < UInt64.size := by omega
    have exact : (total + UInt64.ofNat n).toNat = total.toNat + n := by
      rw [UInt64.toNat_add, UInt64.toNat_ofNat_of_lt' small, Nat.mod_eq_of_lt fits]
    rw [if_pos fits, Option.some.injEq, ← exact, UInt64.toNat_inj]
    exact eq_comm
  · have below : sum.toNat < UInt64.size := sum.toNat_lt
    rw [if_neg fits]
    constructor
    · exact nofun
    · intro same
      omega

end Bytes

end TrieJournal
