/-!
# Decimal numbers

Counts are written in decimal, for tables with a comma before every third digit from the right.
`word?` reads a 64-bit number: an optional plus sign and at least one ASCII digit.
-/

namespace TrieJournal.Decimal

def digit? (c : Char) : Option Nat :=
  if '0' ≤ c ∧ c ≤ '9' then some (c.toNat - '0'.toNat) else none

/-- The number that a list of digits stands for, or `none` if a character is no digit. -/
def value? (digits : List Char) : Option Nat :=
  digits.foldlM (fun n c => (digit? c).map (10 * n + ·)) 0

def wordOfDigits? (digits : List Char) : Option UInt64 :=
  if digits.isEmpty then none
  else (value? digits).bind fun n => if n < UInt64.size then some (UInt64.ofNat n) else none

/-- Reads a 64-bit number with or without a plus sign. -/
def word? (s : String) : Option UInt64 :=
  match s.toList with
  | '+' :: digits => wordOfDigits? digits
  | digits => wordOfDigits? digits

/-- Digits that follow others, a comma before each from which on a multiple of three are left. -/
def punctuate : List Char → List Char
  | [] => []
  | c :: rest =>
    if (rest.length + 1) % 3 = 0 then ',' :: c :: punctuate rest else c :: punctuate rest

/-- Digits in groups, with no comma before the first. -/
def separate : List Char → List Char
  | [] => []
  | c :: rest => c :: punctuate rest

/-- The text of a number with a comma before every third digit from the right. -/
def grouped (n : Nat) : String := String.ofList (separate (toString n).toList)

end TrieJournal.Decimal
