import TrieJournal.Text.Layout

/-!
# Floats with two decimal places

A finite float is a whole number times a power of two. Its text with two places is the exact value
rounded to whole hundredths, a half going to the even neighbour. The sign of a negative number is
kept even where the rounded value is zero.
-/

namespace TrieJournal

/-- The value of a finite float: `mantissa * 2 ^ exponent`, negated if `negative`. -/
structure Dyadic where
  negative : Bool
  mantissa : Nat
  exponent : Int
  deriving DecidableEq, Repr

namespace Dyadic

/-- The value of the float with the given bits, or `none` for an infinity or a non-number. -/
def ofBits? (bits : UInt64) : Option Dyadic :=
  let n := bits.toNat
  let negative := decide ((1 <<< 63) ≤ n)
  let scale : Nat := n / (1 <<< 52) % (1 <<< 11)
  let fraction : Nat := n % (1 <<< 52)
  if scale = 2047 then none
  else if scale = 0 then some ⟨negative, fraction, -1074⟩
  else some ⟨negative, (1 <<< 52) + fraction, (scale : Int) - 1075⟩

/-- The whole number nearest to `num / den`, the even one of two equally near. -/
def roundHalfEven (num den : Nat) : Nat :=
  let quotient := num / den
  let twice := 2 * (num % den)
  if twice < den then quotient
  else if den < twice then quotient + 1
  else quotient + quotient % 2

def hundredths (d : Dyadic) : Nat :=
  if 0 ≤ d.exponent then (100 * d.mantissa) <<< d.exponent.toNat
  else roundHalfEven (100 * d.mantissa) (1 <<< (-d.exponent).toNat)

end Dyadic

def twoPlaces (x : Float) : String :=
  match Dyadic.ofBits? x.toBits with
  | some d =>
    let n := d.hundredths
    let sign := if d.negative then "-" else ""
    let places := Layout.rightWith '0' 2 (toString (n % 100))
    s!"{sign}{n / 100}.{places}"
  | none => if x.isNaN then "NaN" else if x < 0 then "-inf" else "inf"

end TrieJournal
