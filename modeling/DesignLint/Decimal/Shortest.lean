import DesignLint.Decimal.Binary
import DesignLint.Decimal.Numeral

/-! The fewest digits that read back. A number with a fixed count of significant bits is written with the fewest
decimal digits that are read as that number again; of several such numerals the nearest is taken, and a tie goes
to the even last digit. -/
namespace DesignLint

namespace Fraction

/-- Whether a fraction is less than another. -/
def lt (a b : Fraction) : Bool := a.num * b.den < b.num * a.den

/-- The fraction times a power of ten that may be negative. -/
def shift (a : Fraction) (exponent : Int) : Fraction :=
  if 0 ≤ exponent then ⟨a.num * Nat.pow 10 exponent.toNat, a.den⟩
  else ⟨a.num, a.den * Nat.pow 10 (-exponent).toNat⟩

/-- The number of digits before the point; for a fraction below one tenth, less than zero. -/
def wholeDigits (a : Fraction) : Int :=
  let size (n : Nat) : Nat := (toString n).length
  let guess : Int := (size a.num : Int) - size a.den
  if a.lt ((ofNat 1).shift guess) then guess else guess + 1

end Fraction

/-- A number together with the bounds of what is read as it, and whether the bounds are read as it too. -/
structure ReadingRange where
  value : Fraction
  lower : Fraction
  upper : Fraction
  inclusive : Bool

namespace ReadingRange

/-- The range of a number with a significand and a power of two. -/
def ofSignificand (n : Nat) (exponent : Int) : ReadingRange where
  value := (Fraction.ofNat (2 * n)).scale (exponent - 1)
  lower := (Fraction.ofNat (2 * n - 1)).scale (exponent - 1)
  upper := (Fraction.ofNat (2 * n + 1)).scale (exponent - 1)
  inclusive := n % 2 = 0

/-- Whether a fraction is read as the number. -/
def holds (r : ReadingRange) (a : Fraction) : Bool :=
  (r.lower.lt a && a.lt r.upper) || (r.inclusive && !a.lt r.lower && !r.upper.lt a)

/-- The numeral with digits down to a power of ten that is read as the number: the value cut off there or the next
one, and of both the nearer. -/
def numeral? (r : ReadingRange) (exponent : Int) : Option Numeral :=
  let scaled := r.value.shift (-exponent)
  let below := scaled.num / scaled.den
  let reads (digits : Nat) : Bool := r.holds ((Fraction.ofNat digits).shift exponent)
  match reads below, reads (below + 1) with
  | true, true => some { digits := roundDiv scaled.num scaled.den, exponent }
  | true, false => some { digits := below, exponent }
  | false, true => some { digits := below + 1, exponent }
  | false, false => none

/-- The first numeral that is read as the number, from a power of ten downward. -/
def search (r : ReadingRange) : (steps : Nat) → Int → Option Numeral
  | 0, _ => none
  | steps + 1, exponent =>
    match r.numeral? exponent with
    | some n => some n
    | none => search r steps (exponent - 1)

end ReadingRange

/-- The shortest numeral that is read as the number of so many bits nearest to a fraction. So many digits as there are
bits always suffice. -/
def Fraction.shortest (bits : Nat) (a : Fraction) : Numeral :=
  let (n, exponent) := a.significand bits
  if n = 0 then { digits := 0 }
  else
    let r := ReadingRange.ofSignificand n exponent
    ((r.search (bits + 2) (r.value.wholeDigits - 1)).getD { digits := 0 }).reduced

end DesignLint
