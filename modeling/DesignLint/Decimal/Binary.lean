/-! Numbers with a fixed count of significant bits. A quotient of natural numbers is rounded to the nearest of them,
a tie to the even one, as floating-point arithmetic does; the exponent is not bounded. -/
namespace DesignLint

/-- The quotient rounded to the nearest natural number, a tie to the even one. -/
def roundDiv (n d : Nat) : Nat :=
  let q := n / d
  let r := n % d
  if 2 * r < d then q else if d < 2 * r then q + 1 else q + q % 2

/-- A non-negative fraction. -/
structure Fraction where
  num : Nat
  den : Nat

namespace Fraction

/-- A whole number. -/
def ofNat (n : Nat) : Fraction := ⟨n, 1⟩

/-- The sum of two fractions. -/
def add (a b : Fraction) : Fraction := ⟨a.num * b.den + b.num * a.den, a.den * b.den⟩

/-- The fraction times a power of two that may be negative. -/
def scale (a : Fraction) (exponent : Int) : Fraction :=
  if 0 ≤ exponent then ⟨a.num * Nat.pow 2 exponent.toNat, a.den⟩
  else ⟨a.num, a.den * Nat.pow 2 (-exponent).toNat⟩

/-- The nearest number with so many significant bits, as a whole number of at most so many bits and the power of two
that it is multiplied with. -/
def significand (bits : Nat) (a : Fraction) : Nat × Int :=
  if a.num = 0 then (0, 0)
  else
    let least := Nat.pow 2 (bits - 1)
    let guess : Int := (a.num.log2 : Int) - a.den.log2 - (bits - 1 : Nat)
    let scaled := a.scale (-guess)
    let exponent := if scaled.num < least * scaled.den then guess - 1 else guess
    let exact := a.scale (-exponent)
    let rounded := roundDiv exact.num exact.den
    if rounded = 2 * least then (least, exponent + 1) else (rounded, exponent)

/-- The nearest number with so many significant bits. -/
def nearest (bits : Nat) (a : Fraction) : Fraction :=
  let (n, exponent) := a.significand bits
  (ofNat n).scale exponent

/-- The fraction with a fixed number of decimal places. -/
def toFixed (a : Fraction) (places : Nat) : String :=
  let digits := (toString (roundDiv (a.num * Nat.pow 10 places) a.den)).toList
  let padded := List.replicate (places + 1 - digits.length) '0' ++ digits
  let whole := padded.length - places
  String.ofList (padded.take whole ++ '.' :: padded.drop whole)

end Fraction

/-- A whole number rounded to 53 significant bits. -/
def roundToBinary (n : Int) : Int :=
  let magnitude := (Fraction.ofNat n.natAbs).nearest 53
  let value : Int := Int.ofNat (magnitude.num / magnitude.den)
  if n < 0 then -value else value

end DesignLint
