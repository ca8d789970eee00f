/-! Decimal numbers as they are written: digits, a power of ten and a sign. Zero keeps its sign. -/
namespace DesignLint

/-- The value of digits in a base. -/
def digitsValue (base : Nat) (digits : List Char) : Nat :=
  digits.foldl (fun n c =>
    let digit := if c.isDigit then c.toNat - 48 else c.toLower.toNat - 87
    n * base + digit) 0

/-- A number: the digits times a power of ten. -/
structure Numeral where
  negative : Bool := false
  digits : Nat
  exponent : Int := 0
deriving DecidableEq

namespace Numeral

/-- The number that digits before and after the point and an exponent make. -/
def ofDigits (whole fraction : List Char) (exponent : Int) : Numeral where
  digits := digitsValue 10 (whole ++ fraction)
  exponent := exponent - fraction.length

/-- The number with the other sign. -/
def neg (n : Numeral) : Numeral := { n with negative := !n.negative }

/-- Takes zeros off the end of the digits, at most `steps` of them. -/
def trim : (steps : Nat) → Numeral → Numeral
  | 0, n => n
  | steps + 1, n =>
    if n.digits = 0 then { n with exponent := 0 }
    else if n.digits % 10 = 0 then trim steps { n with digits := n.digits / 10, exponent := n.exponent + 1 }
    else n

/-- The number without needless zeros. -/
def reduced (n : Numeral) : Numeral := n.trim (n.digits.log2 + 1)

/-- The number in positional notation. -/
def text (n : Numeral) : String :=
  let sign := if n.negative then "-" else ""
  let digits := (toString n.digits).toList
  if 0 ≤ n.exponent then sign ++ String.ofList (digits ++ List.replicate n.exponent.toNat '0')
  else
    let places := (-n.exponent).toNat
    let padded := List.replicate (places + 1 - digits.length) '0' ++ digits
    let whole := padded.length - places
    sign ++ String.ofList (padded.take whole ++ '.' :: padded.drop whole)

end Numeral
end DesignLint
