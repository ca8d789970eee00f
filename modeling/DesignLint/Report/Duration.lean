import DesignLint.Decimal.Binary

/-! How long something took, in the largest unit that gives at least one. Up to microseconds the number is whole;
larger units have two decimal places of the quotient as floating-point arithmetic gives it. -/
namespace DesignLint

/-- A number of nanoseconds, which may be negative. -/
structure Duration where
  nanoseconds : Int

namespace Duration

/-- The nanoseconds of a millisecond. -/
def millisecond : Nat := 1000000

/-- The nanoseconds of a second. -/
def second : Nat := 1000000000

/-- The whole units and the rest as a rounded sum. -/
private def inUnits (n unit : Nat) : Fraction :=
  ((Fraction.ofNat (n / unit)).add (Fraction.nearest 53 ⟨n % unit, unit⟩)).nearest 53

/-- The duration as text. -/
def text (d : Duration) : String :=
  let n := d.nanoseconds.toNat
  if d.nanoseconds < 1000 then toString d.nanoseconds ++ "ns"
  else if n < millisecond then toString (n / 1000) ++ "us"
  else if n < second then (Fraction.nearest 53 ⟨n, millisecond⟩).toFixed 2 ++ "ms"
  else if n < 60 * second then (inUnits n second).toFixed 2 ++ "s"
  else if n < 3600 * second then (inUnits n (60 * second)).toFixed 2 ++ "m"
  else (inUnits n (3600 * second)).toFixed 2 ++ "h"

end Duration
end DesignLint
