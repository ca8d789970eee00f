import DesignLint.Decimal.Shortest
import DesignLint.Decimal.Word
import DesignLint.Unicode.Composition

/-! Settings written as blocks. A body holds attributes, which give a name a value, and blocks, which have a
kind, labels and a body of their own. Values convert to one another where no meaning is lost: numbers and
flags to text, and the texts of numbers and flags back. Numbers have 512 significant bits, and texts are kept in
their composed form. -/
namespace DesignLint.Settings

/-- A number, as the shortest numeral that is read as it. One that is too large for every numeral is infinite. -/
inductive Quantity where
  | finite (value : Numeral)
  | infinite (negative : Bool)
deriving DecidableEq

/-- The value of an attribute. -/
inductive Value where
  | null
  | flag (value : Bool)
  | number (value : Quantity)
  | text (value : String)
  | tuple (items : List Value)
  | object (members : List (String × Value))

/-- A block with its attributes and the blocks inside it. -/
inductive Block where
  | mk (kind : String) (labels : List String) (attributes : List (String × Value)) (blocks : List Block)

namespace Block

def kind : Block → String
  | mk kind _ _ _ => kind

def labels : Block → List String
  | mk _ labels _ _ => labels

def attributes : Block → List (String × Value)
  | mk _ _ attributes _ => attributes

def blocks : Block → List Block
  | mk _ _ _ blocks => blocks

end Block

namespace Quantity

/-- The significant bits of a number. -/
def precision : Nat := 512

/-- The greatest exponent of ten of a number. -/
def maxExponent : Int := 646456993

/-- The greatest exponent of ten that can be written. -/
def maxWritten : Int := 2147483647

/-- The greatest exponent of a number that has to be rounded. -/
def maxRounded : Int := 100000

/-- The number that a numeral times a power of two is read as. Numerals of few digits are their own shortest ones. -/
def ofNumeral? (n : Numeral) (binary : Int) : Option Quantity :=
  let r := n.reduced
  let size := r.exponent + (toString r.digits).length
  if maxWritten < r.exponent.natAbs || maxWritten < binary.natAbs then none
  else if r.digits = 0 then some (.finite r)
  else if maxExponent < size then some (.infinite r.negative)
  else if size < -maxExponent then some (.finite { r with digits := 0, exponent := 0 })
  else if binary = 0 && r.digits < Nat.pow 10 153 then some (.finite r)
  else if maxRounded < r.exponent.natAbs || maxRounded < binary.natAbs then none
  else
    let shortest := (((Fraction.ofNat r.digits).shift r.exponent).scale binary).shortest precision
    some (.finite { shortest with negative := r.negative })

/-- The number with the other sign. -/
def neg : Quantity → Quantity
  | finite n => finite n.neg
  | infinite negative => infinite !negative

/-- The number in positional notation. -/
def text : Quantity → String
  | finite n => n.text
  | infinite negative => if negative then "-Inf" else "+Inf"

/-- The number, if it is a whole one of 64 bits. -/
def int? : Quantity → Option Int
  | finite n =>
    if 0 ≤ n.exponent && n.exponent < 20 then
      let size := Int.ofNat (n.digits * Nat.pow 10 n.exponent.toNat)
      some (if n.negative then -size else size) |>.filter fitsWord
    else none
  | infinite _ => none

/-- An exponent after its mark: perhaps a sign, and digits. -/
def exponent? (text : List Char) : Option (Int × List Char) :=
  let (negative, rest) := match text with
    | '-' :: rest => (true, rest)
    | '+' :: rest => (false, rest)
    | rest => (false, rest)
  let digits := rest.takeWhile Char.isDigit
  let size := Int.ofNat (digitsValue 10 digits)
  if digits.isEmpty then none else some (if negative then -size else size, rest.dropWhile Char.isDigit)

/-- A number at the start of a text: digits, perhaps a fraction, perhaps an exponent. -/
def parse? (text : List Char) : Option (Quantity × List Char) :=
  let whole := text.takeWhile Char.isDigit
  let rest := text.dropWhile Char.isDigit
  let (fraction, rest) := match rest with
    | '.' :: c :: more =>
      if c.isDigit then (c :: more.takeWhile Char.isDigit, more.dropWhile Char.isDigit) else ([], rest)
    | _ => ([], rest)
  let read (exponent : Int) (rest : List Char) : Option (Quantity × List Char) :=
    (ofNumeral? (.ofDigits whole fraction exponent) 0).map (·, rest)
  if whole.isEmpty then none
  else
    match rest with
    | mark :: more =>
      if mark = 'e' || mark = 'E' then
        match exponent? more with
        | some (exponent, rest) => read exponent rest
        | none => none
      else read 0 rest
    | [] => read 0 rest

/-- A number that is the whole of a text. It may have a sign, its point may come first or last, and its exponent may
be one of two. -/
def ofText? (text : String) : Option Quantity :=
  let (negative, rest) := match text.toList with
    | '-' :: rest => (true, rest)
    | '+' :: rest => (false, rest)
    | rest => (false, rest)
  let whole := rest.takeWhile Char.isDigit
  let rest := rest.dropWhile Char.isDigit
  let (fraction, rest) := match rest with
    | '.' :: more => (more.takeWhile Char.isDigit, more.dropWhile Char.isDigit)
    | _ => ([], rest)
  let read (exponent binary : Int) : Option Quantity :=
    (ofNumeral? (.ofDigits whole fraction exponent) binary).map fun n => if negative then n.neg else n
  if whole.isEmpty && fraction.isEmpty then none
  else
    match rest with
    | [] => read 0 0
    | mark :: more =>
      match exponent? more with
      | some (exponent, []) =>
        if mark = 'e' || mark = 'E' then read exponent 0
        else if mark = 'p' || mark = 'P' then read 0 exponent
        else none
      | _ => none

end Quantity

namespace Value

/-- A text in its composed form. -/
def ofText (s : String) : Value := text (composed s)

/-- The value as text. -/
def text? : Value → Option String
  | text s => some s
  | number n => some n.text
  | flag b => some (if b then "true" else "false")
  | _ => none

/-- The value as a flag. -/
def flag? : Value → Option Bool
  | flag b => some b
  | text s =>
    if s = "true" || s = "1" then some true
    else if s = "false" || s = "0" then some false
    else none
  | _ => none

/-- The value as a number. -/
def quantity? : Value → Option Quantity
  | number n => some n
  | text s => Quantity.ofText? s
  | _ => none

/-- The value as a whole number of 64 bits. -/
def int? (v : Value) : Option Int := v.quantity?.bind Quantity.int?

/-- The value as a list of texts; nothing gives no list. -/
def texts? : Value → Option (Option (List String))
  | null => some none
  | tuple items => (items.mapM text?).map some
  | _ => none

/-- The value as texts by name; nothing gives no names. -/
def named? : Value → Option (Option (List (String × String)))
  | null => some none
  | object members => (members.mapM fun m => (text? m.2).map fun t => (m.1, t)).map some
  | _ => none

end Value
end DesignLint.Settings
