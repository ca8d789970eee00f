import DesignLint.Text.Bytes
import DesignLint.Text.Category

/-! Quoted texts, as error messages show them: between double quotes, printable characters as
themselves, everything else as an escape. -/
namespace DesignLint.Quoted

/-- The last `width` lower-case hexadecimal digits of a number. -/
def hex (width n : Nat) : List Char :=
  let digits := Nat.toDigits 16 n
  List.replicate (width - digits.length) '0' ++ digits

/-- How a character is written between the quotes. -/
def escapeChar (c : Char) : List Char :=
  if c == '"' || c == '\\' then ['\\', c]
  else if isPrintable c then [c]
  else match c.toNat with
    | 7 => ['\\', 'a']
    | 8 => ['\\', 'b']
    | 9 => ['\\', 't']
    | 10 => ['\\', 'n']
    | 11 => ['\\', 'v']
    | 12 => ['\\', 'f']
    | 13 => ['\\', 'r']
    | n =>
      if n < 32 || n == 127 then '\\' :: 'x' :: hex 2 n
      else if n < 0x10000 then '\\' :: 'u' :: hex 4 n
      else '\\' :: 'U' :: hex 8 n

/-- How a unit of a text is written: an invalid byte as its two hexadecimal digits. -/
def escapeUnit (unit : Char × Bytes) : List Char :=
  match Bytes.invalidByte? unit with
  | some b => '\\' :: 'x' :: hex 2 b.toNat
  | none => escapeChar unit.1

/-- A text between double quotes. -/
def quote (text : Bytes) : String :=
  String.ofList ('"' :: text.units.flatMap escapeUnit ++ ['"'])

/-- A string between double quotes. -/
def quoteString (s : String) : String :=
  String.ofList ('"' :: s.toList.flatMap escapeChar ++ ['"'])

end DesignLint.Quoted
