import DesignLint.Text.Case

/-! White space, as the property of that name has it, and switches written as words. -/
namespace DesignLint

/-- Whether a character is white space. -/
def isBlankChar (c : Char) : Bool :=
  let n := c.toNat
  (9 ≤ n && n ≤ 13) || n == 32 || n == 0x85 || n == 0xA0 || n == 0x1680 || (0x2000 ≤ n && n ≤ 0x200A)
    || n == 0x2028 || n == 0x2029 || n == 0x202F || n == 0x205F || n == 0x3000

/-- The text without white space at its ends. -/
def trimBlank (s : String) : String :=
  String.ofList ((s.toList.dropWhile isBlankChar).reverse.dropWhile isBlankChar).reverse

/-- Whether a setting turns something on. -/
def isOn (setting : String) : Bool := ["1", "true", "yes", "on"].contains (lowerString (trimBlank setting))

end DesignLint
