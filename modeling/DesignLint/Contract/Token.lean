import DesignLint.Contract.Term
import DesignLint.Text.Category

/-! The words and signs of a document. A line break stands for a comma after a word that can end an item, unless a
comma or a colon comes next; two slashes start a comment, which does so too. Numbers may have a base, a multiplier
and low lines between their digits, and quoted texts may have number signs around them, which then also belong to
every backslash inside, or go over several lines. -/
namespace DesignLint.Contract

/-- A word or sign. A comma says whether it stands for a line break. -/
inductive Token where
  | name (text : String)
  | text (value : String)
  | bytes (value : List Nat)
  | whole (value : Int)
  | decimal (value : Numeral)
  | comma (isBreak : Bool)
  | sign (text : String)
deriving DecidableEq

private def isLetter (c : Char) : Bool := c.isAlpha || (127 < c.toNat && Category.anyOf Category.letters c)

private def continuesName (c : Char) : Bool :=
  isLetter c || c.isDigit || c = '_' || c = '$' || (127 < c.toNat && Category.anyOf [.decimalNumber] c)

/-- A name without quotes. -/
def name? : List Char → Option (String × List Char)
  | c :: rest =>
    if isLetter c || c = '_' || c = '$' || c = '#' then
      let marked := if c = '_' then rest.takeWhile (· = '#') |>.take 1 else []
      let after := rest.drop marked.length
      some (String.ofList (c :: marked ++ after.takeWhile continuesName), after.dropWhile continuesName)
    else none
  | [] => none

/-- Whether a character is a digit of a base. -/
private def isDigitOf (base : Nat) (c : Char) : Bool :=
  if c.isDigit then c.toNat - 48 < base else base == 16 && ('a' ≤ c.toLower && c.toLower ≤ 'f')

/-- Whether low lines stand between digits only: no two of them together, and none at the end. -/
private def spacedWell : List Char → Bool
  | '_' :: '_' :: _ => false
  | ['_'] => false
  | _ :: rest => spacedWell rest
  | [] => true

/-- The digits of a base at the start of a text, without the low lines between them. -/
def digits? (base : Nat) (text : List Char) : Option (List Char × List Char) :=
  let inside (c : Char) : Bool := isDigitOf base c || c = '_'
  let taken := text.takeWhile inside
  if spacedWell taken then some (taken.filter (· ≠ '_'), text.dropWhile inside) else none

/-- A number in a base, after the sign of the base. -/
private def based? (base : Nat) (text : List Char) : Option (Token × List Char) := do
  let (digits, rest) ← digits? base text
  if digits.isEmpty then none else some (.whole (digitsValue base digits), rest)

/-- The factor that a letter after a number stands for. -/
private def factor? : List Char → Option (Nat × List Char)
  | c :: rest => do
    let power ← [('K', 1), ('M', 2), ('G', 3), ('T', 4), ('P', 5)].lookup c
    match rest with
    | 'i' :: rest => some (Nat.pow 1024 power, rest)
    | _ => some (Nat.pow 1000 power, rest)
  | [] => none

/-- A whole number that a decimal number times a factor makes. -/
private def multiplied? (n : Numeral) (factor : Nat) : Option Int :=
  let scale := Nat.pow 10 (-n.exponent).toNat
  if n.digits * factor % scale = 0 then some (n.digits * factor / scale) else none

/-- The fraction and the exponent after the whole part of a number. -/
private def afterWhole? (whole : List Char) (text : List Char) : Option (Token × List Char) := do
  let (isDecimal, fraction, rest) ← match text with
    | '.' :: rest =>
      if rest.head? == some '.' then some (false, [], text)
      else (digits? 10 rest).map fun (digits, rest) => (true, digits, rest)
    | _ => some (false, [], text)
  match factor? rest with
  | some (factor, rest) =>
    let value ← multiplied? (.ofDigits whole fraction 0) factor
    return (.whole value, rest)
  | none =>
    match rest with
    | mark :: more =>
      if mark = 'e' || mark = 'E' then
        let (negative, more) := match more with
          | '-' :: more => (true, more)
          | '+' :: more => (false, more)
          | more => (false, more)
        let (power, rest) ← digits? 10 more
        if power.isEmpty then none
        let size := Int.ofNat (digitsValue 10 power)
        return (.decimal (Numeral.ofDigits whole fraction (if negative then -size else size)).reduced, rest)
      else return (plain isDecimal fraction, rest)
    | [] => return (plain isDecimal fraction, [])
where
  plain (isDecimal : Bool) (fraction : List Char) : Token :=
    if isDecimal then .decimal (Numeral.ofDigits whole fraction 0).reduced else .whole (digitsValue 10 whole)

/-- A number. A whole one that is not zero does not start with a zero. -/
def number? (text : List Char) : Option (Token × List Char) :=
  match text with
  | '.' :: c :: _ => if c.isDigit then afterWhole? [] text else none
  | '0' :: 'x' :: rest | '0' :: 'X' :: rest => based? 16 rest
  | '0' :: 'b' :: rest => based? 2 rest
  | '0' :: 'o' :: rest => based? 8 rest
  | _ => do
    let (digits, rest) ← digits? 10 text
    let pointed := rest.head?.any fun c => c = '.' || c = 'e' || c = 'E'
    if digits.isEmpty then none
    else if digits.head? == some '0' && !pointed then
      if digits.length = 1 then some (.whole 0, rest) else none
    else afterWhole? digits rest

/-- How a quoted text is written: its quote and the number signs around it. -/
structure Quote where
  mark : Char
  signs : Nat

namespace Quote

/-- What follows number signs. -/
def afterSigns? : (signs : Nat) → List Char → Option (List Char)
  | 0, text => some text
  | signs + 1, '#' :: text => afterSigns? signs text
  | _, _ => none

/-- What follows the closing quote. -/
def afterClosing? (q : Quote) (isLong : Bool) (text : List Char) : Option (List Char) :=
  let marks := if isLong then 3 else 1
  if text.take marks = List.replicate marks q.mark then afterSigns? q.signs (text.drop marks) else none

/-- The number that digits of a fixed width in base sixteen make. -/
private def hex? (width : Nat) (text : List Char) : Option (Nat × List Char) :=
  let digits := text.take width
  if digits.length = width && digits.all (isDigitOf 16) then some (digitsValue 16 digits, text.drop width) else none

/-- The code point or byte of an escape, after its backslash and number signs. Bytes can be given by number only
between single quotes. -/
def escape? (q : Quote) : List Char → Option (Nat × Bool × List Char)
  | [] => none
  | c :: rest =>
    let plain := [('a', 7), ('b', 8), ('f', 12), ('n', 10), ('r', 13), ('t', 9), ('v', 11), ('\\', 92), ('/', 47)]
    match plain.lookup c with
    | some code => some (code, false, rest)
    | none =>
      if c = q.mark then some (c.toNat, false, rest)
      else if c = 'u' || c = 'U' then
        (hex? (if c = 'u' then 4 else 8) rest).bind fun (code, rest) =>
          if code ≤ 0x10FFFF then some (code, false, rest) else none
      else if q.mark ≠ '\'' then none
      else if c = 'x' then (hex? 2 rest).map fun (code, rest) => (code, true, rest)
      else
        let digits := c :: rest.take 2
        let code := digitsValue 8 digits
        if digits.length = 3 && digits.all (isDigitOf 8) && code < 256 then some (code, true, rest.drop 2)
        else none

/-- The code points of a text between quotes, escapes resolved, each with whether it is a byte as it stands. -/
def codes? (q : Quote) : (size : Nat) → List Char → Option (List (Nat × Bool))
  | 0, _ => none
  | _, [] => some []
  | size + 1, '\\' :: rest =>
    match afterSigns? q.signs rest with
    | none => (codes? q size rest).map ((92, false) :: ·)
    | some rest => do
      let (code, isByte, rest) ← q.escape? rest
      return (code, isByte) :: (← codes? q size rest)
  | size + 1, c :: rest => (codes? q size rest).map ((c.toNat, false) :: ·)

/-- The text that code points make. A high surrogate and the low one after it make one character, and neither stands
alone. -/
def joinPairs? : List (Nat × Bool) → Option (List Char)
  | [] => some []
  | (code, _) :: rest =>
    if 0xD800 ≤ code && code < 0xDC00 then
      match rest with
      | (low, _) :: rest =>
        if 0xDC00 ≤ low && low < 0xE000 then
          (joinPairs? rest).map (Char.ofNat (0x10000 + (code - 0xD800) * 0x400 + (low - 0xDC00)) :: ·)
        else none
      | [] => none
    else if 0xDC00 ≤ code && code < 0xE000 then none
    else (joinPairs? rest).map (Char.ofNat code :: ·)

/-- The bytes that code points make. -/
def joinBytes (codes : List (Nat × Bool)) : List Nat :=
  codes.flatMap fun (code, isByte) =>
    if isByte then [code] else (Bytes.ofChars [Char.ofNat code]).map UInt8.toNat

/-- The value between quotes. -/
def value? (q : Quote) (inside : List Char) : Option Token := do
  let codes ← q.codes? (inside.length + 1) inside
  if q.mark = '"' then (joinPairs? codes).map fun chars => .text (String.ofList chars)
  else some (.bytes (joinBytes codes))

/-- The characters up to the closing quote, and what follows it. A backslash keeps a quote or backslash after it. -/
def split? (q : Quote) (isLong : Bool) : (taken : List Char) → List Char → Option (List Char × List Char)
  | _, [] => none
  | taken, [c] => (q.afterClosing? isLong [c]).map fun after => (taken.reverse, after)
  | taken, c :: d :: rest =>
    match q.afterClosing? isLong (c :: d :: rest) with
    | some after => some (taken.reverse, after)
    | none =>
      if !isLong && (c = '\n' || c = '\r') then none
      else if q.signs = 0 && c = '\\' && (d = q.mark || d = '\\') then split? q isLong (d :: c :: taken) rest
      else split? q isLong (c :: taken) (d :: rest)

/-- The lines of a text without the blanks that stand before its closing quote. -/
def unindented? (inside : List Char) : Option (List Char) := do
  let lines := (String.ofList (inside.filter (· ≠ '\r'))).splitOn "\n"
  let indent := lines.getLast?.getD ""
  if !indent.toList.all (fun c => c = ' ' || c = '\t') then none
  let kept ← lines.dropLast.mapM fun line =>
    if line = "" then some line
    else if indent.toList.isPrefixOf line.toList then some (String.ofList (line.toList.drop indent.length))
    else none
  return ("\n".intercalate kept).toList

/-- A quoted text after its opening number signs and quote. Three quotes and a line break open one of several
lines. -/
def afterOpening? (q : Quote) (text : List Char) : Option (Token × List Char) :=
  match text with
  | a :: b :: rest =>
    if a = q.mark && b = q.mark then
      match rest with
      | '\n' :: rest | '\r' :: '\n' :: rest => do
        let (inside, after) ← q.split? true [] rest
        return (← q.value? (← unindented? inside), after)
      | _ => none
    else short? q text
  | _ => short? q text
where
  short? (q : Quote) (text : List Char) : Option (Token × List Char) := do
    let (inside, after) ← q.split? false [] text
    return (← q.value? inside, after)

end Quote

/-- A quoted text with the number signs before it. -/
def quoted? (text : List Char) : Option (Token × List Char) :=
  let signs := (text.takeWhile (· = '#')).length
  match text.drop signs with
  | '"' :: rest => Quote.afterOpening? ⟨'"', signs⟩ rest
  | '\'' :: rest => Quote.afterOpening? ⟨'\'', signs⟩ rest
  | _ => none

/-- Whether number signs lead to a quote. -/
private def opensQuote (text : List Char) : Bool :=
  match text.dropWhile (· = '#') with
  | c :: _ => c = '"' || c = '\''
  | [] => false

/-- A sign, and whether an item can end with it. -/
def sign? : List Char → Option (String × Bool × List Char)
  | '.' :: '.' :: '.' :: rest => some ("...", true, rest)
  | c :: rest =>
    if ['\x7d', ']', ')', '?'].contains c then some (c.toString, true, rest)
    else if ['\x7b', '[', '(', ':', '+', '-', '!', '&'].contains c then some (c.toString, false, rest)
    else none
  | [] => none

/-- The next word or sign, and whether an item can end with it. -/
def next? (text : List Char) : Option (Token × Bool × List Char) :=
  match text with
  | ',' :: rest => some (.comma false, false, rest)
  | c :: more =>
    if c.isDigit || (c = '.' && more.head?.any Char.isDigit) then
      (number? text).map fun (token, rest) => (token, true, rest)
    else if opensQuote text then (quoted? text).map fun (token, rest) => (token, true, rest)
    else
      match name? text with
      | some (name, rest) => some (.name name, true, rest)
      | none => (sign? text).map fun (sign, ends, rest) => (.sign sign, ends, rest)
  | [] => none

private def isSpace (c : Char) : Bool := c = ' ' || c = '\t' || c = '\r' || c = '\n'

/-- The words and signs of a text. `ends` says whether the last of them can end an item. -/
def tokens? : (size : Nat) → (ends : Bool) → List Char → Option (List Token)
  | 0, _, _ => none
  | size + 1, ends, text =>
    match text with
    | [] => some (if ends then [.comma true] else [])
    | ' ' :: rest | '\t' :: rest | '\r' :: rest => tokens? size ends rest
    | '\n' :: rest =>
      let following := rest.dropWhile isSpace
      if ends && !following.head?.any (fun c => c = ',' || c = ':') then
        (tokens? size false following).map (.comma true :: ·)
      else tokens? size false following
    | '/' :: '/' :: rest =>
      if ends then (tokens? size false text).map (.comma true :: ·)
      else tokens? size false (rest.dropWhile (· ≠ '\n'))
    | _ => do
      let (token, ends, rest) ← next? text
      return token :: (← tokens? size ends rest)

end DesignLint.Contract
