import DesignLint.Settings.Value
import DesignLint.Text.Bytes
import DesignLint.Unicode.NameChar

/-! Reading settings. A line break ends an attribute and a block, except inside brackets; comments start with
`#` or `//`, or stand between `/*` and `*/`. A block on one line holds at most one attribute. Names do not
stand for values: only literals are read. -/
namespace DesignLint.Settings

private def startsName (c : Char) : Bool := c = '_' || NameChar.starts c

private def continuesName (c : Char) : Bool := c = '-' || NameChar.continues c

/-- A name. -/
def name? : List Char → Option (String × List Char)
  | c :: rest =>
    if startsName c then
      some (String.ofList (c :: rest.takeWhile continuesName), rest.dropWhile continuesName)
    else none
  | [] => none

/-- What follows a comment between stars. -/
private def afterComment? : List Char → Option (List Char)
  | '*' :: '/' :: rest => some rest
  | _ :: rest => afterComment? rest
  | [] => none

/-- Skips blanks and comments, and line breaks too if told so. -/
def skip (lines : Bool) : (size : Nat) → List Char → List Char
  | 0, text => text
  | size + 1, text =>
    match text with
    | ' ' :: rest | '\t' :: rest => skip lines size rest
    | '\r' :: '\n' :: rest => if lines then skip lines size rest else text
    | '\n' :: rest => if lines then skip lines size rest else text
    | '#' :: rest => skip lines size (rest.dropWhile (· ≠ '\n'))
    | '/' :: '/' :: rest => skip lines size (rest.dropWhile (· ≠ '\n'))
    | '/' :: '*' :: rest =>
      match afterComment? rest with
      | some rest => skip lines size rest
      | none => text
    | _ => text

/-- Skips blanks and comments on a line. -/
def skipBlanks (text : List Char) : List Char := skip false (text.length + 1) text

/-- Skips blanks, comments and line breaks. -/
def skipLines (text : List Char) : List Char := skip true (text.length + 1) text

/-- What follows a line break, or nothing at the end of the text. -/
def lineEnd? (text : List Char) : Option (List Char) :=
  match skipBlanks text with
  | [] => some []
  | '\n' :: rest => some rest
  | '\r' :: '\n' :: rest => some rest
  | _ => none

private def hexDigits? (digits : List Char) : Option Nat :=
  digits.foldlM (fun n c =>
    if c.isDigit then some (n * 16 + (c.toNat - 48))
    else if 'a' ≤ c && c ≤ 'f' then some (n * 16 + (c.toNat - 87))
    else if 'A' ≤ c && c ≤ 'F' then some (n * 16 + (c.toNat - 55))
    else none) 0

/-- A character given by its number. -/
private def numbered? (width : Nat) (text : List Char) : Option (Char × List Char) := do
  let digits := text.take width
  if digits.length < width then none
  let n ← hexDigits? digits
  if n.isValidChar then some (Char.ofNat n, text.drop width) else none

/-- The character of an escape after its backslash. -/
def escape? : List Char → Option (Char × List Char)
  | 'n' :: rest => some ('\n', rest)
  | 'r' :: rest => some ('\r', rest)
  | 't' :: rest => some ('\t', rest)
  | '"' :: rest => some ('"', rest)
  | '\\' :: rest => some ('\\', rest)
  | 'u' :: rest => numbered? 4 rest
  | 'U' :: rest => numbered? 8 rest
  | _ => none

/-- A part of a quoted text: characters, the last first, or a value between braces. -/
inductive Part where
  | chars (text : List Char)
  | value (v : Value)

/-- The value of a quoted text: a single value between braces is itself, anything else is text. -/
def joinParts : List Part → Option Value
  | [.value v] => some v
  | parts => do
    let texts ← parts.mapM fun part => match part with
      | .chars text => some (String.ofList text.reverse)
      | .value v => v.text?
    return .ofText (String.join texts)

/-- Adds a character to the parts of a quoted text, the latest first. -/
private def addChar (c : Char) : List Part → List Part
  | .chars text :: rest => .chars (c :: text) :: rest
  | parts => .chars [c] :: parts

mutual

/-- A value. -/
def value? : (size : Nat) → List Char → Option (Value × List Char)
  | 0, _ => none
  | size + 1, text =>
    match text with
    | '"' :: rest => quoted? size [] rest
    | '[' :: rest => tupleItems? size [] (skipLines rest)
    | '\x7b' :: rest =>
      let rest := skipLines rest
      if (name? rest).any (·.1 = "for") then none else objectItems? size [] rest
    | '(' :: rest => do
      let (v, rest) ← value? size (skipLines rest)
      match skipLines rest with
      | ')' :: rest => some (v, rest)
      | _ => none
    | '-' :: rest => do
      let (v, rest) ← value? size (skipBlanks rest)
      return (.number (← v.quantity?).neg, rest)
    | '!' :: rest => do
      let (v, rest) ← value? size (skipBlanks rest)
      return (.flag !(← v.flag?), rest)
    | _ =>
      match Quantity.parse? text with
      | some (n, rest) => some (.number n, rest)
      | none => do
        let (name, rest) ← name? text
        match name with
        | "true" => some (.flag true, rest)
        | "false" => some (.flag false, rest)
        | "null" => some (.null, rest)
        | _ => none

/-- A quoted text after its opening quote, the parts so far being the latest first. -/
def quoted? : (size : Nat) → (parts : List Part) → List Char → Option (Value × List Char)
  | 0, _, _ => none
  | size + 1, parts, text =>
    match text with
    | '"' :: rest => (joinParts parts.reverse).map (·, rest)
    | '\\' :: rest => do
      let (c, rest) ← escape? rest
      quoted? size (addChar c parts) rest
    | '$' :: '$' :: '\x7b' :: rest => quoted? size (addChar '\x7b' (addChar '$' parts)) rest
    | '%' :: '%' :: '\x7b' :: rest => quoted? size (addChar '\x7b' (addChar '%' parts)) rest
    | '%' :: '\x7b' :: _ => none
    | '$' :: '\x7b' :: rest => do
      let (v, rest) ← value? size (skipLines rest)
      match skipLines rest with
      | '\x7d' :: rest => quoted? size (.value v :: parts) rest
      | _ => none
    | '\n' :: _ | '\r' :: _ => none
    | c :: rest => quoted? size (addChar c parts) rest
    | [] => none

/-- The items of a list up to its closing bracket. -/
def tupleItems? : (size : Nat) → (items : List Value) → List Char → Option (Value × List Char)
  | 0, _, _ => none
  | size + 1, items, text =>
    match text with
    | ']' :: rest => some (.tuple items.reverse, rest)
    | _ => do
      let (v, rest) ← value? size text
      match skipLines rest with
      | ',' :: rest => tupleItems? size (v :: items) (skipLines rest)
      | ']' :: rest => some (.tuple (v :: items).reverse, rest)
      | _ => none

/-- The members of an object up to its closing brace. A comma or a line break stands between two of them, and
of several members of one name the last counts. -/
def objectItems? : (size : Nat) → (members : List (String × Value)) → List Char → Option (Value × List Char)
  | 0, _, _ => none
  | size + 1, members, text =>
    match text with
    | '\x7d' :: rest => some (.object members.reverse, rest)
    | _ => do
      let (key, rest) ← match name? text with
        | some (name, rest) => some (composed name, rest)
        | none => (value? size text).bind fun found => found.1.text?.map fun key => (key, found.2)
      let rest ← match skipBlanks rest with
        | '=' :: rest => some rest
        | ':' :: rest => some rest
        | _ => none
      let (v, rest) ← value? size (skipBlanks rest)
      let members := (key, v) :: members.filter fun m => m.1 != key
      match skipBlanks rest with
      | ',' :: rest => objectItems? size members (skipLines rest)
      | '\x7d' :: rest => some (.object members.reverse, rest)
      | '\n' :: rest => objectItems? size members (skipLines rest)
      | '\r' :: '\n' :: rest => objectItems? size members (skipLines rest)
      | _ => none

end

/-- A quoted label after its opening quote. No value stands inside it, and it is kept as it is written. -/
def label? : (size : Nat) → (taken : List Char) → List Char → Option (String × List Char)
  | 0, _, _ => none
  | size + 1, taken, text =>
    match text with
    | '"' :: rest => some (String.ofList taken.reverse, rest)
    | '\\' :: rest => do
      let (c, rest) ← escape? rest
      label? size (c :: taken) rest
    | '$' :: '$' :: '\x7b' :: rest => label? size ('\x7b' :: '$' :: taken) rest
    | '%' :: '%' :: '\x7b' :: rest => label? size ('\x7b' :: '%' :: taken) rest
    | '$' :: '\x7b' :: _ | '%' :: '\x7b' :: _ | '\n' :: _ | '\r' :: _ | [] => none
    | c :: rest => label? size (c :: taken) rest

/-- The labels of a block up to its opening brace. -/
def labels? : (size : Nat) → (found : List String) → List Char → Option ((List String) × List Char)
  | 0, _, _ => none
  | size + 1, found, text =>
    match skipBlanks text with
    | '\x7b' :: rest => some (found.reverse, rest)
    | '"' :: rest => do
      let (label, rest) ← label? (rest.length + 1) [] rest
      labels? size (label :: found) rest
    | text => do
      let (label, rest) ← name? text
      labels? size (label :: found) rest

/-- The value after an equals sign. -/
private def attributeValue? (text : List Char) : Option (Value × List Char) :=
  value? (text.length + 1) (skipBlanks text)

/-- The only attribute of a block on one line, up to the closing brace. -/
private def singleAttribute? (text : List Char) : Option ((List (String × Value)) × List Char) := do
  let (name, rest) ← name? text
  match skipBlanks rest with
  | '=' :: rest =>
    let (v, rest) ← attributeValue? rest
    match skipBlanks rest with
    | '\x7d' :: rest => some ([(name, v)], rest)
    | _ => none
  | _ => none

/-- The attributes and blocks of a body, up to its closing brace or, outside all blocks, the end of the text. -/
def body? : (size : Nat) → (outermost : Bool) → (attributes : List (String × Value)) →
    (blocks : List Block) → List Char → Option ((List (String × Value) × List Block) × List Char)
  | 0, _, _, _, _ => none
  | size + 1, outermost, attributes, blocks, text =>
    match skipLines text with
    | [] => if outermost then some ((attributes.reverse, blocks.reverse), []) else none
    | '\x7d' :: rest => if outermost then none else some ((attributes.reverse, blocks.reverse), rest)
    | text => do
      let (name, rest) ← name? text
      match skipBlanks rest with
      | '=' :: rest =>
        let (v, rest) ← attributeValue? rest
        let rest ← lineEnd? rest
        if attributes.any (·.1 = name) then none
        else body? size outermost ((name, v) :: attributes) blocks rest
      | rest =>
        let (labels, rest) ← labels? (rest.length + 1) [] rest
        let ((inner, nested), rest) ← match lineEnd? rest, skipBlanks rest with
          | _, '\x7d' :: rest => some (([], []), rest)
          | some rest, _ => body? size false [] [] rest
          | none, rest => (singleAttribute? rest).map fun (one, rest) => ((one, []), rest)
        let rest ← lineEnd? rest
        body? size outermost attributes (.mk name labels inner nested :: blocks) rest

/-- The attributes and blocks of a text. A byte order mark at its start does not count. -/
def parse? (text : String) : Option (List (String × Value) × List Block) :=
  let chars := Bytes.withoutMark text.toList
  (body? (chars.length + 1) true [] [] chars).map Prod.fst

end DesignLint.Settings
