import DesignLint.Json.Value
import DesignLint.Text.Quoted

/-! Writing JSON. Characters that a browser could take for markup are escaped, as are the two Unicode line
separators, and an invalid byte is written as the escape of U+FFFD. Indented output puts every member
and item on a line of its own, two blanks deeper than what holds it. -/
namespace DesignLint.Json

/-- How a character is written inside a string. -/
def escapeChar (c : Char) : List Char :=
  match c with
  | '"' => ['\\', '"']
  | '\\' => ['\\', '\\']
  | '\n' => ['\\', 'n']
  | '\r' => ['\\', 'r']
  | '\t' => ['\\', 't']
  | _ =>
    let n := c.toNat
    if n = 8 then ['\\', 'b']
    else if n = 12 then ['\\', 'f']
    else if n < 32 || c = '<' || c = '>' || c = '&' || n = 0x2028 || n = 0x2029 then
      '\\' :: 'u' :: Quoted.hex 4 n
    else [c]

/-- How a unit of a text is written inside a string. -/
def escapeUnit (unit : Char × Bytes) : List Char :=
  match Bytes.invalidByte? unit with
  | some _ => ['\\', 'u', 'f', 'f', 'f', 'd']
  | none => escapeChar unit.1

/-- A text as a JSON string. -/
def quoteText (text : Bytes) : String :=
  String.ofList ('"' :: text.units.flatMap escapeUnit ++ ['"'])

/-- A name as a JSON string. -/
def quoteName (name : String) : String :=
  String.ofList ('"' :: name.toList.flatMap escapeChar ++ ['"'])

mutual

/-- The value on one line, without blanks. -/
def compact : Json → String
  | null => "null"
  | bool b => if b then "true" else "false"
  | number literal => literal
  | string text => quoteText text
  | array items => "[" ++ ",".intercalate (compactItems items) ++ "]"
  | object members => "\x7b" ++ ",".intercalate (compactMembers members) ++ "\x7d"

def compactItems : List Json → List String
  | [] => []
  | item :: rest => item.compact :: compactItems rest

def compactMembers : List (String × Json) → List String
  | [] => []
  | (name, value) :: rest => (quoteName name ++ ":" ++ value.compact) :: compactMembers rest

end

/-- A line break and the blanks of a depth. -/
def lineBreak (depth : Nat) : String := "\n" ++ String.ofList (List.replicate (2 * depth) ' ')

/-- Lines between brackets, each one deeper than the brackets. -/
def bracketed (depth : Nat) (opening closing : String) (lines : List String) : String :=
  if lines.isEmpty then opening ++ closing
  else opening ++ lineBreak (depth + 1) ++ ("," ++ lineBreak (depth + 1)).intercalate lines
    ++ lineBreak depth ++ closing

mutual

/-- The value over several lines. -/
def indented (depth : Nat) : Json → String
  | array items => bracketed depth "[" "]" (indentedItems (depth + 1) items)
  | object members => bracketed depth "\x7b" "\x7d" (indentedMembers (depth + 1) members)
  | null => "null"
  | bool b => if b then "true" else "false"
  | number literal => literal
  | string text => quoteText text

def indentedItems (depth : Nat) : List Json → List String
  | [] => []
  | item :: rest => item.indented depth :: indentedItems depth rest

def indentedMembers (depth : Nat) : List (String × Json) → List String
  | [] => []
  | (name, value) :: rest =>
    (quoteName name ++ ": " ++ value.indented depth) :: indentedMembers depth rest

end

/-- The value over several lines, from the left margin. -/
def pretty (value : Json) : String := value.indented 0

end DesignLint.Json
