import DesignLint.Text.Case
import DesignLint.Text.Quoted

/-! Tokens. Words of the language are not case-sensitive, so a token carries its lower-cased text beside
the text as written. Reserved words are ordinary identifiers until the parser asks for them. -/
namespace DesignLint

/-- The lexical class of a token. -/
inductive TokenKind where
  | identifier
  | number
  | string
  | bitString
  | character
  | tick
  | delimiter
  | endOfText
deriving Repr, DecidableEq, Inhabited

/-- A lexeme and where it starts. -/
structure Token where
  kind : TokenKind
  text : Bytes
  /-- The text in lower case. -/
  word : String
  offset : Nat
deriving Inhabited

namespace Token

/-- A token of the given text. -/
def ofText (kind : TokenKind) (text : Bytes) (offset : Nat) : Token :=
  ⟨kind, text, text.lower, offset⟩

/-- The token that stands behind the last one. -/
def endOfText (offset : Nat) : Token := ⟨.endOfText, [], "", offset⟩

/-- The offset right after the token. -/
def stop (t : Token) : Nat := t.offset + t.text.length

/-- How an error message names the token. -/
def describe (t : Token) : String :=
  if t.kind = .endOfText then "end of file" else Quoted.quote t.text

end Token

/-- The reserved words. Those of the property specification language are left out, since older designs
use them as names. -/
def reservedWords : List String :=
  ["abs", "access", "after", "alias", "all", "and", "architecture", "array", "assert", "attribute",
   "begin", "block", "body", "buffer", "bus", "case", "component", "configuration", "constant",
   "context", "disconnect", "downto", "else", "elsif", "end", "entity", "exit", "file", "for",
   "function", "generate", "generic", "group", "guarded", "if", "impure", "in", "inertial", "inout",
   "is", "label", "library", "linkage", "literal", "loop", "map", "mod", "nand", "new", "next", "nor",
   "not", "null", "of", "on", "open", "or", "others", "out", "package", "port", "postponed",
   "procedure", "process", "protected", "pure", "range", "record", "register", "reject", "rem",
   "report", "return", "rol", "ror", "select", "severity", "shared", "signal", "sla", "sll", "sra",
   "srl", "subtype", "then", "to", "transport", "type", "unaffected", "units", "until", "use",
   "variable", "wait", "when", "while", "with", "xnor", "xor"]

namespace Token

/-- Whether the token is an identifier that is not a reserved word. -/
def isName (t : Token) : Bool := t.kind = .identifier && !reservedWords.contains t.word

end Token
end DesignLint
