import DesignLint.Reader.Cursor

/-! Phrases: stretches of tokens that are not parsed further. An expression ends at a stop word outside
brackets, at a closing bracket that it did not open, or at the end of the file. Its identifiers are
classified by what stands around them. -/
namespace DesignLint

/-- A stretch of tokens and the token after it. -/
structure Phrase where
  tokens : List Token
  follow : Token

/-- Whether a token opens a bracket. -/
def Token.opens (t : Token) : Bool := t.kind = .delimiter && (t.word = "(" || t.word = "[")

/-- Whether a token closes a bracket. -/
def Token.closes (t : Token) : Bool := t.kind = .delimiter && (t.word = ")" || t.word = "]")

namespace Phrase

/-- The tokens before the first one that ends a phrase, and the rest. -/
def split (stops : Token → Bool) : (depth : Nat) → List Token → List Token × List Token
  | _, [] => ([], [])
  | depth, t :: rest =>
    if t.kind = .endOfText || depth = 0 && (stops t || t.closes) then ([], t :: rest)
    else
      let depth' := if t.opens then depth + 1 else if t.closes then depth - 1 else depth
      let (taken, left) := split stops depth' rest
      (t :: taken, left)

/-- The text from the first token to the last, with everything between them. -/
def source (text : Bytes) (p : Phrase) : Bytes :=
  match p.tokens.head?, p.tokens.getLast? with
  | some first, some last => text.slice first.offset last.stop
  | _, _ => []

/-- Whether the phrase is a plain name: an identifier with index, slice or selection suffixes only. -/
def isName (p : Phrase) : Bool :=
  match p.tokens with
  | [] => false
  | first :: rest => first.isName && suffixes 0 first rest
where
  suffixes : (depth : Int) → (previous : Token) → List Token → Bool
    | _, _, [] => true
    | depth, previous, t :: rest =>
      if t.word = "(" then suffixes (depth + 1) t rest
      else if t.word = ")" then suffixes (depth - 1) t rest
      else if depth > 0 || t.word = "." || (t.kind = .identifier && previous.word = ".") then
        suffixes depth t rest
      else false

end Phrase

/-- An identifier of a phrase, as it is used there. -/
inductive Occurrence where
  | read (token : Token) (isElement : Bool)
  | write (token : Token)

/-- Classifies the identifiers of a phrase. Names at bracket depth `writeDepth` are written, except record
selections of a written name; all others are read. Left out are reserved words, attribute names after
a tick, formals and choices before an arrow inside brackets, and library names before a point. -/
def Phrase.occurrences (libraries : List String) (writeDepth : Option Nat) (p : Phrase) :
    List Occurrence :=
  walk none 0 false p.tokens
where
  walk : (previous : Option Token) → (depth : Nat) → (afterLibrary : Bool) → List Token →
      List Occurrence
    | _, _, _, [] => []
    | previous, depth, afterLibrary, t :: rest =>
      if t.opens then walk (some t) (depth + 1) afterLibrary rest
      else if t.closes then walk (some t) (depth - 1) afterLibrary rest
      else
        let following := rest.headD p.follow
        if !t.isName || previous.any (·.kind = .tick) || (depth > 0 && following.word = "=>") then
          walk (some t) depth afterLibrary rest
        else if following.word = "." && libraries.contains t.word then
          walk (some t) depth true rest
        else
          let selected := previous.any (·.word = ".") && !afterLibrary
          let others := walk (some t) depth false rest
          if writeDepth = some depth then
            if selected then others else .write t :: others
          else .read t selected :: others

namespace Reader

/-- Reads a phrase up to a token that `stops` accepts. -/
def phrase (stops : Token → Bool) : Reader Phrase := do
  let s ← get
  let (tokens, rest) := Phrase.split stops 0 s.rest
  set { s with rest, lastStop := (tokens.getLast?.map Token.stop).or s.lastStop }
  return ⟨tokens, ← peek⟩

/-- Reads a phrase up to one of the words. -/
def phraseUpTo (words : List String) : Reader Phrase := phrase fun t => words.contains t.word

/-- Reads up to and including the word outside brackets. -/
def skipPast (word : String) : Reader Unit := do
  discard (phraseUpTo [word])
  skip word

/-- The text of a phrase. -/
def textOf (p : Phrase) : Reader Bytes := return p.source (← get).tree.text

/-- Adds a node for each occurrence, in order, and gives the written and the read ones. -/
def record (parent : NodeId) : List Occurrence → Reader (List NodeId × List NodeId)
  | [] => return ([], [])
  | .write t :: rest => do
    let id ← attachToken parent t (.write t.text)
    let (writes, reads) ← record parent rest
    return (id :: writes, reads)
  | .read t isElement :: rest => do
    let id ← attachToken parent t (.read t.text isElement)
    let (writes, reads) ← record parent rest
    return (writes, id :: reads)

/-- Adds the occurrences of a phrase whose names at `writeDepth` are written. -/
def occurrences (parent : NodeId) (writeDepth : Option Nat) (p : Phrase) :
    Reader (List NodeId × List NodeId) := do
  record parent (p.occurrences (← get).libraryNames writeDepth)

/-- Adds the reads of a phrase in which nothing is written. -/
def reads (parent : NodeId) (p : Phrase) : Reader (List NodeId) :=
  return (← occurrences parent none p).2

/-- Reads an expression up to one of the words and adds its reads. -/
def expression (parent : NodeId) (words : List String) : Reader (List NodeId) := do
  reads parent (← phraseUpTo words)

end Reader
end DesignLint
