import DesignLint.Regex.Piece

/-! Reading regular expressions. Groups nest through a stack of open groups, each with the branches and the
items read so far and the flags to go back to. An error names the part of the expression it is about. -/
namespace DesignLint.Regex

open Property (CharSet)

/-- What is wrong with an expression. -/
inductive Problem where
  | charRange
  | escape
  | namedCapture
  | perlOperator
  | nestedRepeat
  | repeatSize
  | missingBracket
  | missingParen
  | missingRepeatArgument
  | trailingBackslash
  | unexpectedParen
  | tooDeep
  | tooLarge

/-- The wording of a problem. -/
def Problem.words : Problem → String
  | charRange => "invalid character class range"
  | escape => "invalid escape sequence"
  | namedCapture => "invalid named capture"
  | perlOperator => "invalid or unsupported Perl syntax"
  | nestedRepeat => "invalid nested repetition operator"
  | repeatSize => "invalid repeat count"
  | missingBracket => "missing closing ]"
  | missingParen => "missing closing )"
  | missingRepeatArgument => "missing argument to repetition operator"
  | trailingBackslash => "trailing backslash at end of expression"
  | unexpectedParen => "unexpected )"
  | tooDeep => "expression nests too deeply"
  | tooLarge => "expression too large"

/-- A problem and the part of the expression it is about. -/
structure Error where
  problem : Problem
  part : List Char

/-- The wording of an error. -/
def Error.message (e : Error) : String :=
  "error parsing regexp: " ++ e.problem.words ++ ": `" ++ String.ofList e.part ++ "`"

/-- What the letters of a flag group switch. -/
structure Flags where
  fold : Bool := false
  multiline : Bool := false
  dotAll : Bool := false

/-- What is read of a group: finished branches and the pieces of the current one, newest first. -/
structure Group where
  branches : List Piece := []
  pieces : List Piece := []
  /-- Whether the group counts as a level of its own. -/
  captures : Bool := false
  /-- The flags to go back to when the group closes. -/
  outer : Flags := {}

/-- The state of reading: the group at hand, the groups around it, the flags, and the text from the last
repetition operator on if nothing stood between it and here. -/
structure State where
  current : Group := {}
  around : List Group := []
  flags : Flags := {}
  lastRepeat : Option (List Char) := none

/-- The piece, if it is within the limits on the expression. -/
def withinBounds (expression : List Char) (piece : Piece) : Except Error Piece :=
  if piece.size > Piece.maxSize then .error ⟨.tooLarge, expression⟩
  else if piece.height > Piece.maxHeight then .error ⟨.tooDeep, expression⟩
  else .ok piece

namespace State

/-- Adds a piece to the branch at hand. -/
def push (s : State) (piece : Piece) : State :=
  { s with current := { s.current with pieces := piece :: s.current.pieces } }

/-- Adds a character. -/
def literal (s : State) (code : Nat) : State := s.push (Piece.literal code s.flags.fold)

/-- Opens a group with the given flags inside. -/
def openGroup (s : State) (captures : Bool) (inside : Flags) : State :=
  { s with current := { captures, outer := s.flags }, around := s.current :: s.around, flags := inside }

/-- Finishes the branch at hand and starts the next one. -/
def nextBranch (expression : List Char) (s : State) : Except Error State := do
  let branch ← withinBounds expression (Piece.sequence s.current.pieces)
  return { s with current := { s.current with
    branches := Piece.addBranch branch s.current.branches, pieces := [] } }

/-- The piece of the group at hand. -/
def groupPiece (expression : List Char) (s : State) : Except Error Piece := do
  let finished ← s.nextBranch expression
  withinBounds expression (Piece.choice finished.current.branches)

/-- Closes the group at hand, if one is open. -/
def closeGroup (expression : List Char) (s : State) : Except Error State := do
  let inside ← s.groupPiece expression
  match s.around with
  | [] => throw ⟨.unexpectedParen, expression⟩
  | outer :: rest =>
    let whole ← if s.current.captures then withinBounds expression inside.captured else pure inside
    return State.push { s with current := outer, around := rest, flags := s.current.outer } whole

end State

/-- The characters of `whole` before its end part `rest`. -/
def partBefore (whole rest : List Char) : List Char := whole.take (whole.length - rest.length)

private def plainSet (ranges : List (Nat × Nat)) : CharSet := ⟨ranges.map fun (low, high) => ⟨low, high, 1⟩, false⟩

private def digitSet : CharSet := plainSet [(48, 57)]
private def spaceSet : CharSet := plainSet [(9, 10), (12, 13), (32, 32)]
private def wordSet : CharSet := plainSet [(48, 57), (65, 90), (95, 95), (97, 122)]

/-- The classes of a backslash and a letter; capitals give the complement. -/
def letterClass? : Char → Option (CharSet × Bool)
  | 'd' => some (digitSet, false)
  | 'D' => some (digitSet, true)
  | 's' => some (spaceSet, false)
  | 'S' => some (spaceSet, true)
  | 'w' => some (wordSet, false)
  | 'W' => some (wordSet, true)
  | _ => none

/-- The named classes between `[:` and `:]`. -/
def bracketClass? : String → Option CharSet
  | "alnum" => some (plainSet [(48, 57), (65, 90), (97, 122)])
  | "alpha" => some (plainSet [(65, 90), (97, 122)])
  | "ascii" => some (plainSet [(0, 127)])
  | "blank" => some (plainSet [(9, 9), (32, 32)])
  | "cntrl" => some (plainSet [(0, 31), (127, 127)])
  | "digit" => some digitSet
  | "graph" => some (plainSet [(33, 126)])
  | "lower" => some (plainSet [(97, 122)])
  | "print" => some (plainSet [(32, 126)])
  | "punct" => some (plainSet [(33, 47), (58, 64), (91, 96), (123, 126)])
  | "space" => some (plainSet [(9, 13), (32, 32)])
  | "upper" => some (plainSet [(65, 90)])
  | "word" => some wordSet
  | "xdigit" => some (plainSet [(48, 57), (65, 70), (97, 102)])
  | _ => none

private def isOctal (c : Char) : Bool := '0' ≤ c && c ≤ '7'

private def hexDigitOf? (c : Char) : Option Nat :=
  if c.isDigit then some (c.toNat - 48)
  else if 'a' ≤ c && c ≤ 'f' then some (c.toNat - 87)
  else if 'A' ≤ c && c ≤ 'F' then some (c.toNat - 55)
  else none

/-- The digits of a braced hexadecimal escape, of which there is at least one. On failure, what is left
after the offending character. -/
private def bracedHex : (value count : Nat) → List Char → Except (List Char) (Nat × List Char)
  | _, _, [] => .error []
  | value, count, c :: rest =>
    if c = '\x7d' then if count = 0 then .error rest else .ok (value, rest)
    else match hexDigitOf? c with
      | none => .error rest
      | some d =>
        if value * 16 + d > 0x10FFFF then .error rest else bracedHex (value * 16 + d) (count + 1) rest

/-- The code point of an escape after its backslash. `whole` starts with the backslash. -/
def escape (whole : List Char) : Except Error (Nat × List Char) :=
  let bad (rest : List Char) : Except Error (Nat × List Char) :=
    .error ⟨.escape, partBefore whole rest⟩
  match whole.drop 1 with
  | [] => .error ⟨.trailingBackslash, []⟩
  | c :: t =>
    if c = '0' || ('1' ≤ c && c ≤ '7' && t.head?.any isOctal) then
      let more := (t.take 2).takeWhile isOctal
      .ok (more.foldl (fun n d => n * 8 + (d.toNat - 48)) (c.toNat - 48), t.drop more.length)
    else match c with
      | 'a' => .ok (7, t)
      | 'f' => .ok (12, t)
      | 'n' => .ok (10, t)
      | 'r' => .ok (13, t)
      | 't' => .ok (9, t)
      | 'v' => .ok (11, t)
      | 'x' =>
        match t with
        | [] => bad []
        | '\x7b' :: t =>
          match bracedHex 0 0 t with
          | .ok result => .ok result
          | .error rest => bad rest
        | [_] => bad []
        | x :: y :: t =>
          match hexDigitOf? x, hexDigitOf? y with
          | some a, some b => .ok (a * 16 + b, t)
          | _, _ => bad t
      | _ => if c.toNat < 128 && !c.isAlphanum then .ok (c.toNat, t) else bad t

/-- A set of characters named after a backslash and p, if one starts here. -/
def propertyItem? (folded : Bool) (text : List Char) :
    Except Error (Option (ClassItem × List Char)) :=
  match text with
  | '\\' :: p :: t =>
    if p ≠ 'p' && p ≠ 'P' then .ok none
    else
      let braced := t.head? = some '\x7b'
      if braced && !t.contains '\x7d' then .error ⟨.charRange, text⟩
      else
        let (name, rest) := if braced then
            ((t.drop 1).takeWhile (· ≠ '\x7d'), (t.dropWhile (· ≠ '\x7d')).drop 1)
          else (t.take 1, t.drop 1)
        let (caret, name) := match name with
          | '^' :: name => (true, name)
          | _ => (false, name)
        match Property.find? (String.ofList name) with
        | none => .error ⟨.charRange, partBefore text rest⟩
        | some set => .ok (some (.group set ((p = 'P') != caret) folded, rest))
  | _ => .ok none

/-- A class of a backslash and a letter, if one starts here. -/
def letterItem? (folded : Bool) (text : List Char) : Option (ClassItem × List Char) :=
  match text with
  | '\\' :: c :: rest => (letterClass? c).map fun (set, negated) => (.group set negated folded, rest)
  | _ => none

/-- The text before the first `:]` and the text after it. -/
private def splitNamed : List Char → Option (List Char × List Char)
  | ':' :: ']' :: rest => some ([], rest)
  | c :: rest => (splitNamed rest).map fun (name, rest) => (c :: name, rest)
  | [] => none

/-- A class named between `[:` and `:]`, if one starts here. -/
def namedItem? (folded : Bool) (text : List Char) : Except Error (Option (ClassItem × List Char)) :=
  match text with
  | '[' :: ':' :: t =>
    match t, splitNamed t with
    | _ :: _, some (name, rest) =>
      let (negated, plain) := match name with
        | '^' :: plain => (true, plain)
        | _ => (false, name)
      match bracketClass? (String.ofList plain) with
      | some set => .ok (some (.group set negated folded, rest))
      | none => .error ⟨.charRange, partBefore text rest⟩
    | _, _ => .ok none
  | _ => .ok none

/-- One character of a class; `whole` is the class from its bracket on. -/
def classChar (whole text : List Char) : Except Error (Nat × List Char) :=
  match text with
  | [] => .error ⟨.missingBracket, whole⟩
  | '\\' :: _ => escape text
  | c :: rest => .ok (c.toNat, rest)

/-- A character or a range of a class. -/
def classRange (folded : Bool) (whole text : List Char) : Except Error (ClassItem × List Char) := do
  let (low, rest) ← classChar whole text
  match rest with
  | '-' :: c :: more =>
    if c = ']' then return (.range low low folded, rest)
    let (high, rest) ← classChar whole (c :: more)
    if high < low then throw ⟨.charRange, partBefore text rest⟩
    return (.range low high folded, rest)
  | _ => return (.range low low folded, rest)

/-- One part of a class. -/
def classItem (folded : Bool) (whole text : List Char) : Except Error (ClassItem × List Char) := do
  match ← namedItem? folded text with
  | some found => return found
  | none =>
    match ← propertyItem? folded text with
    | some found => return found
    | none =>
      match letterItem? folded text with
      | some found => return found
      | none => classRange folded whole text

/-- The parts of a class up to its closing bracket, which may not come first. -/
def classItems (folded : Bool) (whole : List Char) :
    (fuel : Nat) → (first : Bool) → List Char → Except Error (List ClassItem × List Char)
  | 0, _, _ => throw ⟨.missingBracket, whole⟩
  | fuel + 1, first, text =>
    match text with
    | ']' :: rest =>
      if first then next fuel text else return ([], rest)
    | _ => next fuel text
where
  next (fuel : Nat) (text : List Char) : Except Error (List ClassItem × List Char) := do
    let (item, rest) ← classItem folded whole text
    let (items, rest) ← classItems folded whole fuel false rest
    return (item :: items, rest)

/-- A class from its opening bracket on. -/
def charClass (folded : Bool) (whole : List Char) : Except Error (CharClass × List Char) := do
  let t := whole.drop 1
  let negated := t.head? = some '^'
  let (items, rest) ← classItems folded whole (whole.length + 1) true (if negated then t.drop 1 else t)
  return (⟨items, negated⟩, rest)

/-- A decimal number without leading zeros. Numbers too large to matter are cut. -/
private def decimal? (text : List Char) : Option (Nat × List Char) :=
  let digits := text.takeWhile Char.isDigit
  match digits with
  | [] => none
  | '0' :: _ :: _ => none
  | _ => some (digits.foldl (fun n d => min (n * 10 + (d.toNat - 48)) 1000000) 0, text.drop digits.length)

/-- The bounds of a counted repetition from its brace on. -/
def repeatBounds? (text : List Char) : Option (Nat × Option Nat × List Char) := do
  let (least, rest) ← decimal? (text.drop 1)
  match rest with
  | '\x7d' :: rest => return (least, some least, rest)
  | ',' :: '\x7d' :: rest => return (least, none, rest)
  | ',' :: rest =>
    let (most, rest) ← decimal? rest
    match rest with
    | '\x7d' :: rest => return (least, some most, rest)
    | _ => none
  | _ => none

/-- Repeats the last piece. `before` starts with the operator and `after` follows it. -/
def applyRepeat (expression : List Char) (s : State) (counted : Bool) (least : Nat) (most : Option Nat)
    (before after : List Char) :
    Except Error (State × List Char) := do
  let after := match after with
    | '?' :: rest => rest
    | _ => after
  if let some last := s.lastRepeat then throw ⟨.nestedRepeat, partBefore last after⟩
  match s.current.pieces with
  | [] => throw ⟨.missingRepeatArgument, partBefore before after⟩
  | piece :: earlier =>
    let repeated ← withinBounds expression (piece.repeated counted least most)
    if !repeated.pattern.withinLimit 1000 then throw ⟨.repeatSize, partBefore before after⟩
    return ({ s with
      current := { s.current with pieces := repeated :: earlier }, lastRepeat := some before }, after)

/-- Whether a capture name consists of letters, digits and underscores. -/
private def isCaptureName (name : List Char) : Bool := !name.isEmpty && name.all isWordChar

/-- The letters of a flag group after `(?`. Gives the flags, whether a group opens, and the rest. -/
def flagLetters (whole : List Char) :
    (flags : Flags) → (negative sawFlag : Bool) → List Char → Except Error (Flags × Bool × List Char)
  | _, _, _, [] => throw ⟨.perlOperator, whole⟩
  | flags, negative, sawFlag, c :: rest =>
    match c with
    | 'i' => flagLetters whole { flags with fold := !negative } negative true rest
    | 'm' => flagLetters whole { flags with multiline := !negative } negative true rest
    | 's' => flagLetters whole { flags with dotAll := !negative } negative true rest
    | 'U' => flagLetters whole flags negative true rest
    | '-' =>
      if negative then throw ⟨.perlOperator, partBefore whole rest⟩
      else flagLetters whole flags true false rest
    | ':' =>
      if negative && !sawFlag then throw ⟨.perlOperator, partBefore whole rest⟩
      else return (flags, true, rest)
    | ')' =>
      if negative && !sawFlag then throw ⟨.perlOperator, partBefore whole rest⟩
      else return (flags, false, rest)
    | _ => throw ⟨.perlOperator, partBefore whole rest⟩

/-- A group that starts with `(?`. -/
def specialGroup (s : State) (whole : List Char) : Except Error (State × List Char) := do
  let t := whole.drop 2
  let named := match t with
    | 'P' :: '<' :: _ :: _ => some 4
    | '<' :: _ :: _ => some 3
    | _ => none
  match named with
  | some start =>
    if !whole.contains '>' then throw ⟨.namedCapture, whole⟩
    let capture := whole.takeWhile (· ≠ '>')
    if !isCaptureName (capture.drop start) then throw ⟨.namedCapture, capture ++ ['>']⟩
    return (s.openGroup true s.flags, whole.drop (capture.length + 1))
  | none =>
    let (flags, opens, rest) ← flagLetters whole s.flags false false t
    return (if opens then s.openGroup false flags else { s with flags }, rest)

/-- The text before the first `\E`, and the text after it. -/
private def splitQuoted : List Char → List Char × List Char
  | '\\' :: 'E' :: rest => ([], rest)
  | c :: rest =>
    let (quoted, rest) := splitQuoted rest
    (c :: quoted, rest)
  | [] => ([], [])

/-- Something that starts with a backslash. -/
def escaped (s : State) (text : List Char) : Except Error (State × List Char) := do
  match text with
  | '\\' :: 'A' :: rest => return (s.push (Piece.assertion .beginText), rest)
  | '\\' :: 'b' :: rest => return (s.push (Piece.assertion .wordBoundary), rest)
  | '\\' :: 'B' :: rest => return (s.push (Piece.assertion .noWordBoundary), rest)
  | '\\' :: 'C' :: _ => throw ⟨.escape, ['\\', 'C']⟩
  | '\\' :: 'Q' :: rest =>
    let (quoted, rest) := splitQuoted rest
    return (quoted.foldl (fun s c => s.literal c.toNat) s, rest)
  | '\\' :: 'z' :: rest => return (s.push (Piece.assertion .endText), rest)
  | _ =>
    match ← propertyItem? s.flags.fold text with
    | some (item, rest) => return (s.push (Piece.charClass ⟨[item], false⟩), rest)
    | none =>
      match letterItem? s.flags.fold text with
      | some (item, rest) => return (s.push (Piece.charClass ⟨[item], false⟩), rest)
      | none =>
        let (code, rest) ← escape text
        return (s.literal code, rest)

/-- Reads one element of the expression. -/
def element (expression : List Char) (s : State) (c : Char) (rest : List Char) :
    Except Error (State × List Char) := do
  let text := c :: rest
  let plain := { s with lastRepeat := none }
  match c with
  | '(' =>
    if rest.head? = some '?' then specialGroup plain text
    else return (plain.openGroup true plain.flags, rest)
  | '|' => return (← plain.nextBranch expression, rest)
  | ')' => return (← plain.closeGroup expression, rest)
  | '^' =>
    return (plain.push (Piece.assertion (if s.flags.multiline then .beginLine else .beginText)), rest)
  | '$' => return (plain.push (Piece.assertion (if s.flags.multiline then .endLine else .endText)), rest)
  | '.' =>
    let excluded := if s.flags.dotAll then [] else [ClassItem.range 10 10 false]
    return (plain.push (Piece.charClass ⟨excluded, true⟩), rest)
  | '[' =>
    let (cls, rest) ← charClass s.flags.fold text
    return (plain.push (Piece.charClass cls), rest)
  | '*' => applyRepeat expression s false 0 none text rest
  | '+' => applyRepeat expression s false 1 none text rest
  | '?' => applyRepeat expression s false 0 (some 1) text rest
  | '\x7b' =>
    match repeatBounds? text with
    | none => return (plain.literal c.toNat, rest)
    | some (least, most, after) =>
      if least > 1000 || most.any (fun m => m > 1000 || least > m) then
        throw ⟨.repeatSize, partBefore text after⟩
      applyRepeat expression s true least most text after
  | '\\' => escaped plain text
  | _ => return (plain.literal c.toNat, rest)

/-- Reads the elements of an expression. -/
def elements (expression : List Char) : (fuel : Nat) → State → List Char → Except Error State
  | 0, s, _ => return s
  | _, s, [] => return s
  | fuel + 1, s, c :: rest => do
    let (s, rest) ← element expression s c rest
    elements expression fuel s rest

/-- The pattern that an expression denotes. -/
def parse (expression : String) : Except Error Pattern := do
  let text := expression.toList
  let s ← elements text text.length {} text
  let whole ← s.groupPiece text
  if s.around.isEmpty then return whole.pattern else throw ⟨.missingParen, text⟩

end DesignLint.Regex
