import DesignLint.Text.Bytes
import DesignLint.Files.Path

/-! Glob patterns. A star stands for any bytes but a slash, a question mark for one character but a slash, and
brackets for one character of a class. A pattern is cut at its stars: each piece is matched at the first
place where it fits, and that choice is never taken back. -/
namespace DesignLint

namespace Glob

/-- What stands for one character. -/
inductive Item where
  | literal (byte : UInt8)
  | anyChar
  | charClass (negated : Bool) (ranges : List (Char × Char))

/-- A run of items, possibly after a star. -/
structure Piece where
  star : Bool
  items : List Item

/-- The slash between segments. -/
def slash : UInt8 := 47

/-- One end of a range of a class and the rest, which may not be empty. -/
def classChar? (text : Bytes) : Option (Char × Bytes) :=
  let take : Bytes → Option (Char × Bytes)
    | [] => none
    | b :: rest =>
      let (c, after) := Bytes.step b rest
      if (c == Bytes.replacement && after.length == rest.length) || after.isEmpty then none
      else some (c, after)
  match text with
  | [] => none
  | b :: rest =>
    if b == 45 || b == 93 then none
    else if b == 92 then take rest
    else take text

/-- The ranges of a class up to its closing bracket, and what follows it. -/
def classRanges? : (size : Nat) → (found : List (Char × Char)) → Bytes → Option (List (Char × Char) × Bytes)
  | 0, _, _ => none
  | size + 1, found, text =>
    match text.head?, found with
    | some 93, _ :: _ => some (found.reverse, text.drop 1)
    | _, _ => do
      let (low, rest) ← classChar? text
      if rest.head? == some 45 then
        let (high, rest) ← classChar? (rest.drop 1)
        classRanges? size ((low, high) :: found) rest
      else classRanges? size ((low, low) :: found) rest

/-- The items of a piece of a pattern, if it is well formed. -/
def items? : (size : Nat) → Bytes → Option (List Item)
  | 0, _ => some []
  | _, [] => some []
  | size + 1, b :: rest =>
    if b == 91 then do
      let negated := rest.head? == some 94
      let (ranges, rest) ← classRanges? (rest.length + 1) [] (if negated then rest.drop 1 else rest)
      return .charClass negated ranges :: (← items? size rest)
    else if b == 63 then do return .anyChar :: (← items? size rest)
    else if b == 92 then
      match rest with
      | [] => none
      | c :: rest => do return .literal c :: (← items? size rest)
    else do return .literal b :: (← items? size rest)

/-- The length of a pattern up to its next star. Stars in brackets and after a backslash do not count. -/
def pieceLength (inClass : Bool) : Bytes → Nat
  | [] => 0
  | [b] => if b == 42 && !inClass then 0 else 1
  | b :: c :: rest =>
    if b == 92 then 2 + pieceLength inClass rest
    else if b == 91 then 1 + pieceLength true (c :: rest)
    else if b == 93 then 1 + pieceLength false (c :: rest)
    else if b == 42 && !inClass then 0
    else 1 + pieceLength inClass (c :: rest)

/-- The pieces of a pattern, if all are well formed. -/
def pieces? : (size : Nat) → Bytes → Option (List Piece)
  | 0, _ => some []
  | _, [] => some []
  | size + 1, text => do
    let rest := text.dropWhile (· == 42)
    let length := pieceLength false rest
    let items ← items? length (rest.take length)
    return ⟨rest.length < text.length, items⟩ :: (← pieces? size (rest.drop length))

/-- Whether one item fits at the start of a text, and what it leaves. -/
def Item.fits? (item : Item) : Bytes → Option Bytes
  | [] => none
  | b :: rest =>
    match item with
    | literal expected => if b == expected then some rest else none
    | anyChar => if b == slash then none else some (Bytes.step b rest).2
    | charClass negated ranges =>
      let (c, after) := Bytes.step b rest
      if (ranges.any fun (low, high) => low ≤ c && c ≤ high) == negated then none else some after

/-- Whether items fit one after the other, and what they leave. -/
def itemsFit? : List Item → Bytes → Option Bytes
  | [], text => some text
  | item :: more, text => (item.fits? text).bind (itemsFit? more)

/-- The places where a piece after a star may start: here and after each byte before the next slash. -/
def starts : Bytes → List Bytes
  | [] => [[]]
  | b :: rest => if b == slash then [b :: rest] else (b :: rest) :: starts rest

/-- Whether the pieces match the whole text. -/
def matchPieces : List Piece → Bytes → Bool
  | [], text => text.isEmpty
  | ⟨star, items⟩ :: rest, text =>
    if star && items.isEmpty then !text.contains slash
    else
      let places := if star then starts text else [text]
      let taken := places.findSome? fun place =>
        (itemsFit? items place).filter fun left => left.isEmpty || !rest.isEmpty
      match taken with
      | some left => matchPieces rest left
      | none => false

end Glob

/-- A well-formed pattern. -/
structure Glob where
  pieces : List Glob.Piece

namespace Glob

/-- Reads a pattern. -/
def parse? (pattern : Bytes) : Option Glob := (pieces? (pattern.length + 1) pattern).map Glob.mk

/-- Whether a pattern matches a whole text. -/
def accepts (g : Glob) (text : Bytes) : Bool := matchPieces g.pieces text

/-- Whether a pattern is well formed and matches a whole text. -/
def isMatch (pattern text : Bytes) : Bool := (parse? pattern).any (·.accepts text)

/-- Whether a pattern matches a path or its last segment. -/
def matchesPath (pattern path : String) : Bool :=
  isMatch (Bytes.ofString pattern) (Bytes.ofString path)
    || isMatch (Bytes.ofString pattern) (Bytes.ofString (Path.base path))

/-- Whether a text has a character with a meaning of its own in patterns. -/
def isPattern (text : String) : Bool := text.toList.any fun c => c = '*' || c = '?' || c = '[' || c = '\\'

/-- Whether what follows a double star matches a path below the directory before it. A pattern of one segment is
matched with the last segment of the path, a longer one with the path and with as many of its last bytes
as the pattern is long. -/
def matchesBelow (path pattern : String) : Bool :=
  let pattern := if pattern.toList.head? == some '/' then String.ofList (pattern.toList.drop 1) else pattern
  let text := Bytes.ofString path
  let wanted := Bytes.ofString pattern
  if !wanted.contains slash then isMatch wanted (Bytes.ofString (Path.base path))
  else
    isMatch wanted text ||
      (text.length > wanted.length && isMatch wanted (text.drop (text.length - wanted.length)))

end Glob
end DesignLint
