import DesignLint.Decimal.Word
import DesignLint.Text.Bytes

/-! Coordinates. A place in a text is a byte offset or a pair of line and character, both counted
from zero. The end of a line has a character value of its own, so that a finding can extend to it. -/
namespace DesignLint

/-- A line and a byte column, both from zero. -/
structure Coordinate where
  line : Int
  character : Int
deriving Repr, DecidableEq, Inhabited

/-- A resolved pair of coordinates. -/
structure Span where
  start : Coordinate
  stop : Coordinate
deriving Repr, DecidableEq, Inhabited

/-- What a range was needed for when it turned out to be invalid. -/
inductive RangeUse where
  | coordinate
  | range
  | trim
deriving Repr, DecidableEq

/-- Offsets that are outside the text or in the wrong order. -/
structure RangeFault where
  purpose : RangeUse
  start : Int
  stop : Int
  length : Nat
deriving Repr, DecidableEq

namespace RangeUse

/-- The word for the use in a message. -/
def word : RangeUse → String
  | coordinate => "coordinate"
  | range => "range"
  | trim => "trim"

end RangeUse

/-- The wording of a range fault. -/
def RangeFault.message (fault : RangeFault) : String :=
  "source: invalid range for " ++ fault.purpose.word ++ ": [" ++ toString fault.start ++ ", "
    ++ toString fault.stop ++ ") in text of length " ++ toString fault.length

namespace Coordinate

/-- The byte that ends a line. -/
def newline : UInt8 := 10

/-- The character value of a coordinate that extends to the end of its line. -/
def endOfLine : Int := 2147483647

/-- Counts from one, with `$` for the end of a line. -/
def label (c : Coordinate) : String :=
  toString (wrapWord (c.line + 1)) ++ ":" ++
    (if c.character = endOfLine then "$" else toString (wrapWord (c.character + 1)))

/-- Walks a prefix of the text, counting lines and the bytes since the last line break. -/
def advance (line character : Nat) : Bytes → Nat × Nat
  | [] => (line, character)
  | b :: rest => if b = newline then advance (line + 1) 0 rest else advance line (character + 1) rest

theorem advance_append (line character : Nat) (before behind : Bytes) :
    advance line character (before ++ behind) =
      advance (advance line character before).1 (advance line character before).2 behind := by
  fun_induction advance line character before with
  | case1 => rfl
  | case2 line character before ih => rw [List.cons_append, advance, if_pos rfl, ih]
  | case3 line character b before other ih => rw [List.cons_append, advance, if_neg other, ih]

/-- The coordinate of an offset that lies in the text; a larger one is read as the text's end. -/
def ofOffset (text : Bytes) (offset : Nat) : Coordinate :=
  let (line, character) := advance 0 0 (text.take offset)
  ⟨line, character⟩

/-- The coordinate of an offset, which has to lie in the text. -/
def ofOffset? (text : Bytes) (offset : Int) : Except RangeFault Coordinate :=
  if offset < 0 || offset > text.length then
    .error ⟨.coordinate, offset, offset, text.length⟩
  else .ok (ofOffset text offset.toNat)

/-- The length of the first line, without its break. -/
def lineLength (text : Bytes) : Nat := (text.takeWhile (· ≠ newline)).length

theorem lineLength_le (text : Bytes) : lineLength text ≤ text.length := by
  rw [lineLength]
  exact (List.takeWhile_prefix _).length_le

/-- The text from the start of the given line on, or nothing past the last line. -/
def fromLine? (text : Bytes) : Nat → Option Bytes
  | 0 => some text
  | n + 1 =>
    match text.dropWhile (· ≠ newline) with
    | [] => none
    | _ :: rest => fromLine? rest n

theorem length_le_of_fromLine? {text rest : Bytes} {number : Nat} (found : fromLine? text number = some rest) :
    rest.length ≤ text.length := by
  induction number generalizing text with
  | zero =>
    cases found
    exact Nat.le_refl _
  | succ number ih =>
    rw [fromLine?] at found
    have dropped := (List.dropWhile_suffix (· ≠ newline) (l := text)).length_le
    split at found
    · cases found
    · rename_i behind
      rw [behind] at dropped
      exact Nat.le_trans (ih found) (Nat.le_of_succ_le dropped)

/-- The offset of a coordinate. A line past the last gives the end of the text, a character outside
its line the nearer end of the line. -/
def toOffset (text : Bytes) (c : Coordinate) : Nat :=
  match fromLine? text c.line.toNat with
  | none => text.length
  | some rest => text.length - rest.length + min c.character.toNat (lineLength rest)

theorem toOffset_le (text : Bytes) (c : Coordinate) : toOffset text c ≤ text.length := by
  rw [toOffset]
  cases found : fromLine? text c.line.toNat with
  | none => exact Nat.le_refl _
  | some rest =>
    have shorter := length_le_of_fromLine? found
    have inside := Nat.le_trans (Nat.min_le_right c.character.toNat _) (lineLength_le rest)
    simp only
    omega

end Coordinate
end DesignLint
