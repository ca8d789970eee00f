import DesignLint.Source.Coordinate

/-! Positions into a text that may change. A position holds an offset and, once asked for, the
coordinate of that offset, which it keeps until the offset is set again. Setting a line or a character
goes the other way: the coordinate is kept as it was set and the offset follows from the text. -/
namespace DesignLint

/-- An offset and the coordinate last read or set, if any. -/
structure Position where
  offset : Int
  cached : Option Coordinate
deriving Repr, DecidableEq

namespace Position

/-- A position whose coordinate is not known yet. -/
def ofOffset (offset : Int) : Position := ⟨offset, none⟩

/-- Moves the position and forgets its coordinate. -/
def setOffset (_ : Position) (offset : Int) : Position := ofOffset offset

/-- The coordinate, computed on first use, and the position that remembers it. -/
def coordinate (text : Bytes) (p : Position) : Except RangeFault (Coordinate × Position) :=
  match p.cached with
  | some c => .ok (c, p)
  | none => (Coordinate.ofOffset? text p.offset).map fun c => (c, { p with cached := some c })

/-- Keeps a coordinate and derives the offset from it. -/
def setCoordinate (text : Bytes) (c : Coordinate) : Position := ⟨Coordinate.toOffset text c, some c⟩

/-- Overwrites the line. -/
def setLine (text : Bytes) (p : Position) (line : Int) : Except RangeFault Position :=
  (p.coordinate text).map fun (c, _) => setCoordinate text { c with line }

/-- Overwrites the character. -/
def setCharacter (text : Bytes) (p : Position) (character : Int) : Except RangeFault Position :=
  (p.coordinate text).map fun (c, _) => setCoordinate text { c with character }

end Position

/-- White space at the end of a range: blank, tab, line feed, vertical tab, form feed, return. -/
def isTrimmable (b : UInt8) : Bool :=
  b = 32 || b = 9 || b = 10 || b = 11 || b = 12 || b = 13

/-- Checks the offsets of a new range. -/
def checkRange (length : Nat) (start stop : Int) : Except RangeFault Unit :=
  if start < 0 || stop > length || start > stop then .error ⟨.range, start, stop, length⟩
  else .ok ()

/-- The end of the range from `start` to `stop` once the white space before it is left out. -/
def trimmedEnd (text : Bytes) (start stop : Nat) : Nat :=
  start + ((text.slice start stop).reverse.dropWhile isTrimmable).length

/-- Why a place in a text could not be computed. -/
inductive PlaceFault where
  /-- The offsets are outside the text or in the wrong order. -/
  | range (fault : RangeFault)
  /-- A byte before the start of the text was asked for. -/
  | beforeText
deriving Repr, DecidableEq

/-- Checks a range whose ends may have been moved, and gives its trimmed end. Only the upper bound and
the order are checked, so a range that starts before the text and holds nothing but white space runs
off the front. -/
def trimmedEnd? (text : Bytes) (start stop : Int) : Except PlaceFault Int :=
  if stop > text.length || start > stop then
    .error (.range ⟨.trim, start, stop, text.length⟩)
  else if 0 ≤ start || start = stop then
    .ok (if start = stop then stop else trimmedEnd text start.toNat stop.toNat)
  else
    match trimmedEnd text 0 stop.toNat with
    | 0 => .error .beforeText
    | stop' => .ok stop'

end DesignLint
