import DesignLint.Source.Position

/-! A session over one changing text. Positions and ranges are named; the ends of a range are
positions of their own, reached through the range and through the names `r.start` and `r.end`, and a
change made through either shows in both. -/
namespace DesignLint.Source

/-- One request of a session. -/
inductive Command where
  | coordinate (offset : Int)
  | offset (place : Coordinate)
  | label (place : Coordinate)
  | setText (text : Bytes)
  | newPosition (name : String) (offset : Int)
  | get (name : String)
  | getOffset (name : String)
  | setOffset (name : String) (offset : Int)
  | setLine (name : String) (line : Int)
  | setCharacter (name : String) (character : Int)
  | newRange (name : String) (start stop : Int)
  | span (name : String)
  | length (name : String)
  | trim (name : String)
  | locate (name : String)

/-- What a session answers. -/
inductive Answer where
  | absent
  | number (n : Int)
  | text (s : String)
  | coordinate (c : Coordinate)
  | place (offset : Int) (c : Coordinate)
  | span (start stop : Coordinate)
  | offsets (start stop : Int)
  | places (startOffset : Int) (start : Coordinate) (stopOffset : Int) (stop : Coordinate)
  | fault (f : PlaceFault)

/-- The text, every position ever made, and what the names stand for. -/
structure Session where
  text : Bytes
  positions : Array Position
  names : List (String × Nat)
  ranges : List (String × Nat × Nat)

namespace Session

/-- A session before any position is made. -/
def start (text : Bytes) : Session := ⟨text, #[], [], []⟩

/-- Adds a position under a name, which from now on stands for it. -/
def addPosition (s : Session) (name : String) (offset : Int) : Session :=
  { s with
    positions := s.positions.push (Position.ofOffset offset)
    names := (name, s.positions.size) :: s.names }

/-- The handle and the value of a named position. -/
def find? (s : Session) (name : String) : Option (Nat × Position) := do
  let handle ← s.names.lookup name
  let position ← s.positions[handle]?
  return (handle, position)

/-- The handles of a range's two ends. -/
def findRange? (s : Session) (name : String) : Option (Nat × Nat) := s.ranges.lookup name

/-- Replaces the position behind a handle. -/
def put (s : Session) (handle : Nat) (p : Position) : Session :=
  { s with positions := s.positions.setIfInBounds handle p }

/-- The position behind a handle. -/
def peek (s : Session) (handle : Nat) : Position :=
  s.positions.getD handle (Position.ofOffset 0)

/-- Reads the coordinate behind a handle and remembers it. -/
def readCoordinate (s : Session) (handle : Nat) : Except PlaceFault (Coordinate × Session) :=
  match (s.peek handle).coordinate s.text with
  | .ok (c, p) => .ok (c, s.put handle p)
  | .error f => .error (.range f)

/-- Reads both coordinates of a range, the start first. The start is remembered even if the end cannot
be read. -/
def readSpan (s : Session) (first last : Nat) :
    Except PlaceFault (Coordinate × Coordinate) × Session :=
  match s.readCoordinate first with
  | .error f => (.error f, s)
  | .ok (start, s) =>
    match s.readCoordinate last with
    | .error f => (.error f, s)
    | .ok (stop, s) => (.ok (start, stop), s)

/-- Answers about a named position. -/
def onPosition (s : Session) (name : String)
    (act : Nat → Position → Session × Answer) : Session × Answer :=
  match s.find? name with
  | none => (s, .absent)
  | some (handle, p) => act handle p

/-- Answers about a named range. -/
def onRange (s : Session) (name : String)
    (act : Nat → Nat → Session × Answer) : Session × Answer :=
  match s.findRange? name with
  | none => (s, .absent)
  | some (first, last) => act first last

/-- Puts a moved position into its place, and answers where it is now. -/
def moved (s : Session) (handle : Nat) (result : Except RangeFault Position) :
    Session × Answer :=
  match result with
  | .error f => (s, .fault (.range f))
  | .ok p => (s.put handle p, match p.cached with
    | some c => .place p.offset c
    | none => .number p.offset)

/-- Carries out one request. A request that fails leaves every offset as it was. -/
def run (s : Session) : Command → Session × Answer
  | .coordinate offset =>
    (s, match Coordinate.ofOffset? s.text offset with
      | .ok c => .coordinate c
      | .error f => .fault (.range f))
  | .offset place => (s, .number (Coordinate.toOffset s.text place))
  | .label place => (s, .text place.label)
  | .setText text => ({ s with text }, .number text.length)
  | .newPosition name offset => (s.addPosition name offset, .number offset)
  | .get name => s.onPosition name fun handle p =>
    match s.readCoordinate handle with
    | .error f => (s, .fault f)
    | .ok (c, s) => (s, .place p.offset c)
  | .getOffset name => s.onPosition name fun _ p => (s, .number p.offset)
  | .setOffset name offset => s.onPosition name fun handle p =>
    (s.put handle (p.setOffset offset), .number offset)
  | .setLine name line => s.onPosition name fun handle p => s.moved handle (p.setLine s.text line)
  | .setCharacter name character => s.onPosition name fun handle p =>
    s.moved handle (p.setCharacter s.text character)
  | .newRange name start stop =>
    match checkRange s.text.length start stop with
    | .error f => (s, .fault (.range f))
    | .ok () =>
      let first := s.positions.size
      let s := (s.addPosition (name ++ ".start") start).addPosition (name ++ ".end") stop
      ({ s with ranges := (name, first, first + 1) :: s.ranges }, .number (stop - start))
  | .span name => s.onRange name fun first last =>
    match s.readSpan first last with
    | (.ok (start, stop), s) => (s, .span start stop)
    | (.error f, s) => (s, .fault f)
  | .length name => s.onRange name fun first last =>
    (s, .number (wrapWord ((s.peek last).offset - (s.peek first).offset)))
  | .trim name => s.onRange name fun first last =>
    let (start, stop) := ((s.peek first).offset, (s.peek last).offset)
    match trimmedEnd? s.text start stop with
    | .error f => (s, .fault f)
    | .ok stop' =>
      (if stop' = stop then s else s.put last ((s.peek last).setOffset stop'), .offsets start stop')
  | .locate name => s.onRange name fun first last =>
    match s.readSpan first last with
    | (.ok (start, stop), s) => (s, .places (s.peek first).offset start (s.peek last).offset stop)
    | (.error f, s) => (s, .fault f)

/-- Carries out requests in order. -/
def runAll (s : Session) : List Command → List Answer
  | [] => []
  | c :: rest =>
    let (s, answer) := s.run c
    answer :: runAll s rest

end Session
end DesignLint.Source
