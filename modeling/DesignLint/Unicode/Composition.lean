import DesignLint.Unicode.Composition.Table

/-! Composed texts. A letter with marks can be written as one character or as several; the composed form of a text
takes every character apart, puts the marks of each base into order of their classes, and joins what can be joined.
A base has at most thirty marks: a joiner without a sign comes before further ones. -/
namespace DesignLint.Composition

/-- The combining class of a character, zero for a base. -/
def markClass (code : Nat) : Nat :=
  ((classRuns.find? fun run => run.first ≤ code && code ≤ run.last).map (·.markClass)).getD 0

/-- The two characters that one stands for. -/
def pair? (code : Nat) : Option (Nat × Nat) :=
  pairRuns.findSome? fun run => if run.first ≤ code then run.parts[code - run.first]? else none

/-- The one character that another stands for. -/
def single? (code : Nat) : Option Nat :=
  singleRuns.findSome? fun run => if run.first ≤ code then run.targets[code - run.first]? else none

/-- The first syllable of Hangul; the others follow in order of their parts. -/
def firstSyllable : Nat := 0xAC00

/-- The first of the nineteen leading consonants. -/
def firstLead : Nat := 0x1100

/-- The first of the twenty-one vowels. -/
def firstVowel : Nat := 0x1161

/-- The place before the first of the twenty-seven trailing consonants. -/
def beforeTail : Nat := 0x11A7

/-- The parts of a syllable of Hangul. -/
def syllableParts? (code : Nat) : Option (List Nat) :=
  let index := code - firstSyllable
  if firstSyllable ≤ code && index < 19 * 21 * 28 then
    let start := [firstLead + index / (21 * 28), firstVowel + index % (21 * 28) / 28]
    some (if index % 28 = 0 then start else start ++ [beforeTail + index % 28])
  else none

/-- The syllable that two of its parts make. -/
def syllable? (a b : Nat) : Option Nat :=
  if firstLead ≤ a && a < firstLead + 19 && firstVowel ≤ b && b < firstVowel + 21 then
    some (firstSyllable + ((a - firstLead) * 21 + (b - firstVowel)) * 28)
  else if firstSyllable ≤ a && a < firstSyllable + 19 * 21 * 28 && (a - firstSyllable) % 28 = 0
      && beforeTail < b && b < beforeTail + 28 then
    some (a + (b - beforeTail))
  else none

/-- A character taken apart, at most `depth` times over. -/
def parts : (depth : Nat) → Nat → List Nat
  | 0, code => [code]
  | depth + 1, code =>
    match syllableParts? code with
    | some found => found
    | none =>
      match pair? code with
      | some (a, b) => parts depth a ++ parts depth b
      | none =>
        match single? code with
        | some other => parts depth other
        | none => [code]

/-- A character taken apart completely: none has more than four levels. -/
def decomposed (code : Nat) : List Nat := if code < 0x80 then [code] else parts 5 code

/-- The greatest number of marks in a row. -/
def maxMarks : Nat := 30

/-- The joiner without a sign. -/
def joiner : Nat := 0x034F

private def isMark (code : Nat) : Bool := markClass code != 0

/-- Takes characters apart, with a joiner before the mark that would be one too many; `marks` is how many came before
in a row. -/
def decomposeAll : (marks : Nat) → List Nat → List Nat
  | _, [] => []
  | marks, code :: rest =>
    let found := decomposed code
    let leading := (found.takeWhile isMark).length
    let trailing := (found.reverse.takeWhile isMark).length
    if leading = 0 then found ++ decomposeAll trailing rest
    else if maxMarks < marks + leading then joiner :: found ++ decomposeAll leading rest
    else found ++ decomposeAll (marks + leading) rest

/-- Puts a mark after those before it that are not of a higher class. -/
def insertMark (code : Nat) : List Nat → List Nat
  | [] => [code]
  | other :: rest => if markClass code < markClass other then code :: other :: rest else other :: insertMark code rest

/-- Marks in order of their classes, those of one class as they were. -/
def orderMarks (marks : List Nat) : List Nat := marks.foldl (fun done code => insertMark code done) []

/-- Characters with the marks of each base in order; `held` are the marks since the last base, the last first. -/
def ordered (held : List Nat) : List Nat → List Nat
  | [] => orderMarks held.reverse
  | code :: rest =>
    if isMark code then ordered (code :: held) rest else orderMarks held.reverse ++ code :: ordered [] rest

/-- The character that two others make. -/
def joined? (a b : Nat) : Option Nat :=
  match syllable? a b with
  | some code => some code
  | none =>
    let candidates := pairRuns.flatMap fun run =>
      run.parts.zipIdx.filterMap fun (parts, place) => if parts = (a, b) then some (run.first + place) else none
    candidates.find? fun code => !unmade.contains code

/-- Joins characters to the base before them. A mark is joined unless one of its class or a higher one stands
between; `passed` are the characters since the base that were not joined, the last first. -/
def join (base : Nat) (passed : List Nat) : List Nat → List Nat
  | [] => base :: passed.reverse
  | code :: rest =>
    let isFree := match passed with
      | [] => true
      | last :: _ => markClass last < markClass code && isMark last
    match if isFree then joined? base code else none with
    | some made => join made passed rest
    | none =>
      if isMark code then join base (code :: passed) rest
      else base :: passed.reverse ++ join code [] rest

/-- Joins what can be joined; marks before the first base stay as they are. -/
def joinAll : List Nat → List Nat
  | [] => []
  | code :: rest => if isMark code then code :: joinAll rest else join code [] rest

end DesignLint.Composition

namespace DesignLint

/-- The composed form of a text. -/
def composed (s : String) : String :=
  if s.toList.all (·.toNat < 0x80) then s
  else
    let codes := Composition.decomposeAll 0 (s.toList.map Char.toNat)
    String.ofList ((Composition.joinAll (Composition.ordered [] codes)).map Char.ofNat)

end DesignLint
