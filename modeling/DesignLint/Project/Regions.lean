import DesignLint.Lint.Diagnostic
import DesignLint.Text.Case

/-! Ignore regions. A comment `-- vhdl_lint off` starts a region without findings and `-- vhdl_lint on` ends
it. Findings that start inside a region are dropped; the lines of the comments belong to no region. -/
namespace DesignLint.Region

/-- The word that marks the comments. -/
def marker : String := "vhdl_lint"

/-- White space inside a line, and line breaks. -/
def isBlank (b : UInt8) : Bool := b == 9 || b == 10 || b == 12 || b == 13 || b == 32

/-- Letters, digits and the underscore. -/
def isWordByte (b : UInt8) : Bool :=
  (48 ≤ b && b ≤ 57) || (65 ≤ b && b ≤ 90) || (97 ≤ b && b ≤ 122) || b == 95

/-- What follows a word at the start of a line, letters of either case. -/
def afterWord? (word : String) (line : Bytes) : Option Bytes :=
  let expected := Bytes.ofString word
  let lowered := (line.take expected.length).map fun b => if 65 ≤ b && b ≤ 90 then b + 32 else b
  if lowered = expected then some (line.drop expected.length) else none

/-- Whether a word ends where the line goes on like this. -/
def wordEnds (rest : Bytes) : Bool := !(rest.head?.any isWordByte)

/-- What the comment on a line says: `true` starts a region, `false` ends it. -/
def pragma? (line : Bytes) : Option Bool := do
  let comment ← afterWord? "--" (line.dropWhile isBlank)
  let rest ← afterWord? marker (comment.dropWhile isBlank)
  let word := rest.dropWhile isBlank
  if word.length = rest.length then none
  else
    match afterWord? "off" word with
    | some rest => if wordEnds rest then some true else none
    | none => do
      let rest ← afterWord? "on" word
      if wordEnds rest then some false else none

/-- The lines of a region, given the lines from number `n` on. -/
def ignoredFrom (n : Nat) (inside : Bool) : List Bytes → List Nat
  | [] => []
  | line :: rest =>
    match pragma? line with
    | some off => ignoredFrom (n + 1) off rest
    | none => if inside then n :: ignoredFrom (n + 1) inside rest else ignoredFrom (n + 1) inside rest

/-- The numbers of the lines inside regions, ascending. -/
def ignoredLines (text : Bytes) : List Nat := ignoredFrom 0 false (Bytes.splitOn Coordinate.newline text)

/-- Whether the text mentions the marker at all. -/
def mentioned (text : Bytes) : Bool := Bytes.occursIn (Bytes.ofString marker) (Bytes.ofString text.lower)

/-- The findings outside the regions of a text. -/
def keepOutside (text : Bytes) (findings : List Diagnostic) : List Diagnostic :=
  if !mentioned text then findings
  else
    let ignored := ignoredLines text
    findings.filter fun d => !(ignored.any fun n => d.range.start.line == Int.ofNat n)

end DesignLint.Region
