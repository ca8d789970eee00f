import DesignLint.Regex.Automaton

/-! Pieces of an expression that is being read. Besides its pattern, a piece knows how deep it nests and how many steps
it takes, on which there are limits. Neighbouring characters count as one literal, a sequence inside a sequence and a
choice inside a choice as no level of their own, and single characters that are alternatives as one class. -/
namespace DesignLint.Regex

/-- What a piece is, as far as its neighbours care. -/
inductive PieceForm where
  /-- A literal, read without regard to case or not. -/
  | literal (folded : Bool)
  /-- A character class. -/
  | charClass
  | empty
  /-- A sequence, whose parts nest as deep as given. -/
  | sequence (inner : Nat)
  /-- A choice, whose parts nest as deep as given. -/
  | choice (inner : Nat)
  | other

/-- A pattern with its form, how deep it nests and the number of its steps. -/
structure Piece where
  pattern : Pattern
  form : PieceForm := .other
  height : Nat := 1
  size : Nat := 1

namespace Piece

/-- How deep an expression may nest. -/
def maxHeight : Nat := 1000

/-- How many steps an expression may take. -/
def maxSize : Nat := 3355443

/-- One character. -/
def literal (code : Nat) (folded : Bool) : Piece := ⟨.one (CharClass.single code folded), .literal folded, 1, 1⟩

/-- A condition on a place. -/
def assertion (condition : Assertion) : Piece := { pattern := .assert condition }

/-- The characters of a class that only lists a few. -/
def listedChars? (cls : CharClass) : Option (List Char) :=
  if cls.negated then none
  else
    let listed (item : ClassItem) : Option (List Char) := match item with
      | .range low high folded =>
        if low = high then some (if folded then foldClass (Char.ofNat low) else [Char.ofNat low]) else none
      | .group .. => none
    (cls.items.mapM listed).map fun found => found.flatten.eraseDups

/-- A class. A class of one character is a literal, and so is a class of two that differ in case only. -/
def charClass (cls : CharClass) : Piece :=
  let form := match listedChars? cls with
    | some [_] => PieceForm.literal false
    | some [a, b] =>
      let folds := (foldClass a).eraseDups
      if folds.length = 2 && folds.contains b then .literal true else .charClass
    | _ => .charClass
  ⟨.one cls, form, 1, 1⟩

/-- Whether the piece is a single character or class. -/
def isSingle (piece : Piece) : Bool :=
  match piece.form with
  | .literal _ => piece.size = 1
  | .charClass => true
  | _ => false

/-- How deep a part of a sequence nests. -/
def depthInSequence (part : Piece) : Nat :=
  match part.form with
  | .sequence inner => inner
  | _ => part.height

/-- How deep a part of a choice nests. -/
def depthInChoice (part : Piece) : Nat :=
  match part.form with
  | .choice inner => inner
  | _ => part.height

/-- Joins two neighbours into one literal, if both are literals of one kind. -/
def joined? (first second : Piece) : Option Piece :=
  match first.form, second.form with
  | .literal a, .literal b =>
    if a = b then some ⟨.sequence first.pattern second.pattern, .literal a, 1, first.size + second.size⟩ else none
  | _, _ => none

/-- Adds a part to the parts of a sequence, newest first. -/
def addPart (parts : List Piece) (part : Piece) : List Piece :=
  match parts with
  | last :: earlier =>
    match joined? last part with
    | some whole => whole :: earlier
    | none => part :: parts
  | [] => [part]

/-- The piece of parts in a row, which are given newest first. -/
def sequence (newestFirst : List Piece) : Piece :=
  match (newestFirst.reverse.foldl addPart []).reverse with
  | [] => ⟨.empty, .empty, 1, 1⟩
  | [part] => part
  | first :: rest =>
    let inner := rest.foldl (fun depth part => max depth part.depthInSequence) first.depthInSequence
    ⟨rest.foldl (fun before part => .sequence before part.pattern) first.pattern, .sequence inner, inner + 1,
      rest.foldl (fun size part => size + part.size) first.size⟩

/-- Adds a branch to the branches of a choice, newest first. -/
def addBranch (branch : Piece) (branches : List Piece) : List Piece :=
  match branches with
  | last :: earlier =>
    match last.form, branch.form with
    | .empty, .empty => branches
    | _, _ =>
      if last.isSingle && branch.isSingle then
        ⟨.choice last.pattern branch.pattern, .charClass, 1, 1⟩ :: earlier
      else branch :: branches
  | [] => [branch]

/-- The piece of alternatives, which are given newest first. -/
def choice (newestFirst : List Piece) : Piece :=
  match newestFirst with
  | [] => ⟨.empty, .empty, 1, 1⟩
  | [branch] => branch
  | last :: earlier =>
    let inner := newestFirst.foldl (fun depth part => max depth part.depthInChoice) 0
    ⟨earlier.foldl (fun rest part => .choice part.pattern rest) last.pattern, .choice inner, inner + 1,
      newestFirst.foldl (fun size part => size + part.size) (newestFirst.length - 1)⟩

/-- The piece between brackets that count as a level. -/
def captured (piece : Piece) : Piece := ⟨piece.pattern, .other, piece.height + 1, piece.size + 2⟩

/-- The piece repeated, by counts between braces or by a sign. -/
def repeated (piece : Piece) (counted : Bool) (least : Nat) (most : Option Nat) : Piece :=
  let size := match counted, most with
    | _, none =>
      if least = 0 then 2 + piece.size else 1 + least * piece.size
    | false, some _ => 1 + piece.size
    | true, some most => most * piece.size + (most - least)
  ⟨.copies least most piece.pattern, .other, piece.height + 1, max 1 size⟩

end Piece
end DesignLint.Regex
