import DesignLint.Text.Case
import DesignLint.Text.Property

/-! Regular expressions: classes of characters, conditions on places, and the patterns built from them. What a
pattern matches is said by its automaton. -/
namespace DesignLint.Regex

open Property (CharSet)

/-- A part of a character class. -/
inductive ClassItem where
  /-- An inclusive range of code points, or what folds like one of them. -/
  | range (low high : Nat) (folded : Bool)
  /-- A named set, perhaps with what folds like one of its characters, or the complement. -/
  | group (set : CharSet) (negated folded : Bool)

/-- Whether a set holds the character, or one that folds like it. -/
def holdsFolded (set : CharSet) (folded : Bool) (c : Char) : Bool :=
  set.holds c || (folded && (foldClass c).any set.holds)

/-- Whether the part holds a character. -/
def ClassItem.holds (item : ClassItem) (c : Char) : Bool :=
  match item with
  | range low high folded => holdsFolded ⟨[⟨low, high, 1⟩], false⟩ folded c
  | group set negated folded => holdsFolded set folded c != negated

/-- A character class. -/
structure CharClass where
  items : List ClassItem
  negated : Bool

/-- Whether the class holds a character. -/
def CharClass.holds (cls : CharClass) (c : Char) : Bool :=
  cls.items.any (·.holds c) != cls.negated

/-- The class of a single character. -/
def CharClass.single (code : Nat) (folded : Bool) : CharClass := ⟨[.range code code folded], false⟩

/-- A condition on a place between two characters. -/
inductive Assertion where
  | beginText
  | endText
  | beginLine
  | endLine
  | wordBoundary
  | noWordBoundary

/-- Letters, digits and the underscore, of ASCII only. -/
def isWordChar (c : Char) : Bool := c.isAlphanum || c = '_'

/-- Whether the condition holds between the two characters, each missing at its end of the text. -/
def Assertion.holds (before after : Option Char) : Assertion → Bool
  | beginText => before.isNone
  | endText => after.isNone
  | beginLine => before.all (· = '\n')
  | endLine => after.all (· = '\n')
  | wordBoundary => before.any isWordChar != after.any isWordChar
  | noWordBoundary => before.any isWordChar == after.any isWordChar

/-- A regular expression. -/
inductive Pattern where
  | empty
  | one (cls : CharClass)
  | assert (condition : Assertion)
  | sequence (first second : Pattern)
  | choice (first second : Pattern)
  /-- At least `least` and, if there is a bound, at most `most` copies. -/
  | copies (least : Nat) (most : Option Nat) (pattern : Pattern)

namespace Pattern

/-- Whether copies inside each other stay within a limit on their product. -/
def withinLimit : (limit : Nat) → Pattern → Bool
  | limit, copies least most pattern =>
    match most.getD least with
    | 0 => most = some 0 || pattern.withinLimit limit
    | n => n ≤ limit && pattern.withinLimit (limit / n)
  | limit, sequence first second => first.withinLimit limit && second.withinLimit limit
  | limit, choice first second => first.withinLimit limit && second.withinLimit limit
  | _, _ => true

end Pattern
end DesignLint.Regex
