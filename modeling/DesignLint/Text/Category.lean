import DesignLint.Text.Category.Table

/-! General categories. Every assigned character has one of them, and a quoted text shows a character as itself
if its category is one of those with a visible sign. -/
namespace DesignLint

/-- The general category of an assigned character. -/
inductive Category where
  | upperLetter
  | lowerLetter
  | titleLetter
  | modifierLetter
  | otherLetter
  | nonspacingMark
  | spacingMark
  | enclosingMark
  | decimalNumber
  | letterNumber
  | otherNumber
  | connectorPunctuation
  | dashPunctuation
  | openPunctuation
  | closePunctuation
  | initialPunctuation
  | finalPunctuation
  | otherPunctuation
  | mathSymbol
  | currencySymbol
  | modifierSymbol
  | otherSymbol
  | spaceSeparator
  | lineSeparator
  | paragraphSeparator
  | control
  | format
  | surrogate
  | privateUse

namespace Category

/-- The code points of a category. -/
def runs : Category → List CodeRun
  | upperLetter => upperLetters
  | lowerLetter => lowerLetters
  | titleLetter => titleLetters
  | modifierLetter => modifierLetters
  | otherLetter => otherLetters
  | nonspacingMark => nonspacingMarks
  | spacingMark => spacingMarks
  | enclosingMark => enclosingMarks
  | decimalNumber => decimalNumbers
  | letterNumber => letterNumbers
  | otherNumber => otherNumbers
  | connectorPunctuation => connectorRuns
  | dashPunctuation => dashRuns
  | openPunctuation => openRuns
  | closePunctuation => closeRuns
  | initialPunctuation => initialRuns
  | finalPunctuation => finalRuns
  | otherPunctuation => otherPunctuationRuns
  | mathSymbol => mathSymbols
  | currencySymbol => currencySymbols
  | modifierSymbol => modifierSymbols
  | otherSymbol => otherSymbols
  | spaceSeparator => spaceSeparators
  | lineSeparator => lineSeparators
  | paragraphSeparator => paragraphSeparators
  | control => controls
  | format => formats
  | surrogate => [⟨0xD800, 0xDFFF, 1⟩]
  | privateUse => privateUseRuns

/-- Whether a character has one of the categories. -/
def anyOf (categories : List Category) (c : Char) : Bool :=
  categories.any fun category => CodeRun.anyHolds category.runs c.toNat

/-- Letters with case. -/
def cased : List Category := [upperLetter, lowerLetter, titleLetter]

/-- All letters. -/
def letters : List Category := cased ++ [modifierLetter, otherLetter]

/-- All marks. -/
def marks : List Category := [nonspacingMark, spacingMark, enclosingMark]

/-- All numbers. -/
def numbers : List Category := [decimalNumber, letterNumber, otherNumber]

/-- All punctuation. -/
def punctuation : List Category :=
  [connectorPunctuation, dashPunctuation, openPunctuation, closePunctuation, initialPunctuation,
   finalPunctuation, otherPunctuation]

/-- All symbols. -/
def symbols : List Category := [mathSymbol, currencySymbol, modifierSymbol, otherSymbol]

/-- All separators. -/
def separators : List Category := [spaceSeparator, lineSeparator, paragraphSeparator]

/-- The categories with a sign to be seen. -/
def visible : List Category := letters ++ marks ++ numbers ++ punctuation ++ symbols

/-- All categories but those of control, layout and private use. -/
def regular : List Category := visible ++ separators

/-- All categories. -/
def all : List Category := regular ++ [control, format, surrogate, privateUse]

end Category

/-- Whether a quoted text shows a character as itself: if it has a visible sign or is the plain space. -/
def isPrintable (c : Char) : Bool :=
  if c.toNat < 127 then 32 ≤ c.toNat else Category.anyOf Category.visible c

end DesignLint
