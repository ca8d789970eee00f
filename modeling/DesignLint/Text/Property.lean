import DesignLint.Text.Category
import DesignLint.Unicode.CharScript

/-! Sets of characters by name: the general categories under their short and long names, the scripts, and a few
sets more. A name is read without regard to case, blanks, hyphens and underscores. -/
namespace DesignLint.Property

/-- A set of characters: those of some runs, or all others. -/
structure CharSet where
  runs : List CodeRun
  negated : Bool := false

/-- Whether a character is in the set. -/
def CharSet.holds (set : CharSet) (c : Char) : Bool := CodeRun.anyHolds set.runs c.toNat != set.negated

/-- A name without case, blanks, hyphens and underscores. -/
def loosened (name : String) : String :=
  String.ofList ((name.toList.filter fun c => c ≠ ' ' && c ≠ '-' && c ≠ '_').map Char.toLower)

/-- The characters of some categories. -/
def ofCategories (categories : List Category) : CharSet := ⟨categories.flatMap Category.runs, false⟩

/-- The characters of none of some categories. -/
def outside (categories : List Category) : CharSet := ⟨categories.flatMap Category.runs, true⟩

open Category

/-- The general categories and their unions by their loosened names. -/
def categories? : String → Option (List Category)
  | "l" | "letter" => some letters
  | "lc" | "casedletter" => some cased
  | "lu" | "uppercaseletter" => some [upperLetter]
  | "ll" | "lowercaseletter" => some [lowerLetter]
  | "lt" | "titlecaseletter" => some [titleLetter]
  | "lm" | "modifierletter" => some [modifierLetter]
  | "lo" | "otherletter" => some [otherLetter]
  | "m" | "mark" | "combiningmark" => some marks
  | "mn" | "nonspacingmark" => some [nonspacingMark]
  | "mc" | "spacingmark" => some [spacingMark]
  | "me" | "enclosingmark" => some [enclosingMark]
  | "n" | "number" => some numbers
  | "nd" | "decimalnumber" | "digit" => some [decimalNumber]
  | "nl" | "letternumber" => some [letterNumber]
  | "no" | "othernumber" => some [otherNumber]
  | "p" | "punctuation" | "punct" => some punctuation
  | "pc" | "connectorpunctuation" => some [connectorPunctuation]
  | "pd" | "dashpunctuation" => some [dashPunctuation]
  | "ps" | "openpunctuation" => some [openPunctuation]
  | "pe" | "closepunctuation" => some [closePunctuation]
  | "pi" | "initialpunctuation" => some [initialPunctuation]
  | "pf" | "finalpunctuation" => some [finalPunctuation]
  | "po" | "otherpunctuation" => some [otherPunctuation]
  | "s" | "symbol" => some symbols
  | "sm" | "mathsymbol" => some [mathSymbol]
  | "sc" | "currencysymbol" => some [currencySymbol]
  | "sk" | "modifiersymbol" => some [modifierSymbol]
  | "so" | "othersymbol" => some [otherSymbol]
  | "z" | "separator" => some separators
  | "zs" | "spaceseparator" => some [spaceSeparator]
  | "zl" | "lineseparator" => some [lineSeparator]
  | "zp" | "paragraphseparator" => some [paragraphSeparator]
  | "cc" | "control" | "cntrl" => some [control]
  | "cf" | "format" => some [format]
  | "cs" | "surrogate" => some [surrogate]
  | "co" | "privateuse" => some [privateUse]
  | _ => none

/-- The set of a name. -/
def find? (name : String) : Option CharSet :=
  match loosened name with
  | "any" => some ⟨[⟨0, 0x10FFFF, 1⟩], false⟩
  | "ascii" => some ⟨[⟨0, 0x7F, 1⟩], false⟩
  | "assigned" => some (ofCategories all)
  | "cn" | "unassigned" => some (outside all)
  | "c" | "other" => some (outside regular)
  | name =>
    match categories? name with
    | some found => some (ofCategories found)
    | none => (Script.table.find? fun script => loosened script.1 == name).map fun script => ⟨script.2, false⟩

end DesignLint.Property
