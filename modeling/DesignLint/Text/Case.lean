import DesignLint.Text.Bytes
import DesignLint.Text.CaseTable

/-! Letter case. Identifiers are compared by simple case folding, character by character, and keys of
tables are lower-cased character by character. The two notions differ outside ASCII: the Kelvin sign
folds to the letter k, and the long s folds to s but has no lower case of its own. -/
namespace DesignLint

/-- The image of a character under the first run that holds it. -/
def mapByRuns (runs : List CaseTable.Run) (c : Char) : Char :=
  match runs.findSome? (·.image? c.toNat) with
  | some code => Char.ofNat code
  | none => c

/-- The simple lower case of a character. -/
def lowerChar (c : Char) : Char :=
  if c.toNat < 128 then c.toLower else mapByRuns CaseTable.lowerRuns c

/-- The representative of a character's class under simple case folding. -/
def foldChar (c : Char) : Char :=
  if c.toNat < 128 then c.toLower else mapByRuns CaseTable.foldRuns c

/-- The characters that fold like `c`, itself included. -/
def foldClass (c : Char) : List Char :=
  let base := foldChar c
  let ascii := if base.isAlpha then [base.toUpper] else []
  base :: ascii ++ (CaseTable.foldRuns.filterMap fun run =>
    (run.source? base.toNat).map Char.ofNat)

/-- A string in lower case. -/
def lowerString (s : String) : String := String.ofList (s.toList.map lowerChar)

namespace Bytes

/-- The text in lower case, as a string. -/
def lower (text : Bytes) : String := String.ofList (text.chars.map lowerChar)

/-- The text with every character replaced by the representative of its class. -/
def folded (text : Bytes) : List Char := text.chars.map foldChar

end Bytes

/-- Whether two identifiers are the same name. -/
def sameName (a b : Bytes) : Bool := a.folded == b.folded

/-- Whether two strings differ in case only. -/
def sameFold (a b : String) : Bool := a.toList.map foldChar == b.toList.map foldChar

theorem sameName_refl (a : Bytes) : sameName a a = true := by simp [sameName]

theorem sameName_symm {a b : Bytes} (h : sameName a b = true) : sameName b a = true := by
  simp only [sameName, beq_iff_eq] at h ⊢
  exact h.symm

theorem sameName_trans {a b c : Bytes} (h : sameName a b = true) (k : sameName b c = true) :
    sameName a c = true := by
  simp only [sameName, beq_iff_eq] at h k ⊢
  exact h.trans k

end DesignLint
