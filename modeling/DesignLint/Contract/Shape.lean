import DesignLint.Contract.Term

/-! Shapes of values. A shape says of which terms it takes the value; those of records name the members, which of
them may be missing and whether others are allowed. A member that is missing is one about which nothing is said,
and where a shape leaves only one value open, nothing needs to be said. Null is no text, number, list or record. -/
namespace DesignLint

/-- The terms that are as they should be. -/
abbrev Shape := Term → Bool

/-- A member that a record may have. -/
structure Field where
  name : String
  required : Bool
  shape : Shape

namespace Shape

/-- Any text with a condition on it. -/
def textWith (condition : String → Bool) : Shape
  | .text s => condition s
  | _ => false

/-- Any text. -/
def text : Shape := textWith fun _ => true

/-- Any text but the empty one. -/
def filledText : Shape := textWith (· ≠ "")

/-- One of some words. -/
def oneOf (words : List String) : Shape := textWith words.contains

/-- One word. -/
def word (expected : String) : Shape
  | .text s => s == expected
  | .unstated | .kind .text => true
  | _ => false

/-- True or false. -/
def flag : Shape
  | .flag _ => true
  | _ => false

/-- A whole number from zero on, written without fraction or exponent. -/
def natural : Shape
  | .whole n => 0 ≤ n
  | _ => false

/-- One whole number. -/
def exactly (expected : Int) : Shape
  | .whole n => n == expected
  | .unstated | .kind .whole | .kind .number => true
  | _ => false

/-- A list of values of one shape. -/
def listOf (item : Shape) : Shape
  | .list items _ => items.all item
  | .unstated => true
  | _ => false

/-- A record of values of one shape under any names. -/
def mapOf (value : Shape) : Shape
  | .record members => members.all fun m => value m.2
  | .unstated => true
  | _ => false

/-- Whether a member is allowed. -/
def allows (isOpen : Bool) (fields : List Field) (member : String × Term) : Bool :=
  match fields.find? fun f => f.name == member.1 with
  | some f => f.shape member.2
  | none => isOpen && member.2.isConcrete

/-- Whether members are those of a record. -/
def holdsFields (isOpen : Bool) (fields : List Field) (members : List (String × Term)) : Bool :=
  members.all (allows isOpen fields) &&
    fields.all fun f => !f.required || members.any (fun m => m.1 == f.name) || f.shape .unstated

/-- A record with certain members, and others too if it is open. -/
def record (isOpen : Bool) (fields : List Field) : Shape
  | .record members => holdsFields isOpen fields members
  | .unstated => holdsFields isOpen fields []
  | _ => false

end Shape

namespace Field

/-- A member that has to be there. -/
def needed (name : String) (shape : Shape) : Field := ⟨name, true, shape⟩

/-- A member that may be missing. -/
def allowed (name : String) (shape : Shape) : Field := ⟨name, false, shape⟩

end Field
end DesignLint
