import DesignLint.Text.Bytes

/-! JSON values. A number keeps its literal, since readers distinguish `1` from `1.0`, and a string keeps
its bytes. Members of an object keep their order. -/
namespace DesignLint

inductive Json where
  | null
  | bool (value : Bool)
  | number (literal : String)
  | string (text : Bytes)
  | array (items : List Json)
  | object (members : List (String × Json))

namespace Json

/-- A string value. -/
def ofString (s : String) : Json := .string (Bytes.ofString s)

/-- A whole number. -/
def ofInt (n : Int) : Json := .number (toString n)

/-- A natural number. -/
def ofNat (n : Nat) : Json := .number (toString n)

/-- A list of values. -/
def ofList {α : Type} (encode : α → Json) (items : List α) : Json := .array (items.map encode)

/-- A list of strings. -/
def ofStrings (items : List String) : Json := .array (items.map ofString)

/-- A value that may be missing. -/
def ofOption {α : Type} (encode : α → Json) : Option α → Json
  | some a => encode a
  | none => .null

/-- The member of an object under a name; of several, the last. -/
def member? (name : String) : Json → Option Json
  | object members => members.reverse.lookup name
  | _ => none

/-- The text of a string value. -/
def text? : Json → Option Bytes
  | string text => some text
  | _ => none

/-- The truth of a flag value. -/
def flag? : Json → Option Bool
  | bool value => some value
  | _ => none

/-- A whole number written without fraction or exponent. -/
def int? : Json → Option Int
  | number literal =>
    match literal.toList with
    | '-' :: digits => (digitsValue? digits).map fun n => -Int.ofNat n
    | digits => (digitsValue? digits).map Int.ofNat
  | _ => none
where
  digitsValue? (digits : List Char) : Option Nat :=
    if digits.isEmpty || !digits.all Char.isDigit then none
    else some (digits.foldl (fun n c => n * 10 + (c.toNat - 48)) 0)

/-- The items of a list value. -/
def items? : Json → Option (List Json)
  | array items => some items
  | _ => none

/-- The members of an object. -/
def members? : Json → Option (List (String × Json))
  | object members => some members
  | _ => none

mutual

/-- Whether at most so many lists and objects stand inside one another. -/
def nestsWithin : (limit : Nat) → Json → Bool
  | limit, array items => 0 < limit && itemsNestWithin (limit - 1) items
  | limit, object members => 0 < limit && membersNestWithin (limit - 1) members
  | _, _ => true

/-- Whether at most so many lists and objects stand inside one another in each item. -/
def itemsNestWithin : (limit : Nat) → List Json → Bool
  | _, [] => true
  | limit, item :: items => nestsWithin limit item && itemsNestWithin limit items

/-- Whether at most so many lists and objects stand inside one another in each member. -/
def membersNestWithin : (limit : Nat) → List (String × Json) → Bool
  | _, [] => true
  | limit, (_, value) :: members => nestsWithin limit value && membersNestWithin limit members

end

end Json
end DesignLint
