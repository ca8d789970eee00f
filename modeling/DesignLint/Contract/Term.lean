import DesignLint.Decimal.Numeral
import DesignLint.Json.Value
import DesignLint.Unicode.Composition

/-! What a document says about a value. It can give the value, say only of which kind it is, or leave it open
altogether. Two things said about one value hold together if a value can be as both say. The names of members are
taken in their composed form, so that two ways of writing one name mean the same member. -/
namespace DesignLint

/-- Kinds of values. -/
inductive TermKind where
  | text
  | bytes
  | flag
  | whole
  | decimal
  | number
deriving DecidableEq

/-- What is said about a value. -/
inductive Term where
  | unstated
  | kind (kind : TermKind)
  | null
  | flag (value : Bool)
  | whole (value : Int)
  | decimal (value : Numeral)
  | text (value : String)
  | bytes (value : List Nat)
  | list (items : List Term) (isOpen : Bool)
  | record (members : List (String × Term))

/-- What two kinds have in common. -/
def TermKind.meet? (a b : TermKind) : Option TermKind :=
  if a = b then some a
  else
    match a, b with
    | .number, .whole | .whole, .number => some .whole
    | .number, .decimal | .decimal, .number => some .decimal
    | _, _ => none

namespace Term

/-- The kind of a value without parts. -/
def kind? : Term → Option TermKind
  | flag _ => some .flag
  | whole _ => some .whole
  | decimal _ => some .decimal
  | text _ => some .text
  | bytes _ => some .bytes
  | _ => none

/-- A value of a kind. -/
def ofKind? (kind : TermKind) (t : Term) : Option Term :=
  (t.kind?.bind kind.meet?).map fun _ => t

mutual

/-- What two terms say together. Records hold together if what they say about their common members does, and
lists if their items do, place by place. -/
def meet? : Term → Term → Option Term
  | unstated, other => some other
  | term, unstated => some term
  | kind a, kind b => (a.meet? b).map kind
  | kind a, other => other.ofKind? a
  | term, kind b => term.ofKind? b
  | null, null => some null
  | flag a, flag b => if a = b then some (flag a) else none
  | whole a, whole b => if a = b then some (whole a) else none
  | decimal a, decimal b => if a = b then some (decimal a) else none
  | text a, text b => if a = b then some (text a) else none
  | bytes a, bytes b => if a = b then some (bytes a) else none
  | list items isOpen, list others isOpen' => (meetItems? items isOpen others isOpen').map (list · (isOpen && isOpen'))
  | record members, record others =>
    (meetMembers? members others).map fun common =>
      record (common ++ others.filter fun other => (members.lookup other.1).isNone)
  | _, _ => none

/-- What two lists say together. Only an open list holds together with a longer one. -/
def meetItems? : List Term → Bool → List Term → Bool → Option (List Term)
  | [], isOpen, others, _ => if isOpen || others.isEmpty then some others else none
  | item :: items, _, [], isOpen' => if isOpen' then some (item :: items) else none
  | item :: items, isOpen, other :: others, isOpen' => do
    let value ← meet? item other
    return value :: (← meetItems? items isOpen others isOpen')

/-- The first members with what the second ones say about them. -/
def meetMembers? : List (String × Term) → List (String × Term) → Option (List (String × Term))
  | [], _ => some []
  | (name, value) :: members, others => do
    let value ← match others.lookup name with
      | some other => meet? value other
      | none => some value
    return (name, value) :: (← meetMembers? members others)

end

mutual

/-- Whether nothing is left open. A list that could go on is taken as it stands. -/
def isConcrete : Term → Bool
  | unstated | kind _ => false
  | list items _ => allConcrete items
  | record members => membersConcrete members
  | _ => true

/-- Whether nothing is left open in terms. -/
def allConcrete : List Term → Bool
  | [] => true
  | item :: items => isConcrete item && allConcrete items

/-- Whether nothing is left open in members. -/
def membersConcrete : List (String × Term) → Bool
  | [] => true
  | (_, value) :: members => isConcrete value && membersConcrete members

end

/-- A number as JSON has it: one with a fraction or an exponent is not whole. -/
def ofLiteral (literal : String) : Term :=
  match (Json.number literal).int? with
  | some n => whole n
  | none =>
    let negative := literal.toList.head? == some '-'
    let chars := literal.toList.dropWhile (· = '-')
    let rest := chars.dropWhile Char.isDigit
    let fraction := if rest.head? == some '.' then (rest.drop 1).takeWhile Char.isDigit else []
    let power := (rest.dropWhile fun c => c = '.' || c.isDigit).drop 1
    let size := Int.ofNat (digitsValue 10 (power.filter Char.isDigit))
    let exponent := if power.head? == some '-' then -size else size
    let n := (Numeral.ofDigits (chars.takeWhile Char.isDigit) fraction exponent).reduced
    decimal (if negative && n.digits ≠ 0 then n.neg else n)

/-- Members with one more; what is said of it twice has to hold together. -/
def addMember? (members : List (String × Term)) (name : String) (value : Term) : Option (List (String × Term)) :=
  match members.lookup name with
  | none => some (members ++ [(name, value)])
  | some old => (old.meet? value).map fun both => members.map fun m => if m.1 = name then (name, both) else m

mutual

/-- What a JSON value says: it gives the value. -/
def ofJson? : Json → Option Term
  | .null => some null
  | .bool b => some (flag b)
  | .number literal => some (ofLiteral literal)
  | .string s => some (text s.decode)
  | .array items => (ofItems? items).map (list · false)
  | .object members => (ofMembers? [] members).map record

/-- What items say. -/
def ofItems? : List Json → Option (List Term)
  | [] => some []
  | item :: items => do
    let value ← ofJson? item
    return value :: (← ofItems? items)

/-- What members say, after those that were there before. -/
def ofMembers? : List (String × Term) → List (String × Json) → Option (List (String × Term))
  | before, [] => some before
  | before, (name, value) :: members => do
    let value ← ofJson? value
    ofMembers? (← addMember? before (composed name) value) members

end

end Term

mutual

/-- Whether one of the texts and names of a JSON value holds the byte order mark. -/
def Json.holdsMark : Json → Bool
  | .string s => s.chars.contains Bytes.orderMark
  | .array items => itemsHoldMark items
  | .object members => membersHoldMark members
  | _ => false

/-- Whether one of the texts of items holds the byte order mark. -/
def Json.itemsHoldMark : List Json → Bool
  | [] => false
  | item :: items => item.holdsMark || itemsHoldMark items

/-- Whether one of the texts or names of members holds the byte order mark. -/
def Json.membersHoldMark : List (String × Json) → Bool
  | [] => false
  | (name, value) :: members => name.toList.contains Bytes.orderMark || value.holdsMark || membersHoldMark members

end

end DesignLint
