import DesignLint.Decimal.Word
import DesignLint.Json.Value
import DesignLint.Text.Case
import DesignLint.Text.Named

/-! Taking values over from JSON. A place can be written several times, so that what it holds in the end depends on
all values written for it: a null leaves a text, a number, a flag or a record as it is and empties what may be
missing, members of records written one after the other add up, and so do the items of lists, place by place. The
names of members are compared without regard to case, and members without a place are passed over. -/
namespace DesignLint

/-- What the values written for a place, in order, leave there; nothing if one of them is of the wrong kind. -/
abbrev Fill (α : Type) := List Json → Option α

namespace Fill

variable {α : Type}

/-- A value without parts: the last one that is not null, or the one to start with. -/
def plain (read : Json → Option α) (start : α) : Fill α :=
  List.foldlM (fun old j => match j with
    | .null => some old
    | j => read j) start

/-- Text. -/
def text : Fill String := plain (fun j => j.text?.map Bytes.decode) ""

/-- True or false. -/
def flag : Fill Bool := plain Json.flag? false

/-- A whole number of 64 bits, written without fraction or exponent. -/
def integer : Fill Int := plain (fun j => j.int?.filter fitsWord) 0

/-- A place that some values empty: what was written since then fills it, and what was written before has to be well
formed all the same. `since` holds the former, the last value first, and `value` is what the place was emptied to. -/
def emptied (empty? : Json → Option α) (fill : Fill α) (value : α) (since : List Json) : Fill α
  | [] => if since.isEmpty then some value else fill since.reverse
  | j :: rest =>
    match empty? j with
    | some cleared =>
      if since.isEmpty || (fill since.reverse).isSome then emptied empty? fill cleared [] rest else none
    | none => emptied empty? fill value (j :: since) rest

/-- Nothing, if null is written. -/
def missing? : Json → Option (Option α)
  | .null => some none
  | _ => none

/-- A value that may be missing. -/
def optional (fill : Fill α) : Fill (Option α) := emptied missing? (fun values => (fill values).map some) none []

/-- Puts each item of a row on top of the column at its place. -/
def ontoColumns : List Json → List (List Json) → List (List Json)
  | item :: row, column :: columns => (item :: column) :: ontoColumns row columns
  | row, [] => row.map fun item => [item]
  | [], columns => columns

/-- The items of lists written one after the other: each place is filled from all lists that reach it, and there are
as many as the last list has. -/
def items (fill : Fill α) : Fill (List α) := fun values => do
  let rows ← values.mapM Json.items?
  let filled ← (rows.foldr ontoColumns []).mapM fill
  return filled.take (rows.getLast?.elim 0 List.length)

/-- A list that may be missing. An empty list empties the place. -/
def list? (fill : Fill α) : Fill (Option (List α)) :=
  emptied (fun j => match j with
    | .null => some none
    | .array [] => some (some [])
    | _ => none) (fun values => (items fill values).map some) none []

/-- A list, empty if it is missing. -/
def list (fill : Fill α) : Fill (List α) := fun values => (list? fill values).map (·.getD [])

/-- Values by name that may be missing. A value takes the place of an earlier one under its name. -/
def named? (fill : Fill α) : Fill (Option (Named α)) :=
  emptied missing? (fun values => do
    let members ← values.mapM Json.members?
    let filled ← members.flatten.mapM fun (name, value) => (fill [value]).map (Prod.mk name)
    return some (filled.foldl (fun all (name, value) => Named.insert name value all) [])) none []

/-- Values by name, none if they are missing. -/
def named (fill : Fill α) : Fill (Named α) := fun values => (named? fill values).map (·.getD [])

/-- The members of the objects written for a record. -/
def members : Fill (List (String × Json))
  | [] => some []
  | .null :: rest => members rest
  | .object found :: rest => (members rest).map (found ++ ·)
  | _ => none

/-- A record, made from its members. -/
def record (make : List (String × Json) → Option α) : Fill α := fun values => (members values).bind make

/-- The field of a record under a name, from the members of the record. -/
def field (name : String) (fill : Fill α) (members : List (String × Json)) : Option α :=
  fill ((members.filter fun m => sameFold name m.1).map Prod.snd)

end Fill
end DesignLint
