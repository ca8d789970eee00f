import DesignLint.Scope.Design
import DesignLint.Text.Sorted

/-! The units of a project that other files can refer to: entities, packages and the components of
packages, each under its qualified name. A unit that is declared later replaces an earlier one of the
same name. -/
namespace DesignLint

inductive SymbolKind where
  | entity
  | package
  | component
deriving DecidableEq, Repr

/-- The word for a kind of unit. -/
def SymbolKind.word : SymbolKind → String
  | entity => "entity"
  | package => "package"
  | component => "component"

/-- A unit and where it is declared. -/
structure Symbol where
  kind : SymbolKind
  file : String
  /-- The line of the declaration, from one. -/
  line : Int
  ref : Ref

/-- A name that two files declare. -/
structure Clash where
  name : String
  first : String
  second : String

/-- Units by qualified name; no name occurs twice. -/
structure SymbolTable where
  entries : List (String × Symbol) := []

namespace SymbolTable

/-- The unit of a qualified name. -/
def get? (table : SymbolTable) (name : String) : Option Symbol := table.entries.lookup name

/-- Declares a unit; what was declared under its name before is forgotten. -/
def insert (table : SymbolTable) (name : String) (symbol : Symbol) : SymbolTable :=
  ⟨(name, symbol) :: table.entries.filter fun entry => entry.1 != name⟩

theorem get?_insert_self (table : SymbolTable) (name : String) (symbol : Symbol) :
    (table.insert name symbol).get? name = some symbol := by
  simp [get?, insert]

theorem get?_insert_of_ne (table : SymbolTable) {name other : String} (symbol : Symbol)
    (h : other ≠ name) : (table.insert name symbol).get? other = table.get? other := by
  have differs : (other == name) = false := by simp [h]
  have lookup_filter : ∀ entries : List (String × Symbol),
      (entries.filter fun entry => entry.1 != name).lookup other = entries.lookup other := by
    intro entries
    induction entries with
    | nil => rfl
    | cons entry rest ih =>
      obtain ⟨key, value⟩ := entry
      by_cases same : key = name
      · simp [List.lookup_cons, same, differs, ih]
      · cases found : other == key <;> simp [List.lookup_cons, same, found, ih]
  simp [get?, insert, List.lookup_cons, differs, lookup_filter]

/-- The entity of a library and a name. -/
def entity? (table : SymbolTable) : UnitLookup := fun library name =>
  match table.get? (qualify library [name]) with
  | some symbol => if symbol.kind = .entity then some symbol.ref else none
  | none => none

/-- The package of a library and a name. -/
def package? (table : SymbolTable) : UnitLookup := fun library name =>
  match table.get? (qualify library [name]) with
  | some symbol => if symbol.kind = .package then some symbol.ref else none
  | none => none

/-- The units in ascending order of their names. -/
def sorted (table : SymbolTable) : List (String × Symbol) :=
  table.entries.mergeSort fun a b => decide (a.1 ≤ b.1)

/-- The number of units. -/
def size (table : SymbolTable) : Nat := table.entries.length

end SymbolTable

namespace Tree

/-- The units that a file declares for others, with their kinds and nodes. -/
def exportedUnits (t : Tree) : List (String × SymbolKind × NodeId) :=
  let name id := (t.nameOf? id).getD []
  let entity := t.entity.toList.map fun id => (qualify t.library [name id], SymbolKind.entity, id)
  let package := t.package.toList.flatMap fun id =>
    let components := ((t.get? Construct.package? id).map Package.components).getD []
    (qualify t.library [name id], SymbolKind.package, id) ::
      components.map fun c => (qualify t.library [name id, name c], SymbolKind.component, c)
  entity ++ package

end Tree

namespace SymbolTable

/-- Declares one unit of a file and notes if another file declared its name. -/
def declare (t : Tree) (file : Nat) (state : SymbolTable × List Clash)
    (unit : String × SymbolKind × NodeId) : SymbolTable × List Clash :=
  let (table, clashes) := state
  let (name, kind, id) := unit
  let clash := match table.get? name with
    | some earlier => if earlier.file = t.path then [] else [⟨name, earlier.file, t.path⟩]
    | none => []
  (table.insert name ⟨kind, t.path, (t.span id).start.line + 1, ⟨file, id⟩⟩, clashes ++ clash)

/-- Declares the units of a file. -/
def register (state : SymbolTable × List Clash) (t : Tree) (file : Nat) :
    SymbolTable × List Clash :=
  t.exportedUnits.foldl (declare t file) state

end SymbolTable
end DesignLint
