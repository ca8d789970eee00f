import DesignLint.Inference.Facts

/-! A design: several files that refer to each other. A file may import packages of other files and may take
the entity of its architecture from another file. -/
namespace DesignLint

/-- A node of a file of a design. -/
structure Ref where
  file : Nat
  node : NodeId
deriving DecidableEq, Repr

/-- A file with what it is linked to. -/
structure DesignFile where
  tree : Tree
  rules : InferenceRules := .standard
  /-- The packages that its use clauses make visible, in order. -/
  packages : List Ref := []
  /-- The use clauses that name no known package. -/
  unresolved : List NodeId := []
  /-- The entity of its architecture, if another file declares it. -/
  linked : Option Ref := none

/-- The files of a design, by number. -/
structure Design where
  files : Array DesignFile

namespace Design

/-- The tree of a file. -/
def tree? (d : Design) (file : Nat) : Option Tree := (d.files[file]?).map DesignFile.tree

/-- What a node of the design is. -/
def get? {α : Type} (d : Design) (choose : Construct → Option α) (r : Ref) : Option α :=
  (d.tree? r.file).bind (·.get? choose r.node)

/-- The entity that a file's architecture belongs to: its own or the linked one. -/
def boundEntity? (d : Design) (file : Nat) : Option Ref :=
  (d.files[file]?).bind fun f =>
    match f.tree.entity with
    | some id => some ⟨file, id⟩
    | none => f.linked

/-- The tree and the outside of a unit. -/
def interface? (d : Design) (r : Ref) : Option (Tree × Interface) := do
  let t ← d.tree? r.file
  let u ← t.get? Construct.interface? r.node
  return (t, u)

/-- The ports of a unit. -/
def ports? (d : Design) (unit : Option Ref) : UnitPorts :=
  (unit.bind d.interface?).map fun (t, u) => t.portsOf u

end Design

/-- The key under which a unit is found: library and names joined by points, in lower case. -/
def qualify (library : Bytes) (names : List Bytes) : String :=
  Bytes.lower (List.intercalate (Bytes.ofString ".") (library :: names))

/-- The name of the library that means the library of the file itself. -/
def ownLibrary : Bytes := Bytes.ofString "work"

/-- Finds a unit by library and name. -/
abbrev UnitLookup := (library name : Bytes) → Option Ref

end DesignLint
