import DesignLint.Standard.Sources
import DesignLint.Reader.DesignUnit
import DesignLint.Scope.Design

/-! The predeclared packages as files of a design. They come first in every design, so a reference to one of
them is the same in all designs. -/
namespace DesignLint.Standard

/-- The text of a file of which the lines are given. -/
def textOfLines (lines : List String) : Bytes :=
  Bytes.ofString (String.join (lines.map (· ++ "\n")))

/-- The tree of one predeclared package. -/
def treeOf (library file : String) (lines : List String) : Tree :=
  let path := library ++ "/" ++ file
  let text := textOfLines lines
  match Tree.parse path text with
  | .ok t => { t with library := Bytes.ofString library }
  | .error _ => Tree.ofText path text

/-- The files of the predeclared packages. -/
def files : Array DesignFile :=
  (sources.map fun (library, file, lines) => { tree := treeOf library file lines }).toArray

/-- The keys of the predeclared packages. -/
def packages : List (String × Ref) :=
  files.toList.zipIdx.filterMap fun (f, file) => do
    let node ← f.tree.package
    let name ← f.tree.nameOf? node
    return (qualify f.tree.library [name], ⟨file, node⟩)

/-- Finds a predeclared package. -/
def package? (library name : Bytes) : Option Ref := packages.lookup (qualify library [name])

/-- The package that every file uses without saying so. -/
def standardPackage : Option Ref := package? (Bytes.ofString "std") (Bytes.ofString "standard")

/-- The design that holds the predeclared packages only. -/
def design : Design := ⟨files⟩

end DesignLint.Standard
