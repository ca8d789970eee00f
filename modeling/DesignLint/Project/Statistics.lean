import DesignLint.Project.Linking

/-! How much was analysed. -/
namespace DesignLint

/-- Counts over the files of a project. -/
structure Statistics where
  files : Int := 0
  symbols : Int := 0
  entities : Int := 0
  packages : Int := 0
  architectures : Int := 0
  processes : Int := 0
  instances : Int := 0
  generates : Int := 0
deriving DecidableEq

namespace Statistics

/-- The counts of a project made from the given number of files. -/
def ofProject (files : Nat) (p : Project) : Statistics :=
  let bodies := p.trees.flatMap Tree.bodies
  let total (count : Body → Nat) : Int := bodies.foldl (fun n b => n + count b) 0
  { files
    symbols := p.symbols.size
    entities := p.trees.countP (·.entity.isSome)
    packages := p.trees.countP (·.package.isSome)
    architectures := p.trees.countP (·.architecture.isSome)
    processes := total (·.processes.length)
    instances := total (·.instantiations.length)
    generates := total (·.generates.length) }

/-- The counts with their names, in order. -/
def fields (s : Statistics) : List (String × Int) :=
  [("files", s.files), ("symbols", s.symbols), ("entities", s.entities), ("packages", s.packages),
   ("architectures", s.architectures), ("processes", s.processes), ("instances", s.instances),
   ("generates", s.generates)]

/-- The counts as an object. -/
def toJson (s : Statistics) : Json := .object (s.fields.map fun (name, n) => (name, .ofInt n))

end Statistics
end DesignLint
