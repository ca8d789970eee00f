import DesignLint.Project.Linking
import DesignLint.Project.Regions

/-! The findings of one file of a project: its unresolved use clauses, then the checks, less what stands in an
ignore region. A malformed tree gives no findings at all. -/
namespace DesignLint

/-- A file whose tree could not be analysed. -/
structure AnalysisFault where
  path : String
  fault : Fault

/-- The wording of the fault. -/
def AnalysisFault.message (f : AnalysisFault) : String :=
  "analyzing " ++ f.path ++ ": " ++ f.fault.message

namespace Project

/-- All findings of a file. -/
def findings (p : Project) (ignoreRegions : Bool) (f : DesignFile) (file : Nat) :
    Except AnalysisFault (List Diagnostic) :=
  let checked : Except Fault (List Diagnostic) :=
    Lint.checkAll (f.tree.facts f.rules) (p.subject f file)
  match checked with
  | .error fault => .error ⟨f.tree.path, fault⟩
  | .ok found =>
    let all := unresolvedUses f ++ found
    .ok (if ignoreRegions then Region.keepOutside f.tree.text all else all)

end Project
end DesignLint
