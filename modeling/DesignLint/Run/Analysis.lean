import DesignLint.Config.Basic
import DesignLint.Files.Workspace
import DesignLint.Project.Findings
import DesignLint.Reader.DesignUnit
import DesignLint.Report.LintReport
import DesignLint.Run.Scan

/-! The analysis of the files of a run. Each file is read by itself; the trees are then linked, and the files that
are not of third parties are checked. The findings pass through the severity policy, and the report has to
keep its contract. -/
namespace DesignLint

/-- What decides the findings. -/
structure AnalysisOptions where
  rules : InferenceRules
  followLibraries : Bool
  ignoreRegions : Bool
  severities : SeverityRules

/-- The options that a configuration asks for. -/
def Config.analysisOptions (c : Config) (rules : InferenceRules) : AnalysisOptions :=
  ⟨rules, c.analysis.followLibraryUse, c.lint.ignoreRegions, c.lint.rules⟩

namespace ScannedFile

/-- The tree of a file. -/
def read (w : Workspace) (f : ScannedFile) : Except FailedFile Tree :=
  match w.read f.path with
  | .error fault => .error ⟨f.path, FailureKind.parse.word, Bytes.ofString ("reading file: " ++ fault.message)⟩
  | .ok text =>
    match Tree.parse f.path text with
    | .ok t => .ok { t with library := Bytes.ofString f.library }
    | .error fault => .error ⟨f.path, FailureKind.parse.word, fault.message⟩

end ScannedFile

/-- The files of a run after reading. -/
structure ReadFiles where
  files : List (ScannedFile × Except FailedFile Tree)

namespace ReadFiles

/-- Reads the files of a run. -/
def ofFiles (w : Workspace) (files : List ScannedFile) : ReadFiles := ⟨files.map fun f => (f, f.read w)⟩

/-- The trees, in order. -/
def trees (r : ReadFiles) : List Tree := r.files.filterMap fun f => f.2.toOption

/-- The files that could not be read, in order. -/
def failures (r : ReadFiles) : List FailedFile := r.files.filterMap fun f =>
  match f.2 with
  | .error failed => some failed
  | .ok _ => none

/-- Whether a path is that of a third-party file. -/
def isThirdParty (r : ReadFiles) (path : String) : Bool := r.files.any fun f => f.1.path == path && f.1.thirdParty

end ReadFiles

/-- The outcome of the checks of one file. -/
structure CheckedFile where
  path : String
  outcome : Except FailedFile (List Diagnostic)

namespace Project

/-- Links the trees of a run; a chain of parents that is too long stops everything. -/
def link (options : AnalysisOptions) (trees : List Tree) : Except TreeFault Project := do
  trees.forM Tree.checkRoots
  return Project.ofTrees ⟨options.rules, options.followLibraries⟩ trees

/-- Checks the files that are not of third parties, in order. -/
def checkFiles (p : Project) (options : AnalysisOptions) (isThirdParty : String → Bool) : List CheckedFile :=
  (p.members.filter fun m => !isThirdParty m.1.tree.path).map fun m =>
    let path := m.1.tree.path
    match p.findings options.ignoreRegions m.1 m.2 with
    | .ok found => ⟨path, .ok found⟩
    | .error fault => ⟨path, .error ⟨path, FailureKind.analysis.word, Bytes.ofString fault.message⟩⟩

end Project

namespace LintReport

/-- The findings of checked files, in order. -/
def allFindings (checked : List CheckedFile) : List Diagnostic :=
  checked.flatMap fun c => c.outcome.toOption.getD []

/-- The files whose checks failed, in order. -/
def checkFailures (checked : List CheckedFile) : List FailedFile := checked.filterMap fun c =>
  match c.outcome with
  | .error failed => some failed
  | .ok _ => none

/-- The report on checked files after the policy, not yet held against its contract. -/
def ofChecked? (options : AnalysisOptions) (r : ReadFiles) (p : Project) (checked : List CheckedFile) :
    Option LintReport :=
  (SeverityRules.evaluate? options.severities (allFindings checked)).map fun found =>
    .ofFindings found (r.failures ++ checkFailures checked) (.ofProject r.files.length p)

/-- Holds a report against what its readers expect. -/
def checkContract (r : LintReport) : Except Contract.Violation Unit := Contract.check Contract.report r.toJson

end LintReport
end DesignLint
