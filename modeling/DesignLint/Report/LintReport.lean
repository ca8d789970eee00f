import DesignLint.Json.Fill
import DesignLint.Project.Statistics
import DesignLint.Report.Severity

/-! The result of a run: the findings, the files that failed, and counts of both. A report is written as JSON and
read back from it, so that it can be kept from one run to the next. -/
namespace DesignLint

/-- At which step a file failed. -/
inductive FailureKind where
  | parse
  | analysis
deriving DecidableEq

/-- The word for a step. -/
def FailureKind.word : FailureKind → String
  | parse => "parse"
  | analysis => "analysis"

/-- A file without findings because it could not be read or analysed. -/
structure FailedFile where
  file : String
  kind : String
  message : Bytes
deriving DecidableEq

/-- How many findings of each severity a file has. -/
structure FileCounts where
  path : String
  errors : Int
  warnings : Int
  info : Int
deriving DecidableEq

/-- The result of a run. A list can be missing only from a report that was kept elsewhere. -/
structure LintReport where
  findings : Option (List Diagnostic) := none
  failures : Option (List FailedFile) := none
  summary : Summary := {}
  statistics : Statistics := {}
  files : Option (List FileCounts) := none
deriving DecidableEq

namespace FailedFile

/-- The failure as an object. -/
def toJson (f : FailedFile) : Json :=
  .object [("file", .ofString f.file), ("kind", .ofString f.kind), ("message", .string f.message)]

end FailedFile

namespace FileCounts

/-- The counts of one file. -/
def ofFindings (found : List Diagnostic) (path : String) : FileCounts :=
  let summary := Summary.ofFindings (found.filter fun d => d.file = path)
  ⟨path, summary.errors, summary.warnings, summary.info⟩

/-- The counts as an object. -/
def toJson (c : FileCounts) : Json :=
  .object [("path", .ofString c.path), ("errors", .ofInt c.errors), ("warnings", .ofInt c.warnings),
    ("info", .ofInt c.info)]

end FileCounts

namespace LintReport

/-- The report on findings that the policy let through. Only files with findings are counted, in ascending order. -/
def ofFindings (found : List Diagnostic) (failures : List FailedFile) (statistics : Statistics) :
    LintReport where
  findings := some found
  failures := some failures
  summary := Summary.ofFindings found
  statistics := statistics
  files := some ((sortedSet (found.map Diagnostic.file)).map (FileCounts.ofFindings found))

/-- The findings, none if their list is missing. -/
def findingList (r : LintReport) : List Diagnostic := r.findings.getD []

/-- The files that failed, none if their list is missing. -/
def failureList (r : LintReport) : List FailedFile := r.failures.getD []

/-- The report as an object. -/
def toJson (r : LintReport) : Json :=
  .object [("diagnostics", .ofOption (.ofList Diagnostic.toJson) r.findings),
    ("errors", .ofOption (.ofList FailedFile.toJson) r.failures), ("summary", r.summary.toJson),
    ("stats", r.statistics.toJson), ("files", .ofOption (.ofList FileCounts.toJson) r.files)]

/-- Whether there is something that a build should stop at. -/
def hasErrors (r : LintReport) : Bool := 0 < r.summary.errors || !r.failureList.isEmpty

end LintReport

namespace Fill

/-- A message. -/
def message : Fill Bytes := fun values => (text values).map Bytes.ofString

/-- A line and a character. -/
def coordinate : Fill Coordinate := record fun members => do
  return ⟨← field "line" integer members, ← field "character" integer members⟩

/-- Where something starts and ends. -/
def span : Fill Span := record fun members => do
  return ⟨← field "start" coordinate members, ← field "end" coordinate members⟩

/-- A finding. -/
def finding : Fill Diagnostic := record fun members => do
  return {
    rule := ← field "rule" text members
    severity := ← field "severity" text members
    message := ← field "message" message members
    file := ← field "file" text members
    range := ← field "range" span members }

/-- A file that failed. -/
def failedFile : Fill FailedFile := record fun members => do
  return {
    file := ← field "file" text members
    kind := ← field "kind" text members
    message := ← field "message" message members }

/-- The counts of a file. -/
def fileCounts : Fill FileCounts := record fun members => do
  return {
    path := ← field "path" text members
    errors := ← field "errors" integer members
    warnings := ← field "warnings" integer members
    info := ← field "info" integer members }

/-- The counts of all findings. -/
def summary : Fill Summary := record fun members => do
  return {
    total := ← field "total_violations" integer members
    errors := ← field "errors" integer members
    warnings := ← field "warnings" integer members
    info := ← field "info" integer members }

/-- The size of a project. -/
def statistics : Fill Statistics := record fun members => do
  return {
    files := ← field "files" integer members
    symbols := ← field "symbols" integer members
    entities := ← field "entities" integer members
    packages := ← field "packages" integer members
    architectures := ← field "architectures" integer members
    processes := ← field "processes" integer members
    instances := ← field "instances" integer members
    generates := ← field "generates" integer members }

/-- A report. -/
def report : Fill LintReport := record fun members => do
  return {
    findings := ← field "diagnostics" (list? finding) members
    failures := ← field "errors" (list? failedFile) members
    summary := ← field "summary" summary members
    statistics := ← field "stats" statistics members
    files := ← field "files" (list? fileCounts) members }

end Fill
end DesignLint
