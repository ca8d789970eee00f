import DesignLint.Contract.Shape

/-! The three contracts: what a report, a tree and a configuration look like as JSON. A JSON value is held against a
contract as a document, in which no text may hold the byte order mark. -/
namespace DesignLint.Contract

open Shape Field

/-- A line and a character, both from zero on. -/
def coordinate : Shape := record false [needed "line" natural, needed "character" natural]

/-- Where something starts and ends. -/
def span : Shape := record false [needed "start" coordinate, needed "end" coordinate]

/-- A finding. -/
def finding : Shape :=
  record false
    [needed "rule" filledText, needed "severity" (oneOf ["error", "warning", "info"]),
     needed "message" filledText, needed "file" filledText, needed "range" span]

/-- A file that could not be analyzed. -/
def fileError : Shape :=
  record false
    [needed "file" filledText, needed "kind" (oneOf ["parse", "analysis"]), needed "message" filledText]

/-- Counts under fixed names. -/
def counts (names : List String) : List Field := names.map fun name => needed name natural

/-- The counts of findings by severity. -/
def severities : List Field := counts ["errors", "warnings", "info"]

/-- What the report says in total. -/
def summary : Shape := record false (counts ["total_violations"] ++ severities)

/-- The counts of findings of one file. -/
def fileCounts : Shape := record false (needed "path" filledText :: severities)

/-- The size of the project. -/
def statistics : Shape :=
  record false (counts
    ["files", "symbols", "entities", "packages", "architectures", "processes", "instances", "generates"])

/-- A report. -/
def report : Shape :=
  record false
    [needed "diagnostics" (listOf finding), needed "errors" (listOf fileError), needed "summary" summary,
     needed "stats" statistics, needed "files" (listOf fileCounts)]

/-- Whether a text is a capital letter followed by letters. -/
def isKindName (name : String) : Bool :=
  name.toList.head?.any Char.isUpper && name.toList.all Char.isAlpha

/-- A node. -/
def node : Shape :=
  record true [needed "id" natural, needed "kind" (textWith isKindName), needed "range" span]

/-- A tree: the node of the file and what else is said of it. -/
def tree : Shape :=
  record true
    [needed "id" (exactly 0), needed "kind" (word "File"), needed "range" span, allowed "path" text,
     needed "library" filledText, allowed "detached" (listOf node)]

/-- A library of a configuration. -/
def library : Shape :=
  record false
    [needed "files" (listOf text), allowed "exclude" (listOf text), allowed "isThirdParty" flag]

/-- An explicit file of a configuration. -/
def fileEntry : Shape :=
  record false
    [needed "file" filledText, allowed "library" text, allowed "language" text, allowed "isThirdParty" flag]

/-- The part of a configuration on findings. -/
def lint : Shape :=
  record false
    [allowed "rules" (mapOf (oneOf ["off", "info", "warning", "error"])),
     allowed "ignorePatterns" (listOf text),
     allowed "ignoreRegions" flag, allowed "clockEdgePattern" filledText, allowed "resetPattern" filledText]

/-- The part of a configuration on the analysis. -/
def analysis : Shape :=
  record false
    [allowed "maxParallelFiles" natural, allowed "followLibraryUse" flag,
     allowed "cache" (record false [allowed "enabled" flag, allowed "dir" text])]

/-- A configuration. -/
def configuration : Shape :=
  record false
    [allowed "standard" (oneOf ["1987", "1993", "2002", "2008", "2019"]),
     allowed "files" (listOf fileEntry),
     allowed "libraries" (mapOf library), allowed "lint" lint, allowed "analysis" analysis]

/-- Why a value is refused. -/
inductive Violation where
  | byteOrderMark
  | conflict
  | wrongShape
deriving DecidableEq

/-- The wording of a violation, with a word for the value. -/
def Violation.message (value : String) : Violation → String
  | byteOrderMark => "compiling " ++ value ++ " as CUE: illegal byte order mark"
  | conflict => "compiling " ++ value ++ " as CUE: conflicting values"
  | wrongShape => value ++ " schema validation failed: the value is not as it should be"

/-- Holds a JSON value against a contract. -/
def check (shape : Shape) (j : Json) : Except Violation Unit :=
  if j.holdsMark then .error .byteOrderMark
  else
    match Term.ofJson? j with
    | none => .error .conflict
    | some t => if shape t then .ok () else .error .wrongShape

end DesignLint.Contract
