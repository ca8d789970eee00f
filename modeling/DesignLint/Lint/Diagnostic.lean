import DesignLint.Source.Coordinate
import DesignLint.Tree.Export

/-! Findings. Each has the rule that made it, a severity, a message and a place in a file. -/
namespace DesignLint

/-- One finding. -/
structure Diagnostic where
  rule : String
  severity : String
  message : Bytes
  file : String
  range : Span
deriving DecidableEq

/-- The rules that the checks report under. -/
inductive Rule where
  | undeclared
  | missingReset
  | unresolvedUse

namespace Rule

/-- The name of a rule. -/
def name : Rule → String
  | undeclared => "undeclared-signal"
  | missingReset => "missing-reset"
  | unresolvedUse => "unresolved-use"

/-- The severity that a rule reports with unless told otherwise. -/
def severity : Rule → String
  | undeclared | missingReset => "error"
  | unresolvedUse => "info"

end Rule

namespace Diagnostic

/-- A finding of a rule with its own severity. -/
def ofRule (rule : Rule) (file : String) (message : Bytes) (range : Span) : Diagnostic :=
  ⟨rule.name, rule.severity, message, file, range⟩

/-- The finding on one line. -/
def line (d : Diagnostic) : Bytes :=
  Bytes.ofString (d.file ++ ":" ++ toString (d.range.start.line + 1) ++ ":"
    ++ toString (d.range.start.character + 1) ++ ": " ++ d.severity ++ ": ") ++ d.message
    ++ Bytes.ofString (" [" ++ d.rule ++ "]")

/-- The finding as an object. -/
def toJson (d : Diagnostic) : Json :=
  .object [("rule", .ofString d.rule), ("severity", .ofString d.severity),
    ("message", .string d.message), ("file", .ofString d.file), ("range", d.range.toJson)]

end Diagnostic
end DesignLint
