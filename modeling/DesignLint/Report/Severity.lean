import DesignLint.Lint.Diagnostic
import DesignLint.Decimal.Binary
import DesignLint.Decimal.Word

/-! The severity policy. Each rule may be given a severity of its own; `off` drops its findings, and a rule that
is not mentioned keeps the severity of the finding. The numbers of a finding pass through floating-point
numbers on the way, and a coordinate that no longer fits 64 bits cannot be reported. -/
namespace DesignLint

/-- How many findings there are of each severity. -/
structure Summary where
  total : Int := 0
  errors : Int := 0
  warnings : Int := 0
  info : Int := 0
deriving DecidableEq

namespace Summary

/-- Counts findings. -/
def ofFindings (found : List Diagnostic) : Summary :=
  let count (severity : String) : Int := found.countP (·.severity = severity)
  ⟨found.length, count "error", count "warning", count "info"⟩

/-- The counts with their names, in order. -/
def fields (s : Summary) : List (String × Int) :=
  [("total_violations", s.total), ("errors", s.errors), ("warnings", s.warnings), ("info", s.info)]

/-- The counts as an object. -/
def toJson (s : Summary) : Json := .object (s.fields.map fun (name, n) => (name, .ofInt n))

end Summary

/-- The severity that switches a rule off. -/
def severityOff : String := "off"

/-- Severities by rule. -/
abbrev SeverityRules := List (String × String)

namespace SeverityRules

/-- The severity of a rule, or the given one. -/
def severityOf (rules : SeverityRules) (rule standard : String) : String :=
  (rules.lookup rule).getD standard

/-- A coordinate after its way through floating-point numbers. -/
def rounded? (c : Coordinate) : Option Coordinate :=
  let line := roundToBinary c.line
  let character := roundToBinary c.character
  if fitsWord line && fitsWord character then some ⟨line, character⟩ else none

/-- A finding as it is reported with a severity. -/
def reported? (severity : String) (d : Diagnostic) : Option Diagnostic := do
  let start ← rounded? d.range.start
  let stop ← rounded? d.range.stop
  return { d with severity, message := Bytes.ofString d.message.decode, range := ⟨start, stop⟩ }

/-- The findings that are reported, in order; none if one of them cannot be. -/
def evaluate? (rules : SeverityRules) (found : List Diagnostic) : Option (List Diagnostic) :=
  (found.filter fun d => rules.severityOf d.rule d.severity ≠ severityOff).mapM fun d =>
    reported? (rules.severityOf d.rule d.severity) d

end SeverityRules
end DesignLint
