import DesignLint.Report.LintReport
import DesignLint.Report.Listing
import DesignLint.Project.Dependents

/-! Reports as text: the findings, the counts and the failures, and on request all that is known of the files. -/
namespace DesignLint

/-- A line of text. -/
private def textLine (parts : List String) : String := String.join parts ++ "\n"

/-- The heading of a part of the report. -/
def heading (title : String) : String := "\n=== " ++ title ++ " ===\n"

/-- The sign of a severity. -/
def severityIcon : String → String
  | "error" => "✗"
  | "warning" => "⚠"
  | _ => "ℹ"

namespace Diagnostic

/-- The finding as a line of the report. -/
def reportLine (d : Diagnostic) : String :=
  textLine [severityIcon d.severity, " [", d.rule, "] ", d.file, ":", toString (wrapWord (d.range.start.line + 1)), ":",
    toString (wrapWord (d.range.start.character + 1)), " - ", d.message.decode]

end Diagnostic

namespace LintReport

/-- The report as text. -/
def text (r : LintReport) : String :=
  let found := if r.findingList.isEmpty then []
    else heading "Diagnostics" :: r.findingList.map Diagnostic.reportLine
  let failed := if r.failureList.isEmpty then []
    else heading "File Errors" :: r.failureList.map fun f => textLine ["  [", f.kind, "] ", f.message.decode]
  String.join <|
    found ++
    [heading "Summary",
     textLine ["  Errors:   ", toString r.summary.errors],
     textLine ["  Warnings: ", toString r.summary.warnings],
     textLine ["  Info:     ", toString r.summary.info],
     heading "Analysis Summary",
     textLine ["  Files:         ", toString r.statistics.files],
     textLine ["  Symbols:       ", toString r.statistics.symbols],
     textLine ["  Entities:      ", toString r.statistics.entities],
     textLine ["  Packages:      ", toString r.statistics.packages],
     textLine ["  Architectures: ", toString r.statistics.architectures],
     textLine ["  Processes:     ", toString r.statistics.processes]] ++
    failed

end LintReport

/-- The mark behind what belongs to others. -/
def thirdPartyMark (thirdParty : Bool) : String := if thirdParty then " (third-party)" else ""

namespace Project

/-- A process: whether it makes registers, and what it resets. -/
private def processLines (facts : Facts (Except Fault)) (t : Tree) (id : NodeId) : List String :=
  let isRegister := (facts.isRegisterProcess id).toOption.getD false
  let resets := (facts.resets id).toOption.getD []
  let label := match t.processLabel id with
    | [] => "line " ++ toString ((t.span id).start.line + 1)
    | label => label.decode
  textLine ["    process ", label, ": ", if isRegister then "register" else "combinational"] ::
    if resets.isEmpty then [] else [textLine ["      resets: ", ", ".intercalate (resets.map Bytes.decode)]]

/-- An architecture with its processes and registers. -/
private def architectureLines (facts : Facts (Except Fault)) (t : Tree) (a : Architecture) : List String :=
  let registers := (t.bodiesOf a.body).flatMap fun b =>
    b.signals.filter fun s => ((facts.registerProcess s).toOption.getD none).isSome
  textLine ["    architecture: ", a.name.decode, " of ", a.entityName.decode] ::
    (t.allProcesses a).flatMap (processLines facts t) ++
    if registers.isEmpty then []
    else [textLine ["    registers: ", summarize ((t.namesOf registers).map Bytes.decode) 8]]

/-- What is known of a file. -/
private def fileLines (p : Project) (isThirdParty : String → Bool) (f : DesignFile) (file : Nat) : List String :=
  let t := f.tree
  let uses := (t.pick Construct.useClause? t.uses).map fun u => u.2.library.decode ++ "." ++ u.2.package.decode
  let entity := match (p.design.boundEntity? file).bind p.design.interface? with
    | some (_, e) =>
      [textLine ["    entity: ", e.name.decode, " (", toString e.ports.length, " ports, ",
        toString e.generics.length, " generics)"]]
    | none => []
  textLine ["  ", t.path, " [", t.library.decode, "]", thirdPartyMark (isThirdParty t.path)] ::
    (if uses.isEmpty then [] else [textLine ["    uses: ", summarize uses 6]]) ++ entity ++
    t.architectureUnit?.elim [] (architectureLines (t.facts f.rules) t)

/-- All that is known of the units and files of a project. -/
def details (p : Project) (isThirdParty : String → Bool) : String :=
  let symbols := p.symbols.sorted.map fun s =>
    textLine ["  ", s.1, " (", s.2.kind.word, ") ", s.2.file, ":", toString s.2.line]
  let files := p.members.flatMap fun m => fileLines p isThirdParty m.1 m.2
  String.join (heading "Verbose: Symbols" :: symbols ++ heading "Verbose: Files" :: files)

end Project
end DesignLint
