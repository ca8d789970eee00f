import DesignLint.Config.Load
import DesignLint.Report.Duration
import DesignLint.Report.Text
import DesignLint.Run.Analysis
import DesignLint.Run.Cache
import DesignLint.Run.Trace

/-! A run from its settings to its report. What goes wrong on the side, such as a cache that cannot be written, is
noted and does not stop the run. -/
namespace DesignLint

/-- What a run is asked for. -/
structure RunOptions where
  root : String
  policyDirectory : String := ""
  verbose : Bool := false
  json : Bool := false
  timing : Bool := false

/-- Why a run gives no report. -/
inductive RunError where
  | config (error : LoadError)
  | rules (error : RulesError)
  | scan (fault : PathFault)
  | tree (fault : TreeFault)
  | noPolicy (error : PolicyError)
  | policy
  | contract (violation : Contract.Violation)

/-- The wording of the error. -/
def RunError.message : RunError → String
  | config error => "load config: " ++ error.message
  | rules error => "load config: " ++ error.message
  | scan fault => "scanning files: " ++ fault.message
  | tree fault => fault.message
  | noPolicy error => "initialize policy engine: " ++ error.message
  | policy => "policy evaluation failed: a finding cannot be reported"
  | contract violation => "CRITICAL: Output contract violation: " ++ violation.message "output"

/-- What went wrong on the side. -/
inductive Problem where
  | timing (fault : PathFault)
  | cache (fault : CacheFault)

/-- The wording of the problem. -/
def Problem.message : Problem → String
  | timing fault => "timing output disabled: " ++ fault.message
  | cache fault => fault.message

/-- Problems as one message. -/
def Problem.joined (problems : List Problem) : String := "pipeline errors:\n" ++ bulleted (problems.map message)

/-- What a run has left behind so far. -/
structure Trace where
  workspace : Workspace
  output : String := ""
  log : List LogRecord := []
  events : List TimingEvent := []
  problems : List Problem := []

/-- A part of a run. -/
abbrev RunM := ExceptT RunError (StateM Trace)

namespace Run

/-- Prints a text. -/
def print (text : String) : RunM Unit := modify fun t => { t with output := t.output ++ text }

/-- Prints a text unless the report is wanted as JSON. -/
def say (options : RunOptions) (text : String) : RunM Unit := if options.json then pure () else print text

/-- Prints a text if much is wanted. -/
def explain (options : RunOptions) (text : String) : RunM Unit :=
  if options.verbose then say options text else pure ()

/-- Adds records to the log. -/
def logAll (records : List LogRecord) : RunM Unit := modify fun t => { t with log := t.log ++ records }

/-- Notes a step. -/
def stage (phase : String) (status : String) : RunM Unit :=
  modify fun t => { t with events := t.events ++ [{ phase, status }] }

/-- Notes a step for each of some files. -/
def fileStages (phase : String) (files : List (String × String)) : RunM Unit :=
  modify fun t => { t with events := t.events ++ files.map fun f => ⟨phase, some f.1, f.2⟩ }

/-- Notes a problem. -/
def note (problem : Problem) : RunM Unit := modify fun t => { t with problems := t.problems ++ [problem] }

/-- A value, or the end of the run. -/
def orStop {ε α : Type} (stop : ε → RunError) : Except ε α → RunM α
  | .ok a => pure a
  | .error e => throw (stop e)

/-- Finds the files of a run. -/
def scan (options : RunOptions) (c : Config) : RunM (List ScannedFile) := do
  let w := (← get).workspace
  say options (((Scan.libraries c w options.root).map Scan.announce).getD "")
  let files ← orStop .scan (Scan.files c w options.root)
  say options ("Found " ++ toString files.length ++ " VHDL files\n")
  explain options ("Standard: VHDL-" ++ c.standard ++ "\n")
  stage "scan" ""
  logAll [⟨.debug, "scan finished", [("files", toString files.length), ("standard", c.standard)]⟩]
  return files

/-- Opens the kept results, if they are wanted and can be. -/
def openCache (options : RunOptions) (c : Config) (files : List ScannedFile) : RunM (Option ResultCache) := do
  if !c.cacheEnabled then return none
  match ResultCache.prepare (← get).workspace c options.policyDirectory options.root files with
  | .ok cache => return some cache
  | .error fault =>
    note (.cache fault)
    return none

/-- The kept result of an earlier run. -/
def loadEntry (cache : Option ResultCache) : RunM (Option CacheEntry) := do
  match cache with
  | none => return none
  | some cache =>
    match cache.load (← get).workspace with
    | .ok entry => return entry
    | .error fault =>
      note (.cache fault)
      return none

/-- The word for how reading a file went. -/
private def readStatus (f : ScannedFile × Except FailedFile Tree) : String × String :=
  (f.1.path, match f.2 with
    | .ok _ => "parsed"
    | .error _ => "failed")

/-- A line for each file that was read. -/
private def progress (states : List (String × String)) : String :=
  let line (state : (String × String) × Nat) : String :=
    "  [" ++ toString (state.2 + 1) ++ "/" ++ toString states.length ++ "] " ++ state.1.1 ++ " (" ++ state.1.2
      ++ ", " ++ (Duration.mk 0).text ++ ")\n"
  heading "Parse Progress" ++ String.join (states.zipIdx.map line)

/-- Reads the files. -/
def readFiles (options : RunOptions) (files : List ScannedFile) : RunM ReadFiles := do
  let r := ReadFiles.ofFiles (← get).workspace files
  let states := r.files.map readStatus
  explain options (progress states)
  fileStages "parse" states
  stage "parse" ""
  return r

/-- The records of linking: names that two files declare, then architectures with an entity of another file. -/
def linkRecords (p : Project) : List LogRecord :=
  let clash (c : Clash) : LogRecord :=
    ⟨.warn, "design unit declared twice", [("name", c.name), ("first", c.first), ("second", c.second)]⟩
  let linked (m : DesignFile × Nat) : Option LogRecord := do
    let (t, e) ← m.1.linked.bind p.design.interface?
    return ⟨.debug, "linked architecture",
      [("file", m.1.tree.path), ("entity", e.name.decode), ("from", t.path)]⟩
  p.clashes.map clash ++ p.members.filterMap linked

/-- Links the trees. -/
def linkTrees (options : AnalysisOptions) (r : ReadFiles) : RunM Project := do
  let p ← orStop .tree (Project.link options r.trees)
  logAll (linkRecords p)
  stage "link" ""
  return p

/-- Says which files are affected by what changed since the kept result. -/
def explainImpact (options : RunOptions) (p : Project) (cache : ResultCache) (entry : CacheEntry) : RunM Unit :=
  let changed := entry.changedFiles cache.digests
  let graph := DependentsGraph.ofTrees p.symbols p.trees
  if changed.isEmpty then pure ()
  else explain options (heading "Cache Impact" ++ String.join (changed.map graph.impactReport))

/-- Checks the files. -/
def checkFiles (options : AnalysisOptions) (r : ReadFiles) (p : Project) : RunM (List CheckedFile) := do
  let checked := p.checkFiles options r.isThirdParty
  let status (c : CheckedFile) : String × String :=
    (c.path, if c.outcome.toOption.isSome then "linted" else "failed")
  fileStages "lint" (checked.map status)
  stage "lint" ""
  return checked

/-- Makes the report and holds it against its contract. -/
def makeReport (options : RunOptions) (analysis : AnalysisOptions) (r : ReadFiles) (p : Project)
    (checked : List CheckedFile) : RunM LintReport := do
  orStop .noPolicy (Policy.check (← get).workspace options.policyDirectory)
  match LintReport.ofChecked? analysis r p checked with
  | none => throw .policy
  | some report =>
    stage "policy" ""
    orStop .contract report.checkContract
    stage "validate" ""
    return report

/-- Keeps a report for later runs. -/
def keep (cache : Option ResultCache) (report : LintReport) : RunM Unit := do
  match cache with
  | none => return ()
  | some cache =>
    let (w, fault) := cache.save (← get).workspace report
    modify fun t => { t with workspace := w }
    match fault with
    | none => return ()
    | some fault => note (.cache fault)

/-- Prints a report. -/
def showReport (options : RunOptions) (report : LintReport) : RunM Unit :=
  if options.json then print (report.toJson.pretty ++ "\n") else print report.text

/-- How long the steps took. -/
def timingSummary : String :=
  let line (name : String) : String :=
    let label := "  " ++ name ++ ":"
    label ++ String.ofList (List.replicate (12 - label.length) ' ') ++ (Duration.mk 0).text ++ "\n"
  heading "Timing Summary" ++
    String.join (["scan", "cache", "parse", "link", "lint", "policy", "validate", "total"].map line)

/-- Checks linked files and reports on them. -/
def reportOn (options : RunOptions) (analysis : AnalysisOptions) (r : ReadFiles) (p : Project)
    (cache : Option ResultCache) : RunM LintReport := do
  let checked ← checkFiles analysis r p
  let report ← makeReport options analysis r p checked
  keep cache report
  if !p.trees.isEmpty then explain options (p.details r.isThirdParty)
  showReport options report
  explain options timingSummary
  stage "total" ""
  return report

/-- Analyses the files and reports on them. -/
def analyze (options : RunOptions) (c : Config) (rules : InferenceRules) (files : List ScannedFile)
    (cache : Option ResultCache) (entry : Option CacheEntry) : RunM LintReport := do
  let analysis := c.analysisOptions rules
  let r ← readFiles options files
  let p ← linkTrees analysis r
  match cache, entry with
  | some cache, some entry => explainImpact options p cache entry
  | _, _ => pure ()
  reportOn options analysis r p cache

/-- The configuration of a run: the given one, or the one that is found. -/
def configuration (environment : Environment) (options : RunOptions) (given : Option Config) : RunM Config := do
  match given with
  | some c => return c
  | none => orStop .config (Config.load (← get).workspace environment.home? options.root)

/-- What a run works on: its configuration, the patterns of the inference, and its files. -/
structure Inputs where
  config : Config
  rules : InferenceRules
  files : List ScannedFile

/-- Finds what a run works on. -/
def findInputs (environment : Environment) (options : RunOptions) (given : Option Config) : RunM Inputs := do
  let c ← configuration environment options given
  let rules ← orStop .rules c.inferenceRules
  let files ← scan options c
  return ⟨c, rules, files⟩

/-- Takes over a kept result that was made from the same files and settings, or analyses the files. -/
def reuseOrAnalyze (options : RunOptions) (i : Inputs) : RunM LintReport := do
  let cache ← openCache options i.config i.files
  let entry ← loadEntry cache
  match cache, entry with
  | some cache, some entry =>
    if cache.accepts entry then
      stage "cache" "hit"
      logAll [⟨.debug, "result cache hit", [("dir", cache.directory)]⟩]
      showReport options entry.report
      stage "total" "cached"
      return entry.report
  | _, _ => pure ()
  stage "cache" "miss"
  analyze options i.config i.rules i.files cache entry

/-- A run from its configuration on. -/
def body (environment : Environment) (options : RunOptions) (given : Option Config) : RunM LintReport := do
  reuseOrAnalyze options (← findInputs environment options given)

/-- A run with its outcome and what it leaves behind. The file for events is made first and written last. -/
def execute (environment : Environment) (options : RunOptions) (given : Option Config) (w : Workspace) :
    Except RunError LintReport × Trace :=
  let start : Trace := { workspace := w }
  match TimingEvent.path? environment w options.timing options.root with
  | none => ((body environment options given).run).run start
  | some path =>
    match w.write path [] with
    | .error fault => ((body environment options given).run).run { start with problems := [.timing fault] }
    | .ok w =>
      let (outcome, t) := ((body environment options given).run).run { start with workspace := w }
      let written := (t.workspace.write path (Bytes.ofString (TimingEvent.lines t.events))).toOption
      (outcome, { t with workspace := written.getD t.workspace })

end Run
end DesignLint
