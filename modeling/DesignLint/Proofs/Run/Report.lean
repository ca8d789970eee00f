import DesignLint.Proofs.Config.Accepted
import DesignLint.Proofs.Run.Scan
import DesignLint.Proofs.Run.Transparency

/-! The report of a run. With an accepted configuration and the policy that is built in, what the checks find is
reported in order, the report keeps its contract, and its counts are those of what it lists. -/
namespace DesignLint

namespace LintReport

/-- The counts of files, none if their list is missing. -/
def fileList (r : LintReport) : List FileCounts := r.files.getD []

/-- The counts of a report are those of the findings that it lists. -/
structure AddsUp (r : LintReport) : Prop where
  total : r.summary.total = r.findingList.length
  bySeverity : r.summary.total = r.summary.errors + r.summary.warnings + r.summary.info
  errors : (r.fileList.map FileCounts.errors).sum = r.summary.errors
  warnings : (r.fileList.map FileCounts.warnings).sum = r.summary.warnings
  info : (r.fileList.map FileCounts.info).sum = r.summary.info
  ascending : (r.fileList.map FileCounts.path).Pairwise (· < ·)
  listed : ∀ path, path ∈ r.fileList.map FileCounts.path ↔ ∃ d ∈ r.findingList, d.file = path

theorem addsUp_ofFindings {found : List Diagnostic} (counted : ∀ d ∈ found, d.severity ∈ countedSeverities)
    (failures : List FailedFile) (statistics : Statistics) : (ofFindings found failures statistics).AddsUp := by
  let paths := sortedSet (found.map Diagnostic.file)
  have ascending : paths.Pairwise (· < ·) := pairwise_sortedSet _
  have distinct : paths.Nodup := ascending.imp fun lt same => by subst same; exact String.lt_irrefl _ lt
  have covered : ∀ d ∈ found, d.file ∈ paths := fun d member => mem_sortedSet.mpr (List.mem_map_of_mem member)
  have sums (severity : String) := sum_countP_filter Diagnostic.file (fun d => d.severity = severity) distinct covered
  have same : (paths.map (FileCounts.ofFindings found)).map FileCounts.path = paths := by
    rw [List.map_map]
    exact List.map_id' paths
  refine ⟨rfl, Summary.total_eq counted, ?_, ?_, ?_, ?_, fun path => ?_⟩
  · exact (congrArg List.sum (List.map_map ..)).trans (sums "error")
  · exact (congrArg List.sum (List.map_map ..)).trans (sums "warning")
  · exact (congrArg List.sum (List.map_map ..)).trans (sums "info")
  · exact same.symm ▸ ascending
  · change path ∈ (paths.map (FileCounts.ofFindings found)).map FileCounts.path ↔ ∃ d ∈ found, d.file = path
    rw [same, mem_sortedSet, List.mem_map]

end LintReport

/-- What passes the policy of an accepted configuration has a severity that is counted. -/
theorem Config.Accepted.counted {c : Config} (accepted : c.Accepted) {rule : Rule}
    (kept : c.severityOf rule.name rule.severity ≠ severityOff) :
    c.severityOf rule.name rule.severity ∈ countedSeverities := by
  rw [severityOf, SeverityRules.severityOf] at kept ⊢
  cases found : c.lint.rules.lookup rule.name with
  | none => cases rule <;> simp [Rule.severity, countedSeverities]
  | some severity =>
    rw [found] at kept
    obtain ⟨_, _, listed, _⟩ := List.lookup_eq_some_iff.mp found
    have known := accepted.severity (rule.name, severity) (by simp [listed])
    simp only [ruleSeverities, List.mem_cons, List.not_mem_nil, or_false] at known
    rcases known with rfl | rfl | rfl | rfl
    · exact absurd rfl kept
    all_goals simp [countedSeverities]

theorem Coordinate.IsIn.isExact {text : Bytes} {c : Coordinate} (inside : c.IsIn text) (short : text.length < 2 ^ 53) :
    c.IsExact := by
  obtain ⟨line, character, rfl, first, second⟩ := inside
  rw [endOfLine] at second
  exact ⟨line, character, rfl, by omega, by omega⟩

theorem Coordinate.IsIn.rounded {text : Bytes} {c : Coordinate} (inside : c.IsIn text) :
    ∃ line character : Nat, c.rounded = ⟨line, character⟩ := by
  obtain ⟨line, character, rfl, _, _⟩ := inside
  exact ⟨_, _, congr (congrArg Coordinate.mk (roundToBinary_natCast line)) (roundToBinary_natCast character)⟩

/-- A finding of a named file that passes the policy can be reported. -/
theorem Config.Accepted.isReportable {c : Config} (accepted : c.Accepted) {t : Tree} (named : t.path ≠ "")
    {d : Diagnostic} (made : d.IsOf t) (kept : c.severityOf d.rule d.severity ≠ severityOff) :
    (d.rewritten (c.severityOf d.rule d.severity)).IsReportable := by
  obtain ⟨rule, name, severity⟩ := made.rule
  obtain ⟨line, character, start⟩ := made.start.rounded
  obtain ⟨line', character', stop⟩ := made.stop.rounded
  refine ⟨?_, ?_, Bytes.ofString_ne_nil (Bytes.decode_ne_empty made.message), ?_, line, character, line', character', ?_⟩
  · change d.rule ≠ ""
    rw [name]
    cases rule <;> simp [Rule.name]
  · rw [name, severity] at kept
    change c.severityOf d.rule d.severity ∈ countedSeverities
    rw [name, severity]
    exact accepted.counted kept
  · exact (show d.file = t.path from made.file) ▸ named
  · exact congr (congrArg Span.mk start) stop

namespace Occasion

variable {o : Occasion} {i : Run.Inputs} {p : Project}

theorem scanned_of_inputs (found : o.inputs = .ok i) : Scan.files i.config o.start o.options.root = .ok i.files := by
  rw [inputs, Run.inputsOf] at found
  cases config : Run.configOf o.environment o.options o.given o.start with
  | error e => rw [config] at found; contradiction
  | ok c =>
    rw [config, Except.bind, Run.inputsFor] at found
    split at found
    · contradiction
    · contradiction
    · rename_i scanned
      cases found
      exact scanned

/-- The settings of the checks of a run. -/
def analysisOf (i : Run.Inputs) : AnalysisOptions := i.config.analysisOptions i.rules

/-- The files of the run after reading. -/
def readOf (o : Occasion) (i : Run.Inputs) : ReadFiles := ReadFiles.ofFiles o.start i.files

/-- The outcome of the checks of the files of the run. -/
def checkedOf (o : Occasion) (i : Run.Inputs) (p : Project) : List CheckedFile :=
  p.checkFiles (analysisOf i) (o.readOf i).isThirdParty

/-- What the checks of the run find that is not switched off, in order. -/
def keptOf (o : Occasion) (i : Run.Inputs) (p : Project) : List Diagnostic :=
  (LintReport.allFindings (o.checkedOf i p)).filter fun d => i.config.severityOf d.rule d.severity ≠ severityOff

/-- The report that the run makes, before it is held against its contract. -/
def reportOf? (o : Occasion) (i : Run.Inputs) (p : Project) : Option LintReport :=
  LintReport.ofChecked? (analysisOf i) (o.readOf i) p (o.checkedOf i p)

theorem named_of_mem_trees (found : o.inputs = .ok i) {t : Tree} (member : t ∈ (o.readOf i).trees) : t.path ≠ "" := by
  obtain ⟨f, listed, same⟩ := ReadFiles.path_of_mem_trees member
  rw [same]
  exact Scan.named_of_files (scanned_of_inputs found) f listed

/-- Every failure that the run lists can be reported. -/
theorem isReportable_failures (found : o.inputs = .ok i) (linked : Project.link (analysisOf i) (o.readOf i).trees = .ok p) :
    ∀ f ∈ (o.readOf i).failures ++ LintReport.checkFailures (o.checkedOf i p), f.IsReportable := by
  refine List.forall_mem_append.mpr ⟨fun failed member => ?_, fun failed member => ?_⟩
  · obtain ⟨f, listed, file, kind, message⟩ := ReadFiles.of_mem_failures member
    refine ⟨?_, kind ▸ by simp, message⟩
    rw [file]
    exact Scan.named_of_files (scanned_of_inputs found) f listed
  · obtain ⟨t, known, file, kind, message⟩ := Project.of_mem_checkFailures linked member
    refine ⟨?_, kind ▸ by simp, message⟩
    rw [file]
    exact named_of_mem_trees found known

/-- A run with the policy that is built in gives its report unless a text in it holds the byte order mark. -/
theorem afresh_outcome_eq (found : o.inputs = .ok i) (builtIn : o.options.policyDirectory = "")
    (linked : Project.link (analysisOf i) (o.readOf i).trees = .ok p) {report : LintReport}
    (made : o.reportOf? i p = some report) (fits : report.toJson.Fits Contract.report) :
    o.afresh.outcome =
      if report.toJson.holdsMark then .error (.contract .byteOrderMark) else .ok report := by
  have policy : Policy.check o.start o.options.policyDirectory = .ok () := by
    rw [Policy.check_eq_ok, Policy.version, if_pos builtIn]
  have same : i.report o.options o.start =
      Run.reportOf o.options o.start (analysisOf i) (o.readOf i) p (o.checkedOf i p) := by
    have linked' : Project.link (i.config.analysisOptions i.rules) (ReadFiles.ofFiles o.start i.files).trees = .ok p :=
      linked
    rw [Run.Inputs.report, Run.freshReport, linked']
    rfl
  rw [afresh_outcome, found]
  change i.report o.options o.start = _
  rw [same, Run.reportOf, policy]
  simp only
  rw [show LintReport.ofChecked? (analysisOf i) (o.readOf i) p (o.checkedOf i p) = some report from made]
  simp only [LintReport.checkContract, fits.check]
  cases report.toJson.holdsMark <;> rfl

/-- The report of a run lists findings that can be reported, and keeps its contract. -/
theorem fits_of_reportOf? (found : o.inputs = .ok i) (accepted : i.config.Accepted)
    (linked : Project.link (analysisOf i) (o.readOf i).trees = .ok p) {report : LintReport}
    (made : o.reportOf? i p = some report) :
    (∀ d ∈ report.findingList, d.IsReportable) ∧ report.toJson.Fits Contract.report := by
  obtain ⟨reported, evaluated, rfl⟩ := Option.map_eq_some_iff.mp made
  have reportable : ∀ d ∈ reported, d.IsReportable := by
    rw [SeverityRules.evaluate?_eq_some evaluated]
    intro d member
    obtain ⟨e, kept, rfl⟩ := List.mem_map.mp member
    obtain ⟨among, passes⟩ := List.mem_filter.mp kept
    obtain ⟨t, known, isOf⟩ := Project.isOf_allFindings linked among
    exact accepted.isReportable (named_of_mem_trees found known) isOf (of_decide_eq_true passes)
  exact ⟨reportable,
    LintReport.fits_toJson (o.readOf i).files.length p reportable (isReportable_failures found linked)⟩

/-- With an accepted configuration and the policy that is built in, a run reports what its checks find. Each finding
is kept in its place unless its rule is off, and has the severity that is configured for its rule, or else its own;
its message is read as text. The report keeps its contract and adds up. -/
theorem report_adds_up (found : o.inputs = .ok i) (accepted : i.config.Accepted)
    (builtIn : o.options.policyDirectory = "") (linked : Project.link (analysisOf i) (o.readOf i).trees = .ok p) :
    (∀ report, o.reportOf? i p = some report →
      report.toJson.Fits Contract.report ∧
      report.findings = some ((o.keptOf i p).map fun d => d.rewritten (i.config.severityOf d.rule d.severity)) ∧
      report.AddsUp ∧
      o.afresh.outcome = if report.toJson.holdsMark then .error (.contract .byteOrderMark) else .ok report) ∧
    ((∀ t ∈ (o.readOf i).trees, t.text.length < 2 ^ 53) → ∃ report, o.reportOf? i p = some report ∧
      report.findings = some ((o.keptOf i p).map fun d =>
        { d with severity := i.config.severityOf d.rule d.severity, message := Bytes.ofString d.message.decode })) := by
  refine ⟨fun report made => ?_, fun short => ?_⟩
  · obtain ⟨reportable, fits⟩ := fits_of_reportOf? found accepted linked made
    have outcome := afresh_outcome_eq found builtIn linked made fits
    obtain ⟨reported, evaluated, rfl⟩ := Option.map_eq_some_iff.mp made
    exact ⟨fits, congrArg some (SeverityRules.evaluate?_eq_some evaluated),
      LintReport.addsUp_ofFindings (fun d member => (reportable d member).severity) _ _, outcome⟩
  · have exact_ : ∀ d ∈ LintReport.allFindings (o.checkedOf i p), d.range.start.IsExact ∧ d.range.stop.IsExact := by
      intro d member
      obtain ⟨t, known, isOf⟩ := Project.isOf_allFindings linked member
      exact ⟨isOf.start.isExact (short t known), isOf.stop.isExact (short t known)⟩
    have evaluated : (analysisOf i).severities.evaluate? (LintReport.allFindings (o.checkedOf i p)) = _ :=
      SeverityRules.evaluate?_of_isExact exact_
    exact ⟨_, congrArg (Option.map _) evaluated, rfl⟩

/-- A configuration that makes one rule a warning. -/
def lenient : Config :=
  { Config.default with
    lint := { Config.default.lint with rules := [("undeclared-signal", "warning")], ignoreRegions := false }
    analysis := { Config.default.analysis with followLibraryUse := false } }

/-- The configuration as it stands in a file. -/
def lenientFiles : Workspace where
  entries := [(["c.json"],
    .file (Bytes.ofString "\x7b\"lint\":\x7b\"rules\":\x7b\"undeclared-signal\":\"warning\"\x7d\x7d\x7d"))]

/-- A run on a file that assigns to a name that is not UTF-8. -/
def byteNamed : Occasion where
  environment := {}
  options := { root := "a.vhd" }
  given := some lenient
  workspace := { entries := [(["a.vhd"],
    .file (Bytes.ofString "architecture a of e is begin \\" ++ 0xFF :: Bytes.ofString "\\ <= '1'; end;"))] }

/-- What the checks of that run find. -/
def byteFinding : Diagnostic where
  rule := "undeclared-signal"
  severity := "error"
  message := Bytes.ofString "signal '\\" ++ 0xFF :: Bytes.ofString "\\' is written but not declared"
  file := "a.vhd"
  range := ⟨⟨0, 29⟩, ⟨0, 32⟩⟩

/-- What is reported in that run: a warning, with a replacement character in its message. -/
def byteReported : Diagnostic :=
  { byteFinding with
    severity := "warning"
    message := Bytes.ofString "signal '\\\uFFFD\\' is written but not declared" }

/-- What that run and its configuration come to. -/
theorem byteNamed_made : (Config.loadFile lenientFiles "c.json").toOption = some lenient ∧
    { byteFinding with
      severity := lenient.severityOf byteFinding.rule byteFinding.severity
      message := Bytes.ofString byteFinding.message.decode } = byteReported ∧
    (byteNamed.inputs.toOption.any fun i =>
      i.config = lenient && (byteNamed.readOf i).trees.all (·.text.length < 100) &&
        (Project.link (analysisOf i) (byteNamed.readOf i).trees).toOption.any fun p =>
          LintReport.allFindings (byteNamed.checkedOf i p) = [byteFinding] &&
            (byteNamed.reportOf? i p).any fun r => !r.toJson.holdsMark && r.findings = some [byteReported]) = true := by
  rw [lenientFiles, byteNamed, byteFinding, byteReported]
  rw [Bytes.ofString_ofList, Bytes.ofString_ofList, Bytes.ofString_ofList, Bytes.ofString_ofList, Bytes.ofString_ofList,
    Bytes.ofString_ofList]
  refine ⟨?_, ?_, ?_⟩ <;> decide +kernel

theorem accepted_lenient : lenient.Accepted := by
  have loads := byteNamed_made.1
  cases loaded : Config.loadFile lenientFiles "c.json" with
  | error e => rw [loaded] at loads; contradiction
  | ok c =>
    rw [loaded] at loads
    cases loads
    exact .inr ⟨_, _, loaded⟩

theorem exists_byteNamed : ∃ i p report, byteNamed.inputs = .ok i ∧ i.config = lenient ∧
    (∀ t ∈ (byteNamed.readOf i).trees, t.text.length < 100) ∧
    Project.link (analysisOf i) (byteNamed.readOf i).trees = .ok p ∧ byteNamed.keptOf i p = [byteFinding] ∧
    byteNamed.reportOf? i p = some report ∧ report.toJson.holdsMark = false ∧ report.findings = some [byteReported] := by
  obtain ⟨_, _, made⟩ := byteNamed_made
  obtain ⟨i, found, made⟩ := exists_ok_of_any made
  obtain ⟨settings, made⟩ := Bool.and_eq_true_iff.mp made
  obtain ⟨config, short⟩ := Bool.and_eq_true_iff.mp settings
  obtain ⟨p, linked, made⟩ := exists_ok_of_any made
  obtain ⟨all, made⟩ := Bool.and_eq_true_iff.mp made
  obtain ⟨report, reported, made⟩ := (Option.any_eq_true ..).mp made
  obtain ⟨unmarked, findings⟩ := Bool.and_eq_true_iff.mp made
  have config := of_decide_eq_true config
  refine ⟨i, p, report, found, config, fun t member => of_decide_eq_true (List.all_eq_true.mp short t member), linked, ?_,
    reported, Bool.not_eq_true' _ |>.mp unmarked, of_decide_eq_true findings⟩
  rw [keptOf, of_decide_eq_true all, config]
  exact List.filter_cons_of_pos (by decide)

theorem report_adds_up_byteNamed : ∃ i p report, byteNamed.inputs = .ok i ∧ i.config.Accepted ∧
    byteNamed.options.policyDirectory = "" ∧ Project.link (analysisOf i) (byteNamed.readOf i).trees = .ok p ∧
    (∀ t ∈ (byteNamed.readOf i).trees, t.text.length < 2 ^ 53) ∧ byteNamed.reportOf? i p = some report ∧
    byteNamed.afresh.outcome = .ok report ∧ report.toJson.Fits Contract.report ∧ report.AddsUp ∧
    report.findings = some [byteReported] := by
  obtain ⟨i, p, report, found, config, short, linked, kept, made, unmarked, findings⟩ := exists_byteNamed
  have accepted : i.config.Accepted := config ▸ accepted_lenient
  obtain ⟨each, listed⟩ := report_adds_up found accepted rfl linked
  obtain ⟨fits, _, addsUp, outcome⟩ := each report made
  have small : ∀ t ∈ (byteNamed.readOf i).trees, t.text.length < 2 ^ 53 :=
    fun t member => Nat.lt_trans (short t member) (by decide)
  obtain ⟨report', made', findings'⟩ := listed small
  cases made.symm.trans made'
  rw [unmarked] at outcome
  refine ⟨i, p, report, found, accepted, rfl, linked, small, made, outcome, fits, addsUp, ?_⟩
  rw [findings', kept, config]
  exact congrArg (fun d => some [d]) byteNamed_made.2.1

/-- A message that is not UTF-8 is not reported as it is. -/
theorem message_not_kept : ∃ i p report, byteNamed.inputs = .ok i ∧ i.config.Accepted ∧
    byteNamed.options.policyDirectory = "" ∧ Project.link (analysisOf i) (byteNamed.readOf i).trees = .ok p ∧
    byteNamed.afresh.outcome = .ok report ∧ report.findings ≠ some ((byteNamed.keptOf i p).map fun d =>
      { d with severity := i.config.severityOf d.rule d.severity }) := by
  obtain ⟨i, p, report, found, config, _, linked, kept, made, unmarked, findings⟩ := exists_byteNamed
  have accepted : i.config.Accepted := config ▸ accepted_lenient
  have outcome := afresh_outcome_eq found rfl linked made (fits_of_reportOf? found accepted linked made).2
  rw [unmarked] at outcome
  refine ⟨i, p, report, found, accepted, rfl, linked, outcome, ?_⟩
  rw [findings, kept, config]
  decide

end Occasion

end DesignLint
