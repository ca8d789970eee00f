import DesignLint.Run.Pipeline

/-! What a run gives and what it does to the files, apart from all it prints, logs and notes. The outcome is a function
of the files at its start: a kept result that is accepted, or else a report that is made from the files; and only a
report that was made is kept. -/
namespace DesignLint.Run

/-- The outcome of a part of a run and the files after it, from given files and whatever else the trace holds. -/
structure Gives {α : Type} (part : RunM α) (w : Workspace) (outcome : Except RunError α) (after : Workspace) :
    Prop where
  run : ∀ t : Trace, t.workspace = w → (part.run.run t).1 = outcome ∧ (part.run.run t).2.workspace = after

/-- A part of a run that only leaves a trace. -/
structure Quiet (part : RunM Unit) : Prop where
  gives : ∀ w, Gives part w (.ok ()) w

namespace Gives

variable {α β : Type} {part : RunM α} {next : α → RunM β} {w between after : Workspace}

theorem pure (a : α) (w : Workspace) : Gives (pure a) w (.ok a) w := ⟨fun _ start => ⟨rfl, start⟩⟩

theorem throw (e : RunError) (w : Workspace) : Gives (throw e : RunM α) w (.error e) w :=
  ⟨fun _ start => ⟨rfl, start⟩⟩

theorem andThen {a : α} {outcome : Except RunError β} (first : Gives part w (.ok a) between)
    (second : Gives (next a) between outcome after) : Gives (part >>= next) w outcome after := by
  refine ⟨fun t start => ?_⟩
  obtain ⟨given, left⟩ := first.run t start
  rw [ExceptT.run_bind, StateT.run_bind]
  generalize part.run.run t = state at given left
  obtain ⟨_, t'⟩ := state
  cases given
  exact second.run t' left

theorem stop {e : RunError} (first : Gives part w (.error e) after) : Gives (part >>= next) w (.error e) after := by
  refine ⟨fun t start => ?_⟩
  obtain ⟨given, left⟩ := first.run t start
  rw [ExceptT.run_bind, StateT.run_bind]
  generalize part.run.run t = state at given left
  obtain ⟨_, t'⟩ := state
  cases given
  exact ⟨rfl, left⟩

/-- A part that looks at the files finds those at its start. -/
theorem getThen {next : Trace → RunM β} {outcome : Except RunError β}
    (rest : ∀ t : Trace, t.workspace = w → Gives (next t) w outcome after) : Gives (get >>= next) w outcome after :=
  ⟨fun t start => (rest t start).run t start⟩

theorem orStop {ε : Type} (stop : ε → RunError) (result : Except ε α) (w : Workspace) :
    Gives (orStop stop result) w (result.mapError stop) w := by
  cases result with
  | ok a => exact pure a w
  | error e => exact throw (stop e) w

/-- A value that may end the run, and what is done with it. -/
theorem orStopThen {ε : Type} {stop : ε → RunError} {result : Except ε α} {outcome : Except RunError β}
    (failed : ∀ e, result = .error e → outcome = .error (stop e) ∧ after = w)
    (done : ∀ a, result = .ok a → Gives (next a) w outcome after) :
    Gives (Run.orStop stop result >>= next) w outcome after := by
  cases result with
  | ok a => exact (pure a w).andThen (done a rfl)
  | error e =>
    obtain ⟨rfl, rfl⟩ := failed e rfl
    exact (throw (stop e) _).stop

end Gives

namespace Quiet

variable {α : Type} {part : RunM Unit} {next : Unit → RunM α} {w after : Workspace} {outcome : Except RunError α}

theorem andThen (quiet : Quiet part) (rest : Gives (next ()) w outcome after) : Gives (part >>= next) w outcome after :=
  (quiet.gives w).andThen rest

theorem modify {change : Trace → Trace} (same : ∀ t, (change t).workspace = t.workspace) :
    Quiet (modify change) := ⟨fun _ => ⟨fun t start => ⟨rfl, (same t).trans start⟩⟩⟩

theorem skip : Quiet (pure ()) := ⟨Gives.pure ()⟩

theorem print (text : String) : Quiet (print text) := modify fun _ => rfl

theorem say (options : RunOptions) (text : String) : Quiet (say options text) := by
  rw [Run.say]
  split
  · exact skip
  · exact print text

theorem explain (options : RunOptions) (text : String) : Quiet (explain options text) := by
  rw [Run.explain]
  split
  · exact say options text
  · exact skip

theorem logAll (records : List LogRecord) : Quiet (logAll records) := modify fun _ => rfl

theorem stage (phase status : String) : Quiet (stage phase status) := modify fun _ => rfl

theorem fileStages (phase : String) (files : List (String × String)) : Quiet (fileStages phase files) :=
  modify fun _ => rfl

theorem note (problem : Problem) : Quiet (note problem) := modify fun _ => rfl

theorem showReport (options : RunOptions) (report : LintReport) : Quiet (showReport options report) := by
  rw [Run.showReport]
  split <;> exact print _

theorem explainImpact (options : RunOptions) (p : Project) (cache : ResultCache) (entry : CacheEntry) :
    Quiet (explainImpact options p cache entry) := by
  rw [Run.explainImpact]
  split
  · exact skip
  · exact explain options _

end Quiet

section Parts

variable (options : RunOptions) (c : Config) (w : Workspace)

theorem scan_gives : Gives (scan options c) w ((Scan.files c w options.root).mapError .scan) w := by
  refine .getThen fun t start => ?_
  subst start
  refine (Quiet.say ..).andThen (.orStopThen ?_ ?_)
  · intro fault failed
    exact ⟨by rw [failed]; rfl, rfl⟩
  · intro files found
    rw [found]
    refine (Quiet.say ..).andThen ((Quiet.explain ..).andThen ((Quiet.stage ..).andThen ?_))
    exact (Quiet.logAll ..).andThen (.pure files _)

/-- The kept results that a run looks at. -/
def cacheOf (files : List ScannedFile) : Option ResultCache :=
  if c.cacheEnabled then (ResultCache.prepare w c options.policyDirectory options.root files).toOption else none

theorem openCache_gives (files : List ScannedFile) :
    Gives (openCache options c files) w (.ok (cacheOf options c w files)) w := by
  rw [openCache, cacheOf]
  cases c.cacheEnabled with
  | false => exact .pure none w
  | true =>
    refine .getThen fun t start => ?_
    subst start
    simp only [if_true]
    cases ResultCache.prepare t.workspace c options.policyDirectory options.root files with
    | ok cache => exact .pure (some cache) _
    | error fault => exact (Quiet.note _).andThen (.pure none _)

/-- The entry that a run finds. -/
def entryOf (cache : Option ResultCache) : Option CacheEntry :=
  cache.bind fun cache => ((cache.load w).toOption).join

theorem loadEntry_gives (cache : Option ResultCache) : Gives (loadEntry cache) w (.ok (entryOf w cache)) w := by
  rw [loadEntry.eq_def]
  cases cache with
  | none => exact .pure none w
  | some cache =>
    refine .getThen fun t start => ?_
    subst start
    rw [entryOf, Option.bind_some]
    cases cache.load t.workspace with
    | ok entry => exact .pure entry _
    | error fault => exact (Quiet.note _).andThen (.pure none _)

theorem readFiles_gives (files : List ScannedFile) :
    Gives (readFiles options files) w (.ok (ReadFiles.ofFiles w files)) w := by
  refine .getThen fun t start => ?_
  subst start
  exact (Quiet.explain ..).andThen ((Quiet.fileStages ..).andThen ((Quiet.stage ..).andThen (.pure _ _)))

theorem linkTrees_gives (analysis : AnalysisOptions) (r : ReadFiles) :
    Gives (linkTrees analysis r) w ((Project.link analysis r.trees).mapError .tree) w := by
  refine .orStopThen ?_ ?_
  · intro fault failed
    exact ⟨by rw [failed]; rfl, rfl⟩
  · intro p linked
    rw [linked]
    exact (Quiet.logAll ..).andThen ((Quiet.stage ..).andThen (.pure p w))

theorem checkFiles_gives (analysis : AnalysisOptions) (r : ReadFiles) (p : Project) :
    Gives (checkFiles analysis r p) w (.ok (p.checkFiles analysis r.isThirdParty)) w :=
  (Quiet.fileStages ..).andThen ((Quiet.stage ..).andThen (.pure _ w))

/-- The report on checked files, if the policy lets it through and it keeps its contract. -/
def reportOf (analysis : AnalysisOptions) (r : ReadFiles) (p : Project) (checked : List CheckedFile) :
    Except RunError LintReport :=
  match Policy.check w options.policyDirectory with
  | .error e => .error (.noPolicy e)
  | .ok () =>
    match LintReport.ofChecked? analysis r p checked with
    | none => .error .policy
    | some report =>
      match report.checkContract with
      | .error violation => .error (.contract violation)
      | .ok () => .ok report

theorem makeReport_gives (analysis : AnalysisOptions) (r : ReadFiles) (p : Project) (checked : List CheckedFile) :
    Gives (makeReport options analysis r p checked) w (reportOf options w analysis r p checked) w := by
  refine .getThen fun t start => ?_
  subst start
  refine .orStopThen ?_ ?_
  · intro e refused
    exact ⟨by rw [reportOf, refused], rfl⟩
  · intro _ accepted
    rw [reportOf, accepted]
    cases LintReport.ofChecked? analysis r p checked with
    | none => exact .throw .policy _
    | some report =>
      refine (Quiet.stage ..).andThen (.orStopThen ?_ ?_)
      · intro violation broken
        exact ⟨by simp only [broken], rfl⟩
      · intro _ kept
        simp only [kept]
        exact (Quiet.stage ..).andThen (.pure report _)

/-- The files after a report was made, kept if it can be. -/
def afterReport (cache : Option ResultCache) (report : Except RunError LintReport) : Workspace :=
  match cache, report with
  | some cache, .ok report => (cache.save w report).1
  | _, _ => w

theorem keep_gives (cache : Option ResultCache) (report : LintReport) :
    Gives (keep cache report) w (.ok ()) (afterReport w cache (.ok report)) := by
  rw [keep.eq_def]
  cases cache with
  | none => exact .pure () w
  | some cache =>
    refine .getThen fun t start => ?_
    subst start
    rw [afterReport]
    generalize cache.save t.workspace report = saved
    obtain ⟨after, fault⟩ := saved
    have replaced : Gives (modify fun t => { t with workspace := after }) t.workspace (.ok ()) after :=
      ⟨fun _ _ => ⟨rfl, rfl⟩⟩
    refine replaced.andThen ?_
    cases fault with
    | none => exact .pure () after
    | some fault => exact (Quiet.note _).gives after

theorem reportOn_gives (analysis : AnalysisOptions) (r : ReadFiles) (p : Project) (cache : Option ResultCache) :
    Gives (reportOn options analysis r p cache) w
      (reportOf options w analysis r p (p.checkFiles analysis r.isThirdParty))
      (afterReport w cache (reportOf options w analysis r p (p.checkFiles analysis r.isThirdParty))) := by
  refine (checkFiles_gives ..).andThen ?_
  have making := makeReport_gives options w analysis r p (p.checkFiles analysis r.isThirdParty)
  generalize reportOf options w analysis r p _ = made at making
  cases made with
  | error e =>
    have kept : afterReport w cache (.error e) = w := by cases cache <;> rfl
    rw [kept]
    exact making.stop
  | ok report =>
    refine making.andThen ((keep_gives ..).andThen ?_)
    have shown (after : Workspace) : Gives (do
        showReport options report
        explain options timingSummary
        stage "total" ""
        return report) after (.ok report) after :=
      (Quiet.showReport ..).andThen ((Quiet.explain ..).andThen ((Quiet.stage ..).andThen (.pure report after)))
    split
    · exact (Quiet.explain ..).andThen (shown _)
    · exact shown _

/-- The report that is made from files. -/
def freshReport (rules : InferenceRules) (files : List ScannedFile) : Except RunError LintReport :=
  let analysis := c.analysisOptions rules
  let r := ReadFiles.ofFiles w files
  match Project.link analysis r.trees with
  | .error fault => .error (.tree fault)
  | .ok p => reportOf options w analysis r p (p.checkFiles analysis r.isThirdParty)

theorem analyze_gives (rules : InferenceRules) (files : List ScannedFile) (cache : Option ResultCache)
    (entry : Option CacheEntry) :
    Gives (analyze options c rules files cache entry) w (freshReport options c w rules files)
      (afterReport w cache (freshReport options c w rules files)) := by
  rw [analyze, freshReport]
  refine (readFiles_gives ..).andThen ?_
  have linking := linkTrees_gives w (c.analysisOptions rules) (ReadFiles.ofFiles w files)
  simp only
  generalize Project.link (c.analysisOptions rules) (ReadFiles.ofFiles w files).trees = linked at linking
  cases linked with
  | error fault =>
    have kept : afterReport w cache (.error (.tree fault)) = w := by cases cache <;> rfl
    simp only [kept]
    exact linking.stop
  | ok p =>
    refine linking.andThen ?_
    split
    · exact (Quiet.explainImpact ..).andThen (reportOn_gives ..)
    · exact reportOn_gives ..

/-- The entry that a run finds and accepts. -/
def acceptedOf (cache : Option ResultCache) : Option CacheEntry :=
  (entryOf w cache).filter fun entry => cache.any fun cache => cache.accepts entry

end Parts

/-- The configuration of a run. -/
def configOf (environment : Environment) (options : RunOptions) (given : Option Config) (w : Workspace) :
    Except RunError Config :=
  match given with
  | some c => .ok c
  | none => (Config.load w environment.home? options.root).mapError .config

theorem configuration_gives (environment : Environment) (options : RunOptions) (given : Option Config)
    (w : Workspace) :
    Gives (configuration environment options given) w (configOf environment options given w) w := by
  cases given with
  | some c => exact .pure c w
  | none =>
    refine .getThen fun t start => ?_
    subst start
    exact .orStop ..

/-- What a run works on with a configuration. -/
def inputsFor (options : RunOptions) (w : Workspace) (c : Config) : Except RunError Inputs :=
  match c.inferenceRules, Scan.files c w options.root with
  | .error e, _ => .error (.rules e)
  | .ok _, .error fault => .error (.scan fault)
  | .ok rules, .ok files => .ok ⟨c, rules, files⟩

/-- What a run works on, from the files at its start. -/
def inputsOf (environment : Environment) (options : RunOptions) (given : Option Config) (w : Workspace) :
    Except RunError Inputs :=
  (configOf environment options given w).bind (inputsFor options w)

theorem findInputs_gives (environment : Environment) (options : RunOptions) (given : Option Config) (w : Workspace) :
    Gives (findInputs environment options given) w (inputsOf environment options given w) w := by
  rw [findInputs, inputsOf]
  have configured := configuration_gives environment options given w
  generalize configOf environment options given w = config at configured
  cases config with
  | error e => exact configured.stop
  | ok c =>
    refine configured.andThen ?_
    have compiled := Gives.orStop .rules c.inferenceRules w
    have scanned := scan_gives options c w
    rw [Except.bind, inputsFor]
    generalize c.inferenceRules = rules at compiled
    generalize Scan.files c w options.root = files at scanned
    cases rules with
    | error e => exact compiled.stop
    | ok rules =>
      refine compiled.andThen ?_
      cases files with
      | error fault => exact scanned.stop
      | ok files => exact scanned.andThen (.pure _ w)

namespace Inputs

variable (options : RunOptions) (w : Workspace) (i : Inputs)

/-- The kept results that are looked at. -/
def cache? : Option ResultCache := cacheOf options i.config w i.files

/-- The report that is made from the files. -/
def report : Except RunError LintReport := freshReport options i.config w i.rules i.files

/-- The outcome of a run and the files after it. -/
def result : Except RunError LintReport × Workspace :=
  match acceptedOf w (i.cache? options w) with
  | some entry => (.ok entry.report, w)
  | none => (i.report options w, afterReport w (i.cache? options w) (i.report options w))

end Inputs

theorem reuseOrAnalyze_gives (options : RunOptions) (w : Workspace) (i : Inputs) :
    Gives (reuseOrAnalyze options i) w (i.result options w).1 (i.result options w).2 := by
  refine (openCache_gives ..).andThen ((loadEntry_gives ..).andThen ?_)
  rw [Inputs.result, Inputs.cache?, acceptedOf]
  have analyzed := analyze_gives options i.config w i.rules i.files (cacheOf options i.config w i.files)
    (entryOf w (cacheOf options i.config w i.files))
  rw [← Inputs.report] at analyzed
  generalize i.report options w = report at analyzed
  generalize entryOf w (cacheOf options i.config w i.files) = entry at analyzed
  generalize cacheOf options i.config w i.files = cache at analyzed
  cases cache with
  | none => cases entry <;> exact (Quiet.stage ..).andThen analyzed
  | some cache =>
    cases entry with
    | none => exact (Quiet.stage ..).andThen analyzed
    | some entry =>
      cases hit : cache.accepts entry with
      | true =>
        simp only [Option.filter, Option.any, hit, if_true]
        refine (Quiet.stage ..).andThen ((Quiet.logAll ..).andThen ((Quiet.showReport ..).andThen ?_))
        exact (Quiet.stage ..).andThen (.pure entry.report w)
      | false =>
        simp only [Option.filter, Option.any, hit, Bool.false_eq_true, if_false]
        exact (Quiet.stage ..).andThen analyzed

/-- The outcome of a run and the files after it, from the files at its start. -/
def result (environment : Environment) (options : RunOptions) (given : Option Config) (w : Workspace) :
    Except RunError LintReport × Workspace :=
  match inputsOf environment options given w with
  | .error e => (.error e, w)
  | .ok i => i.result options w

theorem body_gives (environment : Environment) (options : RunOptions) (given : Option Config) (w : Workspace) :
    Gives (body environment options given) w (result environment options given w).1
      (result environment options given w).2 := by
  rw [body, result]
  have found := findInputs_gives environment options given w
  generalize inputsOf environment options given w = inputs at found
  cases inputs with
  | error e => exact found.stop
  | ok i => exact found.andThen (reuseOrAnalyze_gives options w i)

end DesignLint.Run
