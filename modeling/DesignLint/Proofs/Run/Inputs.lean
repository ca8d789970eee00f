import DesignLint.Proofs.Run.Outcome
import DesignLint.Proofs.Run.Settings

/-! Runs with the same inputs make the same report. A kept result is accepted by its key and its digests: as long as the
digest tells texts apart, these say that the settings are the same and that each file holds the same. They say nothing
of the libraries that the files are analysed in, so the two runs have to agree on them. -/
namespace DesignLint

/-- Whether the digest tells texts apart. -/
def Sha256.Separates (texts : List Bytes) : Prop := ∀ x ∈ texts, ∀ y ∈ texts, digest x = digest y → x = y

theorem Sha256.Separates.mono {texts fewer : List Bytes} (apart : Separates texts) (sub : fewer ⊆ texts) :
    Separates fewer := fun x first y second => apart x (sub first) y (sub second)

namespace ReadFiles

variable {w w' : Workspace} {files files' : List ScannedFile}

/-- Files under the same paths in the same libraries read alike where they hold the same. -/
theorem read_eq (assigned : files.map (fun f => (f.path, f.library)) = files'.map fun f => (f.path, f.library))
    (same : ∀ f ∈ files, w.read f.path = w'.read f.path) :
    (ofFiles w files).files.map Prod.snd = (ofFiles w' files').files.map Prod.snd := by
  have read (w : Workspace) (files : List ScannedFile) : (ofFiles w files).files.map Prod.snd =
      (files.map fun f => (f.path, f.library)).map fun p => ScannedFile.read w ⟨p.1, p.2, false⟩ := by
    rw [ofFiles, List.map_map, List.map_map]
    rfl
  rw [read, read, ← assigned, List.map_map, List.map_map, List.map_inj_left]
  intro f member
  simp only [Function.comp_apply, ScannedFile.read, same f member]

theorem trees_eq (r : ReadFiles) : r.trees = (r.files.map Prod.snd).filterMap Except.toOption := by
  rw [trees, List.filterMap_map]
  rfl

theorem failures_eq (r : ReadFiles) : r.failures = (r.files.map Prod.snd).filterMap fun
    | .error failed => some failed
    | .ok _ => none := by
  rw [failures, List.filterMap_map]
  rfl

theorem isThirdParty_ofFiles (w : Workspace) (files : List ScannedFile) (path : String) :
    (ofFiles w files).isThirdParty path = files.any fun f => f.path == path && f.thirdParty := by
  rw [isThirdParty, ofFiles, List.any_map]
  rfl

end ReadFiles

theorem Policy.check_eq_ok {w : Workspace} {directory : String} :
    check w directory = .ok () ↔ version w directory = .ok builtInVersion := by
  rw [check]
  cases version w directory with
  | error e => simp
  | ok found => by_cases builtIn : found = builtInVersion <;> simp [builtIn]

namespace Run

theorem prepared_of_cacheOf {options : RunOptions} {c : Config} {w : Workspace} {files : List ScannedFile}
    {cache : ResultCache} (opened : cacheOf options c w files = some cache) :
    ResultCache.prepare w c options.policyDirectory options.root files = .ok cache := by
  rw [cacheOf] at opened
  split at opened
  · cases prepared : ResultCache.prepare w c options.policyDirectory options.root files with
    | ok found =>
      rw [prepared] at opened
      cases opened
      rfl
    | error fault =>
      rw [prepared] at opened
      cases opened
  · cases opened

/-- Reports are made alike from files that read alike, with the same marks, settings and policy. -/
theorem freshReport_eq {options options' : RunOptions} {c c' : Config} {w w' : Workspace} {rules : InferenceRules}
    {files files' : List ScannedFile} (analysis : c.analysisOptions rules = c'.analysisOptions rules)
    (read : (ReadFiles.ofFiles w files).files.map Prod.snd = (ReadFiles.ofFiles w' files').files.map Prod.snd)
    (thirdParty : (ReadFiles.ofFiles w files).isThirdParty = (ReadFiles.ofFiles w' files').isThirdParty)
    (policy : Policy.check w options.policyDirectory = Policy.check w' options'.policyDirectory) :
    freshReport options c w rules files = freshReport options' c' w' rules files' := by
  have lengths : (ReadFiles.ofFiles w files).files.length = (ReadFiles.ofFiles w' files').files.length := by
    simpa using congrArg List.length read
  simp only [freshReport, reportOf, LintReport.ofChecked?, ReadFiles.trees_eq, ReadFiles.failures_eq, analysis, read,
    thirdParty, policy, lengths]

theorem check_of_freshReport {options : RunOptions} {c : Config} {w : Workspace} {rules : InferenceRules}
    {files : List ScannedFile} {report : LintReport} (made : freshReport options c w rules files = .ok report) :
    Policy.check w options.policyDirectory = .ok () := by
  simp only [freshReport, reportOf] at made
  split at made
  · cases made
  · split at made
    · cases made
    · assumption

namespace Inputs

/-- The texts whose digests decide whether a kept result is accepted: the settings, and what the files hold. -/
def digested (options : RunOptions) (w : Workspace) (i : Inputs) : List Bytes :=
  let policyVersion := ((Policy.version w options.policyDirectory).toOption).getD ""
  Bytes.ofString (ResultCache.settings i.config i.files policyVersion).compact ::
    i.files.map fun f => w.contentAt f.path

/-- The files with the libraries they are analysed in. -/
def assignment (i : Inputs) : List (String × String) := i.files.map fun f => (f.path, f.library)

section

variable {options options' : RunOptions} {w w' : Workspace} {i i' : Inputs} {cache cache' : ResultCache}

/-- Runs with the same key have the same settings. -/
theorem settings_eq (apart : Sha256.Separates (i.digested options w ++ i'.digested options' w'))
    (opened : i.cache? options w = some cache) (opened' : i'.cache? options' w' = some cache')
    (keys : cache.key = cache'.key) :
    ∃ version, Policy.version w options.policyDirectory = .ok version ∧
      Policy.version w' options'.policyDirectory = .ok version ∧
      ResultCache.settings i.config i.files version = ResultCache.settings i'.config i'.files version := by
  obtain ⟨_, _, version, known, key⟩ := ResultCache.prepare_ok (prepared_of_cacheOf opened)
  obtain ⟨_, _, version', known', key'⟩ := ResultCache.prepare_ok (prepared_of_cacheOf opened')
  rw [digested, digested, known, known'] at apart
  have texts := apart _ (List.mem_append_left _ List.mem_cons_self) _ (List.mem_append_right _ List.mem_cons_self)
    (by rw [key, key'] at keys; exact keys)
  have same := (ResultCache.plain_settings ..).eq_of_compact (ResultCache.plain_settings ..)
    (Bytes.ofString_injective texts)
  obtain ⟨_, rfl, _⟩ := ResultCache.eq_of_settings same
  exact ⟨version, known, known', same⟩

/-- Files with the same digests hold the same. -/
theorem read_eq (apart : Sha256.Separates (i.digested options w ++ i'.digested options' w'))
    (opened : i.cache? options w = some cache) (opened' : i'.cache? options' w' = some cache')
    (digests : cache.digests = cache'.digests) (assigned : i.assignment = i'.assignment) :
    ∀ f ∈ i.files, w.read f.path = w'.read f.path := by
  obtain ⟨reads, found, _⟩ := ResultCache.prepare_ok (prepared_of_cacheOf opened)
  obtain ⟨reads', found', _⟩ := ResultCache.prepare_ok (prepared_of_cacheOf opened')
  intro f member
  have listed : (f.path, f.library) ∈ i'.assignment := by
    rw [← assigned]
    exact List.mem_map_of_mem member
  obtain ⟨f', member', pair⟩ := List.mem_map.mp listed
  have paths : f'.path = f.path := (Prod.mk.inj pair).1
  have digest_eq : Sha256.digest (w.contentAt f.path) = Sha256.digest (w'.contentAt f'.path) := by
    have digest' := found' f' member'
    rw [paths, ← digests, found f member] at digest'
    rw [Option.some.inj digest', paths]
  have content_eq : w.contentAt f.path = w'.contentAt f'.path :=
    apart _ (List.mem_append_left _ (List.mem_cons_of_mem _ (List.mem_map_of_mem member))) _
      (List.mem_append_right _ (List.mem_cons_of_mem _ (List.mem_map_of_mem member'))) digest_eq
  rw [reads f member, content_eq, ← reads' f' member', paths]

/-- A run that finds the key and the digests of another makes the report of the other, if the two agree on the
libraries. -/
theorem report_eq (apart : Sha256.Separates (i.digested options w ++ i'.digested options' w'))
    (rules : i.config.inferenceRules = .ok i.rules) (rules' : i'.config.inferenceRules = .ok i'.rules)
    (opened : i.cache? options w = some cache) (opened' : i'.cache? options' w' = some cache')
    (keys : cache.key = cache'.key) (digests : cache.digests = cache'.digests) (assigned : i.assignment = i'.assignment)
    {report : LintReport} (made : i'.report options' w' = .ok report) : i.report options w = .ok report := by
  obtain ⟨version, known, known', settings⟩ := settings_eq apart opened opened' keys
  obtain ⟨configs, _, marks⟩ := ResultCache.eq_of_settings settings
  obtain ⟨compiled, analysis⟩ := Config.analysis_eq_of_toJson configs
  have rules_eq : i.rules = i'.rules := by
    rw [rules, rules'] at compiled
    exact Except.ok.inj compiled
  rw [← made, Inputs.report, Inputs.report, ← rules_eq]
  refine freshReport_eq (analysis _) (ReadFiles.read_eq assigned (read_eq apart opened opened' digests assigned)) ?_ ?_
  · funext path
    rw [ReadFiles.isThirdParty_ofFiles, ReadFiles.isThirdParty_ofFiles, marks]
  · have accepted := check_of_freshReport made
    have builtIn := Policy.check_eq_ok.mp accepted
    rw [accepted, Policy.check_eq_ok, known, ← known', builtIn]

end

end Inputs
end Run
end DesignLint
