import DesignLint.Config.Load
import DesignLint.Proofs.Contract.Terms

/-! What is known of a configuration that is accepted: its contract holds of the members it is written with, so its
rules have one of the four severities. Two rules whose names are composed alike are one member of the document, and
then their severities have to be the same. -/
namespace DesignLint

open Json

namespace Config

theorem names_memberIf (present : Bool) (name : String) (value : Json) :
    ((memberIf present name value).map Prod.fst).Sublist [name] := by
  rw [memberIf]
  split
  · exact .refl _
  · exact List.nil_sublist _

end Config

/-- The settings are written under different names. The rules are among them if there are any, and whether regions
are ignored is one of them. -/
theorem LintSettings.members (l : LintSettings) : ∃ before after : List (String × Json),
    (∀ regions, ({ l with ignoreRegions := regions } : LintSettings).toJson =
      .object (before ++ Config.flagMember "ignoreRegions" regions ++ after)) ∧
    (∀ regions, NamedApart (before ++ Config.flagMember "ignoreRegions" regions ++ after)) ∧
    (l.rules ≠ [] → ("rules", .object (l.rules.map fun r => (r.1, .ofString r.2))) ∈ before) := by
  refine ⟨Config.memberIf (!l.rules.isEmpty) "rules" (.object (l.rules.map fun r => (r.1, .ofString r.2))) ++
    Config.textsMember "ignorePatterns" l.ignorePatterns,
    Config.textMember "clockEdgePattern" l.clockEdgePattern ++ Config.textMember "resetPattern" l.resetPattern,
    fun regions => ?_, fun regions => ?_, fun some_ => ?_⟩
  · rw [← List.append_assoc]
    rfl
  · refine .of_sublist
      (["rules"] ++ ["ignorePatterns"] ++ ["ignoreRegions"] ++ (["clockEdgePattern"] ++ ["resetPattern"])) (by decide) ?_
    simp only [List.map_append]
    exact (((Config.names_memberIf ..).append (Config.names_memberIf ..)).append (Config.names_memberIf ..)).append
      ((Config.names_memberIf ..).append (Config.names_memberIf ..))
  · simp [Config.memberIf, some_]

/-- The settings are written under different names, and whether libraries are followed is one of them. -/
theorem AnalysisSettings.members (a : AnalysisSettings) : ∃ before after : List (String × Json),
    (∀ follow, ({ a with followLibraryUse := follow } : AnalysisSettings).toJson =
      .object (before ++ Config.flagMember "followLibraryUse" follow ++ after)) ∧
    ∀ follow, NamedApart (before ++ Config.flagMember "followLibraryUse" follow ++ after) := by
  refine ⟨Config.memberIf (a.maxParallelFiles != 0) "maxParallelFiles" (.ofInt a.maxParallelFiles),
    [("cache", a.cache.toJson)], fun follow => rfl, fun follow => ?_⟩
  refine .of_sublist (["maxParallelFiles"] ++ ["followLibraryUse"] ++ ["cache"]) (by decide) ?_
  simp only [List.map_append]
  exact ((Config.names_memberIf ..).append (Config.names_memberIf ..)).append (.refl _)

/-- The parts of a configuration are written under different names, and the libraries are among them if there are any. -/
theorem Config.members (c : Config) : ∃ before : List (String × Json),
    (∀ lint analysis, ({ c with lint, analysis } : Config).toJson =
      .object (before ++ [("lint", lint.toJson), ("analysis", analysis.toJson)])) ∧
    (∀ lint analysis : Json, NamedApart (before ++ [("lint", lint), ("analysis", analysis)])) ∧
    (c.libraryList ≠ [] → ("libraries", .object (c.libraryList.map fun l => (l.1, l.2.toJson))) ∈ before) := by
  refine ⟨textMember "standard" c.standard ++
    memberIf (!c.files.isEmpty) "files" (.ofList FileSettings.toJson c.files) ++
    memberIf (!c.libraryList.isEmpty) "libraries" (.object (c.libraryList.map fun l => (l.1, l.2.toJson))),
    fun lint analysis => rfl, fun lint analysis => ?_, fun some_ => ?_⟩
  · refine .of_sublist (["standard"] ++ ["files"] ++ ["libraries"] ++ ["lint", "analysis"]) (by decide) ?_
    simp only [List.map_append]
    exact (((names_memberIf ..).append (names_memberIf ..)).append (names_memberIf ..)).append (.refl _)
  · simp [memberIf, some_]

/-- Leaving a flag out or writing it is the same to a contract that allows it. -/
theorem Config.keepsMember_flagMember {fields : List Field} {name : String}
    (flag : fields.find? (fun f => f.name == name) = some (.allowed name .flag))
    (ascii : name.toList.contains Bytes.orderMark = false) (b : Bool) : ∀ m ∈ flagMember name b, KeepsMember fields m := by
  intro m member
  cases b with
  | false => contradiction
  | true =>
    cases List.mem_singleton.mp member
    exact ⟨ascii, rfl, fits_allows_known flag (fits_bool rfl)⟩

theorem LintSettings.keeps_ignoreRegions (l : LintSettings) (regions : Bool) :
    ({ l with ignoreRegions := regions } : LintSettings).toJson.Keeps Contract.lint ↔ l.toJson.Keeps Contract.lint := by
  obtain ⟨before, after, object, apart, _⟩ := l.members
  have same : l.toJson = .object (before ++ Config.flagMember "ignoreRegions" l.ignoreRegions ++ after) := object _
  rw [object, same, (apart _).keeps_record (rfl : Contract.lint = _) (by decide),
    (apart _).keeps_record (rfl : Contract.lint = _) (by decide)]
  simp only [List.forall_mem_append]
  exact and_congr_left' (and_congr_right' (iff_of_true (Config.keepsMember_flagMember rfl (by decide) _)
    (Config.keepsMember_flagMember rfl (by decide) _)))

theorem AnalysisSettings.keeps_followLibraryUse (a : AnalysisSettings) (follow : Bool) :
    ({ a with followLibraryUse := follow } : AnalysisSettings).toJson.Keeps Contract.analysis ↔
      a.toJson.Keeps Contract.analysis := by
  obtain ⟨before, after, object, apart⟩ := a.members
  have same : a.toJson = .object (before ++ Config.flagMember "followLibraryUse" a.followLibraryUse ++ after) := object _
  rw [object, same, (apart _).keeps_record (rfl : Contract.analysis = _) (by decide),
    (apart _).keeps_record (rfl : Contract.analysis = _) (by decide)]
  simp only [List.forall_mem_append]
  exact and_congr_left' (and_congr_right' (iff_of_true (Config.keepsMember_flagMember rfl (by decide) _)
    (Config.keepsMember_flagMember rfl (by decide) _)))

namespace Config

variable {c : Config}

theorem check_eq_ok : c.check = .ok () ↔
    c.toJson.Keeps Contract.configuration ∧ ∃ rules, c.inferenceRules = .ok rules := by
  rw [check, ← Json.check_eq_ok]
  cases Contract.check Contract.configuration c.toJson with
  | error violation => simp
  | ok _ => cases c.inferenceRules <;> simp

/-- The configuration with other values of two flags. -/
def withFlags (c : Config) (regions follow : Bool) : Config :=
  { c with
    lint := { c.lint with ignoreRegions := regions }
    analysis := { c.analysis with followLibraryUse := follow } }

/-- The two flags do not decide whether a configuration holds. -/
theorem check_withFlags (regions follow : Bool) : (c.withFlags regions follow).check = .ok () ↔ c.check = .ok () := by
  obtain ⟨before, object, apart, _⟩ := c.members
  have same : c.toJson = .object (before ++ [("lint", c.lint.toJson), ("analysis", c.analysis.toJson)]) := object ..
  have lint := c.lint.keeps_ignoreRegions regions
  have analysis := c.analysis.keeps_followLibraryUse follow
  rw [check_eq_ok, check_eq_ok]
  refine and_congr ?_ .rfl
  rw [withFlags, object, same, (apart ..).keeps_record (rfl : Contract.configuration = _) (by decide),
    (apart ..).keeps_record (rfl : Contract.configuration = _) (by decide)]
  simp only [List.forall_mem_append, List.forall_mem_cons]
  exact and_congr_right' (and_congr (and_congr_right' lint) (and_congr_left' (and_congr_right' analysis)))

/-- The parts of a configuration that holds keep their contracts. -/
theorem keeps_of_check (checked : c.check = .ok ()) : c.lint.toJson.Keeps Contract.lint ∧
    (c.libraryList ≠ [] → (Json.object (c.libraryList.map fun l => (l.1, l.2.toJson))).Fits (.mapOf Contract.library)) := by
  obtain ⟨before, object, apart, libraries⟩ := c.members
  have keeps := (check_eq_ok.1 checked).1
  have same : c.toJson = .object (before ++ [("lint", c.lint.toJson), ("analysis", c.analysis.toJson)]) := object ..
  rw [same, (apart ..).keeps_record (rfl : Contract.configuration = _) (by decide)] at keeps
  refine ⟨(keeps ("lint", c.lint.toJson) (by simp)).2, fun some_ => ?_⟩
  exact (keeps _ (List.mem_append_left _ (libraries some_))).2.2

/-- The severities that a rule can be given. -/
def ruleSeverities : List String := ["off", "info", "warning", "error"]

/-- In a configuration that holds each rule has one of the severities. -/
theorem severity_of_check (checked : c.check = .ok ()) : ∀ r ∈ c.lint.rules, r.2 ∈ ruleSeverities := by
  intro r listed
  obtain ⟨before, after, object, apart, rules⟩ := c.lint.members
  have same : c.lint.toJson = .object (before ++ flagMember "ignoreRegions" c.lint.ignoreRegions ++ after) := object _
  have keeps := (keeps_of_check checked).1
  rw [same, (apart _).keeps_record (rfl : Contract.lint = _) (by decide)] at keeps
  obtain ⟨term, said, holds⟩ := (keeps _ (List.mem_append_left _ (List.mem_append_left _
    (rules (List.ne_nil_of_mem listed))))).2.2
  rw [ofJson?_object] at said
  obtain ⟨terms, each, rfl⟩ := Option.map_eq_some_iff.mp said
  have holds : terms.all (fun m => Shape.oneOf ruleSeverities m.2) = true := holds
  have stated (term : Term) (said : Term.ofJson? (.ofString r.2) = some term) : term = .text r.2 := by
    rw [ofString, ofJson?_string, Bytes.decode_ofString] at said
    exact (Option.some.inj said).symm
  have told := (Term.tells_ofMembers? each (Term.isFirm_text r.2)).2 _ (List.mem_map_of_mem listed) stated
  obtain ⟨_, among, rfl⟩ := told.exists_mem
  have known := List.all_eq_true.mp holds (composed r.1, .text r.2) among
  simpa [Shape.oneOf, Shape.textWith] using known

/-- A library without a list of files is written as a record that says so. -/
theorem tells_missing_files {l : LibrarySettings} (missing : l.files = none) {term : Term}
    (said : Term.ofJson? l.toJson = some term) :
    ∃ members, term = .record members ∧ Term.Tells members "files" (· = .null) := by
  rw [LibrarySettings.toJson, ofJson?_object] at said
  obtain ⟨terms, each, rfl⟩ := Option.map_eq_some_iff.mp said
  have ascii : composed "files" = "files" := by rw [composed, if_pos (by decide)]
  have told := (Term.tells_ofMembers? each Term.isFirm_null).2 _ List.mem_cons_self fun term said => by
    rw [missing] at said
    exact (Option.some.inj said).symm
  exact ⟨terms, rfl, ascii ▸ told⟩

/-- In a configuration that holds each library has a list of files. -/
theorem files_of_check (checked : c.check = .ok ()) : ∀ l ∈ c.libraryList, l.2.files ≠ none := by
  intro l listed missing
  obtain ⟨term, said, holds⟩ := (keeps_of_check checked).2 (List.ne_nil_of_mem listed)
  rw [ofJson?_object] at said
  obtain ⟨terms, each, rfl⟩ := Option.map_eq_some_iff.mp said
  have firm := Term.isFirm_record "files" Term.isFirm_null
  have told :=
    (Term.tells_ofMembers? each firm).2 _ (List.mem_map_of_mem listed) fun _ => tells_missing_files missing
  obtain ⟨_, among, members, rfl, files⟩ := told.exists_mem
  obtain ⟨_, inside, rfl⟩ := files.exists_mem
  have library := List.all_eq_true.mp holds _ among
  rw [Contract.library, Shape.record, Shape.holdsFields, Bool.and_eq_true, List.all_eq_true] at library
  have refused := library.1 ("files", .null) inside
  contradiction

/-- A configuration that holds: the default one, or one that was loaded from a file. -/
def Accepted (c : Config) : Prop := c = default ∨ ∃ w path, loadFile w path = .ok c

theorem check_of_complete {path : String} {c c' : Config} (completed : complete path c' = .ok c) : c.check = .ok () := by
  rw [complete] at completed
  split at completed
  · next checked =>
    rw [← Except.ok.inj completed]
    exact checked
  · contradiction
  · contradiction

theorem Accepted.severity {c : Config} (accepted : c.Accepted) : ∀ r ∈ c.lint.rules, r.2 ∈ ruleSeverities := by
  rcases accepted with rfl | ⟨w, path, loaded⟩
  · exact fun _ listed => nomatch listed
  · refine severity_of_check ?_
    rw [loadFile] at loaded
    split at loaded
    · contradiction
    · cases read : ofText path _ with
      | error e => rw [read] at loaded; contradiction
      | ok c' =>
        rw [read] at loaded
        exact check_of_complete loaded

end Config

end DesignLint
