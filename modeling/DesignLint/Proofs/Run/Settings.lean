import DesignLint.Proofs.Json.Writing
import DesignLint.Run.Analysis
import DesignLint.Run.Cache

/-! What the key of a run tells about its settings. Settings that are written alike are the same as JSON, and as JSON
they say all that the analysis reads of a configuration, which files are of third parties, and which policy holds. -/
namespace DesignLint

namespace Json

theorem Plain.ofStrings (texts : List String) : (ofStrings texts).Plain := by
  refine .array fun item member => ?_
  obtain ⟨s, _, rfl⟩ := List.mem_map.mp member
  exact .text s

theorem ofString_inj {s s' : String} (same : ofString s = ofString s') : s = s' :=
  Bytes.ofString_injective (Json.string.inj same)

end Json

namespace Config

/-- A value that is left out where it is empty can be told from what is written. -/
theorem eq_of_leftOut {α : Type} [DecidableEq α] {f : α → Json} (injective : ∀ a b, f a = f b → a = b) {empty a b : α}
    (same : (if a = empty then none else some (f a)) = if b = empty then none else some (f b)) : a = b := by
  split at same <;> split at same
  · simp_all
  · contradiction
  · contradiction
  · exact injective _ _ (Option.some.inj same)

theorem flag_eq_of_leftOut {a b : Bool}
    (same : (if a then some (Json.bool a) else none) = if b then some (Json.bool b) else none) : a = b := by
  cases a <;> cases b <;> simp_all

theorem lookup_memberIf (present : Bool) (name other : String) (value : Json) :
    (memberIf present name value).lookup other = if present && other == name then some value else none := by
  cases present with
  | false => rfl
  | true => by_cases same : other == name <;> simp [memberIf, List.lookup_cons, same]

theorem of_mem_memberIf {P : Json → Prop} {present : Bool} {name : String} {value : Json} (holds : P value) :
    ∀ m ∈ memberIf present name value, P m.2 := by
  intro m member
  cases present with
  | false => exact nomatch member
  | true =>
    cases List.mem_singleton.mp member
    exact holds

theorem plain_memberIf {present : Bool} {name : String} {value : Json} (plain : value.Plain) :
    ∀ m ∈ memberIf present name value, m.2.Plain := of_mem_memberIf plain

theorem plain_texts (name : String) (texts : List String) : ∀ m ∈ textsMember name texts, m.2.Plain :=
  plain_memberIf (.ofStrings texts)

theorem plain_text (name text : String) : ∀ m ∈ textMember name text, m.2.Plain := plain_memberIf (.text text)

theorem plain_flag (name : String) (value : Bool) : ∀ m ∈ flagMember name value, m.2.Plain :=
  plain_memberIf (.bool value)

end Config

theorem LibrarySettings.plain (l : LibrarySettings) : l.toJson.Plain := by
  refine .object ?_
  rw [List.cons_append, List.forall_mem_cons, List.forall_mem_append]
  refine ⟨?_, Config.plain_texts _ _, Config.plain_flag _ _⟩
  cases l.files with
  | none => exact .null
  | some files => exact .ofStrings files

theorem FileSettings.plain (f : FileSettings) : f.toJson.Plain := by
  refine .object ?_
  simp only [List.cons_append, List.forall_mem_cons, List.forall_mem_append]
  exact ⟨.text _, ⟨Config.plain_text _ _, Config.plain_text _ _⟩, Config.plain_flag _ _⟩

theorem LintSettings.plain (l : LintSettings) : l.toJson.Plain := by
  have rules : (Json.object (l.rules.map fun r => (r.1, .ofString r.2))).Plain := by
    refine .object fun m member => ?_
    obtain ⟨r, _, rfl⟩ := List.mem_map.mp member
    exact .text r.2
  refine .object ?_
  simp only [List.forall_mem_append]
  exact ⟨⟨⟨⟨Config.plain_memberIf rules, Config.plain_texts _ _⟩, Config.plain_flag _ _⟩, Config.plain_text _ _⟩,
    Config.plain_text _ _⟩

theorem CacheSettings.plain (s : CacheSettings) : s.toJson.Plain := by
  refine .object ?_
  rw [List.forall_mem_append]
  refine ⟨?_, Config.plain_text _ _⟩
  intro m member
  cases enabled : s.enabled with
  | none =>
    rw [enabled] at member
    exact nomatch member
  | some b =>
    rw [enabled] at member
    cases List.mem_singleton.mp member
    exact .bool b

theorem AnalysisSettings.plain (a : AnalysisSettings) : a.toJson.Plain := by
  refine .object ?_
  simp only [List.forall_mem_append, List.forall_mem_singleton]
  exact ⟨⟨Config.plain_memberIf (.int _), Config.plain_flag _ _⟩, a.cache.plain⟩

theorem Config.plain (c : Config) : c.toJson.Plain := by
  have files : (Json.ofList FileSettings.toJson c.files).Plain := by
    refine .array fun item member => ?_
    obtain ⟨f, _, rfl⟩ := List.mem_map.mp member
    exact f.plain
  have libraries : (Json.object (c.libraryList.map fun l => (l.1, l.2.toJson))).Plain := by
    refine .object fun m member => ?_
    obtain ⟨l, _, rfl⟩ := List.mem_map.mp member
    exact l.2.plain
  refine .object ?_
  simp only [List.forall_mem_append, List.forall_mem_cons]
  exact ⟨⟨⟨plain_text _ _, plain_memberIf files⟩, plain_memberIf libraries⟩, c.lint.plain, c.analysis.plain,
    fun _ member => nomatch member⟩

/-- What a file holds, nothing if it cannot be read. -/
def Workspace.contentAt (w : Workspace) (path : String) : Bytes := ((w.read path).toOption).getD []

namespace ResultCache

theorem plain_settings (c : Config) (files : List ScannedFile) (policyVersion : String) :
    (settings c files policyVersion).Plain := by
  have flags (l : List ScannedFile) :
      (Json.object (Named.ofList (l.map fun f => (f.path, Json.bool true)))).Plain := by
    refine .object fun m member => ?_
    obtain ⟨f, _, rfl⟩ := List.mem_map.mp (Named.mem_ofList member)
    exact .bool true
  refine .object ?_
  simp only [List.forall_mem_cons]
  exact ⟨.text _, c.plain, flags _, .text _, fun _ member => nomatch member⟩

end ResultCache

theorem LintSettings.eq_of_toJson {l l' : LintSettings} (same : l.toJson = l'.toJson) :
    l.rules = l'.rules ∧ l.ignoreRegions = l'.ignoreRegions ∧ l.clockEdgePattern = l'.clockEdgePattern ∧
      l.resetPattern = l'.resetPattern := by
  have found (name : String) := congrArg (List.lookup name) (Json.object.inj same)
  simp only [List.lookup_append, Config.textsMember, Config.textMember, Config.flagMember, Config.lookup_memberIf]
    at found
  have rules : ∀ a b : Named String, Json.object (a.map fun r => (r.1, .ofString r.2)) =
      .object (b.map fun r => (r.1, .ofString r.2)) → a = b := by
    intro a b written
    refine List.map_inj_right ?_ |>.mp (Json.object.inj written)
    intro r r' pair
    exact Prod.ext (Prod.mk.inj pair).1 (Json.ofString_inj (Prod.mk.inj pair).2)
  exact ⟨Config.eq_of_leftOut rules (by simpa using found "rules"),
    Config.flag_eq_of_leftOut (by simpa using found "ignoreRegions"),
    Config.eq_of_leftOut (fun _ _ => Json.ofString_inj) (by simpa using found "clockEdgePattern"),
    Config.eq_of_leftOut (fun _ _ => Json.ofString_inj) (by simpa using found "resetPattern")⟩

theorem AnalysisSettings.follow_eq_of_toJson {a a' : AnalysisSettings} (same : a.toJson = a'.toJson) :
    a.followLibraryUse = a'.followLibraryUse := by
  have found := congrArg (List.lookup "followLibraryUse") (Json.object.inj same)
  simp only [List.lookup_append, Config.flagMember, Config.lookup_memberIf] at found
  exact Config.flag_eq_of_leftOut (by simpa [List.lookup_cons] using found)

/-- Configurations that are the same as JSON ask for the same analysis. -/
theorem Config.analysis_eq_of_toJson {c c' : Config} (same : c.toJson = c'.toJson) :
    c.inferenceRules = c'.inferenceRules ∧ ∀ rules, c.analysisOptions rules = c'.analysisOptions rules := by
  have found (name : String) := congrArg (List.lookup name) (Json.object.inj same)
  simp only [List.lookup_append, textMember, lookup_memberIf] at found
  have lint : c.lint.toJson = c'.lint.toJson := by simpa [List.lookup_cons] using found "lint"
  have analysis : c.analysis.toJson = c'.analysis.toJson := by simpa [List.lookup_cons] using found "analysis"
  obtain ⟨rules_eq, regions_eq, clock_eq, reset_eq⟩ := LintSettings.eq_of_toJson lint
  refine ⟨by rw [inferenceRules, inferenceRules, clock_eq, reset_eq], fun rules => ?_⟩
  rw [analysisOptions, analysisOptions, rules_eq, regions_eq, AnalysisSettings.follow_eq_of_toJson analysis]

namespace ResultCache

/-- What settings say that are the same. -/
theorem eq_of_settings {c c' : Config} {files files' : List ScannedFile} {version version' : String}
    (same : settings c files version = settings c' files' version') :
    c.toJson = c'.toJson ∧ version = version' ∧
      ∀ path, files.any (fun f => f.path == path && f.thirdParty) =
        files'.any fun f => f.path == path && f.thirdParty := by
  simp only [settings, Json.object.injEq, List.cons.injEq, Prod.mk.injEq, true_and, and_true] at same
  obtain ⟨configs, thirdParty, versions⟩ := same
  refine ⟨configs, Json.ofString_inj versions, fun path => ?_⟩
  have marked (files : List ScannedFile) : (Named.get? (Named.ofList
      ((files.filter ScannedFile.thirdParty).map fun f => (f.path, Json.bool true))) path).isSome =
        files.any fun f => f.path == path && f.thirdParty := by
    rw [Named.isSome_get?_ofList, List.any_map, List.any_filter]
    congr 1
    funext f
    rw [Function.comp_apply, Bool.and_comm, BEq.comm]
  rw [← marked, thirdParty, marked]

theorem digests_eq {w : Workspace} {files : List ScannedFile} {digests : List (String × String)}
    (done : files.mapM (digestOf w) = .ok digests) :
    (∀ f ∈ files, w.read f.path = .ok (w.contentAt f.path)) ∧
      digests = files.map fun f => (f.path, Sha256.digest (w.contentAt f.path)) := by
  induction files generalizing digests with
  | nil =>
    cases done
    exact ⟨fun _ member => (nomatch member), rfl⟩
  | cons f rest ih =>
    rw [List.mapM_cons] at done
    cases read : w.read f.path with
    | error fault =>
      rw [digestOf, read] at done
      cases done
    | ok content =>
      have found : w.contentAt f.path = content := by rw [Workspace.contentAt, read]; rfl
      rw [digestOf, read] at done
      cases others : rest.mapM (digestOf w) with
      | error fault =>
        rw [others] at done
        cases done
      | ok digests' =>
        rw [others] at done
        cases done
        obtain ⟨reads, rfl⟩ := ih others
        rw [List.map_cons, List.forall_mem_cons, found]
        exact ⟨⟨read, reads⟩, rfl⟩

/-- What is known about the files of a run whose kept results can be looked at. -/
theorem prepare_ok {w : Workspace} {c : Config} {policyDirectory root : String} {files : List ScannedFile}
    {cache : ResultCache} (prepared : prepare w c policyDirectory root files = .ok cache) :
    (∀ f ∈ files, w.read f.path = .ok (w.contentAt f.path)) ∧
      (∀ f ∈ files, Named.get? cache.digests f.path = some (Sha256.digest (w.contentAt f.path))) ∧
      ∃ version, Policy.version w policyDirectory = .ok version ∧ cache.key = keyOf c files version := by
  rw [prepare] at prepared
  cases digested : files.mapM (digestOf w) with
  | error fault =>
    rw [digested] at prepared
    cases prepared
  | ok digests =>
    rw [digested] at prepared
    cases policy : Policy.version w policyDirectory with
    | error e =>
      rw [policy] at prepared
      cases prepared
    | ok version =>
      rw [policy] at prepared
      cases prepared
      obtain ⟨reads, rfl⟩ := digests_eq digested
      refine ⟨reads, fun f member => ?_, version, rfl, rfl⟩
      have byPath : (files.map fun f => (f.path, Sha256.digest (w.contentAt f.path))) =
          (files.map ScannedFile.path).map fun path => (path, Sha256.digest (w.contentAt path)) := by
        rw [List.map_map]
        rfl
      rw [byPath, Named.get?_ofList_of_mem (List.mem_map_of_mem member)]

end ResultCache
end DesignLint
