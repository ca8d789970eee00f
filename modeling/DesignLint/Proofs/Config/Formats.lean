import DesignLint.Proofs.Config.Accepted
import DesignLint.Proofs.Config.Reading
import DesignLint.Proofs.Text.Decoding

/-! The two formats of configuration files. A file of JSON and a file of settings that state the same options are both
refused, or give the same configuration up to two flags: what JSON leaves out is filled in by its emptiness, and a flag
that is left out is off like one that is off, so the two flags that are on by default are lost. -/
namespace DesignLint

namespace Config

theorem orElseText_self (text fallback : String) :
    orElseText (orElseText text fallback) fallback = orElseText text fallback := by
  by_cases empty : text = ""
  · simp [orElseText, empty]
  · simp [orElseText, empty]

/-- Whether a configuration holds, as a value. -/
theorem toOption_check_withFlags (c : Config) (regions follow : Bool) :
    (c.withFlags regions follow).check.toOption = c.check.toOption := by
  have same := check_withFlags (c := c) regions follow
  cases flags : (c.withFlags regions follow).check with
  | ok _ => rw [same.mp flags]
  | error e =>
    cases check : c.check with
    | ok _ => rw [same.mpr check] at flags; contradiction
    | error e' => rfl

/-- A configuration is given if it holds once it is filled in. -/
theorem toOption_complete (path : String) (c : Config) :
    (complete path c).toOption = c.withDefaults.check.toOption.map fun _ => c.withDefaults := by
  rw [complete]
  cases c.withDefaults.check with
  | ok _ => rfl
  | error e => cases e <;> rfl

/-- A file that can be read gives the configuration in its text, filled in, if there is one and it holds. -/
theorem toOption_loadFile {w : Workspace} {path : String} {text : Bytes} (read : w.read path = .ok text) :
    (loadFile w path).toOption = (ofText path text).toOption.bind fun c =>
      c.withDefaults.check.toOption.map fun _ => c.withDefaults := by
  have loaded : loadFile w path = ofText path text >>= complete path := by rw [loadFile, read]
  rw [loaded]
  cases ofText path text with
  | error e => rfl
  | ok c => exact toOption_complete path c

end Config

namespace Named

theorem mem_ofList_of_mem {α : Type} {members : List (String × α)} (distinct : (members.map Prod.fst).Nodup)
    {m : String × α} (listed : m ∈ members) : m ∈ ofList members := by
  have found : get? (ofList members) m.1 = some m.2 := by
    rw [get?_ofList]
    cases there : members.reverse.lookup m.1 with
    | none =>
      have missing := List.lookup_eq_none_iff.mp there m (List.mem_reverse.mpr listed)
      simp at missing
    | some value =>
      obtain ⟨before, after, split, _⟩ := List.lookup_eq_some_iff.mp there
      have member : (m.1, value) ∈ members := List.mem_reverse.mp (split ▸ by simp)
      rw [← List.inj_on_of_nodup_map distinct member listed rfl]
  obtain ⟨_, _, split, _⟩ := List.lookup_eq_some_iff.mp found
  rw [split]
  simp

end Named

namespace Options

variable {p : Options} {w : Workspace} {path : String}

/-- What the options ask for has nothing left to fill in. -/
theorem withDefaults_config (p : Options) : p.config.withDefaults = p.config := by
  simp only [Config.withDefaults, config, Config.default, Config.orElseText_self]
  cases p.libraries.isEmpty && p.files.isEmpty <;> cases p.cacheEnabled <;> rfl

/-- What JSON leaves out has its default once it is filled in, but for the two flags. -/
theorem withDefaults_unfilled (p : Options) : p.unfilled.withDefaults =
    p.config.withFlags (p.ignoreRegions.getD false) (p.followLibraryUse.getD false) := by
  obtain ⟨_, libraries, files, _, _, _, _, _, _, _, enabled, _⟩ := p
  cases libraries <;> cases files <;> cases enabled <;> rfl

/-- A flag that is left out is off in one format and on in the other. -/
theorem withFlags_config (p : Options) :
    p.config.withFlags (p.ignoreRegions.getD false) (p.followLibraryUse.getD false) = p.config ↔
      p.ignoreRegions.isSome ∧ p.followLibraryUse.isSome := by
  have regions : p.ignoreRegions.getD false = p.config.lint.ignoreRegions ↔ p.ignoreRegions.isSome := by
    rw [config]
    cases p.ignoreRegions <;> simp [Config.default]
  have follow : p.followLibraryUse.getD false = p.config.analysis.followLibraryUse ↔ p.followLibraryUse.isSome := by
    rw [config]
    cases p.followLibraryUse <;> simp [Config.default]
  rw [← regions, ← follow]
  refine ⟨fun same => ⟨?_, ?_⟩, fun both => ?_⟩
  · exact congrArg (fun c => c.lint.ignoreRegions) same
  · exact congrArg (fun c => c.analysis.followLibraryUse) same
  · rw [both.1, both.2]
    rfl

/-- A configuration that leaves out the files of a library does not hold. -/
theorem check_config_of_missing (distinct : (p.libraries.map LibraryOptions.name).Nodup) {l : LibraryOptions}
    (listed : l ∈ p.libraries) (missing : l.files = none) : p.config.check.toOption = none := by
  have some_ : (p.libraries.isEmpty && p.files.isEmpty) = false := by
    rw [List.isEmpty_eq_false_iff.mpr (List.ne_nil_of_mem listed), Bool.false_and]
  have libraries : p.config.libraryList = Named.ofList (p.libraries.map fun l => (l.name, l.settings)) := by
    simp only [Config.libraryList, config, some_]
    rfl
  have names : (p.libraries.map fun l => (l.name, l.settings)).map Prod.fst = p.libraries.map LibraryOptions.name :=
    List.map_map ..
  cases checked : p.config.check with
  | error e => rfl
  | ok _ =>
    have member : (l.name, l.settings) ∈ p.config.libraryList := by
      rw [libraries]
      exact Named.mem_ofList_of_mem (names ▸ distinct) (List.mem_map_of_mem listed)
    exact absurd missing (Config.files_of_check checked _ member)

theorem loadFile_of_settings (stated : p.InSettingsFile w path) (distinct : (p.libraries.map LibraryOptions.name).Nodup) :
    (Config.loadFile w path).toOption = (if p.isReadable then p.config.check.toOption else none).map fun _ => p.config := by
  obtain ⟨settings, text, attributes, blocks, read, wellFormed, parsed, inSettings⟩ := stated
  have ofText : (Config.ofText path text).toOption = if p.isReadable then some p.config else none := by
    rw [← ofSettings_eq parsed inSettings distinct, Config.ofText, if_pos settings, if_pos wellFormed]
    cases Config.ofSettings text.decode with
    | ok c => rfl
    | error e => cases e <;> rfl
  rw [Config.toOption_loadFile read, ofText]
  cases p.isReadable with
  | true => rw [if_pos rfl, if_pos rfl, Option.bind_some, withDefaults_config]
  | false => rfl

theorem loadFile_of_json (stated : p.InJsonFile w path) (distinct : (p.libraries.map LibraryOptions.name).Nodup) :
    (Config.loadFile w path).toOption = (if p.isReadable then p.config.check.toOption else none).map fun _ =>
      p.config.withFlags (p.ignoreRegions.getD false) (p.followLibraryUse.getD false) := by
  obtain ⟨json, text, j, read, parsed, inJson⟩ := stated
  have ofText : (Config.ofText path text).toOption =
      if fitsWord (p.maxParallelFiles.getD 0) then some p.unfilled else none := by
    rw [Config.ofText, json, Config.ofJsonText?, parsed, Option.bind_some, ofJson?_eq inJson distinct]
    cases fitsWord (p.maxParallelFiles.getD 0) <;> rfl
  rw [Config.toOption_loadFile read, ofText, isReadable]
  cases fits : fitsWord (p.maxParallelFiles.getD 0) with
  | false => rw [Bool.and_false]; rfl
  | true =>
    rw [Bool.and_true, if_pos rfl, Option.bind_some, withDefaults_unfilled, Config.toOption_check_withFlags]
    cases listed : p.libraries.all (·.files.isSome) with
    | true => rw [if_pos rfl]
    | false =>
      obtain ⟨l, member, missing⟩ := List.all_eq_false.mp listed
      rw [check_config_of_missing distinct member (by simpa using missing)]
      rfl

/-- Files of both formats that state the same options. A file of settings gives what the options ask for, if they can be
read and hold; then a file of JSON is accepted too, and gives the same but for the two flags that are on by default: one
that is left out is off. So the files agree exactly if both are refused or the two flags are stated. -/
theorem formats_agree {w' : Workspace} {path' : String} (distinct : (p.libraries.map LibraryOptions.name).Nodup)
    (json : p.InJsonFile w path) (settings : p.InSettingsFile w' path') :
    (Config.loadFile w' path').toOption =
      ((if p.isReadable then p.config.check.toOption else none).map fun _ => p.config) ∧
    (Config.loadFile w path).toOption = (Config.loadFile w' path').toOption.map (fun c =>
      c.withFlags (p.ignoreRegions.getD false) (p.followLibraryUse.getD false)) ∧
    ((Config.loadFile w path).toOption = (Config.loadFile w' path').toOption ↔
      (Config.loadFile w' path').toOption = none ∨ p.ignoreRegions.isSome ∧ p.followLibraryUse.isSome) := by
  have first := loadFile_of_json json distinct
  have second := loadFile_of_settings settings distinct
  refine ⟨second, by rw [first, second, Option.map_map]; rfl, ?_⟩
  rw [first, second]
  cases if p.isReadable then p.config.check.toOption else none with
  | none => simp
  | some _ => simpa using withFlags_config p

/-- A library of its own, with no results kept, and both flags stated. -/
def unitsOnly : Options where
  libraries := [{ name := "ip", files := some ["*.vhd"] }]
  ignoreRegions := some false
  followLibraryUse := some true
  cacheEnabled := some false

/-- The options as settings. -/
def unitsOnlySettings : String :=
  "analysis \x7b\ncache \x7benabled=false\x7d\nfollow_library_use=true\n\x7d\nlint \x7bignore_regions=false\x7d\n" ++
    "library ip \x7bfiles=[\x22*.vhd\x22]\x7d"

/-- The options as JSON, with the members in another order. -/
def unitsOnlyJson : Bytes := .ofString
  ("\x7b\x22lint\x22:\x7b\x22ignoreRegions\x22:false\x7d,\x22libraries\x22:\x7b\x22ip\x22:\x7b\x22files\x22:" ++
    "[\x22*.vhd\x22]\x7d\x7d,\x22analysis\x22:\x7b\x22followLibraryUse\x22:true,\x22cache\x22:" ++
    "\x7b\x22enabled\x22:false\x7d\x7d\x7d")

/-- A file of each format. -/
def unitsOnlyFiles : Workspace where
  entries := [(["lint.json"], .file unitsOnlyJson), (["lint.hcl"], .file (.ofString unitsOnlySettings))]

set_option maxRecDepth 10000 in
theorem unitsOnly_inJsonFile : unitsOnly.InJsonFile unitsOnlyFiles "/lint.json" := by
  have library : LibraryOptions.InMember { name := "ip", files := some ["*.vhd"] }
      ("ip", .object [("files", .ofStrings ["*.vhd"])]) := ⟨_, rfl, .refl _⟩
  refine ⟨by decide, unitsOnlyJson, _, rfl, rfl, .object ?_
    (.object (by decide) (.refl _) (.cons library .nil)) (.missing rfl) (.object (.refl _))
    (.object (.refl _)) (.object (.refl _))⟩
  exact List.Perm.swap ..

set_option maxRecDepth 10000 in
theorem parse?_unitsOnlySettings : Settings.parse? unitsOnlySettings = some ([],
    [.mk "analysis" [] [("follow_library_use", .flag true)] [.mk "cache" [] [("enabled", .flag false)] []],
      .mk "lint" [] [("ignore_regions", .flag false)] [],
      .mk "library" ["ip"] [("files", .tuple [.text "*.vhd"])] []]) := by
  delta unitsOnlySettings
  rw [Settings.parse?, String.toList_append, String.toList_ofList, String.toList_ofList]
  rfl

theorem unitsOnly_inSettingsFile : unitsOnly.InSettingsFile unitsOnlyFiles "/lint.hcl" := by
  refine ⟨by decide, .ofString unitsOnlySettings, _, _, rfl, Bytes.isWellFormed_ofString _,
    (congrArg Settings.parse? (Bytes.decode_ofString _)).trans parse?_unitsOnlySettings, ?_⟩
  exact
    { outer := .refl _
      kinds := by decide
      libraries := .cons ⟨_, rfl, .refl _⟩ .nil
      files := .nil
      lint := .block (.refl _)
      analysis := ⟨_, .block (.refl _), .block (.refl _)⟩ }

theorem formats_agree_unitsOnly :
    (Config.loadFile unitsOnlyFiles "/lint.hcl").toOption = some unitsOnly.config ∧
      (Config.loadFile unitsOnlyFiles "/lint.json").toOption = some unitsOnly.config := by
  obtain ⟨settings, -, same⟩ := formats_agree (by decide) unitsOnly_inJsonFile unitsOnly_inSettingsFile
  have holds : unitsOnly.config.check.toOption.isSome = true := by decide +kernel
  obtain ⟨_, checked⟩ := Option.isSome_iff_exists.mp holds
  have loaded : (Config.loadFile unitsOnlyFiles "/lint.hcl").toOption = some unitsOnly.config := by
    rw [settings, if_pos (by decide), checked, Option.map_some]
  exact ⟨loaded, (same.mpr (.inr ⟨rfl, rfl⟩)).trans loaded⟩

end Options
end DesignLint
