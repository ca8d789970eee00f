import DesignLint.Proofs.Config.Formats
import DesignLint.Proofs.Files.Tree
import DesignLint.Proofs.Json.Reading
import DesignLint.Proofs.Run.Settings

/-! Saving configurations. A configuration is written as the options that it states, and from options it is read as they
say; what is left out, because it is empty or off, is empty or off again once it is read and filled in. The exception is
an empty collection of libraries: it is left out like one that was never given, and then it is filled in. Loading leaves
libraries and rules sorted by name, so that reading them again does not change their order. -/
namespace DesignLint

/-! ### What a reader leaves -/

namespace Fill

variable {α : Type} {P : α → Prop}

/-- Whatever a reader leaves has a property. -/
def Leaves (fill : Fill α) (P : α → Prop) : Prop := ∀ values a, fill values = some a → P a

theorem leaves_plain {read : Json → Option α} {start : α} (holds : P start) (each : ∀ j a, read j = some a → P a) :
    (plain read start).Leaves P := by
  intro values
  induction values generalizing start with
  | nil =>
    intro a left
    cases left
    exact holds
  | cons j values ih =>
    intro a left
    obtain ⟨next, here, later⟩ := Option.bind_eq_some_iff.mp (show Option.bind _ _ = _ from left)
    refine ih ?_ a later
    dsimp only at here
    split at here
    · cases here
      exact holds
    · exact each _ _ here

theorem leaves_emptied {empty? : Json → Option α} {fill : Fill α} {value : α} (since : List Json) (holds : P value)
    (cleared : ∀ j a, empty? j = some a → P a) (filled : fill.Leaves P) : (emptied empty? fill value since).Leaves P := by
  intro values
  induction values generalizing value since with
  | nil =>
    intro a left
    rw [emptied] at left
    split at left
    · cases left
      exact holds
    · exact filled _ _ left
  | cons j values ih =>
    intro a left
    rw [emptied] at left
    split at left
    · next empty =>
      split at left
      · exact ih [] (cleared _ _ empty) a left
      · cases left
    · exact ih (j :: since) holds a left

theorem leaves_named? (fill : Fill α) : (named? fill).Leaves fun values => (values.getD []).IsSorted := by
  have nothing : ((none : Option (Named α)).getD []).IsSorted := .nil
  refine leaves_emptied [] nothing ?_ ?_
  · intro j a empty
    cases j <;> cases empty
    exact nothing
  · intro values a left
    obtain ⟨members, _, left⟩ := Option.bind_eq_some_iff.mp (show Option.bind _ _ = _ from left)
    obtain ⟨entries, _, left⟩ := Option.bind_eq_some_iff.mp (show Option.bind _ _ = _ from left)
    cases left
    exact Named.isSorted_ofList entries

theorem leaves_named (fill : Fill α) : (named fill).Leaves Named.IsSorted := by
  intro values a left
  obtain ⟨named, read, rfl⟩ := Option.map_eq_some_iff.mp left
  exact leaves_named? fill values named read

theorem leaves_integer : integer.Leaves fun n => fitsWord n = true :=
  leaves_plain rfl fun _ _ read => (Option.filter_eq_some_iff.mp read).2

theorem leaves_record {make : List (String × Json) → Option α} (made : ∀ members a, make members = some a → P a) :
    (record make).Leaves P := by
  intro values a left
  obtain ⟨members, _, read⟩ := Option.bind_eq_some_iff.mp left
  exact made members a read

theorem leaves_field {fill : Fill α} (leaves : fill.Leaves P) {name : String} {members : List (String × Json)} {a : α}
    (left : field name fill members = some a) : P a := leaves _ a left

end Fill

/-! ### What a configuration file leaves -/

namespace Config

/-- A configuration whose named values are sorted by name, as a reader leaves them, and whose number has 64 bits. -/
structure IsOrdered (c : Config) : Prop where
  libraries : c.libraryList.IsSorted
  rules : c.lint.rules.IsSorted
  parallel : fitsWord c.analysis.maxParallelFiles = true

theorem isOrdered_default : default.IsOrdered := ⟨List.pairwise_singleton _ _, .nil, rfl⟩

theorem isOrdered_of_ofJson? {j : Json} {c : Config} (read : ofJson? j = some c) : c.IsOrdered := by
  have rules : LintSettings.fill.Leaves fun l => l.rules.IsSorted := by
    refine Fill.leaves_record fun members l made => ?_
    obtain ⟨rules, named, made⟩ := Option.bind_eq_some_iff.mp (show Option.bind _ _ = _ from made)
    simp only [Option.bind_eq_bind, Option.bind_eq_some_iff, Option.pure_def, Option.some.injEq] at made
    obtain ⟨_, _, _, _, _, _, _, _, rfl⟩ := made
    exact Fill.leaves_field (Fill.leaves_named _) named
  have parallel : AnalysisSettings.fill.Leaves fun a => fitsWord a.maxParallelFiles = true := by
    refine Fill.leaves_record fun members l made => ?_
    obtain ⟨parallel, integer, made⟩ := Option.bind_eq_some_iff.mp (show Option.bind _ _ = _ from made)
    simp only [Option.bind_eq_bind, Option.bind_eq_some_iff, Option.pure_def, Option.some.injEq] at made
    obtain ⟨_, _, _, _, rfl⟩ := made
    exact Fill.leaves_field Fill.leaves_integer integer
  obtain ⟨members, _, made⟩ := Option.bind_eq_some_iff.mp read
  simp only [Option.bind_eq_bind, Option.bind_eq_some_iff, Option.pure_def, Option.some.injEq] at made
  obtain ⟨_, _, _, _, libraries, named, lint, checks, analysis, runs, rfl⟩ := made
  exact
    { libraries := Fill.leaves_field (Fill.leaves_named? _) named
      rules := Fill.leaves_field rules checks
      parallel := Fill.leaves_field parallel runs }

end Config

namespace Settings

theorem Quantity.fitsWord_of_int? {q : Quantity} {n : Int} (read : q.int? = some n) : fitsWord n = true := by
  rw [int?.eq_def] at read
  split at read
  · split at read
    · exact (Option.filter_eq_some_iff.mp read).2
    · cases read
  · cases read

/-- A part is read from its block, or stays as it was without one. -/
theorem exists_of_block {α β : Type} {block : Option Block} {read : Block → Option α} {old : α} {make : α → Option β}
    {made : β} (found : (match block with
      | some block => (read block).bind make
      | none => (some old).bind make) = some made) :
    ∃ a, (a = old ∨ ∃ block, read block = some a) ∧ make a = some made := by
  cases block with
  | none => exact ⟨old, .inl rfl, found⟩
  | some block =>
    obtain ⟨a, part, rest⟩ := Option.bind_eq_some_iff.mp found
    exact ⟨a, .inr ⟨block, part⟩, rest⟩

theorem isSorted_of_lintOf? {b : Block} {old lint : LintSettings} (sorted : old.rules.IsSorted)
    (read : lintOf? b old = some lint) : lint.rules.IsSorted := by
  simp only [lintOf?, Option.bind_eq_bind, Option.bind_eq_some_iff, Option.pure_def, Option.some.injEq] at read
  obtain ⟨_, _, rules, _, _, _, _, _, _, _, _, _, rfl⟩ := read
  cases rules with
  | none => exact sorted
  | some rules => exact Named.isSorted_ofList rules

theorem fitsWord_of_analysisOf? {b : Block} {old analysis : AnalysisSettings} (read : analysisOf? b old = some analysis) :
    fitsWord analysis.maxParallelFiles = true := by
  simp only [analysisOf?, Option.bind_eq_bind, Option.bind_eq_some_iff, Option.pure_def] at read
  obtain ⟨body, _, parallel, whole, _, _, _, _, made⟩ := read
  obtain ⟨cache, _, made⟩ := exists_of_block made
  cases made
  rw [Body.value?] at whole
  split at whole
  · obtain ⟨q, _, whole⟩ := Option.bind_eq_some_iff.mp whole
    exact Quantity.fitsWord_of_int? whole
  · cases whole
    rfl

end Settings

namespace Config

open Settings

theorem isOrdered_of_ofSettings {text : String} {c : Config} (read : ofSettings text = .ok c) : c.IsOrdered := by
  rw [ofSettings] at read
  split at read
  · cases read
  · next libraries parts found =>
    simp only [partsOf?, Option.bind_eq_bind, Option.bind_eq_some_iff, Option.pure_def] at found
    obtain ⟨_, _, body, _, standard, _, libraries', _, files, _, lintBlock, _, found⟩ := found
    obtain ⟨lint, checks, found⟩ := exists_of_block found
    obtain ⟨_, _, found⟩ := Option.bind_eq_some_iff.mp found
    obtain ⟨analysis, runs, found⟩ := exists_of_block found
    cases found
    have rules : lint.rules.IsSorted := by
      rcases checks with rfl | ⟨block, part⟩
      · exact isOrdered_default.rules
      · exact isSorted_of_lintOf? isOrdered_default.rules part
    have parallel : fitsWord analysis.maxParallelFiles = true := by
      rcases runs with rfl | ⟨block, part⟩
      · exact isOrdered_default.parallel
      · exact fitsWord_of_analysisOf? part
    split at read
    · cases read
    · split at read
      · cases read
        exact ⟨isOrdered_default.libraries, rules, parallel⟩
      · cases read
        exact ⟨Named.isSorted_ofList libraries, rules, parallel⟩

theorem isOrdered_withDefaults {c : Config} (ordered : c.IsOrdered) : c.withDefaults.IsOrdered := by
  refine ⟨?_, ordered.rules, ordered.parallel⟩
  have libraries := ordered.libraries
  rw [libraryList] at libraries ⊢
  rw [withDefaults]
  cases given : c.libraries with
  | some l =>
    rw [given] at libraries
    exact libraries
  | none =>
    simp only
    split
    · exact isOrdered_default.libraries
    · exact .nil

theorem withDefaults_withDefaults (c : Config) : c.withDefaults.withDefaults = c.withDefaults := by
  simp only [withDefaults, orElseText_self, Option.getD_some]
  cases c.libraries <;> rfl

/-- A file that asks for no libraries. -/
def noLibrariesFile : Workspace where
  entries := [(["lint.json"], .file (.ofString "\x7b\x22libraries\x22: \x7b\x7d\x7d"))]

/-- The configuration in the file. -/
def noLibraries : Config := ({ libraries := some [] } : Config).withDefaults

/-- The defaults pass, and so does the file; another name beside it is free. -/
theorem configurations_made : default.check.toOption.isSome = true ∧
    (loadFile noLibrariesFile "/lint.json").toOption = some noLibraries ∧
    noLibrariesFile.locateNew "/saved.json" = .ok ["saved.json"] := by
  refine ⟨?_, ?_, ?_⟩ <;> decide +kernel

theorem check_default : default.check = .ok () := by
  obtain ⟨_, checked⟩ := Option.isSome_iff_exists.mp configurations_made.1
  cases check : default.check with
  | ok _ => rfl
  | error e =>
    rw [check] at checked
    cases checked

theorem isOrdered_of_ofText {path : String} {text : Bytes} {c : Config} (read : ofText path text = .ok c) : c.IsOrdered := by
  rw [ofText] at read
  split at read
  · split at read
    · next settings =>
      cases read
      split at settings
      · exact isOrdered_of_ofSettings settings
      · cases settings
    · cases read
    · cases read
  · split at read
    · next json =>
      cases read
      obtain ⟨j, _, json⟩ := Option.bind_eq_some_iff.mp json
      exact isOrdered_of_ofJson? json
    · cases read

namespace Accepted

variable {c : Config}

/-- An accepted configuration is a completed one, whichever way it came. -/
theorem exists_completed (accepted : c.Accepted) :
    ∃ c' : Config, c'.IsOrdered ∧ c = c'.withDefaults ∧ c.check = .ok () := by
  rcases accepted with rfl | ⟨w, path, loaded⟩
  · exact ⟨default, isOrdered_default, rfl, check_default⟩
  · rw [loadFile] at loaded
    split at loaded
    · cases loaded
    · cases read : ofText path _ with
      | error e =>
        rw [read] at loaded
        cases loaded
      | ok c' =>
        rw [read] at loaded
        have completed : complete path c' = .ok c := loaded
        refine ⟨c', isOrdered_of_ofText read, ?_, check_of_complete completed⟩
        rw [complete] at completed
        split at completed <;> cases completed
        rfl

theorem isOrdered (accepted : c.Accepted) : c.IsOrdered := by
  obtain ⟨c', ordered, rfl, _⟩ := accepted.exists_completed
  exact isOrdered_withDefaults ordered

theorem withDefaults_eq (accepted : c.Accepted) : c.withDefaults = c := by
  obtain ⟨c', _, rfl, _⟩ := accepted.exists_completed
  exact withDefaults_withDefaults c'

theorem check_eq (accepted : c.Accepted) : c.check = .ok () := by
  obtain ⟨_, _, _, checked⟩ := accepted.exists_completed
  exact checked

end Accepted
end Config

/-! ### Depth -/

section Depth

variable {limit : Nat}

theorem Config.nests_memberIf {present : Bool} {name : String} {value : Json} (nests : value.nestsWithin limit = true) :
    ∀ m ∈ memberIf present name value, m.2.nestsWithin limit = true :=
  of_mem_memberIf (P := fun value => value.nestsWithin limit = true) nests

open Json Config

theorem LibrarySettings.nests (l : LibrarySettings) : l.toJson.nestsWithin (limit + 2) = true := by
  simp only [toJson, nestsWithin_object, List.cons_append, List.forall_mem_cons, List.forall_mem_append]
  refine ⟨?_, nests_memberIf (nestsWithin_ofStrings _), nests_memberIf (nestsWithin_bool _)⟩
  cases l.files with
  | none => rw [ofOption, nestsWithin.eq_def]
  | some files => exact nestsWithin_ofStrings files

theorem FileSettings.nests (f : FileSettings) : f.toJson.nestsWithin (limit + 1) = true := by
  simp only [toJson, nestsWithin_object, List.cons_append, List.forall_mem_cons, List.forall_mem_append]
  exact ⟨nestsWithin_ofString _, ⟨nests_memberIf (nestsWithin_ofString _), nests_memberIf (nestsWithin_ofString _)⟩,
    nests_memberIf (nestsWithin_bool _)⟩

theorem LintSettings.nests (l : LintSettings) : l.toJson.nestsWithin (limit + 2) = true := by
  have rules : (Json.object (l.rules.map fun r => (r.1, .ofString r.2))).nestsWithin (limit + 1) = true := by
    refine nestsWithin_object.mpr fun m member => ?_
    obtain ⟨r, _, rfl⟩ := List.mem_map.mp member
    exact nestsWithin_ofString r.2
  simp only [toJson, nestsWithin_object, List.forall_mem_append]
  exact ⟨⟨⟨⟨nests_memberIf rules, nests_memberIf (nestsWithin_ofStrings _)⟩, nests_memberIf (nestsWithin_bool _)⟩,
    nests_memberIf (nestsWithin_ofString _)⟩, nests_memberIf (nestsWithin_ofString _)⟩

theorem AnalysisSettings.nests (a : AnalysisSettings) : a.toJson.nestsWithin (limit + 2) = true := by
  have cache : a.cache.toJson.nestsWithin (limit + 1) = true := by
    simp only [CacheSettings.toJson, nestsWithin_object, List.forall_mem_append]
    refine ⟨fun m member => ?_, nests_memberIf (nestsWithin_ofString _)⟩
    cases enabled : a.cache.enabled with
    | none =>
      rw [enabled] at member
      exact nomatch member
    | some b =>
      rw [enabled] at member
      cases List.mem_singleton.mp member
      exact nestsWithin_bool b
  simp only [toJson, nestsWithin_object, List.forall_mem_append, List.forall_mem_singleton]
  exact ⟨⟨nests_memberIf (nestsWithin_ofInt _), nests_memberIf (nestsWithin_bool _)⟩, cache⟩

theorem Config.nests (c : Config) : c.toJson.nestsWithin (limit + 4) = true := by
  have files : (Json.ofList FileSettings.toJson c.files).nestsWithin (limit + 3) = true := by
    refine nestsWithin_array.mpr fun item member => ?_
    obtain ⟨f, _, rfl⟩ := List.mem_map.mp member
    exact f.nests
  have libraries : (Json.object (c.libraryList.map fun l => (l.1, l.2.toJson))).nestsWithin (limit + 3) = true := by
    refine nestsWithin_object.mpr fun m member => ?_
    obtain ⟨l, _, rfl⟩ := List.mem_map.mp member
    exact l.2.nests
  simp only [toJson, nestsWithin_object, List.forall_mem_append, List.forall_mem_cons]
  exact ⟨⟨⟨nests_memberIf (nestsWithin_ofString _), nests_memberIf files⟩, nests_memberIf libraries⟩,
    c.lint.nests, c.analysis.nests, fun _ member => nomatch member⟩

end Depth

/-! ### What a configuration states -/

/-- A value that is stated unless it is the empty one. -/
def statedUnless {α : Type} [DecidableEq α] (empty value : α) : Option α := if value = empty then none else some value

theorem getD_statedUnless {α : Type} [DecidableEq α] (empty value : α) :
    (statedUnless empty value).getD empty = value := by
  rw [statedUnless]
  split
  · next same => exact same.symm
  · rfl

/-- The options that the library states when it is written. -/
def LibrarySettings.options (name : String) (l : LibrarySettings) : LibraryOptions where
  name := name
  files := l.files
  exclude := statedUnless [] l.exclude
  thirdParty := statedUnless false l.thirdParty

/-- The options that the entry states when it is written. -/
def FileSettings.options (f : FileSettings) : FileOptions where
  file := f.file
  library := statedUnless "" f.library
  language := statedUnless "" f.language
  thirdParty := statedUnless false f.thirdParty

/-- The options that the configuration states when it is written. -/
def Config.options (c : Config) : Options where
  standard := statedUnless "" c.standard
  libraries := c.libraryList.map fun l => l.2.options l.1
  files := c.files.map FileSettings.options
  rules := statedUnless [] c.lint.rules
  ignorePatterns := statedUnless [] c.lint.ignorePatterns
  ignoreRegions := statedUnless false c.lint.ignoreRegions
  clockEdgePattern := statedUnless "" c.lint.clockEdgePattern
  resetPattern := statedUnless "" c.lint.resetPattern
  maxParallelFiles := statedUnless 0 c.analysis.maxParallelFiles
  followLibraryUse := statedUnless false c.analysis.followLibraryUse
  cacheEnabled := c.analysis.cache.enabled
  cacheDirectory := statedUnless "" c.analysis.cache.directory

theorem LibrarySettings.settings_options (name : String) (l : LibrarySettings) : (l.options name).settings = l := by
  simp only [LibraryOptions.settings, options, getD_statedUnless]

theorem FileSettings.settings_options (f : FileSettings) : f.options.settings = f := by
  simp only [FileOptions.settings, options, getD_statedUnless]

namespace Config

/-- The member that states a value, if there is one. -/
def memberOf (name : String) (value : Option Json) : List (String × Json) := (value.map (Prod.mk name)).toList

theorem textMember_eq (name text : String) :
    textMember name text = memberOf name (((statedUnless "" text).map .text).map OptionValue.toJson) := by
  rw [textMember, statedUnless, memberIf]
  by_cases empty : text = "" <;> simp [empty, memberOf, OptionValue.toJson]

theorem textsMember_eq (name : String) (texts : List String) :
    textsMember name texts = memberOf name (((statedUnless [] texts).map .texts).map OptionValue.toJson) := by
  cases texts <;> rfl

theorem flagMember_eq (name : String) (value : Bool) :
    flagMember name value = memberOf name (((statedUnless false value).map .flag).map OptionValue.toJson) := by
  cases value <;> rfl

theorem memberIf_eq {present : Bool} (name : String) (value : Json) :
    memberIf present name value = memberOf name (if present then some value else none) := by
  cases present <;> rfl

theorem rulesMember_eq (rules : Named String) :
    memberIf (!rules.isEmpty) "rules" (.object (rules.map fun r => (r.1, .ofString r.2))) =
      memberOf "rules" (((statedUnless [] rules).map .named).map OptionValue.toJson) := by
  cases rules <;> rfl

theorem wholeMember_eq (name : String) (n : Int) : memberIf (n != 0) name (.ofInt n) =
    memberOf name (((statedUnless 0 n).map .whole).map OptionValue.toJson) := by
  rw [statedUnless, memberIf]
  by_cases zero : n = 0 <;> simp [zero, memberOf, OptionValue.toJson]

theorem enabledMember_eq (enabled : Option Bool) : (enabled.elim [] fun b => [("enabled", Json.bool b)]) =
    memberOf "enabled" ((enabled.map .flag).map OptionValue.toJson) := by
  cases enabled <;> rfl

/-- Members that are written in the order of the fields state them. -/
theorem stated_of_written {fields : List (String × Option Json)} {members : List (String × Json)}
    (written : members = fields.flatMap fun f => memberOf f.1 f.2) : Stated fields members := by
  rw [Stated, List.filterMap_eq_flatMap_toList, written]
  rfl

end Config

open Config

theorem LibrarySettings.inMember {l : LibrarySettings} (listed : l.files ≠ none) (name : String) :
    (l.options name).InMember (name, l.toJson) := by
  obtain ⟨files, given⟩ := Option.ne_none_iff_exists'.mp listed
  refine ⟨_, rfl, stated_of_written ?_⟩
  rw [textsMember_eq, flagMember_eq, given, List.cons_append]
  simp only [ConfigOption.members, LibraryOptions.options, options, given, List.map_cons, List.map_nil, List.flatMap_cons,
    List.flatMap_nil, List.append_nil]
  rfl

theorem FileSettings.inObject (f : FileSettings) : f.options.InObject f.toJson := by
  refine ⟨_, rfl, stated_of_written ?_⟩
  rw [textMember_eq, textMember_eq, flagMember_eq]
  simp only [ConfigOption.members, FileOptions.options, options, List.map_cons, List.map_nil, List.flatMap_cons,
    List.flatMap_nil, List.append_nil, List.cons_append, List.append_assoc]
  rfl

theorem LintSettings.states (c : Config) :
    Json.States (ConfigOption.members c.options.lint) (some c.lint.toJson) := by
  refine .object (stated_of_written ?_)
  rw [rulesMember_eq, textsMember_eq, flagMember_eq, textMember_eq, textMember_eq]
  simp only [ConfigOption.members, Options.lint, Config.options, List.map_cons, List.map_nil, List.flatMap_cons,
    List.flatMap_nil, List.append_nil, List.append_assoc]

theorem CacheSettings.states (c : Config) :
    Json.States (ConfigOption.members c.options.cache) (some c.analysis.cache.toJson) := by
  refine .object (stated_of_written ?_)
  rw [enabledMember_eq, textMember_eq]
  simp only [ConfigOption.members, Options.cache, Config.options, List.map_cons, List.map_nil, List.flatMap_cons,
    List.flatMap_nil, List.append_nil]

theorem AnalysisSettings.states (c : Config) :
    Json.States (ConfigOption.members c.options.analysis ++ [("cache", some c.analysis.cache.toJson)])
      (some c.analysis.toJson) := by
  refine .object (stated_of_written ?_)
  rw [wholeMember_eq, flagMember_eq]
  simp only [ConfigOption.members, Options.analysis, Config.options, List.map_cons, List.map_nil, List.flatMap_append,
    List.flatMap_cons, List.flatMap_nil, List.append_nil]
  rfl

namespace Config

variable {c : Config}

theorem inJson_libraries (listed : ∀ l ∈ c.libraryList, l.2.files ≠ none) : LibraryOptions.InJson c.options.libraries
    (if !c.libraryList.isEmpty then some (.object (c.libraryList.map fun l => (l.1, l.2.toJson))) else none) := by
  rw [options]
  cases given : c.libraryList with
  | nil => exact .missing rfl
  | cons l rest =>
    rw [given] at listed
    refine .object (List.cons_ne_nil _ _) (.refl _) ?_
    exact List.forall₂_map_left_iff.mpr (List.forall₂_map_right_iff.mpr (List.forall₂_same.mpr fun l member =>
      l.2.inMember (listed l member) l.1))

theorem inJson_files (c : Config) : FileOptions.InJson c.options.files
    (if !c.files.isEmpty then some (.ofList FileSettings.toJson c.files) else none) := by
  rw [options]
  cases c.files with
  | nil => exact .missing rfl
  | cons f rest =>
    exact .list (List.forall₂_map_left_iff.mpr (List.forall₂_map_right_iff.mpr (List.forall₂_same.mpr fun f _ =>
      f.inObject)))

/-- A configuration is written as JSON that states its options. -/
theorem inJson (listed : ∀ l ∈ c.libraryList, l.2.files ≠ none) : c.options.InJson c.toJson := by
  refine .object (stated_of_written ?_) (inJson_libraries listed) (inJson_files c) (LintSettings.states c)
    (AnalysisSettings.states c) (CacheSettings.states c)
  rw [textMember_eq, memberIf_eq, memberIf_eq]
  simp only [ConfigOption.members, Options.outer, Config.options, List.map_cons, List.map_nil, List.flatMap_append,
    List.flatMap_cons, List.flatMap_nil, List.append_nil, List.append_assoc]
  rfl

/-- What is left of a configuration once it is written: an empty collection of libraries is left out. -/
def written (c : Config) : Config := { c with libraries := if c.libraryList.isEmpty then none else some c.libraryList }

theorem unfilled_options (ordered : c.IsOrdered) : c.options.unfilled = c.written := by
  have files : (c.files.map FileSettings.options).map FileOptions.settings = c.files := by
    rw [List.map_map]
    exact List.map_id'' FileSettings.settings_options c.files
  have libraries : (c.libraryList.map fun l => l.2.options l.1).map (fun l => (l.name, l.settings)) = c.libraryList := by
    rw [List.map_map]
    refine (List.map_congr_left fun l _ => ?_).trans (List.map_id _)
    exact Prod.ext rfl (l.2.settings_options l.1)
  have rules : ((statedUnless [] c.lint.rules).map Named.ofList).getD [] = c.lint.rules := by
    rw [statedUnless]
    split
    · next empty => exact empty.symm
    · exact Named.ofList_of_isSorted ordered.rules
  simp only [Options.unfilled, options, files, libraries, rules, getD_statedUnless, List.isEmpty_map, written,
    Named.ofList_of_isSorted ordered.libraries]

/-- What is written is read, but for an empty collection of libraries. -/
theorem ofJson?_toJson (ordered : c.IsOrdered) (listed : ∀ l ∈ c.libraryList, l.2.files ≠ none) :
    ofJson? c.toJson = some c.written := by
  have distinct : (c.options.libraries.map LibraryOptions.name).Nodup := by
    rw [options, List.map_map]
    exact ordered.libraries.nodup
  have parallel : fitsWord (c.options.maxParallelFiles.getD 0) = true := by
    rw [options, getD_statedUnless]
    exact ordered.parallel
  rw [Options.ofJson?_eq (inJson listed) distinct, if_pos parallel, unfilled_options ordered]

theorem ofJsonText?_pretty (ordered : c.IsOrdered) (listed : ∀ l ∈ c.libraryList, l.2.files ≠ none) :
    ofJsonText? (Bytes.ofString c.toJson.pretty) = some c.written := by
  rw [ofJsonText?, Json.parse?_pretty c.plain c.nests, Option.bind_some, ofJson?_toJson ordered listed]

end Config


/-! ### Saving -/

namespace Config

variable {c : Config}

/-- What a configuration comes back as once it was saved: without libraries and explicit files it has the library that
holds where there are none. -/
def reloaded (c : Config) : Config :=
  if c.libraryList.isEmpty && c.files.isEmpty then { c with libraries := some singleLibrary } else c

theorem withDefaults_written (completed : c.withDefaults = c) : c.written.withDefaults = c.reloaded := by
  obtain ⟨libraries, given⟩ : ∃ libraries, c.libraries = some libraries := by
    have same := congrArg Config.libraries completed
    rw [withDefaults] at same
    cases given : c.libraries with
    | some libraries => exact ⟨libraries, rfl⟩
    | none =>
      rw [given] at same
      contradiction
  have list : c.libraryList = libraries := by rw [libraryList, given]; rfl
  have kept : { c with libraries := some libraries } = c := by rw [← given]
  rw [reloaded, written, list]
  cases libraries with
  | cons l rest =>
    rw [List.isEmpty_cons, Bool.false_and, if_neg Bool.false_ne_true, if_neg Bool.false_ne_true, kept, completed]
  | nil =>
    have parts : ({ c with libraries := none } : Config).withDefaults =
        { c.withDefaults with libraries := some (if c.files.isEmpty then singleLibrary else []) } := rfl
    rw [List.isEmpty_nil, Bool.true_and, if_pos rfl, parts, completed]
    cases c.files.isEmpty with
    | true => rfl
    | false => exact kept

/-- A configuration keeps its contract member by member. -/
theorem exists_keeps_iff : ∃ fields : List Field, ∀ c : Config, c.toJson.Keeps Contract.configuration ↔
    ∀ m ∈ textMember "standard" c.standard ++
      memberIf (!c.files.isEmpty) "files" (.ofList FileSettings.toJson c.files) ++
      memberIf (!c.libraryList.isEmpty) "libraries" (.object (c.libraryList.map fun l => (l.1, l.2.toJson))) ++
      [("lint", c.lint.toJson), ("analysis", c.analysis.toJson)], Json.KeepsMember fields m := by
  obtain ⟨fields, known, optional⟩ : ∃ fields, Contract.configuration = .record false fields ∧
      fields.all (fun f => !f.required) = true := ⟨_, rfl, by decide⟩
  refine ⟨fields, fun c => ?_⟩
  obtain ⟨before, object, apart, _⟩ := c.members
  have same : c.toJson = .object (before ++ [("lint", c.lint.toJson), ("analysis", c.analysis.toJson)]) := object ..
  rw [same, (apart ..).keeps_record known optional, ← Json.object.inj same]

theorem check_reloaded (checked : c.check = .ok ()) : c.reloaded.check = .ok () := by
  rw [reloaded]
  split
  · next bare =>
    rw [Bool.and_eq_true, List.isEmpty_iff, List.isEmpty_iff] at bare
    obtain ⟨fields, keeps⟩ := exists_keeps_iff
    have own := (keeps c).mp (check_eq_ok.mp checked).1
    have given := (keeps default).mp (check_eq_ok.mp check_default).1
    refine check_eq_ok.mpr ⟨(keeps _).mpr ?_, (check_eq_ok.mp checked).2⟩
    simp only [List.forall_mem_append] at own given ⊢
    exact ⟨⟨own.1.1, given.1.2⟩, own.2⟩
  · exact checked

theorem reloaded_eq_self_iff : c.reloaded = c ↔ c.libraryList ≠ [] ∨ c.files ≠ [] := by
  rw [reloaded]
  by_cases bare : c.libraryList = [] ∧ c.files = []
  · have differs : ({ c with libraries := some singleLibrary } : Config) ≠ c := by
      intro same
      have list := congrArg libraryList same
      rw [bare.1] at list
      exact List.cons_ne_nil _ _ list
    rw [bare.1, bare.2, List.isEmpty_nil, List.isEmpty_nil, Bool.and_self, if_pos rfl]
    exact iff_of_false (bare.2 ▸ differs) (by simp)
  · have kept : (c.libraryList.isEmpty && c.files.isEmpty) = false := by
      rwa [← Bool.not_eq_true, Bool.and_eq_true, List.isEmpty_iff, List.isEmpty_iff]
    rw [kept]
    exact iff_of_true rfl (not_and_or.mp bare)

theorem reloaded_reloaded (c : Config) : c.reloaded.reloaded = c.reloaded := by
  refine reloaded_eq_self_iff.2 ?_
  rw [reloaded]
  split
  · exact .inl (List.cons_ne_nil _ _)
  · next kept =>
    rw [Bool.and_eq_true, List.isEmpty_iff, List.isEmpty_iff] at kept
    exact not_and_or.mp kept

/-- A configuration that is saved can be loaded. -/
theorem exists_save (accepted : c.Accepted) {w : Workspace} {path : String}
    (json : sameFold (Path.extension path) ".hcl" = false) (writable : w.IsWritable path) :
    ∃ w', c.save w path = .ok w' ∧ loadFile w' path = .ok c.reloaded ∧ w'.IsWritable path := by
  obtain ⟨w', written, read, writable'⟩ := writable.exists_write (Bytes.ofString c.toJson.pretty)
  refine ⟨w', written, ?_, writable'⟩
  have ofText : ofText path (Bytes.ofString c.toJson.pretty) = .ok c.written := by
    rw [ofText, json, ofJsonText?_pretty accepted.isOrdered (files_of_check accepted.check_eq)]
    rfl
  have completed : complete path c.written = .ok c.reloaded := by
    rw [complete, withDefaults_written accepted.withDefaults_eq, check_reloaded accepted.check_eq]
  rw [loadFile, read]
  simp only [ofText]
  exact completed

/-- A configuration that was accepted can be saved as JSON, and the file can be loaded. It gives the configuration back
exactly if there is a library or an explicit file; an empty collection of libraries is left out when it is written, so
that the library of all source files comes back in its place. What came back is saved and loaded unchanged. -/
theorem loadFile_save (accepted : c.Accepted) {w : Workspace} {path : String}
    (json : sameFold (Path.extension path) ".hcl" = false) (writable : w.IsWritable path) :
    ∃ w', c.save w path = .ok w' ∧ loadFile w' path = .ok c.reloaded ∧
      (c.reloaded = c ↔ c.libraryList ≠ [] ∨ c.files ≠ []) ∧
      ∃ w'', c.reloaded.save w' path = .ok w'' ∧ loadFile w'' path = .ok c.reloaded := by
  obtain ⟨w', saved, loaded, writable'⟩ := exists_save accepted json writable
  obtain ⟨w'', saved', loaded', _⟩ := exists_save (.inr ⟨w', path, loaded⟩) json writable'
  rw [reloaded_reloaded] at loaded'
  exact ⟨w', saved, loaded, reloaded_eq_self_iff, w'', saved', loaded'⟩

theorem loadFile_save_noLibraries : noLibraries.Accepted ∧
    ∃ w', noLibraries.save noLibrariesFile "/saved.json" = .ok w' ∧
      loadFile w' "/saved.json" = .ok { noLibraries with libraries := some singleLibrary } := by
  have accepted : noLibraries.Accepted := by
    have read := configurations_made.2.1
    cases loaded : loadFile noLibrariesFile "/lint.json" with
    | ok c =>
      rw [loaded] at read
      exact .inr ⟨_, _, loaded.trans (congrArg Except.ok (Option.some.inj read))⟩
    | error e =>
      rw [loaded] at read
      cases read
  have writable : noLibrariesFile.IsWritable "/saved.json" :=
    ⟨["saved.json"], configurations_made.2.2, by decide, by decide⟩
  obtain ⟨w', saved, loaded, _⟩ := loadFile_save accepted (by decide) writable
  exact ⟨accepted, w', saved, loaded⟩

end Config

end DesignLint
