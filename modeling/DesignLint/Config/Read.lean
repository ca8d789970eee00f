import DesignLint.Config.Basic
import DesignLint.Json.Reader
import DesignLint.Settings.Reader

/-! Reading configurations, from JSON and from blocks of settings. JSON fills an empty configuration; settings
change the default one. Settings are strict: every name has to be known, and of several parts of one kind
only libraries and files may be repeated. -/
namespace DesignLint

/-- Reads a library from JSON. -/
def LibrarySettings.fill : Fill LibrarySettings := .record fun members => do
  return {
    files := ← Fill.field "files" (.list? .text) members
    exclude := ← Fill.field "exclude" (.list .text) members
    thirdParty := ← Fill.field "isThirdParty" .flag members }

/-- Reads an entry from JSON. -/
def FileSettings.fill : Fill FileSettings := .record fun members => do
  return {
    file := ← Fill.field "file" .text members
    library := ← Fill.field "library" .text members
    language := ← Fill.field "language" .text members
    thirdParty := ← Fill.field "isThirdParty" .flag members }

/-- Reads the settings from JSON. -/
def LintSettings.fill : Fill LintSettings := .record fun members => do
  return {
    rules := ← Fill.field "rules" (.named .text) members
    ignorePatterns := ← Fill.field "ignorePatterns" (.list .text) members
    ignoreRegions := ← Fill.field "ignoreRegions" .flag members
    clockEdgePattern := ← Fill.field "clockEdgePattern" .text members
    resetPattern := ← Fill.field "resetPattern" .text members }

/-- Reads the settings from JSON. -/
def CacheSettings.fill : Fill CacheSettings := .record fun members => do
  return {
    enabled := ← Fill.field "enabled" (.optional .flag) members
    directory := ← Fill.field "dir" .text members }

/-- Reads the settings from JSON. -/
def AnalysisSettings.fill : Fill AnalysisSettings := .record fun members => do
  return {
    maxParallelFiles := ← Fill.field "maxParallelFiles" .integer members
    followLibraryUse := ← Fill.field "followLibraryUse" .flag members
    cache := ← Fill.field "cache" CacheSettings.fill members }

namespace Config

/-- Reads a configuration from JSON. -/
def fill : Fill Config := .record fun members => do
  return {
    standard := ← Fill.field "standard" .text members
    files := ← Fill.field "files" (.list FileSettings.fill) members
    libraries := ← Fill.field "libraries" (.named? LibrarySettings.fill) members
    lint := ← Fill.field "lint" LintSettings.fill members
    analysis := ← Fill.field "analysis" AnalysisSettings.fill members }

/-- A configuration from a JSON value, without defaults. -/
def ofJson? (j : Json) : Option Config := fill [j]

/-- A configuration from a JSON text, without defaults. -/
def ofJsonText? (text : Bytes) : Option Config := (Json.parse? text).bind ofJson?

end Config

namespace Settings

/-- What a body of settings says, once every name in it is known. -/
structure Body where
  attributes : List (String × Value)
  blocks : List Block

namespace Body

/-- A body, unless it holds an attribute or a kind of block that is not expected. -/
def of? (attributes : List (String × Value)) (blocks : List Block) (names kinds : List String) :
    Option Body :=
  if attributes.all (fun a => names.contains a.1) && blocks.all (fun b => kinds.contains b.kind) then
    some ⟨attributes, blocks⟩
  else none

/-- The body of a block with the given labels. -/
def ofBlock? (b : Block) (labels : Nat) (names kinds : List String) : Option Body :=
  if b.labels.length = labels then of? b.attributes b.blocks names kinds else none

/-- The value of an attribute as `read` understands it, or another if there is none. -/
def value? {α : Type} (b : Body) (name : String) (read : Value → Option α) (missing : α) : Option α :=
  match b.attributes.lookup name with
  | some v => read v
  | none => some missing

/-- The text of an attribute, empty if there is none. -/
def text? (b : Body) (name : String) : Option String := b.value? name Value.text? ""

/-- The flag of an attribute, off if there is none. -/
def flag? (b : Body) (name : String) : Option Bool := b.value? name Value.flag? false

/-- The flag of an attribute that may be null. -/
def nullableFlag? (b : Body) (name : String) : Option (Option Bool) :=
  b.value? name (fun v => match v with
    | .null => some none
    | v => v.flag?.map some) none

/-- The texts of an attribute that may be null. -/
def texts? (b : Body) (name : String) : Option (Option (List String)) := b.value? name Value.texts? none

/-- The block of a kind of which there may be one. -/
def single? (b : Body) (kind : String) : Option (Option Block) :=
  match b.blocks.filter (·.kind = kind) with
  | [] => some none
  | [block] => some (some block)
  | _ => none

end Body

/-- The library of a block. Its files have to be listed. -/
def libraryOf? (b : Block) : Option (String × LibrarySettings) := do
  let body ← Body.ofBlock? b 1 ["files", "exclude", "third_party"] []
  let files ← (← b.attributes.lookup "files").texts?
  let exclude ← body.texts? "exclude"
  let thirdParty ← body.flag? "third_party"
  return (b.labels.headD "", ⟨files, exclude.getD [], thirdParty⟩)

/-- The explicit file of a block. -/
def fileOf? (b : Block) : Option FileSettings := do
  let body ← Body.ofBlock? b 1 ["library", "language", "third_party"] []
  return ⟨b.labels.headD "", ← body.text? "library", ← body.text? "language", ← body.flag? "third_party"⟩

/-- A text, or the old one if it is empty. -/
def orKeep (text old : String) : String := if text = "" then old else text

/-- The settings of the checks of a block, on top of old ones. -/
def lintOf? (b : Block) (old : LintSettings) : Option LintSettings := do
  let body ← Body.ofBlock? b 0
    ["rules", "ignore_patterns", "ignore_regions", "clock_edge_pattern", "reset_pattern"] []
  let rules ← body.value? "rules" Value.named? none
  let patterns ← body.texts? "ignore_patterns"
  let regions ← body.nullableFlag? "ignore_regions"
  let clock ← body.text? "clock_edge_pattern"
  let reset ← body.text? "reset_pattern"
  return {
    rules := rules.elim old.rules Named.ofList
    ignorePatterns := patterns.getD old.ignorePatterns
    ignoreRegions := regions.getD old.ignoreRegions
    clockEdgePattern := orKeep clock old.clockEdgePattern
    resetPattern := orKeep reset old.resetPattern }

/-- The settings of the kept results of a block, on top of old ones. -/
def cacheOf? (b : Block) (old : CacheSettings) : Option CacheSettings := do
  let body ← Body.ofBlock? b 0 ["enabled", "dir"] []
  let enabled ← body.nullableFlag? "enabled"
  let directory ← body.text? "dir"
  return ⟨enabled <|> old.enabled, orKeep directory old.directory⟩

/-- The settings of the analysis of a block, on top of old ones. -/
def analysisOf? (b : Block) (old : AnalysisSettings) : Option AnalysisSettings := do
  let body ← Body.ofBlock? b 0 ["max_parallel_files", "follow_library_use"] ["cache"]
  let parallel ← body.value? "max_parallel_files" Value.int? 0
  let follow ← body.nullableFlag? "follow_library_use"
  let cache ← match ← body.single? "cache" with
    | some block => cacheOf? block old.cache
    | none => some old.cache
  return ⟨parallel, follow.getD old.followLibraryUse, cache⟩

end Settings

/-- Why settings give no configuration. -/
inductive SettingsError where
  | malformed
  | repeatedLibrary (name : String)

namespace Config

open Settings

/-- The parts of a configuration that a text of settings holds, libraries in the order in which they are written. -/
def partsOf? (text : String) : Option (List (String × LibrarySettings) × Config) := do
  let (attributes, blocks) ← Settings.parse? text
  let body ← Body.of? attributes blocks ["standard"] ["library", "file", "lint", "analysis"]
  let standard ← body.text? "standard"
  let libraries ← (blocks.filter (·.kind = "library")).mapM libraryOf?
  let files ← (blocks.filter (·.kind = "file")).mapM fileOf?
  let lint ← match ← body.single? "lint" with
    | some block => lintOf? block default.lint
    | none => some default.lint
  let analysis ← match ← body.single? "analysis" with
    | some block => analysisOf? block default.analysis
    | none => some default.analysis
  return (libraries, { default with standard := orKeep standard default.standard, files, lint, analysis })

/-- The first name that occurs for the second time. -/
def repeated? : (seen : List String) → List String → Option String
  | _, [] => none
  | seen, name :: rest => if seen.contains name then some name else repeated? (name :: seen) rest

/-- A configuration from a text of settings. Naming a library or a file replaces the default library. -/
def ofSettings (text : String) : Except SettingsError Config :=
  match partsOf? text with
  | none => .error .malformed
  | some (libraries, c) =>
    match repeated? [] (libraries.map Prod.fst) with
    | some name => .error (.repeatedLibrary name)
    | none =>
      if libraries.isEmpty && c.files.isEmpty then .ok c
      else .ok { c with libraries := some (Named.ofList libraries) }

end Config
end DesignLint
