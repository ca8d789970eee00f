import Mathlib.Data.List.Forall2
import DesignLint.Config.Load

/-! What a configuration file can state in both formats, and what it means that a file states it: as JSON, an object
with a member for each option that is stated; as settings, an attribute for each, in blocks. The order of members, of
attributes and of blocks is free, except that explicit files stand in their order. -/
namespace DesignLint

/-- The value of an option. -/
inductive OptionValue where
  | text (value : String)
  | texts (values : List String)
  | flag (value : Bool)
  | whole (value : Int)
  | named (values : List (String × String))

/-- An option, with its name in both formats and its value, if one is stated. -/
structure ConfigOption where
  json : String
  setting : String
  value : Option OptionValue

/-- What is stated of a library. -/
structure LibraryOptions where
  name : String
  files : Option (List String) := none
  exclude : Option (List String) := none
  thirdParty : Option Bool := none

/-- What is stated of an explicit file. -/
structure FileOptions where
  file : String
  library : Option String := none
  language : Option String := none
  thirdParty : Option Bool := none

/-- What is stated of a configuration. -/
structure Options where
  standard : Option String := none
  libraries : List LibraryOptions := []
  files : List FileOptions := []
  rules : Option (List (String × String)) := none
  ignorePatterns : Option (List String) := none
  ignoreRegions : Option Bool := none
  clockEdgePattern : Option String := none
  resetPattern : Option String := none
  maxParallelFiles : Option Int := none
  followLibraryUse : Option Bool := none
  cacheEnabled : Option Bool := none
  cacheDirectory : Option String := none

/-- The whole number in decimal digits. -/
def Settings.Quantity.ofInt (n : Int) : Quantity := .finite (Numeral.reduced ⟨n < 0, n.natAbs, 0⟩)

namespace OptionValue

/-- The value as JSON. -/
def toJson : OptionValue → Json
  | text s => .ofString s
  | texts l => .ofStrings l
  | flag b => .bool b
  | whole n => .ofInt n
  | named l => .object (l.map fun m => (m.1, .ofString m.2))

/-- The value of an attribute. -/
def toSetting : OptionValue → Settings.Value
  | text s => .text s
  | texts l => .tuple (l.map .text)
  | flag b => .flag b
  | whole n => .number (.ofInt n)
  | named l => .object (l.map fun m => (m.1, .text m.2))

end OptionValue

namespace ConfigOption

/-- Options with their names and values in JSON. -/
def members (options : List ConfigOption) : List (String × Option Json) :=
  options.map fun o => (o.json, o.value.map OptionValue.toJson)

/-- Options with their names and values in settings. -/
def attributes (options : List ConfigOption) : List (String × Option Settings.Value) :=
  options.map fun o => (o.setting, o.value.map OptionValue.toSetting)

end ConfigOption

/-- The options of a library. -/
def LibraryOptions.options (l : LibraryOptions) : List ConfigOption :=
  [⟨"files", "files", l.files.map .texts⟩, ⟨"exclude", "exclude", l.exclude.map .texts⟩,
    ⟨"isThirdParty", "third_party", l.thirdParty.map .flag⟩]

/-- The options of an explicit file. -/
def FileOptions.options (f : FileOptions) : List ConfigOption :=
  [⟨"library", "library", f.library.map .text⟩, ⟨"language", "language", f.language.map .text⟩,
    ⟨"isThirdParty", "third_party", f.thirdParty.map .flag⟩]

namespace Options

variable (p : Options)

/-- The options that stand outside all parts. -/
def outer : List ConfigOption := [⟨"standard", "standard", p.standard.map .text⟩]

/-- The options of the checks. -/
def lint : List ConfigOption :=
  [⟨"rules", "rules", p.rules.map .named⟩, ⟨"ignorePatterns", "ignore_patterns", p.ignorePatterns.map .texts⟩,
    ⟨"ignoreRegions", "ignore_regions", p.ignoreRegions.map .flag⟩,
    ⟨"clockEdgePattern", "clock_edge_pattern", p.clockEdgePattern.map .text⟩,
    ⟨"resetPattern", "reset_pattern", p.resetPattern.map .text⟩]

/-- The options of the analysis. -/
def analysis : List ConfigOption :=
  [⟨"maxParallelFiles", "max_parallel_files", p.maxParallelFiles.map .whole⟩,
    ⟨"followLibraryUse", "follow_library_use", p.followLibraryUse.map .flag⟩]

/-- The options of the kept results. -/
def cache : List ConfigOption :=
  [⟨"enabled", "enabled", p.cacheEnabled.map .flag⟩, ⟨"dir", "dir", p.cacheDirectory.map .text⟩]

end Options

/-- Each field that has a value is stated once, in any order, and nothing else is. -/
def Stated {α : Type} (fields : List (String × Option α)) (stated : List (String × α)) : Prop :=
  stated.Perm (fields.filterMap fun f => f.2.map (Prod.mk f.1))

namespace Json

/-- An object that states fields. It may be missing if there is nothing to state. -/
inductive States (fields : List (String × Option Json)) : Option Json → Prop where
  | object {members : List (String × Json)} (stated : Stated fields members) : States fields (some (.object members))
  | missing (nothing : Stated fields []) : States fields none

end Json

namespace Settings

/-- The blocks of one kind that state fields: a single block, or none if there is nothing to state. -/
inductive States (kind : String) (fields : List (String × Option Value)) (inner : List Block) : List Block → Prop where
  | block {attributes : List (String × Value)} (stated : Stated fields attributes) :
      States kind fields inner [.mk kind [] attributes inner]
  | missing (nothing : Stated fields []) (empty : inner = []) : States kind fields inner []

end Settings

namespace LibraryOptions

/-- A member that states the library. -/
def InMember (l : LibraryOptions) (m : String × Json) : Prop :=
  ∃ members, m = (l.name, .object members) ∧ Stated (ConfigOption.members l.options) members

/-- A block that states the library. -/
def InBlock (l : LibraryOptions) (b : Settings.Block) : Prop :=
  ∃ attributes, b = .mk "library" [l.name] attributes [] ∧ Stated (ConfigOption.attributes l.options) attributes

/-- An object that states libraries in any order. It is missing if there are none. -/
inductive InJson (libraries : List LibraryOptions) : Option Json → Prop where
  | object {ordered : List LibraryOptions} {members : List (String × Json)} (stated : libraries ≠ [])
      (order : ordered.Perm libraries) (each : List.Forall₂ InMember ordered members) :
      InJson libraries (some (.object members))
  | missing (nothing : libraries = []) : InJson libraries none

end LibraryOptions

namespace FileOptions

/-- An object that states the explicit file. -/
def InObject (f : FileOptions) (j : Json) : Prop :=
  ∃ members, j = .object members ∧
    Stated (("file", some (.ofString f.file)) :: ConfigOption.members f.options) members

/-- A block that states the explicit file. -/
def InBlock (f : FileOptions) (b : Settings.Block) : Prop :=
  ∃ attributes, b = .mk "file" [f.file] attributes [] ∧ Stated (ConfigOption.attributes f.options) attributes

/-- A list that states explicit files. It may be missing if there are none. -/
inductive InJson (files : List FileOptions) : Option Json → Prop where
  | list {items : List Json} (each : List.Forall₂ InObject files items) : InJson files (some (.array items))
  | missing (nothing : files = []) : InJson files none

end FileOptions

namespace Options

/-- JSON that states exactly the options. -/
inductive InJson (p : Options) : Json → Prop where
  | object {members : List (String × Json)} {libraries files lint analysis cache : Option Json}
      (outer : Stated (ConfigOption.members p.outer ++
        [("files", files), ("libraries", libraries), ("lint", lint), ("analysis", analysis)]) members)
      (libraries : LibraryOptions.InJson p.libraries libraries) (files : FileOptions.InJson p.files files)
      (lint : Json.States (ConfigOption.members p.lint) lint)
      (analysis : Json.States (ConfigOption.members p.analysis ++ [("cache", cache)]) analysis)
      (cache : Json.States (ConfigOption.members p.cache) cache) : InJson p (.object members)

/-- Settings that state exactly the options. -/
structure InSettings (p : Options) (attributes : List (String × Settings.Value)) (blocks : List Settings.Block) :
    Prop where
  outer : Stated (ConfigOption.attributes p.outer) attributes
  kinds : ∀ b ∈ blocks, b.kind ∈ ["library", "file", "lint", "analysis"]
  libraries : List.Forall₂ LibraryOptions.InBlock p.libraries (blocks.filter (·.kind = "library"))
  files : List.Forall₂ FileOptions.InBlock p.files (blocks.filter (·.kind = "file"))
  lint : Settings.States "lint" (ConfigOption.attributes p.lint) [] (blocks.filter (·.kind = "lint"))
  analysis : ∃ cache, Settings.States "cache" (ConfigOption.attributes p.cache) [] cache ∧
    Settings.States "analysis" (ConfigOption.attributes p.analysis) cache (blocks.filter (·.kind = "analysis"))

/-- A JSON file that states exactly the options. -/
def InJsonFile (p : Options) (w : Workspace) (path : String) : Prop :=
  sameFold (Path.extension path) ".hcl" = false ∧
    ∃ text j, w.read path = .ok text ∧ Json.parse? text = some j ∧ p.InJson j

/-- A file of settings that states exactly the options. -/
def InSettingsFile (p : Options) (w : Workspace) (path : String) : Prop :=
  sameFold (Path.extension path) ".hcl" = true ∧
    ∃ text attributes blocks, w.read path = .ok text ∧ text.isWellFormed = true ∧
      Settings.parse? text.decode = some (attributes, blocks) ∧ p.InSettings attributes blocks

end Options

/-- The library, where what is not stated has its default. -/
def LibraryOptions.settings (l : LibraryOptions) : LibrarySettings :=
  ⟨l.files, l.exclude.getD [], l.thirdParty.getD false⟩

/-- The explicit file, where what is not stated has its default. -/
def FileOptions.settings (f : FileOptions) : FileSettings :=
  ⟨f.file, f.library.getD "", f.language.getD "", f.thirdParty.getD false⟩

/-- The configuration that the options ask for: the default one, but for what is stated. An empty text is as good
as none, and libraries and files that are stated take the place of the default library. -/
def Options.config (p : Options) : Config where
  standard := Config.orElseText (p.standard.getD "") Config.default.standard
  files := p.files.map FileOptions.settings
  libraries :=
    if p.libraries.isEmpty && p.files.isEmpty then Config.default.libraries
    else some (Named.ofList (p.libraries.map fun l => (l.name, l.settings)))
  lint :=
    { rules := (p.rules.map Named.ofList).getD Config.default.lint.rules
      ignorePatterns := p.ignorePatterns.getD Config.default.lint.ignorePatterns
      ignoreRegions := p.ignoreRegions.getD Config.default.lint.ignoreRegions
      clockEdgePattern := Config.orElseText (p.clockEdgePattern.getD "") Config.default.lint.clockEdgePattern
      resetPattern := Config.orElseText (p.resetPattern.getD "") Config.default.lint.resetPattern }
  analysis :=
    { maxParallelFiles := p.maxParallelFiles.getD Config.default.analysis.maxParallelFiles
      followLibraryUse := p.followLibraryUse.getD Config.default.analysis.followLibraryUse
      cache :=
        { enabled := p.cacheEnabled.or Config.default.analysis.cache.enabled
          directory := Config.orElseText (p.cacheDirectory.getD "") Config.default.analysis.cache.directory } }

end DesignLint
