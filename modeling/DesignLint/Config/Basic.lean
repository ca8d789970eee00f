import DesignLint.Json.Fill
import DesignLint.Contract.Formats
import DesignLint.Inference.Rules
import DesignLint.Report.Severity
import DesignLint.Files.Glob

/-! The configuration: the standard, the files and the libraries of a project, and how it is analysed. Written as
JSON, a setting that is empty or off is left out; read back, what is left out has its default. -/
namespace DesignLint

/-- The files of a library, as patterns, and whether its findings are of interest. -/
structure LibrarySettings where
  files : Option (List String) := none
  exclude : List String := []
  thirdParty : Bool := false
deriving DecidableEq

/-- Files that are named explicitly, with the library they go to. -/
structure FileSettings where
  file : String := ""
  library : String := ""
  language : String := ""
  thirdParty : Bool := false
deriving DecidableEq

/-- What is reported. -/
structure LintSettings where
  rules : Named String := []
  ignorePatterns : List String := []
  ignoreRegions : Bool := false
  clockEdgePattern : String := ""
  resetPattern : String := ""
deriving DecidableEq

/-- Whether and where results are kept. -/
structure CacheSettings where
  enabled : Option Bool := none
  directory : String := ""
deriving DecidableEq

/-- How the analysis runs. -/
structure AnalysisSettings where
  maxParallelFiles : Int := 0
  followLibraryUse : Bool := false
  cache : CacheSettings := {}
deriving DecidableEq

/-- A configuration. Without libraries at all, all files belong to one. -/
structure Config where
  standard : String := ""
  files : List FileSettings := []
  libraries : Option (Named LibrarySettings) := none
  lint : LintSettings := {}
  analysis : AnalysisSettings := {}
deriving DecidableEq

namespace Config

/-- The standard that holds unless another is given. -/
def defaultStandard : String := "2008"

/-- The library that files belong to unless they are given another. -/
def defaultLibrary : String := "work"

/-- The directory of kept results unless another is given. -/
def defaultCacheDirectory : String := ".vhdl_lint_cache"

/-- The patterns of all source files. -/
def sourcePatterns : List String := ["*.vhd", "*.vhdl", "**/*.vhd", "**/*.vhdl"]

/-- One library that holds all source files. -/
def singleLibrary : Named LibrarySettings := [(defaultLibrary, { files := some sourcePatterns })]

/-- The configuration that holds where none is given. -/
def default : Config where
  standard := defaultStandard
  libraries := some singleLibrary
  lint :=
    { ignoreRegions := true
      clockEdgePattern := InferenceRules.defaultClock
      resetPattern := InferenceRules.defaultReset }
  analysis :=
    { followLibraryUse := true
      cache := { enabled := some true, directory := defaultCacheDirectory } }

/-- A text, or another if it is empty. -/
def orElseText (text fallback : String) : String := if text = "" then fallback else text

/-- The configuration with what was left out filled in. -/
def withDefaults (c : Config) : Config where
  standard := orElseText c.standard defaultStandard
  files := c.files
  libraries := match c.libraries with
    | some libraries => some libraries
    | none => some (if c.files.isEmpty then singleLibrary else [])
  lint :=
    { c.lint with
      clockEdgePattern := orElseText c.lint.clockEdgePattern InferenceRules.defaultClock
      resetPattern := orElseText c.lint.resetPattern InferenceRules.defaultReset }
  analysis :=
    { c.analysis with
      cache :=
        { enabled := some (c.analysis.cache.enabled.getD true)
          directory := orElseText c.analysis.cache.directory defaultCacheDirectory } }

/-- The libraries by name. -/
def libraryList (c : Config) : Named LibrarySettings := c.libraries.getD []

/-- The settings of a library. -/
def library? (c : Config) (name : String) : Option LibrarySettings := Named.get? c.libraryList name

/-- Whether results are kept. -/
def cacheEnabled (c : Config) : Bool := c.analysis.cache.enabled.getD true

/-- The severity of a rule, or the given one. -/
def severityOf (c : Config) (rule standard : String) : String :=
  SeverityRules.severityOf c.lint.rules rule standard

/-- Whether a rule is on. -/
def isEnabled (c : Config) (rule : String) : Bool := c.lint.rules.lookup rule != some severityOff

/-- Whether a file is to be skipped. -/
def ignores (c : Config) (path : String) : Bool :=
  c.lint.ignorePatterns.any fun pattern => Glob.matchesPath pattern path

/-- Whether a file looks like one of others. The first explicit entry that matches it decides; without one, a
pattern of a third-party library does. -/
def matchesThirdParty (c : Config) (path : String) : Bool :=
  match c.files.find? fun entry => entry.file != "" && Glob.matchesPath entry.file path with
  | some entry => entry.thirdParty
  | none => c.libraryList.any fun library =>
    library.2.thirdParty && (library.2.files.getD []).any fun pattern => Glob.matchesPath pattern path

/-- The patterns of the inference. -/
def inferenceRules (c : Config) : Except RulesError InferenceRules :=
  InferenceRules.compile c.lint.clockEdgePattern c.lint.resetPattern

/-- A member, if there is something to say. -/
def memberIf (present : Bool) (name : String) (value : Json) : List (String × Json) :=
  if present then [(name, value)] else []

/-- A text that is not empty. -/
def textMember (name text : String) : List (String × Json) := memberIf (text != "") name (.ofString text)

/-- A flag that is on. -/
def flagMember (name : String) (value : Bool) : List (String × Json) := memberIf value name (.bool value)

/-- A list of texts that is not empty. -/
def textsMember (name : String) (texts : List String) : List (String × Json) :=
  memberIf (!texts.isEmpty) name (.ofStrings texts)

end Config

/-- The library as JSON. Its files are always there, null if there is no list of them. -/
def LibrarySettings.toJson (l : LibrarySettings) : Json :=
  .object (("files", .ofOption .ofStrings l.files) ::
    Config.textsMember "exclude" l.exclude ++ Config.flagMember "isThirdParty" l.thirdParty)

/-- The entry as JSON. -/
def FileSettings.toJson (f : FileSettings) : Json :=
  .object (("file", .ofString f.file) :: Config.textMember "library" f.library ++
    Config.textMember "language" f.language ++ Config.flagMember "isThirdParty" f.thirdParty)

/-- The settings as JSON. -/
def LintSettings.toJson (l : LintSettings) : Json :=
  .object (Config.memberIf (!l.rules.isEmpty) "rules" (.object (l.rules.map fun r => (r.1, .ofString r.2))) ++
    Config.textsMember "ignorePatterns" l.ignorePatterns ++ Config.flagMember "ignoreRegions" l.ignoreRegions ++
    Config.textMember "clockEdgePattern" l.clockEdgePattern ++ Config.textMember "resetPattern" l.resetPattern)

/-- The settings as JSON. -/
def CacheSettings.toJson (s : CacheSettings) : Json :=
  .object ((s.enabled.elim [] fun b => [("enabled", .bool b)]) ++ Config.textMember "dir" s.directory)

/-- The settings as JSON. -/
def AnalysisSettings.toJson (a : AnalysisSettings) : Json :=
  .object (Config.memberIf (a.maxParallelFiles != 0) "maxParallelFiles" (.ofInt a.maxParallelFiles) ++
    Config.flagMember "followLibraryUse" a.followLibraryUse ++ [("cache", a.cache.toJson)])

namespace Config

/-- The configuration as JSON. -/
def toJson (c : Config) : Json :=
  .object (textMember "standard" c.standard ++
    memberIf (!c.files.isEmpty) "files" (.ofList FileSettings.toJson c.files) ++
    memberIf (!c.libraryList.isEmpty) "libraries" (.object (c.libraryList.map fun l => (l.1, l.2.toJson))) ++
    [("lint", c.lint.toJson), ("analysis", c.analysis.toJson)])

end Config

/-- What is wrong with a configuration. -/
inductive ConfigError where
  | contract
  | pattern (error : RulesError)

namespace Config

/-- Checks a configuration: it has to be of the shape of configurations, and its patterns well formed. -/
def check (c : Config) : Except ConfigError Unit :=
  match Contract.check Contract.configuration c.toJson with
  | .error _ => .error .contract
  | .ok () =>
    match c.inferenceRules with
    | .ok _ => .ok ()
    | .error e => .error (.pattern e)

end Config
end DesignLint
