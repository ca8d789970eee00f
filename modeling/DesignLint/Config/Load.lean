import DesignLint.Config.Read
import DesignLint.Files.Workspace
import DesignLint.Json.Writer
import DesignLint.Text.Quoted

/-! Finding, loading and saving configurations. A configuration is looked for in the working directory, then in the
directory that is analysed, then below the home directory; the first that exists counts, even if it cannot
be loaded. -/
namespace DesignLint

/-- Why a configuration cannot be loaded. -/
inductive LoadError where
  | unreadable (fault : PathFault)
  | malformed
  | repeatedLibrary (name path : String)
  | contract (path : String)
  | pattern (path : String) (error : RulesError)

/-- The wording of the error. -/
def LoadError.message : LoadError → String
  | unreadable fault => "reading config file: " ++ fault.message
  | malformed => "parsing config file: the text is malformed"
  | repeatedLibrary name path =>
    "parsing config file: library " ++ Quoted.quoteString name ++ " declared twice in " ++ path
  | contract path =>
    "invalid config file " ++ path ++ ": config schema validation failed: not a configuration"
  | pattern path error => "invalid config file " ++ path ++ ": " ++ error.message

namespace Config

/-- The configuration in a text; the extension of the path tells settings from JSON. -/
def ofText (path : String) (text : Bytes) : Except LoadError Config :=
  if sameFold (Path.extension path) ".hcl" then
    match if text.isWellFormed then ofSettings text.decode else .error .malformed with
    | .ok c => .ok c
    | .error .malformed => .error .malformed
    | .error (.repeatedLibrary name) => .error (.repeatedLibrary name path)
  else
    match ofJsonText? text with
    | some c => .ok c
    | none => .error .malformed

/-- Fills in what was left out and checks the result. -/
def complete (path : String) (c : Config) : Except LoadError Config :=
  match c.withDefaults.check with
  | .ok () => .ok c.withDefaults
  | .error .contract => .error (.contract path)
  | .error (.pattern e) => .error (.pattern path e)

/-- Loads the configuration in a file. -/
def loadFile (w : Workspace) (path : String) : Except LoadError Config :=
  match w.read path with
  | .error fault => .error (.unreadable fault)
  | .ok text => ofText path text >>= complete path

/-- Saves the configuration to a file, as JSON. -/
def save (c : Config) (w : Workspace) (path : String) : Except PathFault Workspace :=
  w.write path (Bytes.ofString c.toJson.pretty)

/-- The names under which a configuration is looked for in a directory. -/
def fileNames : List String := ["vhdl_lint.json", ".vhdl_lint.json", "vhdl_lint.hcl"]

/-- The paths at which a configuration is looked for, in order. -/
def searchPaths (w : Workspace) (home : Option String) (root : String) : List String :=
  let inside (directory : String) : List String := fileNames.map fun name => Path.join [directory, name]
  let elsewhere := w.isDirectory root && w.absolute root != w.workingPath
  inside w.workingPath ++ (if elsewhere then inside root else []) ++
    home.toList.map fun directory => Path.join [directory, ".config", "vhdl_lint", "config.json"]

/-- Loads the configuration for the analysis of `root`; without one, the default holds. -/
def load (w : Workspace) (home : Option String) (root : String) : Except LoadError Config :=
  match (searchPaths w home root).find? w.exists? with
  | some path => loadFile w path
  | none => .ok default

end Config
end DesignLint
