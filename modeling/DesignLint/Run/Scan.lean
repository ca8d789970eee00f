import DesignLint.Config.Libraries

/-! The files of a run. The root is a file or a directory. A file is analysed alone; in a directory the libraries
say which files there are, and if they have none, all source files below the directory are taken. -/
namespace DesignLint

/-- A file to be analysed, with its library in lower case. -/
structure ScannedFile where
  path : String
  library : String
  thirdParty : Bool
deriving DecidableEq

namespace Scan

/-- The libraries that are looked at, if any. -/
def libraries (c : Config) (w : Workspace) (root : String) : Option (List ResolvedLibrary) :=
  if w.isFile root || (c.libraryList.isEmpty && c.files.isEmpty) then none else some (c.resolveAll w root)

/-- The files of libraries, each once, with the first library that has it. -/
def assign (resolved : List ResolvedLibrary) : List (String × Membership) :=
  let all := resolved.flatMap fun l => l.files.map fun file => (file, Membership.mk l.name l.thirdParty)
  (all.map Prod.fst).eraseDups.filterMap fun file => (all.lookup file).map fun m => (file, m)

/-- The files of the libraries with their libraries. Where there are explicit entries, they win. -/
def assigned (c : Config) (w : Workspace) (root : String) : List (String × Membership) :=
  let found := ((libraries c w root).map assign).getD []
  if c.files.isEmpty then found else found.map fun f => (f.1, c.membership w root f.1)

/-- The source files below a directory. -/
def sourcesBelow (w : Workspace) (root : String) : Except PathFault (List String) :=
  match w.status root with
  | .error e => .error ⟨"lstat", root, e⟩
  | .ok _ => .ok (((w.filesBelow root).map (Workspace.pathBelow root)).filter isSourceName)

/-- The candidates of a run, with their libraries if they were found through one. -/
def candidates (c : Config) (w : Workspace) (root : String) :
    Except PathFault (List (String × Option Membership)) :=
  if w.isFile root then .ok [(root, none)]
  else
    match assigned c w root with
    | [] => (sourcesBelow w root).map fun files => files.map fun file => (file, none)
    | found => .ok (found.map fun f => (f.1, some f.2))

/-- The library that a file is analysed in. -/
def libraryName (m : Option Membership) : String :=
  match m with
  | some m => if m.library = "" then Config.defaultLibrary else lowerString m.library
  | none => Config.defaultLibrary

/-- A candidate as it is analysed. -/
def scannedFile (c : Config) (candidate : String × Option Membership) : ScannedFile where
  path := candidate.1
  library := libraryName candidate.2
  thirdParty := candidate.2.any Membership.thirdParty || c.matchesThirdParty candidate.1

/-- The files of a run in ascending order, without those that are ignored. -/
def files (c : Config) (w : Workspace) (root : String) : Except PathFault (List ScannedFile) :=
  (candidates c w root).map fun found =>
    ((found.filter fun f => !c.ignores f.1).map (scannedFile c)).mergeSort fun a b => decide (a.path ≤ b.path)

/-- What is said about the libraries. -/
def announce (resolved : List ResolvedLibrary) : String :=
  let line (l : ResolvedLibrary) : String :=
    "  " ++ l.name ++ ": " ++ toString l.files.length ++ " files" ++
      (if l.thirdParty then " (third-party)" else "") ++ "\n"
  "Loaded configuration with " ++ toString resolved.length ++ " libraries\n" ++ String.join (resolved.map line)

end Scan
end DesignLint
