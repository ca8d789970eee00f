import DesignLint.Config.Basic
import DesignLint.Files.Expand

/-! The files of the libraries. A library has the files that its patterns stand for, less those it excludes, and
the explicit entries that name it. A file belongs to the first explicit entry that stands for it, else to the
first library that has it, in ascending order of their names. -/
namespace DesignLint

/-- A library with its files. -/
structure ResolvedLibrary where
  name : String
  files : List String
  thirdParty : Bool
deriving DecidableEq

/-- The library of a file. -/
structure Membership where
  library : String
  thirdParty : Bool
deriving DecidableEq

/-- Whether the name of a file is that of a source file. -/
def isSourceName (path : String) : Bool :=
  let extension := lowerString (Path.extension path)
  extension == ".vhd" || extension == ".vhdl"

namespace FileSettings

/-- Whether an entry is about source files. -/
def isSource (f : FileSettings) : Bool :=
  f.file != "" && (f.language == "" || sameFold f.language "vhdl")

/-- The library of an entry. -/
def libraryName (f : FileSettings) : String := if f.library = "" then Config.defaultLibrary else f.library

end FileSettings

namespace Config

/-- A pattern seen from the working directory. -/
def rooted (root pattern : String) : String :=
  if Path.isAbsolute pattern then pattern else Path.join [root, pattern]

/-- The files that patterns stand for. -/
def expandAll (w : Workspace) (root : String) (patterns : List String) : List String :=
  patterns.flatMap fun pattern => w.expand (rooted root pattern)

/-- The source files of a library by its own patterns. -/
def ownFiles (w : Workspace) (root : String) (l : LibrarySettings) : List String :=
  let excluded := expandAll w root l.exclude
  (expandAll w root (l.files.getD [])).filter fun file => isSourceName file && !excluded.contains file

/-- The source files that an explicit entry stands for. -/
def entryFiles (w : Workspace) (root : String) (f : FileSettings) : List String :=
  (w.expand (rooted root f.file)).filter isSourceName

/-- The explicit entries about source files. -/
def sourceEntries (c : Config) : List FileSettings := c.files.filter FileSettings.isSource

/-- The names of all libraries, in ascending order. -/
def libraryNames (c : Config) : List String :=
  sortedSet (c.libraryList.map Prod.fst ++ c.sourceEntries.map FileSettings.libraryName)

/-- A library with its files, in ascending order. -/
def resolve (c : Config) (w : Workspace) (root name : String) : ResolvedLibrary where
  name := name
  files := sortedSet <|
    (c.library? name).elim [] (ownFiles w root) ++
      (c.sourceEntries.filter fun f => f.libraryName == name).flatMap (entryFiles w root)
  thirdParty := (c.library? name).any LibrarySettings.thirdParty

/-- The libraries with their files, in ascending order of their names. -/
def resolveAll (c : Config) (w : Workspace) (root : String) : List ResolvedLibrary :=
  c.libraryNames.map (c.resolve w root)

/-- The files of all libraries, in ascending order. -/
def allFiles (c : Config) (w : Workspace) (root : String) : List String :=
  sortedSet ((c.resolveAll w root).flatMap ResolvedLibrary.files)

/-- Whether a file is among others, whichever way they are written. -/
def amongFiles (w : Workspace) (file : String) (others : List String) : Bool :=
  others.any fun other => w.absolute other == w.absolute file

/-- The library of a file. -/
def membership (c : Config) (w : Workspace) (root file : String) : Membership :=
  let entry := c.sourceEntries.find? fun f => amongFiles w file (w.expand (rooted root f.file))
  match entry with
  | some f =>
    ⟨f.libraryName, f.thirdParty || (c.library? f.libraryName).any LibrarySettings.thirdParty⟩
  | none =>
    match (c.resolveAll w root).find? fun library => amongFiles w file library.files with
    | some library => ⟨library.name, library.thirdParty⟩
    | none => ⟨defaultLibrary, false⟩

end Config
end DesignLint
