import DesignLint.Command.Lint
import DesignLint.Command.Tree

/-! The command line. The files that a command may look at are taken into a workspace, the command runs on it, and
what it changed is written back. The name of the program decides which command it is. -/
namespace DesignLint.CommandLine

/-- The place of an absolute path. -/
def placeOf (path : String) : List String := Path.cleanSegments path

/-- The path of a place. -/
def pathOf (place : List String) : String := "/" ++ "/".intercalate place

/-- What stands below a path, with the path itself. -/
partial def gather (path : String) : IO (List (List String × FileEntry)) := do
  let here : IO.FS.DirEntry := ⟨path, ""⟩
  if ← here.root.isDir then
    let inside ← (← here.root.readDir).toList.mapM fun entry => gather (Path.join [path, entry.fileName])
    return (placeOf path, .directory) :: inside.flatten
  else if ← here.root.pathExists then
    return [(placeOf path, .file (← IO.FS.readBinFile path).data.toList)]
  else return []

/-- The directories on the way to a path. -/
def ancestors (path : String) : IO (List (List String × FileEntry)) := do
  let place := placeOf path
  let places := (List.range place.length).map fun n => place.take n
  let existing ← places.filterM fun p => do
    let here : IO.FS.DirEntry := ⟨pathOf p, ""⟩
    here.root.isDir
  return existing.map fun p => (p, .directory)

/-- The files that a command with these arguments may look at. -/
def collect (working : String) (home : Option String) (arguments : List String) : IO Workspace := do
  let named := arguments.map (Path.absolute working)
  let settings := home.toList.map fun directory => Path.join [directory, ".config", "vhdl_lint", "config.json"]
  let elsewhere := (named ++ settings).filter fun path => !(placeOf working).isPrefixOf (placeOf path)
  let around ← (working :: elsewhere).mapM ancestors
  let found ← (working :: elsewhere).mapM gather
  return ⟨around.flatten.eraseDups ++ found.flatten, placeOf working⟩

/-- Writes back what a command changed. -/
def restore (before after : Workspace) : IO Unit := do
  for (place, entry) in after.entries.reverse do
    if before.entries.lookup place != some entry then
      match entry with
      | .directory => IO.FS.createDirAll (pathOf place)
      | .file content => IO.FS.writeBinFile (pathOf place) ⟨content.toArray⟩
  for (place, entry) in before.entries do
    if (after.entries.lookup place).isNone then
      match entry with
      | .directory => IO.FS.removeDir (pathOf place)
      | .file _ => IO.FS.removeFile (pathOf place)

/-- The variables that commands look at. -/
def environment : IO Environment := do
  let values ← ["HOME", "VHDL_TIMING", "VHDL_TIMING_JSONL"].mapM fun name => do
    return (name, (← IO.getEnv name).getD "")
  return ⟨values⟩

/-- Whether the program was started to print a tree. -/
def printsTree : IO Bool := return ((← IO.appPath).fileName.getD "").startsWith "vhdl-tree"

/-- Runs the command that the program stands for. -/
def run (arguments : List String) : IO UInt32 := do
  let working := (← IO.currentDir).toString
  let outside ← environment
  let before ← collect working outside.home? arguments
  let input ← if arguments.head? == some "init" then (← IO.getStdin).getLine else pure ""
  let outcome := if ← printsTree then TreeCommand.execute before arguments
    else LintCommand.execute outside before input arguments
  restore before outcome.workspace
  IO.print outcome.output
  IO.eprint outcome.errors
  return outcome.status.toUInt32

end DesignLint.CommandLine

/-- The command line. -/
def main (arguments : List String) : IO UInt32 := DesignLint.CommandLine.run arguments
