import DesignLint.Text.Bytes
import DesignLint.Text.Sorted
import DesignLint.Files.Path

/-! Files as a value. A workspace holds all files and directories of a machine by their absolute segments, with a
working directory in which relative paths are read. Looking a path up goes segment by segment, so a
segment that does not exist or is no directory is noticed even if a later `..` leaves it again. Names and paths
have a greatest length in bytes, and no path holds the character zero. -/
namespace DesignLint

/-- What stands at a place. -/
inductive FileEntry where
  | file (content : Bytes)
  | directory
deriving DecidableEq

/-- Why an operation on a file fails. -/
inductive FileError where
  | notFound
  | notDirectory
  | isDirectory
  | notEmpty
  | alreadyThere
  | nameTooLong
  | badName
deriving DecidableEq, Repr

/-- The wording of a file error. -/
def FileError.message : FileError → String
  | notFound => "no such file or directory"
  | notDirectory => "not a directory"
  | isDirectory => "is a directory"
  | notEmpty => "directory not empty"
  | alreadyThere => "file exists"
  | nameTooLong => "file name too long"
  | badName => "invalid argument"

/-- A failed operation and the path it was about. -/
structure PathFault where
  operation : String
  path : String
  error : FileError

/-- The wording of a failed operation. -/
def PathFault.message (f : PathFault) : String :=
  f.operation ++ " " ++ f.path ++ ": " ++ f.error.message

/-- All files, and where relative paths start. -/
structure Workspace where
  entries : List (List String × FileEntry) := []
  working : List String := []

namespace Workspace

/-- What stands at a place. The root is always there. -/
def entry? (w : Workspace) (place : List String) : Option FileEntry :=
  if place.isEmpty then some .directory else w.entries.lookup place

/-- The greatest length of a name in bytes. -/
def maxNameSize : Nat := 255

/-- The greatest length of a path in bytes. -/
def maxPathSize : Nat := 4095

/-- One segment on the way to a place. -/
def enter (w : Workspace) (place : List String) (segment : String) :
    Except FileError (List String) :=
  match w.entry? place with
  | none => .error .notFound
  | some (.file _) => .error .notDirectory
  | some .directory =>
    if segment = "" || segment = "." then .ok place
    else if segment = ".." then .ok place.dropLast
    else if maxNameSize < segment.utf8ByteSize then .error .nameTooLong
    else .ok (place ++ [segment])

/-- The place that the segments of a path lead to. -/
def follow (w : Workspace) (path : String) (segments : List String) : Except FileError (List String) :=
  if path.toList.contains (Char.ofNat 0) then .error .badName
  else if maxPathSize < path.utf8ByteSize then .error .nameTooLong
  else if path = "" then .error .notFound
  else segments.foldlM w.enter (if Path.isAbsolute path then [] else w.working)

/-- The place that a path means. The last segment need not exist. -/
def locate (w : Workspace) (path : String) : Except FileError (List String) := w.follow path (Path.segments path)

/-- The place at which a file is made under a path. One that ends in a slash can only be that of a directory. -/
def locateNew (w : Workspace) (path : String) : Except FileError (List String) :=
  match (Path.segments path).reverse.dropWhile (· = "") with
  | last :: before =>
    if !path.endsWith "/" || last = "." || last = ".." then w.locate path
    else w.follow path (before.reverse ++ ["."]) >>= fun _ => .error .isDirectory
  | [] => w.locate path

/-- What stands where a path leads. -/
def status (w : Workspace) (path : String) : Except FileError FileEntry := do
  match w.entry? (← w.locate path) with
  | some entry => return entry
  | none => throw .notFound

/-- Whether a path leads to something. -/
def exists? (w : Workspace) (path : String) : Bool := (w.status path).toOption.isSome

/-- Whether a path leads to a directory. -/
def isDirectory (w : Workspace) (path : String) : Bool := (w.status path).toOption == some .directory

/-- Whether a path leads to something that is no directory. -/
def isFile (w : Workspace) (path : String) : Bool := w.exists? path && !w.isDirectory path

/-- The content of a file. -/
def read (w : Workspace) (path : String) : Except PathFault Bytes :=
  match w.status path with
  | .ok (.file content) => .ok content
  | .ok .directory => .error ⟨"read", path, .isDirectory⟩
  | .error e => .error ⟨"open", path, e⟩

/-- Puts something at a place. -/
def put (w : Workspace) (place : List String) (entry : FileEntry) : Workspace :=
  { w with entries := (place, entry) :: w.entries.filter fun e => e.1 != place }

/-- Writes a file; its directory has to exist. -/
def write (w : Workspace) (path : String) (content : Bytes) : Except PathFault Workspace :=
  match w.locateNew path with
  | .error e => .error ⟨"open", path, e⟩
  | .ok place =>
    match w.entry? place, w.entry? place.dropLast with
    | some .directory, _ => .error ⟨"open", path, .isDirectory⟩
    | _, some .directory => .ok (w.put place (.file content))
    | _, some (.file _) => .error ⟨"open", path, .notDirectory⟩
    | _, none => .error ⟨"open", path, .notFound⟩

/-- Makes the directories of a list of paths, each inside the one before it, up to the first that cannot be made. -/
def makeEach (w : Workspace) : List String → Workspace × Option PathFault
  | [] => (w, none)
  | path :: rest =>
    match w.status path with
    | .ok .directory => w.makeEach rest
    | .ok (.file _) => (w, some ⟨"mkdir", path, .notDirectory⟩)
    | .error _ =>
      match w.locate path with
      | .error e => (w, some ⟨"mkdir", path, e⟩)
      | .ok place => (w.put place .directory).makeEach rest

/-- The path and the directories on the way to it, outermost first. -/
def stages (path : String) : List String :=
  let segments := Path.segments path
  ((List.range segments.length).map fun n => "/".intercalate (segments.take (n + 1))).filter (· ≠ "")

/-- Makes a directory and those on the way to it; those made before something goes wrong stay. -/
def makeDirectories (w : Workspace) (path : String) : Workspace × Option PathFault :=
  if path = "" then (w, some ⟨"mkdir", path, .notFound⟩) else w.makeEach (stages path)

/-- What stands below a place, by the segments from there. -/
def below (w : Workspace) (place : List String) : List (List String × FileEntry) :=
  w.entries.filterMap fun (p, entry) =>
    if place.isPrefixOf p && place.length < p.length then some (p.drop place.length, entry) else none

/-- Removes a file or an empty directory. -/
def remove (w : Workspace) (path : String) : Except PathFault Workspace :=
  match w.locate path with
  | .error e => .error ⟨"remove", path, e⟩
  | .ok place =>
    match w.entry? place with
    | none => .error ⟨"remove", path, .notFound⟩
    | some .directory =>
      if (w.below place).isEmpty then .ok { w with entries := w.entries.filter fun e => e.1 != place }
      else .error ⟨"remove", path, .notEmpty⟩
    | some (.file _) => .ok { w with entries := w.entries.filter fun e => e.1 != place }

/-- Removes a file or a directory with all it holds. -/
def removeAll (w : Workspace) (path : String) : Workspace :=
  match w.locate path with
  | .error _ => w
  | .ok place => { w with entries := w.entries.filter fun e => !place.isPrefixOf e.1 }

/-- The names in a directory, in ascending order. -/
def names (w : Workspace) (path : String) : List String :=
  match w.locate path with
  | .error _ => []
  | .ok place => sortStrings <| (w.below place).filterMap fun (segments, _) =>
    match segments with
    | [name] => some name
    | _ => none

/-- The files below a path at any depth, each with its segments from there. A path that leads to a file has that
one file below it. -/
def filesBelow (w : Workspace) (path : String) : List (List String) :=
  match w.locate path with
  | .error _ => []
  | .ok place =>
    match w.entry? place with
    | none => []
    | some (.file _) => [[]]
    | some .directory => (w.below place).filterMap fun (segments, entry) =>
      if entry = .directory then none else some segments

/-- The absolute path of the working directory. -/
def workingPath (w : Workspace) : String := "/" ++ "/".intercalate w.working

/-- The absolute path that a path means. -/
def absolute (w : Workspace) (path : String) : String := Path.absolute w.workingPath path

end Workspace
end DesignLint
