import DesignLint.Files.Glob
import DesignLint.Files.Workspace

/-! The files that a pattern stands for. A pattern with a double star looks at all files below the directory
before it; any other pattern is followed segment by segment. -/
namespace DesignLint.Workspace

/-- The directory of a pattern without the slash at its end. -/
def patternDirectory (directory : String) : String :=
  if directory = "" then "."
  else if directory = "/" then "/"
  else String.ofList (directory.toList.dropLast)

/-- The entries of directories that match a pattern of one segment. -/
def matchesIn (w : Workspace) (pattern : Glob) (directories : List String) : List String :=
  directories.flatMap fun directory =>
    if w.isDirectory directory then
      ((w.names directory).filter fun name => pattern.accepts (Bytes.ofString name)).map fun name =>
        Path.join [directory, name]
    else []

/-- The files and directories that a pattern without double stars stands for; none if it is malformed. -/
def globFrom (w : Workspace) : (depth : Nat) → String → Option (List String)
  | 0, _ => none
  | depth + 1, pattern =>
    match Glob.parse? (Bytes.ofString pattern) with
    | none => none
    | some _ =>
      if !Glob.isPattern pattern then some (if w.exists? pattern then [pattern] else [])
      else
        let (directory, file) := Path.split pattern
        let directory := patternDirectory directory
        let directories :=
          if Glob.isPattern directory then w.globFrom depth directory else some [directory]
        match directories, Glob.parse? (Bytes.ofString file) with
        | some directories, some last => some (w.matchesIn last directories)
        | _, _ => none

/-- What stands before and after the first double star. -/
def splitDoubleStar : List Char → Option (List Char × List Char)
  | '*' :: '*' :: rest => some ([], rest)
  | c :: rest => (splitDoubleStar rest).map fun (before, after) => (c :: before, after)
  | [] => none

/-- The path of a file that was found below a directory. -/
def pathBelow (directory : String) (segments : List String) : String :=
  if segments.isEmpty then directory else Path.join (directory :: segments)

/-- The files below a directory that match what follows a double star. -/
def globBelow (w : Workspace) (before after : String) : List String :=
  let directory := Path.clean before
  let suffix := if after.toList.head? == some '/' then String.ofList (after.toList.drop 1) else after
  (w.filesBelow directory).filterMap fun segments =>
    let relative := if segments.isEmpty then "." else "/".intercalate segments
    if suffix = "" || Glob.matchesBelow relative suffix then some (pathBelow directory segments) else none

/-- The files that a pattern stands for; none if it is malformed. -/
def expand? (w : Workspace) (pattern : String) : Option (List String) :=
  match splitDoubleStar pattern.toList with
  | some (before, after) => some (w.globBelow (String.ofList before) (String.ofList after))
  | none => w.globFrom (pattern.length + 1) pattern

/-- The files that a pattern stands for. A malformed pattern stands for none. -/
def expand (w : Workspace) (pattern : String) : List String := (w.expand? pattern).getD []

end DesignLint.Workspace
