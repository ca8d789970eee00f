/-! Paths as text. A path is a sequence of segments between slashes; one that starts with a slash is absolute.
Everything here works on the text alone and never asks whether a file exists. -/
namespace DesignLint.Path

/-- The segments between the slashes, empty ones included. -/
def segments (path : String) : List String := go path.toList
where
  go (chars : List Char) : List String := (splitAll chars).map String.ofList
  splitAll : List Char → List (List Char)
    | [] => [[]]
    | c :: rest =>
      match splitAll rest with
      | [] => [[c]]
      | segment :: more => if c = '/' then [] :: segment :: more else (c :: segment) :: more

/-- Whether a path starts at the root. -/
def isAbsolute (path : String) : Bool := path.toList.head? == some '/'

/-- One segment applied to the segments so far, the last of them first. -/
def push (rooted : Bool) (done : List String) (segment : String) : List String :=
  if segment = "" || segment = "." then done
  else if segment = ".." then
    match done with
    | [] => if rooted then [] else [".."]
    | last :: rest => if last = ".." then ".." :: done else rest
  else segment :: done

/-- The segments of the shortest path that means the same. -/
def cleanSegments (path : String) : List String :=
  ((segments path).foldl (push (isAbsolute path)) []).reverse

/-- The shortest path that means the same: no empty segments, no `.`, and `..` only at the start. -/
def clean (path : String) : String :=
  let joined := "/".intercalate (cleanSegments path)
  if isAbsolute path then "/" ++ joined
  else if joined = "" then "."
  else joined

/-- Paths joined by slashes and cleaned; empty ones at the start do not count. -/
def join (parts : List String) : String :=
  match parts.dropWhile (· = "") with
  | [] => ""
  | parts => clean ("/".intercalate parts)

/-- The part up to the last slash, with it, and the part after it. -/
def split (path : String) : String × String :=
  let reversed := path.toList.reverse
  let file := reversed.takeWhile (· ≠ '/')
  let directory := reversed.dropWhile (· ≠ '/')
  (String.ofList directory.reverse, String.ofList file.reverse)

/-- The directory of a path. -/
def directory (path : String) : String := clean (split path).1

/-- The last segment of a path. -/
def base (path : String) : String :=
  if path = "" then "."
  else
    match path.toList.reverse.dropWhile (· = '/') with
    | [] => "/"
    | reversed => String.ofList (reversed.takeWhile (· ≠ '/')).reverse

/-- The extension of the last segment, with its point. -/
def extension (path : String) : String :=
  let name := (split path).2.toList.reverse
  match name.dropWhile (· ≠ '.') with
  | [] => ""
  | _ => String.ofList ('.' :: (name.takeWhile (· ≠ '.')).reverse)

/-- The absolute path that a path means in a working directory. -/
def absolute (working path : String) : String :=
  if isAbsolute path then clean path else join [working, path]

end DesignLint.Path
