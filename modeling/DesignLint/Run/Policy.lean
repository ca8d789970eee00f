import DesignLint.Digest.Sha256
import DesignLint.Files.Expand

/-! Where the severity policy comes from: it is built in, or a directory holds policy files. The version of a
policy is a digest of what it consists of. Of the policies from files only a copy of the built-in one is evaluated;
the others have a version all the same. -/
namespace DesignLint

/-- Why there is no policy. -/
inductive PolicyError where
  | malformedPattern
  | noFiles (directory : String)
  | unreadable (file : String) (fault : PathFault)
  | notEvaluated (directory : String)

/-- The wording of the error. -/
def PolicyError.message : PolicyError → String
  | malformedPattern => "finding policy files: syntax error in pattern"
  | noFiles directory => "no policy files found in " ++ directory
  | unreadable file fault => "reading " ++ file ++ ": " ++ fault.message
  | notEvaluated directory => "policies from files are not evaluated: " ++ directory

namespace Policy

/-- The version of the built-in policy. -/
def builtInVersion : String := "290939cf178651c5413ee8a6f1132faa22217971d325f048c94994d15876032f"

/-- The files of a policy with their content, in ascending order. -/
def modules (w : Workspace) (directory : String) : Except PolicyError (List (String × Bytes)) :=
  match w.expand? (Path.join [directory, "*.rego"]) with
  | none => .error .malformedPattern
  | some [] => .error (.noFiles directory)
  | some files => (sortStrings files).mapM fun file =>
    match w.read file with
    | .ok content => .ok (file, content)
    | .error fault => .error (.unreadable file fault)

/-- The version of a policy: that of the files in a directory, or of the built-in one if no directory is given. -/
def version (w : Workspace) (directory : String) : Except PolicyError String :=
  if directory = "" then .ok builtInVersion
  else (modules w directory).map fun found =>
    Sha256.digest (found.flatMap fun m => Bytes.ofString (Path.base m.1) ++ 0 :: m.2 ++ [0])

/-- Whether the policy of a directory can be evaluated. -/
def check (w : Workspace) (directory : String) : Except PolicyError Unit :=
  match version w directory with
  | .error e => .error e
  | .ok found => if found = builtInVersion then .ok () else .error (.notEvaluated directory)

end Policy
end DesignLint
