import DesignLint.Command.Outcome
import DesignLint.Contract.Formats
import DesignLint.Json.Writer
import DesignLint.Project.Linking
import DesignLint.Reader.DesignUnit

/-! The command that prints the tree of a file as JSON. Options come before the path of the file; an option has one
dash or two, and its value follows in the next argument or after an equals sign. -/
namespace DesignLint.TreeCommand

/-- The options of the command, and the arguments after them. -/
structure Options where
  output : String := ""
  library : String := "work"
  compact : Bool := false
  arguments : List String := []
deriving DecidableEq

/-- What is wrong with the options. -/
inductive Misuse where
  | help
  | badForm (argument : String)
  | undefined (name : String)
  | noValue (name : String)
  | notBoolean (name value : String)
deriving DecidableEq

/-- The wording of a misuse; asking for help is none. -/
def Misuse.message : Misuse → String
  | help => ""
  | badForm argument => "bad flag syntax: " ++ argument ++ "\n"
  | undefined name => "flag provided but not defined: -" ++ name ++ "\n"
  | noValue name => "flag needs an argument: -" ++ name ++ "\n"
  | notBoolean name value =>
    "invalid boolean value " ++ Quoted.quoteString value ++ " for -" ++ name ++ ": parse error\n"

/-- An argument without its dashes, if it is an option. -/
def optionText? (argument : String) : Option (List Char) :=
  match argument.toList with
  | '-' :: '-' :: rest => some rest
  | '-' :: c :: rest => some (c :: rest)
  | _ => none

/-- A switch that is written out. -/
def boolean? (word : String) : Option Bool :=
  if ["1", "t", "T", "true", "TRUE", "True"].contains word then some true
  else if ["0", "f", "F", "false", "FALSE", "False"].contains word then some false
  else none

/-- The name of an option and the value after its equals sign. -/
def splitValue (text : List Char) : String × Option String :=
  match text.dropWhile (· ≠ '=') with
  | [] => (String.ofList text, none)
  | _ :: value => (String.ofList (text.takeWhile (· ≠ '=')), some (String.ofList value))

/-- Reads the arguments after those that gave the options so far. -/
def readOptions (o : Options) : List String → Except Misuse Options
  | [] => .ok o
  | argument :: rest =>
    match optionText? argument with
    | none => .ok { o with arguments := argument :: rest }
    | some [] => .ok { o with arguments := rest }
    | some (c :: text) =>
      if c = '-' || c = '=' then .error (.badForm argument)
      else
        let (name, value) := splitValue (c :: text)
        if name = "compact" then
          match value with
          | none => readOptions { o with compact := true } rest
          | some word =>
            match boolean? word with
            | some b => readOptions { o with compact := b } rest
            | none => .error (.notBoolean name word)
        else if name = "output" || name = "o" || name = "library" then
          let set (value : String) : Options :=
            if name = "library" then { o with library := value } else { o with output := value }
          match value with
          | some value => readOptions (set value) rest
          | none =>
            match rest with
            | value :: rest => readOptions (set value) rest
            | [] => .error (.noValue name)
        else if name = "help" || name = "h" then .error .help
        else .error (.undefined name)

/-- How the options are used. -/
def usage : String :=
  "Usage of vhdl-tree:\n  -compact\n    \twrite JSON without indentation\n  -library string\n" ++
    "    \tlibrary the file is analyzed into (default \"work\")\n  -o string\n" ++
    "    \twrite tree JSON to file (shorthand)\n  -output string\n" ++
    "    \twrite tree JSON to file (default: stdout)\n"

/-- The tree of a file. -/
def readTree (w : Workspace) (path : String) : Except String Tree :=
  match w.read path with
  | .error fault => .error ("reading file: " ++ fault.message)
  | .ok text =>
    match Tree.parse path text with
    | .ok t => .ok t
    | .error fault => .error fault.message.decode

/-- A warning for each use clause that names no predeclared package. -/
def warnings (t : Tree) : String :=
  let line (clause : NodeId × UseClause) : String :=
    "Warning: " ++ t.path ++ ":" ++ toString ((t.span clause.1).start.line + 1) ++ ": package '"
      ++ clause.2.library.decode ++ "." ++ clause.2.package.decode ++ "' not found\n"
  String.join ((t.pick Construct.useClause? (linkUses {} {} t).2).map line)

/-- Prints or writes a tree. -/
def showTree (w : Workspace) (o : Options) (t : Tree) : CommandOutcome :=
  let j := t.toJson
  match Contract.check Contract.tree j with
  | .error violation =>
    { status := 1, workspace := w
      errors := warnings t ++ "CRITICAL: Tree contract violation: " ++ violation.message "tree" ++ "\n" }
  | .ok () =>
    let text := (if o.compact then j.compact else j.pretty) ++ "\n"
    if o.output = "" then { output := text, errors := warnings t, workspace := w }
    else
      match w.write o.output (Bytes.ofString text) with
      | .ok w => { errors := warnings t, workspace := w }
      | .error fault =>
        { status := 1, errors := warnings t ++ "Error writing tree: " ++ fault.message ++ "\n", workspace := w }

/-- The whole command. -/
def execute (w : Workspace) (arguments : List String) : CommandOutcome :=
  match readOptions {} arguments with
  | .error .help => { errors := usage, workspace := w }
  | .error misuse => { status := 2, errors := misuse.message ++ usage, workspace := w }
  | .ok o =>
    match o.arguments with
    | [path] =>
      match readTree w path with
      | .error message => { status := 1, errors := "Error: " ++ message ++ "\n", workspace := w }
      | .ok t => showTree w o { t with library := Bytes.ofString o.library }
    | _ =>
      { status := 1, workspace := w
        errors := "Usage: vhdl-tree [--output file] [--library name] [--compact] <file.vhd>\n" }

end DesignLint.TreeCommand
