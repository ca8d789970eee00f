import DesignLint.Command.Outcome
import DesignLint.Run.Pipeline

/-! The command that checks a project. Its first argument may be a subcommand; otherwise the arguments are options
and the path of what is to be checked. -/
namespace DesignLint.LintCommand

/-- The options of the command. -/
structure Options where
  verbose : Bool := false
  json : Bool := false
  timing : Bool := false
  configPath : String := ""
  policyDirectory : String := ""
  path : String := ""
deriving DecidableEq

/-- What is wrong with the arguments. -/
inductive Misuse where
  | noConfigFile (option : String)
  | noPolicyDirectory
  | unexpected (argument : String)
  | noPath
deriving DecidableEq

/-- The wording of a misuse. -/
def Misuse.message : Misuse → String
  | noConfigFile option => "missing config file after " ++ option
  | noPolicyDirectory => "missing policy directory after --policy"
  | unexpected argument => "unexpected argument " ++ argument
  | noPath => "no path given"

/-- Reads the arguments after those that gave the options so far. -/
def readOptions (o : Options) : List String → Except Misuse Options
  | [] => if o.path = "" then .error .noPath else .ok o
  | argument :: rest =>
    if argument = "-v" || argument = "--verbose" then readOptions { o with verbose := true } rest
    else if argument = "--json" then readOptions { o with json := true } rest
    else if argument = "--timing" then readOptions { o with timing := true } rest
    else if argument = "-c" || argument = "--config" then
      match rest with
      | [] => .error (.noConfigFile argument)
      | path :: rest => readOptions { o with configPath := path } rest
    else if argument = "--policy" then
      match rest with
      | [] => .error .noPolicyDirectory
      | directory :: rest => readOptions { o with policyDirectory := directory } rest
    else if o.path = "" then readOptions { o with path := argument } rest
    else .error (.unexpected argument)

/-- How the command is used. -/
def usage : String :=
"Usage: vhdl-lint [command] [options] <path>

Commands:
  init [--hcl]        Create a vhdl_lint.json (or vhdl_lint.hcl) configuration file
  clear-cache <path>  Remove the stored result cache for <path>
  <path>              Lint VHDL files in the given directory or file

Options:
  -v, --verbose       Enable verbose output and debug logging on stderr
  -c, --config        Specify config file: vhdl-lint -c vhdl_lint.hcl <path>
  --json              Print the result as JSON
  --policy <dir>      Use the .rego files in <dir> instead of the built-in policy
  --timing            Write per-stage timing events to timing.jsonl
  -h, --help          Show this help message

Configuration:
  vhdl-lint looks for configuration in:
    1. ./vhdl_lint.json, ./.vhdl_lint.json, ./vhdl_lint.hcl
    2. the same names under <path>
    3. ~/.config/vhdl_lint/config.json

  Run 'vhdl-lint init' to create a default configuration file.

Exit status is 1 when any error diagnostic or file error is reported.
"

/-- The settings that a new configuration starts with. -/
def settingsTemplate : String :=
"standard = \"2008\"

library \"work\" \x7b
  files = [\"*.vhd\", \"*.vhdl\", \"**/*.vhd\", \"**/*.vhdl\"]
\x7d

lint \x7b
  rules = \x7b
    \"undeclared-signal\" = \"error\"
    \"missing-reset\"     = \"error\"
    \"unresolved-use\"    = \"info\"
  \x7d
  ignore_patterns = []
\x7d

analysis \x7b
  follow_library_use = true
  cache \x7b
    enabled = true
    dir     = \".vhdl_lint_cache\"
  \x7d
\x7d
"

/-- The first word on the first line of an input. -/
def firstWord (input : String) : String :=
  let rest := input.toList.dropWhile fun c => isBlankChar c && c != '\n'
  String.ofList (rest.takeWhile fun c => !isBlankChar c)

/-- Writes a new configuration. -/
def create (w : Workspace) (settings : Bool) (shown : String) : CommandOutcome :=
  let path := if settings then "vhdl_lint.hcl" else "vhdl_lint.json"
  let content := if settings then settingsTemplate else Config.default.toJson.pretty
  match w.write path (Bytes.ofString content) with
  | .error fault =>
    let context := if settings then "" else "writing config file: "
    { status := 1, output := shown, errors := "Error creating config: " ++ context ++ fault.message ++ "\n",
      workspace := w }
  | .ok w =>
    { output := shown ++ "Created " ++ path ++ "\n\nEdit this file to configure:\n  - Library file patterns\n" ++
        "  - Third-party library detection\n  - Lint rule severities\n"
      workspace := w }

/-- Makes a new configuration, after a question if there is one already. -/
def newConfiguration (w : Workspace) (input : String) (arguments : List String) : CommandOutcome :=
  let settings := arguments.head? == some "--hcl"
  let path := if settings then "vhdl_lint.hcl" else "vhdl_lint.json"
  if w.exists? path then
    let question := "Config file " ++ path ++ " already exists. Overwrite? [y/N]: "
    let answer := firstWord input
    if answer = "y" || answer = "Y" then create w settings question
    else { output := question ++ "Aborted.\n", workspace := w }
  else create w settings ""

/-- The configuration that the options ask for, and a warning. Only one that is named explicitly has to be sound. -/
def configuration (environment : Environment) (w : Workspace) (o : Options) : Except String (Config × String) :=
  if o.configPath = "" then
    match Config.load w environment.home? o.path with
    | .ok c => .ok (c, "")
    | .error e => .ok (Config.default, "Warning: Could not load config: " ++ e.message ++ " (using defaults)\n")
  else
    match Config.loadFile w o.configPath with
    | .ok c => .ok (c, "")
    | .error e => .error ("loading config " ++ o.configPath ++ ": " ++ e.message)

/-- An error message. -/
private def errorLine (message : String) : String := "Error: " ++ message ++ "\n"

/-- Checks a project. -/
def lint (environment : Environment) (w : Workspace) (o : Options) : CommandOutcome :=
  match configuration environment w o with
  | .error message => { status := 1, errors := errorLine message, workspace := w }
  | .ok (c, warning) =>
    let options : RunOptions := ⟨o.path, o.policyDirectory, o.verbose, o.json, o.timing⟩
    let (outcome, t) := Run.execute environment options (some c) w
    let logged := if o.verbose then String.join (t.log.map LogRecord.line) else ""
    let ended (status : Nat) (message : String) : CommandOutcome :=
      { status, output := t.output, errors := warning ++ logged ++ message, workspace := t.workspace }
    match outcome with
    | .error e => ended 1 (errorLine e.message)
    | .ok report =>
      ended (if report.hasErrors then 1 else 0)
        (if t.problems.isEmpty then "" else errorLine (Problem.joined t.problems))

/-- Forgets the kept results of a project. -/
def clearCache (environment : Environment) (w : Workspace) (o : Options) : CommandOutcome :=
  match configuration environment w o with
  | .error message => { status := 1, errors := errorLine message, workspace := w }
  | .ok (c, warning) =>
    match ResultCache.clear w c o.path with
    | .error fault =>
      { status := 1, errors := warning ++ errorLine ("remove result cache: " ++ fault.message), workspace := w }
    | .ok after =>
      { output := "Cleared result cache in " ++ ResultCache.directoryOf w c o.path ++ "\n"
        errors := warning
        workspace := after }

/-- Does what the options say, or explains how the command is used. -/
private def withOptions (w : Workspace) (arguments : List String) (act : Options → CommandOutcome) :
    CommandOutcome :=
  match readOptions {} arguments with
  | .ok o => act o
  | .error misuse => { status := 1, errors := errorLine misuse.message ++ "\n" ++ usage, workspace := w }

/-- The whole command. -/
def execute (environment : Environment) (w : Workspace) (input : String) (arguments : List String) :
    CommandOutcome :=
  match arguments with
  | [] => { status := 1, errors := usage, workspace := w }
  | first :: rest =>
    if first = "init" then newConfiguration w input rest
    else if first = "-h" || first = "--help" || first = "help" then { errors := usage, workspace := w }
    else if first = "clear-cache" then withOptions w rest (clearCache environment w)
    else withOptions w arguments (lint environment w)

end DesignLint.LintCommand
