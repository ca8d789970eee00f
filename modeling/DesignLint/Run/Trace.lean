import DesignLint.Files.Workspace
import DesignLint.Json.Writer
import DesignLint.Text.Blank

/-! What a run leaves behind besides its report: what it prints, what it logs, the steps it went through and the
files it writes. -/
namespace DesignLint

/-- Settings from outside. -/
structure Environment where
  values : List (String × String) := []

namespace Environment

/-- The value of a variable, empty if it is not set. -/
def get (e : Environment) (name : String) : String := (e.values.lookup name).getD ""

/-- The home directory. -/
def home? (e : Environment) : Option String := if e.get "HOME" = "" then none else some (e.get "HOME")

end Environment

/-- How important a record of the log is. -/
inductive LogLevel where
  | debug
  | warn

/-- The word for a level. -/
def LogLevel.word : LogLevel → String
  | debug => "DEBUG"
  | warn => "WARN"

/-- A record of the log. -/
structure LogRecord where
  level : LogLevel
  message : String
  fields : List (String × String)

/-- The record on one line. No clock is read, so the time is left open. -/
def LogRecord.line (r : LogRecord) : String :=
  "time=- level=" ++ r.level.word ++ " msg=\"" ++ r.message ++ "\""
    ++ String.join (r.fields.map fun f => " " ++ f.1 ++ "=" ++ f.2) ++ "\n"

/-- A step of a run, or of a run for one file. No clock is read, so all steps take no time. -/
structure TimingEvent where
  phase : String
  file : Option String := none
  status : String := ""

namespace TimingEvent

/-- The event as an object. -/
def toJson (e : TimingEvent) : Json :=
  let kind := if e.file.isSome then "file" else "stage"
  .object ([("phase", .ofString e.phase), ("kind", .ofString kind)] ++
    (e.file.elim [] fun f => if f = "" then [] else [("file", .ofString f)]) ++
    (if e.status = "" then [] else [("status", .ofString e.status)]) ++
    [("start_ms", .ofNat 0), ("duration_ms", .ofNat 0), ("end_ms", .ofNat 0)])

/-- Events as text, one on each line. -/
def lines (events : List TimingEvent) : String := String.join (events.map fun e => e.toJson.compact ++ "\n")

/-- The file for events: a variable names it, else it stands beside the files that are analysed. -/
def path? (e : Environment) (w : Workspace) (wanted : Bool) (root : String) : Option String :=
  match e.get "VHDL_TIMING_JSONL" with
  | "" =>
    if !wanted && !isOn (e.get "VHDL_TIMING") then none
    else if root = "" then some "timing.jsonl"
    else some (Path.join [if w.isFile root then Path.directory root else root, "timing.jsonl"])
  | path => some path

end TimingEvent
end DesignLint
