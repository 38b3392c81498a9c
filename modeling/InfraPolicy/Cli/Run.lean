import InfraPolicy.Cli.Command
import InfraPolicy.Report.Render
import InfraPolicy.Report.RuleList

/-!
# Running commands

What a command does in a workspace: what it prints, what it writes, and the status with which it
ends. The status is 0 if all is well, 1 if there are violations, and 2 after errors.
-/

namespace InfraPolicy.Cli

/-- When a check was made and how long it took. -/
structure Stamp where
  microseconds : Nat := 0
  scannedAt : Instant := {}
deriving Inhabited

/-- What a command leaves behind. Reports show when they were made, which is not known before. -/
structure Outcome where
  status : Nat
  /-- The lines of the error stream. -/
  messages : List String := []
  output : Stamp → String := fun _ => ""
  /-- A file to write, by its name and content. -/
  file : Option (String × (Stamp → String)) := none
deriving Inhabited

namespace Outcome

/-- The outcome of a command that fails. -/
def failed (e : Error) : Outcome :=
  { status := 2, messages := [s!"Error: {e.message}"] }

/-- Put lines before those of the error stream. -/
def withMessages (messages : List String) (o : Outcome) : Outcome :=
  { o with messages := messages ++ o.messages }

/-- The workspace after the file has been written. -/
def apply (o : Outcome) (stamp : Stamp) (w : Workspace) : Workspace :=
  match o.file with
  | some (path, content) => (w.write path (content stamp)).toOption.getD w
  | none => w

end Outcome

/-- The outcome of wrong arguments. -/
def usageError : Outcome :=
  { status := 2 }

/-- The choice that a text names, and a warning if it names none. -/
def choice {α : Type} (what : String) (ofName? : String → Option α) (text : Option String) :
    Option α × List String :=
  match text with
  | none => (none, [])
  | some name =>
    match ofName? name with
    | some a => (some a, [])
    | none => (none, [s!"Warning: unknown {what} '{name}', using config default"])

/-- The report on a result that was stamped. -/
def report (r : CheckResult) (format : OutputFormat) (stamp : Stamp) : String :=
  CheckResult.render
    { r with microseconds := stamp.microseconds, scannedAt := stamp.scannedAt } format

/-- Check a target and report what is found. -/
def scanOutcome (w : Workspace) (target : String) (options : Options)
    (explicit : Option OutputFormat) (output : Option String) : Except Error Outcome := do
  let format ← options.outputFormat w target explicit
  let r ← options.scan w target
  let status := if r.hasViolations then 1 else 0
  match output with
  | some path =>
    let _ ← (w.target path).mapError Error.unreadable
    return { status, file := some (path, report r format) }
  | none => return { status, output := report r format }

/-- List rules as JSON, or as a table. -/
def listOutcome (w : Workspace) (options : Options) (format : String) : Except Error Outcome := do
  let rules ← options.knownRules w
  return {
    status := 0
    output := fun _ => if format == "json" then RuleList.json rules else RuleList.table rules }

/-- Write a configuration file, but not over another one unless forced to. -/
def initOutcome (w : Workspace) (force : Bool) : Except Error Outcome := do
  let path := Config.fileName
  if w.contains path && !force then
    return { status := 1, messages := [s!"{path} already exists. Use --force to overwrite."] }
  else
    let _ ← (w.target path).mapError Error.unreadable
    return {
      status := 0
      output := fun _ => s!"Created {path}\n"
      file := some (path, fun _ => Config.starter) }

/-- The name and version of the program. -/
def versionLine : String := "gatekeeper 0.1.0\n"

/-- Where an error ends a run, it is the outcome. -/
def orFailed : Except Error Outcome → Outcome
  | .ok o => o
  | .error e => .failed e

/-- Run a command. -/
def Command.run (w : Workspace) : Command → Outcome
  | .scan target options minSeverity format output =>
    let (severity, severityWarning) := choice "severity" Severity.ofName? minSeverity
    let (explicit, formatWarning) := choice "format" OutputFormat.ofName? format
    let options := { options with minSeverity := severity }
    (orFailed (scanOutcome w target options explicit output)).withMessages
      (severityWarning ++ formatWarning)
  | .listRules options format => orFailed (listOutcome w options format)
  | .init force => orFailed (initOutcome w force)
  | .version => { status := 0, output := fun _ => versionLine }

/-- Run the command of arguments, where `environment` is the value of `strictVariable`. -/
def run (w : Workspace) (environment : Option String) (arguments : List String) : Outcome :=
  match Command.parse? environment arguments with
  | some command => command.run w
  | none => usageError

end InfraPolicy.Cli
