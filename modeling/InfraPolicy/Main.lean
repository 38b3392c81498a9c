import InfraPolicy.Cli.Run
import Std.Time.DateTime.Timestamp

/-!
# The program

The files that a command names are read from disk. Those of a directory that is scanned are given on
standard input, one name a line, as a listing of its files prints them: for instance
`find . -type f | gatekeeper scan -R .`.
-/

namespace InfraPolicy.Main

/-- Add a file to a workspace, if it can be read. -/
def addFile (w : Workspace) (path : String) : IO Workspace := do
  try
    let content ← IO.FS.readBinFile path
    return w.put path (.file content)
  catch _ => return w

/-- The lines of a stream. -/
partial def lines (input : IO.FS.Stream) : IO (List String) := do
  let line ← input.getLine
  if line.isEmpty then return []
  else
    let rest ← lines input
    return (line.dropEndWhile (· == '\n')).toString :: rest

/-- The directory of a target that is scanned and is not a file. -/
def directory? (w : Workspace) : Cli.Command → Option String
  | .scan target _ _ _ _ => if w.isFile target then none else some target
  | _ => none

/-- The directory of a report that is written to a file. Whether it exists shows when the report is
written. -/
def addOutputDir (w : Workspace) : Cli.Command → Workspace
  | .scan _ _ _ _ (some path) => w.makeDir (PathName.join (PathName.parentText path) ".")
  | _ => w

/-- The part of the disk that a command looks at. -/
def snapshot (c : Cli.Command) : IO Workspace := do
  let cwd := (PathName.segments ((← IO.getEnv "PWD").getD "")).filter fun s => s != ""
  let empty : Workspace := { root := FileTree.put (.dir []) cwd (.dir []), cwd }
  let named ← c.files.foldlM addFile (addOutputDir empty c)
  match directory? named c with
  | none => return named
  | some _ => (← lines (← IO.getStdin)).foldlM addFile named

/-- The time by the clock of the system. -/
def now : IO Instant := do
  let t ← Std.Time.Timestamp.now
  let nanoseconds := t.toNanosecondsSinceUnixEpoch.val
  return ⟨nanoseconds / 1000000000, (nanoseconds % 1000000000).toNat⟩

/-- Write a file; that this fails is an error of the command. -/
def writeFile (path content : String) : IO Bool := do
  try
    IO.FS.writeFile path content
    return true
  catch e =>
    IO.eprintln s!"Error: IO error: {e}"
    return false

/-- Run a command and show its outcome. -/
def perform (c : Cli.Command) : IO UInt32 := do
  let w ← snapshot c
  let scannedAt ← now
  let start ← IO.monoNanosNow
  let outcome := c.run w
  outcome.messages.forM (IO.eprintln ·)
  let status := outcome.status
  let stop ← IO.monoNanosNow
  let stamp : Cli.Stamp := { microseconds := (stop - start) / 1000, scannedAt }
  let written ←
    match outcome.file with
    | some (path, content) => writeFile path (content stamp)
    | none => pure true
  if written then
    IO.print (outcome.output stamp)
    return UInt32.ofNat status
  else return 2

end InfraPolicy.Main

def main (arguments : List String) : IO UInt32 := do
  match InfraPolicy.Cli.Command.parse? (← IO.getEnv InfraPolicy.Cli.strictVariable) arguments with
  | some c => InfraPolicy.Main.perform c
  | none =>
    IO.eprintln "usage: gatekeeper scan|list-rules|init [options]"
    return 2
