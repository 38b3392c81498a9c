import InfraPolicy.PathName
import InfraPolicy.Report.Result

/-!
# Reports for the console

Violations are listed from the most severe to the least, and by place where the severity is the
same.
-/

namespace InfraPolicy

namespace Location

/-- Places in order: by file, then line, then column. -/
def compare (a b : Location) : Ordering :=
  (PathName.compare a.file b.file).then
    ((Ord.compare a.line b.line).then (Ord.compare a.column b.column))

end Location

namespace Violation

/-- Violations in order: by severity, then by place. -/
def compare (a b : Violation) : Ordering :=
  (Ord.compare a.severity.rank b.severity.rank).then (a.location.compare b.location)

/-- Is a violation listed before another, or may either come first? -/
def listedBefore (a b : Violation) : Bool :=
  (compare a b).isLE

end Violation

namespace Console

/-- The severity in front of an entry, padded to one width. -/
def tag : Severity → String
  | .error => "[ERROR]  "
  | .warning => "[WARNING]"
  | .info => "[INFO]   "

/-- The lines on one violation. -/
def entry (v : Violation) : String :=
  let marker := if v.indeterminate then " (indeterminate)" else ""
  let place := s!"{v.resourceType}.{v.resourceName} ({v.location.file}:{v.location.line})"
  let fix :=
    match v.remediation with
    | some text => s!"            fix: {text}\n"
    | none => ""
  s!"  {tag v.severity} {v.ruleId} {v.message}{marker}\n            at {place}\n{fix}\n"

/-- The violations in the order in which they are listed; those that are equal in severity and
place keep their order. -/
def sorted (violations : List Violation) : List Violation :=
  violations.mergeSort Violation.listedBefore

/-- What was scanned, and how long it took. -/
def summary (r : CheckResult) : String :=
  let files := s!"{r.filesScanned} file(s), {r.resourcesFound} resource(s)"
  s!"  Scanned {files}, {r.rulesEvaluated} rule(s) in {r.milliseconds} ms\n\n"

/-- How many violations there are of each severity. -/
def tallies (r : CheckResult) : String :=
  s!"  Errors: {r.count .error}, warnings: {r.count .warning}, info: {r.count .info}\n"

/-- The report of a check for a console. -/
def render (r : CheckResult) : String :=
  if r.violations.isEmpty then "\n  No violations found.\n" ++ summary r
  else
    s!"\n  {r.violations.length} violation(s) found:\n\n"
      ++ String.join ((sorted r.violations).map entry) ++ tallies r ++ summary r

end Console

end InfraPolicy
