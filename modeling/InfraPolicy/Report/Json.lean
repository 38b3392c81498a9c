import InfraPolicy.Json.Reader
import InfraPolicy.Json.Writer
import InfraPolicy.Report.Result

/-!
# Reports in JSON

A report is an object with the violations and a summary. A violation can be read back from it:
`Violation.ofJson?` takes an object by the names of its fields, or an array by their positions, and
allows a missing remediation in an object and a missing mark of an undetermined verdict in both.
-/

namespace InfraPolicy

namespace Location

/-- A place as an object. -/
def toJson (l : Location) : Json :=
  .object [("file", .string l.file), ("line", .int l.line), ("column", .int l.column)]

/-- A number of a line or a column, which fits 64 bits. -/
def number? (j : Json) : Option Nat :=
  j.nat?.filter (· < Number.twoTo 64)

/-- Read a place, an object or an array of its three fields. -/
def ofJson? (j : Json) : Option Location := do
  let (file, line, column) ←
    match j with
    | .array [file, line, column] => some (file, line, column)
    | .object _ => do some (← j.member? "file", ← j.member? "line", ← j.member? "column")
    | _ => none
  return { file := ← file.string?, line := ← number? line, column := ← number? column }

end Location

namespace Violation

/-- A violation as an object. -/
def toJson (v : Violation) : Json :=
  .object [("rule_id", .string v.ruleId), ("rule_name", .string v.ruleName),
    ("severity", .string v.severity.name), ("resource_type", .string v.resourceType),
    ("resource_name", .string v.resourceName), ("location", v.location.toJson),
    ("message", .string v.message),
    ("remediation", match v.remediation with | some s => .string s | none => .null),
    ("indeterminate", .bool v.indeterminate)]

/-- A text that may be missing or null. -/
def optionalText? : Option Json → Option (Option String)
  | none => some none
  | some .null => some none
  | some (.string s) => some (some s)
  | some _ => none

/-- A mark that may be missing. -/
def optionalMark? : Option Json → Option Bool
  | none => some false
  | some j => j.bool?

/-- Put a violation together from its fields. -/
def ofFields? (id name severity kind resource location message : Json)
    (remediation indeterminate : Option Json) : Option Violation := do
  return {
    ruleId := ← id.string?
    ruleName := ← name.string?
    severity := ← severity.string?.bind Severity.ofName?
    resourceType := ← kind.string?
    resourceName := ← resource.string?
    location := ← Location.ofJson? location
    message := ← message.string?
    remediation := ← optionalText? remediation
    indeterminate := ← optionalMark? indeterminate }

/-- Read a violation, an object or an array of its fields. -/
def ofJson? (j : Json) : Option Violation :=
  match j with
  | .array (id :: name :: severity :: kind :: resource :: location :: message :: remediation ::
      rest) =>
    if rest.length ≤ 1 then
      ofFields? id name severity kind resource location message (some remediation) rest.head?
    else none
  | .object _ => do
    ofFields? (← j.member? "rule_id") (← j.member? "rule_name") (← j.member? "severity")
      (← j.member? "resource_type") (← j.member? "resource_name") (← j.member? "location")
      (← j.member? "message") (j.member? "remediation") (j.member? "indeterminate")
  | _ => none

/-- The violations of a list. -/
def listOfJson? (j : Json) : Option (List Violation) := do
  (← j.array?).mapM ofJson?

end Violation

namespace CheckResult

/-- The counts of a result, and when the check took place. -/
def summaryJson (r : CheckResult) : Json :=
  .object [("files_scanned", .int r.filesScanned), ("resources_found", .int r.resourcesFound),
    ("rules_evaluated", .int r.rulesEvaluated), ("errors", .int (r.count .error)),
    ("warnings", .int (r.count .warning)), ("info", .int (r.count .info)),
    ("duration_ms", .int (min r.milliseconds (Number.twoTo 64 - 1))),
    ("scanned_at", .string r.scannedAt.text)]

/-- The result of a check as an object. -/
def toJson (r : CheckResult) : Json :=
  .object [("violations", .array (r.violations.map Violation.toJson)),
    ("summary", r.summaryJson)]

end CheckResult

end InfraPolicy
