import InfraPolicy.Calendar.Instant
import InfraPolicy.Rule.Violation

/-!
# Results of a check
-/

namespace InfraPolicy

/-- What a check found, and how much it looked at. -/
structure CheckResult where
  violations : List Violation := []
  filesScanned : Nat := 0
  resourcesFound : Nat := 0
  rulesEvaluated : Nat := 0
  /-- How long the check took. -/
  microseconds : Nat := 0
  scannedAt : Instant := {}
deriving DecidableEq, Repr, Inhabited

namespace CheckResult

/-- Has the check found a violation? -/
def hasViolations (r : CheckResult) : Bool :=
  !r.violations.isEmpty

/-- How many violations have a severity. -/
def count (r : CheckResult) (severity : Severity) : Nat :=
  r.violations.countP fun v => v.severity == severity

/-- How long the check took, in whole milliseconds. -/
def milliseconds (r : CheckResult) : Nat :=
  r.microseconds / 1000

end CheckResult

end InfraPolicy
