import InfraPolicy.Report.Console
import InfraPolicy.Report.Format
import InfraPolicy.Report.Json

/-!
# Writing results
-/

namespace InfraPolicy

namespace CheckResult

/-- The text of a result in a format. -/
def render (r : CheckResult) : OutputFormat → String
  | .console => Console.render r
  | .json => r.toJson.prettyText

end CheckResult

end InfraPolicy
