import InfraPolicy.Condition.Verdict
import InfraPolicy.Resource.Message
import InfraPolicy.Rule.Basic

/-!
# Violations

What a report says about a resource that breaks a rule. A verdict that hangs on unknown values is
reported in strict mode only, and marked.
-/

namespace InfraPolicy

/-- One entry of a report. -/
structure Violation where
  ruleId : String
  ruleName : String
  severity : Severity
  resourceType : String
  resourceName : String
  location : Location
  message : String
  remediation : Option String
  /-- Reported although the verdict could not be determined. -/
  indeterminate : Bool := false
deriving DecidableEq, Repr, Inhabited

namespace Rule

/-- The violation to report for a verdict that is reported at all. -/
def violation (rule : Rule) (r : Resource) (indeterminate : Bool) : Violation :=
  { ruleId := rule.id
    ruleName := rule.name
    severity := rule.severity
    resourceType := r.kind
    resourceName := r.name
    location := r.location
    message := Message.render rule.message r
    remediation := if rule.remediation.isEmpty then none else some rule.remediation
    indeterminate }

/-- Is a verdict reported? -/
def reports (strict : Bool) (v : Verdict) : Bool :=
  if v.unknown then strict else !v.passed

/-- Check a resource against a rule. -/
def violation? (strict : Bool) (rule : Rule) (r : Resource) : Option Violation :=
  if rule.appliesTo r then
    let v := rule.condition.verdict r.attributes
    if reports strict v then some (rule.violation r v.unknown) else none
  else none

end Rule

end InfraPolicy
