import InfraPolicy.Error
import InfraPolicy.Rule.RuleSet

/-!
# Rules from a source

A source has a name, which errors give.
-/

namespace InfraPolicy.RuleSetDef

/-- The rule set of a definition that was read from a source. -/
def load (source : String) (d : RuleSetDef) : Except Error RuleSet :=
  match d.compile with
  | .ok set => .ok set
  | .error (.invalidVersion text) => .error (.load source (.invalidVersion text))
  | .error (.rule e) => .error (.rule e)

end InfraPolicy.RuleSetDef
