import InfraPolicy.Rule.Definition
import InfraPolicy.Rule.Version

/-!
# Rule sets

The rules of one source with the version that the source gives itself. Every kind of rule file
decodes to a `RuleSetDef`, which `RuleSetDef.compile` checks.
-/

namespace InfraPolicy

/-- The rules of one source, checked and compiled. -/
structure RuleSet where
  version : Option Version := none
  rules : List Rule := []
deriving Inhabited

/-- A rule file as it is written. -/
structure RuleSetDef where
  version : Option String := none
  rules : List RuleDef := []
deriving Inhabited, Repr

/-- Why a rule file is no rule set. -/
inductive RuleSetFault where
  | invalidVersion (text : String)
  | rule (e : RuleError)
deriving DecidableEq, Repr, Inhabited

namespace RuleSetDef

/-- Check the version, then the rules. -/
def compile (d : RuleSetDef) : Except RuleSetFault RuleSet :=
  let finish (version : Option Version) : Except RuleSetFault RuleSet :=
    match RuleDef.compileAll d.rules with
    | .ok rules => .ok ⟨version, rules⟩
    | .error e => .error (.rule e)
  match d.version with
  | none => finish none
  | some text =>
    match Version.parse? (Text.trim text) with
    | some v => finish (some v)
    | none => .error (.invalidVersion text)

end RuleSetDef

end InfraPolicy
