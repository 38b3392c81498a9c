import InfraPolicy.Rule.Basic

/-!
# Policies

Which rules are applied, and how undecided verdicts are treated.
-/

namespace InfraPolicy

/-- Which rules are applied, and what is reported. -/
structure Policy where
  /-- The least severe level that is reported. -/
  minSeverity : Severity := .info
  /-- Report verdicts that hang on unknown values. -/
  strict : Bool := false
  /-- Leave out the built-in rules. -/
  disableBuiltin : Bool := false
  /-- Identifiers of rules that are never applied. -/
  deny : List String := []
  /-- If there are any, only these rules are applied. -/
  allow : List String := []
deriving DecidableEq, Repr, Inhabited

namespace Policy

/-- Is a rule applied? Denying wins over allowing. -/
def admits (p : Policy) (rule : Rule) : Bool :=
  !p.deny.contains rule.id && (p.allow.isEmpty || p.allow.contains rule.id) &&
    rule.severity.meets p.minSeverity

/-- The rules that are applied, in order. -/
def filter (p : Policy) (rules : List Rule) : List Rule :=
  rules.filter p.admits

end Policy

end InfraPolicy
