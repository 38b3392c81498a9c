import InfraPolicy.Condition.Definition

/-!
# Faults of rules

Why a definition is no rule, with the text of each cause.
-/

namespace InfraPolicy

/-- The parts that every rule must have. -/
inductive RulePart where
  | id
  | name
  | severity
  | resourceType
  | condition
  | message
deriving DecidableEq, Repr, Inhabited

namespace RulePart

/-- The name of a part as a rule file spells it. -/
def label : RulePart → String
  | .id => "id"
  | .name => "name"
  | .severity => "severity"
  | .resourceType => "resource_type"
  | .condition => "condition"
  | .message => "message"

end RulePart

/-- What is wrong with the block that spells a rule. -/
inductive BlockFault where
  | notText (key : String) (typeName : String)
  | notTextList (key : String) (typeName : String)
  | unknownAttribute (key : String)
  | severalConditions
  | unknownBlock (name : String)
  | notLiteral
  | unknownConditionAttribute (key : String)
  | unknownConditionBlock (name : String)
deriving DecidableEq, Repr, Inhabited

namespace BlockFault

/-- What a fault of a block says. -/
def message : BlockFault → String
  | .notText key typeName => s!"`{key}` must be a string, got {typeName}"
  | .notTextList key typeName => s!"`{key}` must be a list of strings, got {typeName}"
  | .unknownAttribute key => s!"unknown attribute `{key}`"
  | .severalConditions =>
    "more than one top-level `condition` block; combine them with `all` or `any`"
  | .unknownBlock name => s!"unknown block `{name}`"
  | .notLiteral => "condition `value` must be a literal"
  | .unknownConditionAttribute key => s!"unknown condition attribute `{key}`"
  | .unknownConditionBlock name => s!"unknown block `{name}` inside condition"

end BlockFault

/-- What is wrong with a rule. -/
inductive RuleFault where
  | missing (part : RulePart)
  | invalidSeverity (text : String)
  | condition (e : ConditionError)
  | duplicate
  | block (fault : BlockFault)
deriving DecidableEq, Repr, Inhabited

namespace RuleFault

/-- What a fault says, without the rule it is about. -/
def message : RuleFault → String
  | .missing part => s!"missing `{part.label}`"
  | .invalidSeverity text => s!"invalid severity `{text}` (expected error, warning or info)"
  | .condition e => e.message "condition"
  | .duplicate => "duplicate rule id"
  | .block fault => fault.message

end RuleFault

/-- A fault and the rule it is about, by identifier or by position. -/
structure RuleError where
  label : String
  fault : RuleFault
deriving DecidableEq, Repr, Inhabited

namespace RuleError

/-- What an error says. -/
def message (e : RuleError) : String :=
  s!"Rule error ({e.label}): {e.fault.message}"

end RuleError

end InfraPolicy
