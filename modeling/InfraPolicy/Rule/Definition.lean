import InfraPolicy.Rule.Basic
import InfraPolicy.Rule.Fault
import InfraPolicy.Text.SortedSet

/-!
# Definitions of rules

A rule as a rule file spells it. `RuleDef.compile` checks the parts of one definition in a fixed
order and reports the first that is missing or wrong; `RuleDef.compileAll` turns a list of
definitions into rules, all of them or none.
-/

namespace InfraPolicy

/-- A rule as it is written. A part that is not written is empty. -/
structure RuleDef where
  id : String := ""
  name : String := ""
  description : String := ""
  severity : String := ""
  resourceType : String := ""
  condition : Option ConditionDef := none
  message : String := ""
  remediation : String := ""
  tags : List String := []
deriving Inhabited, Repr

namespace RuleDef

/-- What names the definition in errors: its identifier, or its position if it has none. -/
def label (index : Nat) (d : RuleDef) : String :=
  let id := Text.trim d.id
  if id.isEmpty then s!"#{index}" else id

/-- The tags without blanks around them, sorted, without repetition; blank tags do not count. -/
def normalTags (tags : List String) : List String :=
  Text.sortedSet ((tags.map Text.trim).filter fun t => !t.isEmpty)

/-- Check the parts of a definition in order: identifier, name, severity, resource type,
condition, message. -/
def check (d : RuleDef) : Except RuleFault Rule :=
  if Text.isBlankText d.id then .error (.missing .id)
  else if Text.isBlankText d.name then .error (.missing .name)
  else if Text.isBlankText d.severity then .error (.missing .severity)
  else
    match Severity.ofName? d.severity with
    | none => .error (.invalidSeverity d.severity)
    | some severity =>
      if Text.isBlankText d.resourceType then .error (.missing .resourceType)
      else
        match d.condition with
        | none => .error (.missing .condition)
        | some c =>
          match c.compile with
          | .error e => .error (.condition e)
          | .ok condition =>
            if Text.isBlankText d.message then .error (.missing .message)
            else .ok
              { id := Text.trim d.id
                name := Text.trim d.name
                description := Text.trim d.description
                severity
                resourceKind := Text.trim d.resourceType
                condition
                message := d.message
                remediation := Text.trim d.remediation
                tags := normalTags d.tags }

/-- The rule that a definition stands for; `index` is its position, from 0. -/
def compile (index : Nat) (d : RuleDef) : Except RuleError Rule :=
  d.check.mapError fun fault => ⟨d.label index, fault⟩

/-- Compile definitions, the first of which has the given position, when the identifiers `seen`
are taken. -/
def compileFrom (index : Nat) (seen : List String) : List RuleDef → Except RuleError (List Rule)
  | [] => .ok []
  | d :: rest =>
    match d.compile index with
    | .error e => .error e
    | .ok rule =>
      if seen.contains rule.id then .error ⟨rule.id, .duplicate⟩
      else (compileFrom (index + 1) (rule.id :: seen) rest).map (rule :: ·)

/-- The rules of a list of definitions. Identifiers may not repeat. -/
def compileAll (defs : List RuleDef) : Except RuleError (List Rule) :=
  compileFrom 0 [] defs

end RuleDef

end InfraPolicy
