import InfraPolicy.RuleFile.Source
import InfraPolicy.Yaml.Decode

/-!
# Rule files in YAML

A rule file in YAML is a mapping with an optional `version` and a list of `rules`. Fields that are
not known do not count; a field that is known may occur once, under one of its names.
-/

namespace InfraPolicy.RuleFile

open Yaml (Node Decoder)

/-- The text of a field; empty if the field is missing. -/
def yamlText (name : List String) (pairs : List (String × Node)) : Decoder String := do
  match ← Decoder.field name pairs with
  | some n => Decoder.text n
  | none => return ""

/-- A field that is missing or stands for nothing is none. -/
def yamlOptional (name : String) (pairs : List (String × Node)) : Decoder (Option Node) := do
  match ← Decoder.field [name] pairs with
  | some n => Decoder.optional n
  | none => return none

/-- The items of a field; none if the field is missing. -/
def yamlItems (depth : Nat) (names : List String) (pairs : List (String × Node)) :
    Decoder (List Node) := do
  match ← Decoder.field names pairs with
  | some n => Decoder.items depth n
  | none => return []

/-- A condition, down to a depth. -/
def yamlCondition : Nat → Node → Decoder ConditionDef
  | 0, n => do
    let _ ← Decoder.fields 0 n
    return {}
  | depth + 1, n => do
    let pairs ← Decoder.fields (depth + 1) n
    let path ← (← yamlOptional "attribute" pairs).mapM Decoder.text
    let operator ← yamlText ["operator"] pairs
    let value ← (← yamlOptional "value" pairs).mapM (Decoder.json depth)
    let nodes ← yamlItems depth ["conditions", "children"] pairs
    let conditions ←
      match depth with
      | 0 => pure []
      | depth + 1 => nodes.mapM (yamlCondition depth)
    return { path, operator, value, conditions }

/-- A rule, down to a depth. -/
def yamlRule (depth : Nat) (n : Node) : Decoder RuleDef := do
  let pairs ← Decoder.fields depth n
  let id ← yamlText ["id"] pairs
  let name ← yamlText ["name"] pairs
  let description ← yamlText ["description"] pairs
  let severity ← yamlText ["severity"] pairs
  let resourceType ← yamlText ["resource_type", "resource_kind"] pairs
  let condition ← (← yamlOptional "condition" pairs).mapM (yamlCondition (depth - 1))
  let message ← yamlText ["message"] pairs
  let remediation ← yamlText ["remediation"] pairs
  let tags ← (← yamlItems (depth - 1) ["tags"] pairs).mapM Decoder.text
  return { id, name, description, severity, resourceType, condition, message, remediation, tags }

/-- The definitions of a rule file. -/
def yamlRuleSet (n : Node) : Decoder RuleSetDef := do
  let depth := Decoder.depthLimit
  let pairs ← Decoder.fields depth n
  let version ← (← yamlOptional "version" pairs).mapM Decoder.text
  let rules ← (← yamlItems (depth - 1) ["rules"] pairs).mapM (yamlRule (depth - 2))
  return { version, rules }

/-- Read a rule file in YAML. One that is blank has no rules. -/
def loadYaml (source content : String) : Except Error RuleSet :=
  if Text.isBlankText content then .ok {}
  else
    match Yaml.decode? yamlRuleSet content with
    | some d => d.load source
    | none => .error (.load source .malformed)

end InfraPolicy.RuleFile
