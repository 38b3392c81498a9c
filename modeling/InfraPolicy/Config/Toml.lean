import InfraPolicy.Config.Basic
import InfraPolicy.Text.SortedSet
import InfraPolicy.Toml.Parser
import InfraPolicy.Toml.Record

/-!
# Configuration files

A configuration file is a TOML document with the tables `policy` and `output` and a list of `rules`,
all of which may be missing.
-/

namespace InfraPolicy.Config

open Toml (textOr text? switch? items? texts?)

/-- The least severity of a policy; it may be missing but must be known. -/
def severity? (field : Option Toml.Value) : Option Severity := do
  match ← text? field with
  | none => some .info
  | some name => Severity.ofName? name

/-- The policy. Without a least level all are reported. -/
def policy? (v : Toml.Value) : Option Policy := do
  let [min, strict, disable, deny, allow] ← v.record?
    [["min_severity"], ["strict"], ["disable_builtin"], ["deny_rules"], ["allow_rules"]] | none
  return {
    minSeverity := ← severity? min
    strict := ← switch? strict
    disableBuiltin := ← switch? disable
    deny := Text.sortedSet (← texts? deny)
    allow := Text.sortedSet (← texts? allow) }

/-- The format in the table on output. -/
def format? (v : Toml.Value) : Option (Option String) := do
  let [format] ← v.record? [["format"]] | none
  text? format

/-- A condition, down to a depth. -/
def condition? : Nat → Toml.Value → Option ConditionDef
  | 0, v => (v.record? []).map fun _ => {}
  | depth + 1, v => do
    let [path, operator, value, conditions] ← v.record?
      [["attribute"], ["operator"], ["value"], ["conditions", "children"]] | none
    return {
      path := ← text? path
      operator := ← textOr operator
      value := value.map Toml.Value.toJson
      conditions := ← (← items? conditions).mapM (condition? depth) }

/-- A rule that the configuration file defines itself. -/
def rule? (v : Toml.Value) : Option RuleDef := do
  let [id, name, description, severity, resourceType, condition, message, remediation, tags] ←
    v.record? [["id"], ["name"], ["description"], ["severity"], ["resource_type", "resource_kind"],
      ["condition"], ["message"], ["remediation"], ["tags"]] | none
  return {
    id := ← textOr id
    name := ← textOr name
    description := ← textOr description
    severity := ← textOr severity
    resourceType := ← textOr resourceType
    condition := ← condition.mapM fun c => condition? c.depth c
    message := ← textOr message
    remediation := ← textOr remediation
    tags := ← texts? tags }

/-- The configuration that a document spells. -/
def ofValue? (v : Toml.Value) : Option Config := do
  let [policy, output, rules] ← v.record? [["policy"], ["output"], ["rules"]] | none
  return {
    policy := (← policy.mapM policy?).getD {}
    format := ((← output.mapM format?).getD none)
    rules := ← (← items? rules).mapM rule? }

/-- Read the content of a configuration file. -/
def parse (content : String) : Except Error Config :=
  match (Toml.parse? content).bind ofValue? with
  | some c => .ok c
  | none => .error .toml

end InfraPolicy.Config
