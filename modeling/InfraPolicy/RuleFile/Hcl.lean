import InfraPolicy.Hcl.Parser
import InfraPolicy.Hcl.Scope
import InfraPolicy.RuleFile.Source

/-!
# Rule files in HCL

A rule file in HCL is a body with an optional `version` and a `rule` block for each rule, labelled
with the identifier. The condition of a rule is a `condition` block; conditions nest as blocks do.
All expressions are literals: they are evaluated without variables.
-/

namespace InfraPolicy.RuleFile

open Hcl (Item Block Expr Scope)

/-- The text of an attribute. -/
def textOf (key : String) (v : Value) : Except BlockFault String :=
  match v with
  | .string s => .ok s
  | other => .error (.notText key other.typeName)

/-- The texts of an attribute that is a list. -/
def textsOf (key : String) (v : Value) : Except BlockFault (List String) :=
  match v with
  | .list items => items.mapM (textOf key)
  | other => .error (.notTextList key other.typeName)

/-! ### Conditions -/

/-- Take an attribute of a condition block into a definition. -/
def setConditionAttr (d : ConditionDef) (key : String) (v : Value) :
    Except BlockFault ConditionDef :=
  match key with
  | "attribute" => (textOf key v).map fun s => { d with path := some s }
  | "operator" => (textOf key v).map fun s => { d with operator := s }
  | "value" =>
    if v.hasIndeterminate then .error .notLiteral else .ok { d with value := some v.toJson }
  | _ => .error (.unknownConditionAttribute key)

/-- The definition that the attributes of a condition block give, one after another. -/
def conditionOfAttrs (d : ConditionDef) : List Item → Except BlockFault ConditionDef
  | [] => .ok d
  | .attr name e :: rest => do
    let d ← setConditionAttr d name (({} : Scope).eval e)
    conditionOfAttrs d rest
  | .block .. :: rest => conditionOfAttrs d rest

mutual

/-- The condition that an item of a condition block adds, if the item is a block: its attributes
first, then the blocks in it. -/
def conditionOfItem : Item → Except BlockFault (Option ConditionDef)
  | .attr .. => .ok none
  | .block name _ body =>
    if name != "condition" then .error (.unknownConditionBlock name)
    else do
      let d ← conditionOfAttrs {} body
      let conditions ← conditionsOfItems body
      return some { d with conditions }

/-- The conditions of the blocks of a body. -/
def conditionsOfItems : List Item → Except BlockFault (List ConditionDef)
  | [] => .ok []
  | item :: rest => do
    let c ← conditionOfItem item
    let cs ← conditionsOfItems rest
    return c.toList ++ cs

end

/-- A condition block by its body. -/
def conditionOfBody (body : List Item) : Except BlockFault ConditionDef := do
  let d ← conditionOfAttrs {} body
  let conditions ← conditionsOfItems body
  return { d with conditions }

/-! ### Rules -/

/-- Take an attribute of a rule block into a definition. -/
def setRuleAttr (d : RuleDef) (key : String) (v : Value) : Except BlockFault RuleDef :=
  match key with
  | "id" => (textOf key v).map fun s => { d with id := s }
  | "name" => (textOf key v).map fun s => { d with name := s }
  | "description" => (textOf key v).map fun s => { d with description := s }
  | "severity" => (textOf key v).map fun s => { d with severity := s }
  | "resource_type" | "resource_kind" => (textOf key v).map fun s => { d with resourceType := s }
  | "message" => (textOf key v).map fun s => { d with message := s }
  | "remediation" => (textOf key v).map fun s => { d with remediation := s }
  | "tags" => (textsOf key v).map fun tags => { d with tags }
  | _ => .error (.unknownAttribute key)

/-- The definition that the attributes of a rule block give, one after another. -/
def ruleOfAttrs (d : RuleDef) : List (String × Expr) → Except BlockFault RuleDef
  | [] => .ok d
  | (name, e) :: rest => do
    let d ← setRuleAttr d name (({} : Scope).eval e)
    ruleOfAttrs d rest

/-- The condition of a rule, of which there is at most one. -/
def conditionOfBlocks (blocks : List Block) : Except BlockFault (Option ConditionDef) :=
  match blocks.filter fun b => b.name == "condition" with
  | [] => .ok none
  | [b] => (conditionOfBody b.body).map some
  | _ => .error .severalConditions

/-- A rule block. Its label is the identifier unless an attribute gives another. -/
def ruleOfBlock (b : Block) : Except BlockFault RuleDef := do
  let d ← ruleOfAttrs { id := b.labels.headD "" } (Item.attrs b.body)
  let blocks := Item.blocks b.body
  let condition ← conditionOfBlocks blocks
  match blocks.find? fun inner => inner.name != "condition" with
  | some other => .error (.unknownBlock other.name)
  | none => return { d with condition }

/-- The definitions of a rule file, item by item. -/
def definitionsOf (source : String) (d : RuleSetDef) : List Item → Except Error RuleSetDef
  | [] => .ok d
  | .attr name e :: rest =>
    if name == "version" then
      match ({} : Scope).eval e with
      | .string text => definitionsOf source { d with version := some text } rest
      | other => .error (.load source (.versionNotText other.typeName))
    else .error (.load source (.unexpectedAttribute name))
  | .block name labels body :: rest =>
    if name == "rule" then
      match ruleOfBlock ⟨name, labels, body⟩ with
      | .ok rule => definitionsOf source { d with rules := d.rules ++ [rule] } rest
      | .error fault =>
        .error (.rule ⟨labels.headD s!"#{d.rules.length}", .block fault⟩)
    else .error (.load source (.unexpectedBlock name))

/-- Read a rule file in HCL. -/
def loadHcl (source content : String) : Except Error RuleSet := do
  match Hcl.parseBody? content with
  | none => .error (.load source .malformed)
  | some body =>
    let d ← definitionsOf source {} body
    d.load source

end InfraPolicy.RuleFile
