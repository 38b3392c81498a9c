import InfraPolicy.Proofs.FieldLookup
import InfraPolicy.RuleFile.Hcl
import InfraPolicy.RuleFile.Yaml
import Mathlib.Tactic.SplitIfs

/-!
# Rules in two notations

Definitions of rules are written as the items of an HCL body: a block for every rule and for every
node of its condition, an attribute for every other part, and a literal for every value. Reading the
items gives the definitions back (`RuleFile.definitionsOf_toItems`), so it makes no difference
whether rules stand in such a body or in a YAML file with the same definitions.

What can be written as a literal is said by `Json.isLiteral`: texts, truth values, null and integers
of 64 bits, in lists and objects of any depth.
-/

namespace InfraPolicy

open Hcl (Expr Item Scope)

/-! ### Literals -/

namespace Json

mutual

/-- A value that a literal expression can have. -/
def isLiteral : Json → Bool
  | .null | .bool _ | .string _ => true
  | .int n => -(Number.twoTo 63 : Int) ≤ n && n < Number.twoTo 63
  | .float _ => false
  | .array items => areLiteral items
  | .object members => decide (members.map Prod.fst).Nodup && areLiteralMembers members

/-- All items can be written as literals. -/
def areLiteral : List Json → Bool
  | [] => true
  | j :: rest => j.isLiteral && areLiteral rest

/-- All members can be written as literals. -/
def areLiteralMembers : List (String × Json) → Bool
  | [] => true
  | (_, j) :: rest => j.isLiteral && areLiteralMembers rest

end

mutual

/-- The literal expression for a value. -/
def toExpr : Json → Expr
  | .null => .null
  | .bool b => .bool b
  | .int n => .int (Int64.ofInt n)
  | .float x => .float x
  | .string s => .text s
  | .array items => .list (toExprs items)
  | .object members => .object (toExprMembers members)

/-- The literals for items. -/
def toExprs : List Json → List Expr
  | [] => []
  | j :: rest => j.toExpr :: toExprs rest

/-- The literals for members, under keys in quotes. -/
def toExprMembers : List (String × Json) → List (Expr × Expr)
  | [] => []
  | (k, j) :: rest => (.text k, j.toExpr) :: toExprMembers rest

end

/-- An integer of 64 bits comes back from its word. -/
theorem toInt_ofInt_of_isLiteral {n : Int} (h : (Json.int n).isLiteral = true) :
    (Int64.ofInt n).toInt = n := by
  have htwo : Number.twoTo 63 = 2 ^ 63 := rfl
  simp only [isLiteral, htwo, Bool.and_eq_true, decide_eq_true_eq] at h
  exact Int64.toInt_ofInt_of_le (by omega) (by omega)

end Json

theorem Fields.insert_of_notMem {fields : Fields} {key : String} (h : key ∉ fields.keys)
    (v : Value) : fields.insert key v = fields ++ [(key, v)] := by
  induction fields with
  | nil => rfl
  | cons p rest ih =>
    obtain ⟨k, w⟩ := p
    simp only [keys, List.map_cons, List.mem_cons, not_or] at h
    rw [insert, if_neg (Ne.symm h.1), ih h.2, List.cons_append]

namespace Hcl.Scope

variable (scope : Scope)

/-- The fields of an object of literals stand in the order of its members. -/
theorem evalFields_toExprMembers {members : List (String × Json)} {fields : Fields}
    (hnodup : (fields.keys ++ members.map Prod.fst).Nodup) :
    scope.evalFields fields (Json.toExprMembers members) =
      fields ++ members.map fun p => (p.1, scope.eval p.2.toExpr) := by
  induction members generalizing fields with
  | nil => rw [Json.toExprMembers, evalFields, List.map_nil, List.append_nil]
  | cons p rest ih =>
    obtain ⟨k, j⟩ := p
    have hk : k ∉ fields.keys := fun hmem =>
      List.disjoint_of_nodup_append hnodup hmem List.mem_cons_self
    have hinsert := Fields.insert_of_notMem hk (scope.eval j.toExpr)
    have hrest : ((fields.insert k (scope.eval j.toExpr)).keys ++ rest.map Prod.fst).Nodup := by
      simpa [hinsert, Fields.keys] using hnodup
    calc scope.evalFields fields (Json.toExprMembers ((k, j) :: rest))
        = scope.evalFields (fields.insert k (scope.eval j.toExpr)) (Json.toExprMembers rest) := rfl
      _ = fields ++ ((k, j) :: rest).map fun p => (p.1, scope.eval p.2.toExpr) := by
          rw [ih hrest, hinsert, List.append_assoc, List.singleton_append, List.map_cons]

mutual

/-- **A literal has the value that it is written for**, whatever the scope. -/
theorem toJson_eval_toExpr : ∀ {j : Json}, j.isLiteral = true →
    (scope.eval j.toExpr).toJson = j ∧ (scope.eval j.toExpr).hasIndeterminate = false
  | .null, _ | .bool _, _ | .string _, _ => ⟨rfl, rfl⟩
  | .int n, h => ⟨congrArg Json.int (Json.toInt_ofInt_of_isLiteral h), rfl⟩
  | .array items, h => by
    rw [Json.isLiteral] at h
    obtain ⟨hitems, hknown⟩ := itemsToJson_evalItems_toExprs h
    exact ⟨congrArg Json.array hitems, hknown⟩
  | .object members, h => by
    rw [Json.isLiteral, Bool.and_eq_true, decide_eq_true_eq] at h
    obtain ⟨hmembers, hknown⟩ := fieldsToJson_map_toExpr h.2
    have hfields : scope.evalFields [] (Json.toExprMembers members) =
        members.map fun p => (p.1, scope.eval p.2.toExpr) := evalFields_toExprMembers scope h.1
    rw [Json.toExpr, eval, hfields]
    exact ⟨congrArg Json.object hmembers, hknown⟩

theorem itemsToJson_evalItems_toExprs : ∀ {items : List Json}, Json.areLiteral items = true →
    Value.itemsToJson (scope.evalItems (Json.toExprs items)) = items ∧
      Value.anyIndeterminate (scope.evalItems (Json.toExprs items)) = false
  | [], _ => ⟨rfl, rfl⟩
  | j :: rest, h => by
    rw [Json.areLiteral, Bool.and_eq_true] at h
    obtain ⟨hj, hknown⟩ := toJson_eval_toExpr h.1
    obtain ⟨hrest, hknown'⟩ := itemsToJson_evalItems_toExprs h.2
    rw [Json.toExprs, evalItems, Value.itemsToJson, Value.anyIndeterminate, hj, hknown, hrest,
      hknown']
    exact ⟨rfl, rfl⟩

theorem fieldsToJson_map_toExpr : ∀ {members : List (String × Json)},
    Json.areLiteralMembers members = true →
    Value.fieldsToJson (members.map fun p => (p.1, scope.eval p.2.toExpr)) = members ∧
      Value.anyFieldIndeterminate (members.map fun p => (p.1, scope.eval p.2.toExpr)) = false
  | [], _ => ⟨rfl, rfl⟩
  | (k, j) :: rest, h => by
    rw [Json.areLiteralMembers, Bool.and_eq_true] at h
    obtain ⟨hj, hknown⟩ := toJson_eval_toExpr h.1
    obtain ⟨hrest, hknown'⟩ := fieldsToJson_map_toExpr h.2
    rw [List.map_cons, Value.fieldsToJson, Value.anyFieldIndeterminate, hj, hknown, hrest, hknown']
    exact ⟨rfl, rfl⟩

end

end Hcl.Scope

/-! ### Conditions -/

namespace ConditionDef

mutual

/-- All values of a condition can be written as literals. -/
def isLiteral : ConditionDef → Bool
  | ⟨_, _, value, conditions⟩ => value.all Json.isLiteral && areLiteral conditions

/-- All values in the conditions can be written as literals. -/
def areLiteral : List ConditionDef → Bool
  | [] => true
  | c :: rest => c.isLiteral && areLiteral rest

end

mutual

/-- The body of the block of a condition. -/
def toItems : ConditionDef → List Item
  | ⟨path, operator, value, conditions⟩ =>
    (path.map fun s => Item.attr "attribute" (.text s)).toList ++
      Item.attr "operator" (.text operator) ::
      ((value.map fun j => Item.attr "value" j.toExpr).toList ++ toBlocks conditions)

/-- The blocks of conditions. -/
def toBlocks : List ConditionDef → List Item
  | [] => []
  | c :: rest => .block "condition" [] c.toItems :: toBlocks rest

end

end ConditionDef

namespace RuleFile

/-- A condition is read back from its attributes and the conditions below it. -/
theorem conditionOfAttrs_toBlocks (d : ConditionDef) (conditions : List ConditionDef) :
    conditionOfAttrs d (ConditionDef.toBlocks conditions) = .ok d := by
  induction conditions with
  | nil => rfl
  | cons c rest ih => rw [ConditionDef.toBlocks, conditionOfAttrs, ih]

/-- The attributes of the block of a condition give all of it but the conditions below. -/
theorem conditionOfAttrs_toItems {c : ConditionDef} (h : c.isLiteral = true) :
    conditionOfAttrs {} c.toItems = .ok { c with conditions := [] } := by
  obtain ⟨path, operator, value, conditions⟩ := c
  rw [ConditionDef.isLiteral, Bool.and_eq_true] at h
  have hvalue : ∀ d : ConditionDef, d.value = none →
      conditionOfAttrs d ((value.map fun j => Item.attr "value" j.toExpr).toList ++
        ConditionDef.toBlocks conditions) = .ok { d with value } := by
    rintro ⟨_, _, _, _⟩ rfl
    cases value with
    | none => exact conditionOfAttrs_toBlocks _ conditions
    | some j =>
      obtain ⟨hj, hknown⟩ := Scope.toJson_eval_toExpr {} (Option.all_some ▸ h.1)
      rw [Option.map_some, Option.toList_some, List.singleton_append, conditionOfAttrs,
        setConditionAttr, hknown, hj]
      exact conditionOfAttrs_toBlocks _ conditions
  cases path with
  | none => exact hvalue { operator } rfl
  | some s => exact hvalue { path := some s, operator } rfl

theorem conditionsOfItems_attr (name : String) (e : Expr) (rest : List Item) :
    conditionsOfItems (.attr name e :: rest) = conditionsOfItems rest := by
  rw [conditionsOfItems, conditionOfItem]
  cases conditionsOfItems rest <;> rfl

mutual

/-- The blocks in the block of a condition are the conditions below. -/
theorem conditionsOfItems_toItems : ∀ {c : ConditionDef}, c.isLiteral = true →
    conditionsOfItems c.toItems = .ok c.conditions
  | ⟨path, operator, value, conditions⟩, h => by
    rw [ConditionDef.isLiteral, Bool.and_eq_true] at h
    have hblocks := conditionsOfItems_toBlocks h.2
    cases path <;> cases value <;>
      simpa [ConditionDef.toItems, conditionsOfItems_attr] using hblocks

theorem conditionsOfItems_toBlocks : ∀ {conditions : List ConditionDef},
    ConditionDef.areLiteral conditions = true →
      conditionsOfItems (ConditionDef.toBlocks conditions) = .ok conditions
  | [], _ => rfl
  | ⟨path, operator, value, conditions⟩ :: rest, h => by
    rw [ConditionDef.areLiteral, Bool.and_eq_true] at h
    rw [ConditionDef.toBlocks, conditionsOfItems, conditionOfItem, conditionOfAttrs_toItems h.1,
      conditionsOfItems_toItems h.1, conditionsOfItems_toBlocks h.2]
    rfl

end

/-- **A condition comes back from its block.** -/
theorem conditionOfBody_toItems {c : ConditionDef} (h : c.isLiteral = true) :
    conditionOfBody c.toItems = .ok c := by
  obtain ⟨path, operator, value, conditions⟩ := c
  rw [conditionOfBody, conditionOfAttrs_toItems h, conditionsOfItems_toItems h]
  rfl

end RuleFile

/-! ### Rules -/

namespace RuleDef

/-- All values of a rule can be written as literals. -/
def isLiteral (d : RuleDef) : Bool :=
  d.condition.all ConditionDef.isLiteral

/-- The attributes of the block of a rule. -/
def toAttrs (d : RuleDef) : List (String × Expr) :=
  [("name", .text d.name), ("description", .text d.description), ("severity", .text d.severity),
    ("resource_type", .text d.resourceType), ("message", .text d.message),
    ("remediation", .text d.remediation), ("tags", .list (d.tags.map .text))]

/-- The block of a rule, labelled with its identifier. -/
def toItem (d : RuleDef) : Item :=
  .block "rule" [d.id] (d.toAttrs.map (fun p => .attr p.1 p.2) ++
    (d.condition.map fun c => Item.block "condition" [] c.toItems).toList)

end RuleDef

namespace RuleSetDef

/-- All values in the rules can be written as literals. -/
def isLiteral (d : RuleSetDef) : Bool :=
  d.rules.all RuleDef.isLiteral

/-- The body of a rule file. -/
def toItems (d : RuleSetDef) : List Item :=
  (d.version.map fun s => Item.attr "version" (.text s)).toList ++ d.rules.map RuleDef.toItem

end RuleSetDef

namespace RuleFile

theorem mapM_textOf (key : String) (texts : List String) :
    (texts.map Value.string).mapM (textOf key) = .ok texts := by
  induction texts with
  | nil => rfl
  | cons s rest ih =>
    rw [List.map_cons, List.mapM_cons, ih]
    rfl

theorem evalItems_map_text (scope : Scope) (texts : List String) :
    scope.evalItems (texts.map .text) = texts.map .string := by
  induction texts with
  | nil => rfl
  | cons s rest ih => rw [List.map_cons, Scope.evalItems, ih, Scope.eval, List.map_cons]

/-- The attributes of the block of a rule give all of it but the condition. -/
theorem ruleOfAttrs_toAttrs (d : RuleDef) :
    ruleOfAttrs { id := d.id } d.toAttrs = .ok { d with condition := none } := by
  have htags : textsOf "tags" (({} : Scope).eval (.list (d.tags.map .text))) = .ok d.tags := by
    rw [Scope.eval, evalItems_map_text]
    exact mapM_textOf "tags" d.tags
  simp only [RuleDef.toAttrs, ruleOfAttrs, setRuleAttr, htags]
  rfl

theorem attrs_map_attr_append (attrs : List (String × Expr)) (rest : List Item) :
    Item.attrs (attrs.map (fun p => .attr p.1 p.2) ++ rest) = attrs ++ Item.attrs rest := by
  induction attrs with
  | nil => rfl
  | cons p attrs ih => rw [List.map_cons, List.cons_append, Item.attrs, ih, List.cons_append]

theorem blocks_map_attr_append (attrs : List (String × Expr)) (rest : List Item) :
    Item.blocks (attrs.map (fun p => .attr p.1 p.2) ++ rest) = Item.blocks rest := by
  induction attrs with
  | nil => rfl
  | cons p attrs ih => rw [List.map_cons, List.cons_append, Item.blocks, ih]

/-- A rule has a condition or none, and no other blocks. -/
theorem conditionOfBlocks_toItems {condition : Option ConditionDef}
    (h : condition.all ConditionDef.isLiteral = true) :
    let blocks :=
      Item.blocks (condition.map fun c => Item.block "condition" [] c.toItems).toList
    conditionOfBlocks blocks = .ok condition ∧
      (blocks.find? fun b => b.name != "condition") = none := by
  cases condition with
  | none => exact ⟨rfl, rfl⟩
  | some c =>
    have hc : c.isLiteral = true := h
    refine ⟨?_, rfl⟩
    calc conditionOfBlocks [⟨"condition", [], c.toItems⟩]
        = (conditionOfBody c.toItems).map some := rfl
      _ = .ok (some c) := by rw [conditionOfBody_toItems hc, Except.map]

/-- **A rule comes back from its block.** -/
theorem ruleOfBlock_toItem {d : RuleDef} (h : d.isLiteral = true) :
    ruleOfBlock ⟨"rule", [d.id], d.toAttrs.map (fun p => .attr p.1 p.2) ++
      (d.condition.map fun c => Item.block "condition" [] c.toItems).toList⟩ = .ok d := by
  obtain ⟨hcondition, hother⟩ := conditionOfBlocks_toItems h
  have hattrs : Item.attrs
      (d.condition.map fun c => Item.block "condition" [] c.toItems).toList = [] := by
    cases d.condition <;> rfl
  simp only [ruleOfBlock, attrs_map_attr_append, blocks_map_attr_append, List.headD_cons, hattrs,
    List.append_nil, ruleOfAttrs_toAttrs]
  simp only [hcondition, hother, bind, Except.bind]
  rfl

/-- Blocks of rules are read back and added to those read before. -/
theorem definitionsOf_map_toItem (source : String) {rules : List RuleDef}
    (h : rules.all RuleDef.isLiteral = true) (d : RuleSetDef) :
    definitionsOf source d (rules.map RuleDef.toItem) =
      .ok { d with rules := d.rules ++ rules } := by
  induction rules generalizing d with
  | nil => rw [List.map_nil, definitionsOf, List.append_nil]
  | cons rule rest ih =>
    rw [List.all_cons, Bool.and_eq_true] at h
    rw [List.map_cons, RuleDef.toItem, definitionsOf, if_pos (by rfl), ruleOfBlock_toItem h.1]
    simp only [ih h.2, List.append_assoc, List.singleton_append]

/-- **Definitions come back from the body that they are written as.** -/
theorem definitionsOf_toItems (source : String) {d : RuleSetDef} (h : d.isLiteral = true) :
    definitionsOf source {} d.toItems = .ok d := by
  obtain ⟨version, rules⟩ := d
  cases version with
  | none => exact definitionsOf_map_toItem source h {}
  | some text => exact definitionsOf_map_toItem source h { version := some text }

/-! ### Two notations -/

/-- The definitions of a rule file in YAML. -/
def yamlDefinitions? (content : String) : Option RuleSetDef :=
  if Text.isBlankText content then some {} else Yaml.decode? yamlRuleSet content

theorem loadYaml_eq_load (source : String) {content : String} {d : RuleSetDef}
    (h : yamlDefinitions? content = some d) : loadYaml source content = d.load source := by
  rw [yamlDefinitions?] at h
  rw [loadYaml]
  split_ifs at h ⊢ with hblank
  · obtain rfl := Option.some.inj h
    rfl
  · rw [h]

/-- A body that spells definitions is loaded as these definitions are. -/
theorem loadHcl_eq_load (source : String) {content : String} {d : RuleSetDef}
    (hd : d.isLiteral = true) (h : Hcl.parseBody? content = some d.toItems) :
    loadHcl source content = d.load source := by
  rw [loadHcl, h]
  simp only [definitionsOf_toItems source hd]
  rfl

end RuleFile

/-- Only a text is written like a text. -/
theorem Hcl.Expr.eq_text_of_same {s : String} {e : Expr} (h : Expr.same (.text s) e = true) :
    e = .text s := by
  cases e <;> simp [same] at h
  rw [h]

open RuleFile in
/-- **Rules are the same in both notations.** Definitions whose values are literals come back,
version and all, from the items that they are written as. So a file with these items and a YAML file
with these definitions are the same rule set, or have the same fault. -/
theorem notations_give_the_same_rules {d : RuleSetDef} (h : d.isLiteral = true) :
    (∀ source, definitionsOf source {} d.toItems = .ok d) ∧
    ∀ source hcl yaml, Hcl.parseBody? hcl = some d.toItems → yamlDefinitions? yaml = some d →
      loadHcl source hcl = d.load source ∧ loadYaml source yaml = d.load source := by
  refine ⟨fun source => definitionsOf_toItems source h, fun source hcl yaml hhcl hyaml => ?_⟩
  exact ⟨loadHcl_eq_load source h hhcl, loadYaml_eq_load source hyaml⟩

open RuleFile in
/-- A rule with a condition of three levels and a value that is an object; and two files whose
version is at fault. -/
theorem notations_give_the_same_rules_example :
    let d : RuleSetDef :=
      { version := some "1.2.0"
        rules := [{
          id := "SG_001", name := "No open ports", severity := "warn"
          resourceType := "aws_security_group", message := "open", tags := ["net", ""]
          condition := some {
            operator := "not"
            conditions := [{
              operator := "all"
              conditions := [
                { path := some "ingress[*].port", operator := "contains"
                  value := some (.int (-1)) },
                { path := some "tags", operator := "equals"
                  value := some (.object [("b", .array [.null, .bool true]), ("a", .string "x")]) },
                { operator := "exists", value := some .null }] }] } }] }
    let faulty : RuleSetDef := { version := some "1.2" }
    d.isLiteral = true ∧ definitionsOf "rules" {} d.toItems = .ok d ∧
      loadHcl "rules" "version = \"1.2\"\n" = faulty.load "rules" ∧
      loadYaml "rules" "version: 1.2\n" = faulty.load "rules" ∧
      (faulty.load "rules").toOption.isNone = true := by
  intro d faulty
  have hd : d.isLiteral = true := by decide +kernel
  have hhcl : Hcl.parseBody? "version = \"1.2\"\n" = some faulty.toItems := by
    obtain ⟨items, hread, hparts⟩ := Option.map_eq_some_iff.mp
      (show (Hcl.parseBody? "version = \"1.2\"\n").map (fun items =>
        (items.length, (Item.attrs items).map fun p => (p.1, Expr.same (.text "1.2") p.2))) =
        some (1, [("version", true)]) by decide +kernel)
    obtain ⟨hlength, hattrs⟩ := Prod.mk.inj hparts
    obtain ⟨item, rfl⟩ := List.length_eq_one_iff.mp hlength
    cases item with
    | block => cases hattrs
    | attr name e =>
      obtain ⟨rfl, hsame⟩ := Prod.mk.inj (List.cons.inj hattrs).1
      obtain rfl : e = .text "1.2" := Expr.eq_text_of_same hsame
      exact hread
  have hyaml : yamlDefinitions? "version: 1.2\n" = some faulty := by
    obtain ⟨⟨version, rules⟩, hread, hparts⟩ := Option.map_eq_some_iff.mp
      (show (yamlDefinitions? "version: 1.2\n").map (fun d => (d.version, d.rules.length)) =
        some (some "1.2", 0) by decide +kernel)
    obtain ⟨rfl, hrules⟩ := Prod.mk.inj hparts
    obtain rfl : rules = [] := List.length_eq_zero_iff.mp hrules
    exact hread
  have hfaulty : faulty.isLiteral = true := rfl
  obtain ⟨hfault, hfault'⟩ := (notations_give_the_same_rules hfaulty).2 "rules" _ _ hhcl hyaml
  exact ⟨hd, (notations_give_the_same_rules hd).1 "rules", hfault, hfault', by decide +kernel⟩

end InfraPolicy
