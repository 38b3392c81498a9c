import InfraPolicy.Condition.Definition
import InfraPolicy.Proofs.LowerCase
import InfraPolicy.Proofs.SortedKeys

/-!
# The rules of a node

What a single node of a written condition has to obey, whatever stands above and below it
(`ConditionDef.LocallyValid`), and the fault that says which rule a node breaks
(`ConditionDef.Breaks`). A node that is to be a check and has no children either becomes a check
that says the same or breaks a rule (`ConditionDef.checkOutcome_make?`).
-/

namespace InfraPolicy

/-! ### Names of operators -/

/-- Only the two operators about existence do without a value. -/
theorem Operator.needsValue_iff (op : Operator) :
    op.needsValue = true ↔ op ≠ .exists ∧ op ≠ .notExists := by
  cases op <;> decide

theorem Junction.name_injective : Function.Injective Junction.name := by
  intro j k
  cases j <;> cases k <;> decide

theorem Operator.name_injective : Function.Injective Operator.name := by
  intro op op'
  cases op <;> cases op' <;> decide

namespace Head

/-- What a name in its normal form stands for. -/
inductive IsNamed (form : String) : Head → Prop
  | missing (h : form = "") : IsNamed form .missing
  | junction (j : Junction) (h : form = j.name) : IsNamed form (.junction j)
  | check (op : Operator) (h : form = op.name) : IsNamed form (.check op)
  | unknown (hempty : form ≠ "") (hjunction : ∀ j : Junction, form ≠ j.name)
      (hcheck : ∀ op : Operator, form ≠ op.name) : IsNamed form (.unknown form)

/-- What a name stands for has that name, up to case and blanks. -/
theorem isNamed_ofName (text : String) : (ofName text).IsNamed (Operator.normalForm text) := by
  have hcheck : ∀ op, Operator.ofName? (Operator.normalForm text) = some op ↔
      Operator.normalForm text = op.name := fun _ => Operator.ofName?_normalForm_eq_some_iff
  rw [ofName]
  generalize Operator.normalForm text = form at hcheck
  split_ifs with hempty hall hany hnot
  · exact .missing hempty
  · exact .junction .all hall
  · exact .junction .any hany
  · exact .junction .not hnot
  · cases hop : Operator.ofName? form with
    | some op => exact .check op ((hcheck op).mp hop)
    | none =>
      refine .unknown hempty (fun j => ?_) fun op hname => ?_
      · cases j
        · exact hall
        · exact hany
        · exact hnot
      · rw [(hcheck op).mpr hname] at hop
        exact Option.some_ne_none op hop

end Head

/-! ### Values read from JSON -/

namespace Value

/-- Only JSON's own null is read as a null value. -/
theorem isNull_ofJson_iff {j : Json} : (ofJson j).isNull = true ↔ j = .null := by
  cases j with
  | int n =>
    rw [ofJson]
    split_ifs <;> simp [isNull]
  | _ => simp [ofJson, isNull]

/-- Only a JSON string is read as a text. -/
theorem ofJson_eq_string_iff {j : Json} {text : String} :
    ofJson j = .string text ↔ j = .string text := by
  cases j with
  | int n =>
    rw [ofJson]
    split_ifs <;> simp
  | _ => simp [ofJson]

mutual

/-- Nothing that is read from JSON is indeterminate. -/
theorem hasIndeterminate_ofJson : ∀ j : Json, (ofJson j).hasIndeterminate = false
  | .null | .bool _ | .float _ | .string _ => rfl
  | .int n => by
    rw [ofJson]
    split_ifs <;> rfl
  | .array items => anyIndeterminate_ofJsonItems items
  | .object members => by
    rw [ofJson, hasIndeterminate, anyFieldIndeterminate_eq_any, List.any_eq_false]
    intro p hp
    rw [hasIndeterminate_of_mem_ofJsonMembers members p (Fields.mem_sorted hp)]
    exact Bool.false_ne_true

/-- Nothing that is read from JSON is unknown or computed. -/
theorem anyIndeterminate_ofJsonItems : ∀ items : List Json,
    anyIndeterminate (ofJsonItems items) = false
  | [] => rfl
  | j :: rest => by
    rw [ofJsonItems, anyIndeterminate, hasIndeterminate_ofJson j,
      anyIndeterminate_ofJsonItems rest, Bool.false_or]

theorem hasIndeterminate_of_mem_ofJsonMembers : ∀ members : List (String × Json),
    ∀ p ∈ ofJsonMembers members, p.2.hasIndeterminate = false
  | [], p, hp => absurd hp List.not_mem_nil
  | (k, j) :: rest, p, hp => by
    rw [ofJsonMembers] at hp
    rcases List.mem_cons.mp hp with rfl | hp
    · exact hasIndeterminate_ofJson j
    · exact hasIndeterminate_of_mem_ofJsonMembers rest p hp

end

end Value

/-! ### Attribute and value of a node -/

namespace ConditionDef

variable {n : ConditionDef}

/-- The node names an attribute. -/
def HasAttribute (n : ConditionDef) : Prop :=
  ∃ path, n.path = some path ∧ Text.isBlankText path = false

/-- A null value counts as none. -/
def HasValue (n : ConditionDef) : Prop :=
  ∃ j, n.value = some j ∧ j ≠ .null

/-- The value of a node, read as one to compare with. -/
def comparedValue (n : ConditionDef) : Option Value :=
  (n.value.map Value.ofJson).filter fun v => !v.isNull

/-- A path that is not written counts as a blank one. -/
theorem hasAttribute_iff : n.HasAttribute ↔ Text.isBlankText (n.path.getD "") = false := by
  cases hpath : n.path with
  | none => simp [HasAttribute, hpath, Text.isBlankText]
  | some path => simp [HasAttribute, hpath]

theorem any_path_iff : (n.path.any fun a => !Text.isBlankText a) = true ↔ n.HasAttribute := by
  cases hpath : n.path with
  | none => simp [HasAttribute, hpath]
  | some path => simp [HasAttribute, hpath]

theorem path_eq_of_hasAttribute (h : n.HasAttribute) : n.path = some (n.path.getD "") := by
  obtain ⟨path, hpath, -⟩ := h
  rw [hpath, Option.getD_some]

/-- A null counts as no value at all. -/
theorem comparedValue_eq_some_iff {v : Value} :
    n.comparedValue = some v ↔ ∃ j, n.value = some j ∧ j ≠ .null ∧ Value.ofJson j = v := by
  rw [comparedValue, Option.filter_eq_some_iff]
  constructor
  · rintro ⟨hmap, hnull⟩
    obtain ⟨j, hj, rfl⟩ := Option.map_eq_some_iff.mp hmap
    refine ⟨j, hj, fun hj' => ?_, rfl⟩
    rw [Value.isNull_ofJson_iff.mpr hj'] at hnull
    exact Bool.false_ne_true hnull
  · rintro ⟨j, hj, hnull, rfl⟩
    refine ⟨by rw [hj, Option.map_some], ?_⟩
    rw [Bool.not_eq_true', Bool.eq_false_iff]
    exact fun h => hnull (Value.isNull_ofJson_iff.mp h)

theorem isSome_comparedValue_iff : n.comparedValue.isSome = true ↔ n.HasValue := by
  rw [Option.isSome_iff_exists]
  simp only [comparedValue_eq_some_iff]
  exact ⟨fun ⟨_, j, hj, hnull, _⟩ => ⟨j, hj, hnull⟩, fun ⟨j, hj, hnull⟩ => ⟨_, j, hj, hnull, rfl⟩⟩

/-! ### The rules -/

/-- A node obeys the rules for what it is: a junction has no attribute and has children, a negation
exactly one; a check has no children, an attribute, a value unless it asks for existence, and to
match, the text of a pattern. -/
inductive LocallyValid (n : ConditionDef) : Prop
  | junction (j : Junction) (hname : Operator.normalForm n.operator = j.name)
      (hattribute : ¬n.HasAttribute) (hchildren : n.conditions ≠ [])
      (hnot : j = .not → n.conditions.length = 1)
  | check (op : Operator) (hname : Operator.normalForm n.operator = op.name)
      (hchildren : n.conditions = []) (hattribute : n.HasAttribute)
      (hvalue : op ≠ .exists → op ≠ .notExists → n.HasValue)
      (hpattern : op = .matches →
        ∃ text, n.value = some (.string text) ∧ (Pattern.parse? text).isSome = true)

/-- A node breaks a rule, and the fault says which. -/
inductive Breaks (n : ConditionDef) : ConditionFault → Prop
  | noOperator (hname : Operator.normalForm n.operator = "") : Breaks n .noOperator
  | unknownOperator (hempty : Operator.normalForm n.operator ≠ "")
      (hjunction : ∀ j : Junction, Operator.normalForm n.operator ≠ j.name)
      (hcheck : ∀ op : Operator, Operator.normalForm n.operator ≠ op.name) :
      Breaks n (.unknownOperator (Operator.normalForm n.operator)
        (suggestion? (Operator.normalForm n.operator)))
  | junctionAttribute (j : Junction) (hname : Operator.normalForm n.operator = j.name)
      (hattribute : n.HasAttribute) : Breaks n (.junctionAttribute j)
  | noChildren (j : Junction) (hname : Operator.normalForm n.operator = j.name)
      (hchildren : n.conditions = []) : Breaks n (.noChildren j)
  | severalChildren (hname : Operator.normalForm n.operator = Junction.not.name)
      (hchildren : 2 ≤ n.conditions.length) : Breaks n .severalChildren
  | checkChildren (op : Operator) (hname : Operator.normalForm n.operator = op.name)
      (hchildren : n.conditions ≠ []) : Breaks n (.checkChildren op)
  | noAttribute (op : Operator) (hname : Operator.normalForm n.operator = op.name)
      (hattribute : ¬n.HasAttribute) : Breaks n (.check (.noAttribute op))
  | noValue (op : Operator) (path : String) (hname : Operator.normalForm n.operator = op.name)
      (hpath : n.path = some path) (hexists : op ≠ .exists) (hnotExists : op ≠ .notExists)
      (hvalue : ¬n.HasValue) : Breaks n (.check (.noValue op path))
  | patternNotText (path : String) (j : Json)
      (hname : Operator.normalForm n.operator = Operator.matches.name)
      (hpath : n.path = some path) (hvalue : n.value = some j) (hnull : j ≠ .null)
      (htext : ∀ text, j ≠ .string text) :
      Breaks n (.check (.patternNotText path (Value.ofJson j).typeName))
  | badPattern (path text : String)
      (hname : Operator.normalForm n.operator = Operator.matches.name)
      (hpath : n.path = some path) (hvalue : n.value = some (.string text))
      (hparse : Pattern.parse? text = none) : Breaks n (.check (.badPattern path))

end ConditionDef

/-! ### Checks -/

namespace Check

variable {path : String}

/-- Only one operator needs a pattern. -/
theorem readPattern_of_ne_matches {op : Operator} (h : op ≠ .matches) (value : Option Value) :
    readPattern path op value = .ok none := by
  cases op with
  | «matches» => exact absurd rfl h
  | _ => rfl

/-- A pattern has to be a text. -/
theorem readPattern_matches_of_ne_string {v : Value} (h : ∀ text, v ≠ .string text) :
    readPattern path .matches (some v) = .error (.patternNotText path v.typeName) := by
  cases v with
  | string text => exact absurd rfl (h text)
  | _ => rfl

end Check

namespace ConditionDef

variable {n : ConditionDef}

/-- The condition that stands for a node is what the node says, apart from its children. -/
inductive Compiled (n : ConditionDef) : Condition → Prop
  | all (children : List Condition) (hname : Operator.normalForm n.operator = Junction.all.name) :
      Compiled n (.all children)
  | any (children : List Condition) (hname : Operator.normalForm n.operator = Junction.any.name) :
      Compiled n (.any children)
  | not (child : Condition) (hname : Operator.normalForm n.operator = Junction.not.name) :
      Compiled n (.not child)
  | check (c : Check) (hname : Operator.normalForm n.operator = c.operator.name)
      (hpath : n.path = some c.path) (hvalue : c.value = n.comparedValue)
      (hpattern : ∀ p, c.pattern = some p ↔ c.operator = .matches ∧
        ∃ text, n.value = some (.string text) ∧ Pattern.parse? text = some p) :
      Compiled n (.check c)

/-- What becomes of a node that is a check by name and has no children: a check that says the same,
or the fault that it breaks a rule. -/
inductive CheckOutcome (n : ConditionDef) : Except CheckFault Check → Prop
  | made {c : Check} (hvalid : n.LocallyValid) (hcompiled : n.Compiled (.check c)) :
      CheckOutcome n (.ok c)
  | refused {fault : CheckFault} (hbreaks : n.Breaks (.check fault)) :
      CheckOutcome n (.error fault)

/-- The last step of making a check, for a node that has an attribute and, if needed, a value. -/
theorem checkOutcome_readPattern {op : Operator} {path : String}
    (hname : Operator.normalForm n.operator = op.name) (hchildren : n.conditions = [])
    (hpath : n.path = some path) (hattribute : n.HasAttribute)
    (hvalue : op ≠ .exists → op ≠ .notExists → n.HasValue) :
    n.CheckOutcome ((Check.readPattern path op n.comparedValue).map fun p =>
      ⟨path, op, n.comparedValue, p⟩) := by
  by_cases hmatches : op = .matches
  · subst hmatches
    obtain ⟨j, hj, hnull⟩ := hvalue (by decide) (by decide)
    have hcompared : n.comparedValue = some (Value.ofJson j) :=
      comparedValue_eq_some_iff.mpr ⟨j, hj, hnull, rfl⟩
    by_cases htext : ∃ text, j = .string text
    · obtain ⟨text, rfl⟩ := htext
      rw [hcompared, Value.ofJson, Check.readPattern]
      cases hparse : Pattern.parse? text with
      | none => exact .refused (.badPattern path text hname hpath hj hparse)
      | some p =>
        refine .made (.check _ hname hchildren hattribute hvalue fun _ => ⟨text, hj, ?_⟩)
          (.check _ hname hpath hcompared.symm fun q => ?_)
        · rw [hparse, Option.isSome_some]
        · simp [hj, hparse]
    · rw [hcompared, Check.readPattern_matches_of_ne_string fun text h =>
        htext ⟨text, Value.ofJson_eq_string_iff.mp h⟩]
      exact .refused (.patternNotText path j hname hpath hj hnull fun text h => htext ⟨text, h⟩)
  · rw [Check.readPattern_of_ne_matches hmatches]
    refine .made (.check op hname hchildren hattribute hvalue fun h => absurd h hmatches)
      (.check _ hname hpath rfl fun p => ?_)
    simp [hmatches]

/-- **What a check is made of**: a valid node becomes a check, and any other one is refused for a
rule that it breaks. -/
theorem checkOutcome_make? {op : Operator} (hname : Operator.normalForm n.operator = op.name)
    (hchildren : n.conditions = []) :
    n.CheckOutcome (Check.make? (n.path.getD "") op (n.value.map Value.ofJson)) := by
  rw [Check.make?]
  split_ifs with hblank
  · refine .refused (.noAttribute op hname fun h => ?_)
    rw [hasAttribute_iff.mp h] at hblank
    exact Bool.false_ne_true hblank
  · have hattribute : n.HasAttribute := hasAttribute_iff.mpr (Bool.eq_false_iff.mpr hblank)
    have hpath := path_eq_of_hasAttribute hattribute
    -- the value without nulls, which all that follows looks at, is `n.comparedValue`
    change n.CheckOutcome (if op.needsValue && n.comparedValue.isNone then _ else
      (Check.readPattern _ op n.comparedValue).map fun p => ⟨_, op, n.comparedValue, p⟩)
    have hnone_iff : n.comparedValue.isNone = true ↔ ¬n.HasValue := by
      rw [← isSome_comparedValue_iff, Bool.not_eq_true, Option.isSome_eq_false_iff]
    split_ifs with hnone <;> rw [Bool.and_eq_true, Operator.needsValue_iff, hnone_iff] at hnone
    · exact .refused (.noValue op _ hname hpath hnone.1.1 hnone.1.2 hnone.2)
    · refine checkOutcome_readPattern hname hchildren hpath hattribute fun hexists hnotExists => ?_
      exact not_not.mp fun h => hnone ⟨⟨hexists, hnotExists⟩, h⟩

end ConditionDef

end InfraPolicy
