import InfraPolicy.Proofs.ChildOrder

/-!
# Conditions in classical logic

`Condition.Holds` is the truth of a condition as logic has it, over any choice of the checks that
hold: a conjunction holds if all of its children do, a disjunction if one of them does. Nothing is
said about order, early ends or certainty.

Where everything is known the verdict of a condition is this truth value, over the checks that hold
of the attributes (`Condition.passed_iff_holds`). The two sides meet in the checks: one that asks
for something holds if it is found and as it should be, and a negative check holds if the check that
it denies does not. So conditions that logic cannot tell apart have the same verdict
(`Condition.Equivalent.verdict_eq`), and the laws of logic hold for verdicts.
-/

namespace InfraPolicy

/-! ### Truth -/

namespace Condition

/-- The truth of a condition in classical logic, given which checks hold. -/
def Holds (holds : Check → Prop) : Condition → Prop
  | .check c => holds c
  | .all children => ∀ c ∈ children, c.Holds holds
  | .any children => ∃ c, ∃ _ : c ∈ children, c.Holds holds
  | .not child => ¬ child.Holds holds

variable {holds : Check → Prop}

@[simp] theorem holds_check {c : Check} : (Condition.check c).Holds holds ↔ holds c := by
  rw [Holds]

@[simp] theorem holds_all {children : List Condition} :
    (Condition.all children).Holds holds ↔ ∀ c ∈ children, c.Holds holds := by
  rw [Holds]

@[simp] theorem holds_any {children : List Condition} :
    (Condition.any children).Holds holds ↔ ∃ c ∈ children, c.Holds holds := by
  simp only [Holds, exists_prop]

@[simp] theorem holds_not {child : Condition} :
    (Condition.not child).Holds holds ↔ ¬ child.Holds holds := by
  rw [Holds]

/-- Logic cannot tell the conditions apart: they hold together whichever checks hold. -/
def Equivalent (c d : Condition) : Prop :=
  ∀ holds : Check → Prop, c.Holds holds ↔ d.Holds holds

/-- **De Morgan**: not all hold if one of the negations does. -/
theorem equivalent_not_all (children : List Condition) :
    Equivalent (.not (.all children)) (.any (children.map .not)) := by
  intro holds
  simp

/-- **De Morgan**: none holds if all of the negations do. -/
theorem equivalent_not_any (children : List Condition) :
    Equivalent (.not (.any children)) (.all (children.map .not)) := by
  intro holds
  simp

theorem equivalent_not_not (c : Condition) : Equivalent (.not (.not c)) c := by
  intro holds
  simp

/-- A conjunction holds unless one of the truth values of its children is false. -/
theorem holds_all_iff_notMem {children : List Condition} :
    (Condition.all children).Holds holds ↔ False ∉ children.map (Holds holds) := by
  simp

/-- A disjunction holds if one of the truth values of its children is true. -/
theorem holds_any_iff_mem {children : List Condition} :
    (Condition.any children).Holds holds ↔ True ∈ children.map (Holds holds) := by
  simp

/-- Children may stand in any order, at any depth. -/
theorem Reordered.equivalent {allowed : List Condition → List Condition → Prop} {c d : Condition}
    (h : Reordered allowed c d) : Equivalent c d := by
  intro holds
  induction h with
  | check c => rfl
  | @all cs ds es length _ perm _ ih =>
    have hbelow : ds.map (Holds holds) = cs.map (Holds holds) :=
      map_eq_of_get length fun n h h' => propext (ih n h h').symm
    rw [holds_all_iff_notMem, holds_all_iff_notMem, ← hbelow, (perm.map _).mem_iff]
  | @any cs ds es length _ perm ih =>
    have hbelow : ds.map (Holds holds) = cs.map (Holds holds) :=
      map_eq_of_get length fun n h h' => propext (ih n h h').symm
    rw [holds_any_iff_mem, holds_any_iff_mem, ← hbelow, (perm.map _).mem_iff]
  | not _ ih => rw [holds_not, holds_not, ih]

end Condition

/-! ### Checks -/

/-- The operator that a negative one denies. -/
def Operator.denied? : Operator → Option Operator
  | .notExists => some .exists
  | .notEquals => some .equals
  | .notContains => some .contains
  | _ => none

namespace Operator

/-- The negative operators are those that hold for what is absent. -/
theorem holdsWhenAbsent_eq (op : Operator) : op.holdsWhenAbsent = op.denied?.isSome := by
  cases op <;> rfl

/-- What a negative operator denies is not negative itself. -/
theorem denied?_of_denied? {op denied : Operator} (h : op.denied? = some denied) :
    denied.denied? = none := by
  cases op <;> cases h <;> rfl

end Operator

namespace Check

variable {attributes : Fields} {check : Check} {denied : Operator}

/-- The check of the same attribute for the same value with another operator. -/
def withOperator (check : Check) (op : Operator) : Check :=
  { check with operator := op }

/-- Something is found under the path, and it is as the operator asks. -/
def FindsSuch (attributes : Fields) (check : Check) : Prop :=
  ∃ found, Path.find? attributes check.path = some found ∧ check.holdsOn found = true

/-- The truth of a check: something is found and it is so, or, for a negative operator, this is not
the case for the operator that it denies. -/
def Holds (attributes : Fields) (check : Check) : Prop :=
  match check.operator.denied? with
  | none => check.FindsSuch attributes
  | some denied => ¬ (check.withOperator denied).FindsSuch attributes

/-- Of a value that was found, a negative operator says the opposite of what it denies. -/
theorem holdsOn_denied (h : check.operator.denied? = some denied) (found : Value) :
    check.holdsOn found = !(check.withOperator denied).holdsOn found := by
  obtain ⟨path, op, value, pattern⟩ := check
  cases op <;> cases h <;> simp [holdsOn, withOperator]

/-- A negative check has the verdict that negation gives to the check that it denies. -/
theorem passed_denied (h : Value.anyFieldIndeterminate attributes = false)
    (hdenied : check.operator.denied? = some denied) :
    (check.verdict attributes).passed =
      !((check.withOperator denied).verdict attributes).passed := by
  rw [verdict_eq_certain h, verdict_eq_certain h]
  -- both look under the same path
  change Option.elim _ _ _ = !Option.elim (Path.find? attributes check.path) _ _
  cases Path.find? attributes check.path with
  | none =>
    have habsent := Operator.denied?_of_denied? hdenied
    simp [Operator.holdsWhenAbsent_eq, withOperator, hdenied, habsent]
  | some found => exact holdsOn_denied hdenied found

/-- A check that denies nothing passes if something is found that is as it asks. -/
theorem passed_iff_findsSuch (h : Value.anyFieldIndeterminate attributes = false)
    (hdenied : check.operator.denied? = none) :
    (check.verdict attributes).passed = true ↔ check.FindsSuch attributes := by
  rw [verdict_eq_certain h, FindsSuch, Operator.holdsWhenAbsent_eq, hdenied]
  cases Path.find? attributes check.path with
  | none => simp [Verdict.certain]
  | some found => simp [Verdict.certain]

/-- **Checks are true or false** where everything is known, and pass if they are true. -/
theorem passed_iff_holds (h : Value.anyFieldIndeterminate attributes = false) (check : Check) :
    (check.verdict attributes).passed = true ↔ check.Holds attributes := by
  rw [Holds]
  cases hdenied : check.operator.denied? with
  | none => exact passed_iff_findsSuch h hdenied
  | some denied =>
    have hfinds : ((check.withOperator denied).verdict attributes).passed = true ↔ _ :=
      passed_iff_findsSuch h (Operator.denied?_of_denied? hdenied)
    rw [passed_denied h hdenied, Bool.not_eq_true', ← Bool.not_eq_true, hfinds]

end Check

/-! ### Conditions -/

namespace Condition

variable {attributes : Fields}

/-- A conjunction passes if all of its children do, whatever is known. -/
theorem passed_all_iff {children : List Condition} :
    ((Condition.all children).verdict attributes).passed = true ↔
      ∀ c ∈ children, (c.verdict attributes).passed = true := by
  rw [verdict, verdictAll_eq]
  cases hfirst : firstFailure? attributes children with
  | none =>
    rw [firstFailure?, List.find?_eq_none] at hfirst
    simpa using hfirst
  | some v =>
    obtain ⟨hfails, c, hc, hcv⟩ := exists_of_firstFailure? hfirst
    have hnot : ¬ ∀ c ∈ children, (c.verdict attributes).passed = true := by
      intro hall
      have hpassed := hall c hc
      rw [hcv, hfails] at hpassed
      exact Bool.noConfusion hpassed
    simpa [hfails] using hnot

/-- A disjunction passes if one of its children does with certainty. -/
theorem passed_any_iff {children : List Condition} :
    ((Condition.any children).verdict attributes).passed = true ↔
      ∃ c ∈ children, c.verdict attributes = .pass := by
  rw [verdict, verdictAny_eq, ← List.mem_map]
  by_cases hpass : .pass ∈ children.map (verdict attributes)
  · rw [if_pos hpass]
    exact iff_of_true rfl hpass
  · rw [if_neg hpass]
    exact iff_of_false Bool.false_ne_true hpass

/-- **Verdicts are truth values** where everything is known. -/
theorem passed_iff_holds (h : Value.anyFieldIndeterminate attributes = false) (c : Condition) :
    (c.verdict attributes).passed = true ↔ c.Holds (Check.Holds attributes) := by
  induction c with
  | check c => rw [holds_check, verdict, Check.passed_iff_holds h]
  | all children ih =>
    rw [passed_all_iff, holds_all]
    exact forall₂_congr ih
  | any children ih =>
    rw [passed_any_iff, holds_any]
    refine exists_congr fun c => and_congr_right fun hc => ?_
    rw [← ih c hc]
    -- a disjunction wants its child to pass with certainty, and here no verdict is uncertain
    constructor
    · intro hpass
      rw [hpass]
      rfl
    · intro hpassed
      rw [Verdict.eq_certain (verdict_certain h c), hpassed]
      rfl
  | not child ih =>
    rw [verdict, holds_not, ← ih, Bool.not_eq_true', Bool.not_eq_true]

/-- Conditions that logic cannot tell apart have the same verdict where everything is known. -/
theorem Equivalent.verdict_eq {c d : Condition} (hcd : Equivalent c d)
    (h : Value.anyFieldIndeterminate attributes = false) :
    d.verdict attributes = c.verdict attributes := by
  have hpassed : (d.verdict attributes).passed = (c.verdict attributes).passed := by
    rw [Bool.eq_iff_iff, passed_iff_holds h, passed_iff_holds h, hcd]
  rw [Verdict.eq_certain (verdict_certain h d), Verdict.eq_certain (verdict_certain h c), hpassed]

end Condition

open Condition (Equivalent Reordered)

/-- **Where everything is known, conditions follow classical logic.** Every verdict is certain, and
a condition passes exactly if it holds over the checks that hold of the attributes. So conditions
that logic cannot tell apart have the same verdict: the laws of De Morgan and of double negation
hold, and children may stand in any order at any depth. A negative check has the verdict of the
negation of the check that it denies, whether its path finds something or not. -/
theorem known_verdicts_follow_logic {attributes : Fields}
    (h : Value.anyFieldIndeterminate attributes = false) :
    (∀ c : Condition, (c.verdict attributes).unknown = false ∧
      ((c.verdict attributes).passed = true ↔ c.Holds (Check.Holds attributes))) ∧
    (∀ c d : Condition, Equivalent c d → d.verdict attributes = c.verdict attributes) ∧
    (∀ cs : List Condition,
      (Condition.any (cs.map .not)).verdict attributes =
        (Condition.not (.all cs)).verdict attributes ∧
      (Condition.all (cs.map .not)).verdict attributes =
        (Condition.not (.any cs)).verdict attributes) ∧
    (∀ c : Condition, c.verdict attributes = (Condition.not (.not c)).verdict attributes) ∧
    (∀ c d : Condition, Reordered (fun _ _ => True) c d →
      d.verdict attributes = c.verdict attributes) ∧
    ∀ (check : Check) (denied : Operator), check.operator.denied? = some denied →
      (Condition.check check).verdict attributes =
        (Condition.not (.check (check.withOperator denied))).verdict attributes := by
  refine ⟨fun c => ⟨Condition.verdict_certain h c, Condition.passed_iff_holds h c⟩,
    fun c d hcd => hcd.verdict_eq h, fun cs => ⟨?_, ?_⟩, fun c => ?_, fun c d hcd => ?_, ?_⟩
  · exact (Condition.equivalent_not_all cs).verdict_eq h
  · exact (Condition.equivalent_not_any cs).verdict_eq h
  · exact (Condition.equivalent_not_not c).verdict_eq h
  · exact hcd.equivalent.verdict_eq h
  · intro check denied hdenied
    have hcertain := check.verdict_certain h
    have hcertain' := (check.withOperator denied).verdict_certain h
    rw [Condition.verdict, Condition.verdict, Condition.verdict, hcertain',
      Verdict.eq_certain hcertain, Check.passed_denied h hdenied]
    rfl

/-- A condition with a child that is never looked at, a negative check that finds something and one
that finds nothing behind a wildcard. -/
theorem known_verdicts_follow_logic_example :
    let attributes : Fields :=
      [("ingress", .list [.object [("port", .int 22)], .object [("port", .float ⟨0⟩)], .null]),
        ("tags", .object [("Name", .string "web")])]
    let open22 : Check := ⟨"ingress[*].port", .contains, some (.int 22), none⟩
    let closed22 : Check := ⟨"ingress[*].port", .notContains, some (.int 22), none⟩
    let noCidr : Check := ⟨"ingress[*].cidr", .notEquals, some (.string "0.0.0.0/0"), none⟩
    let named : Check := ⟨"tags.Name", .exists, none, none⟩
    let c : Condition := .all [.any [.check noCidr, .check named], .check closed22, .check named]
    Value.anyFieldIndeterminate attributes = false ∧ c.verdict attributes = .fail ∧
      ¬ c.Holds (Check.Holds attributes) ∧
      (Condition.not (.check open22)).verdict attributes = .fail ∧
      (Condition.any [.not (.check closed22), .not (.check named)]).verdict attributes =
        (Condition.not (.all [.check closed22, .check named])).verdict attributes := by
  intro attributes open22 closed22 noCidr named c
  have hknown : Value.anyFieldIndeterminate attributes = false := rfl
  have hfail : c.verdict attributes = .fail := by decide +kernel
  obtain ⟨htruth, -, hmorgan, -, -, hdenies⟩ := known_verdicts_follow_logic hknown
  have hclosed : (Condition.check closed22).verdict attributes = .fail := by decide +kernel
  refine ⟨hknown, hfail, ?_, ?_, (hmorgan [.check closed22, .check named]).1⟩
  · rw [← (htruth c).2, hfail]
    exact Bool.false_ne_true
  · rw [← hclosed]
    exact (hdenies closed22 .contains rfl).symm

end InfraPolicy
