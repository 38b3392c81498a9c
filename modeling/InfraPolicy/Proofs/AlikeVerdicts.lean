import InfraPolicy.Proofs.Alike
import InfraPolicy.Proofs.Confidence

/-!
# Rules see no order of fields

Attributes that are alike, with the same floats, have the same verdicts. A path leads to alike
values in both or nowhere in both (`Path.resolve?_alike`), and every test that a check applies to
what it finds says the same of alike values (`Check.verdictOn_alike`).
-/

namespace InfraPolicy

namespace Value

theorem looseEqItems_congr {xs ys : List Value} (h : xs.map looseEq = ys.map looseEq)
    (es : List Value) : looseEqItems xs es = looseEqItems ys es := by
  induction xs generalizing ys es with
  | nil =>
    rw [List.map_nil, eq_comm, List.map_eq_nil_iff] at h
    rw [h]
  | cons v rest ih =>
    cases ys with
    | nil => simp at h
    | cons w rest' =>
      obtain ⟨hhead, htail⟩ := List.cons_eq_cons.mp h
      cases es with
      | nil => rfl
      | cons e es => rw [looseEqItems, looseEqItems, hhead, ih htail]

/-- Loose equality of fields, key by key. -/
theorem looseEqFields_iff {fs es : Fields} :
    looseEqFields fs es = true ↔ ∀ p ∈ fs, ∃ e, es.get? p.1 = some e ∧ p.2.looseEq e = true := by
  induction fs with
  | nil => simp [looseEqFields]
  | cons p rest ih =>
    rw [looseEqFields, Bool.and_eq_true, ih, List.forall_mem_cons]
    cases es.get? p.1 <;> simp

namespace Alike

variable {F : Binary64 → Binary64 → Prop} {v w : Value}

/-- A function that does not tell the items of alike lists apart. -/
private theorem map_eq {α : Type} {f : Value → α} {xs ys : List Value}
    (h : List.Forall₂ (fun v w => f v = f w) xs ys) : xs.map f = ys.map f := by
  rw [← List.forall₂_eq_eq_eq, List.forall₂_map_left_iff, List.forall₂_map_right_iff]
  exact h

theorem any_eq {f : Value → Bool} {xs ys : List Value}
    (h : List.Forall₂ (fun v w => f v = f w) xs ys) : xs.any f = ys.any f := by
  simpa [Function.comp_def] using congrArg (List.any · id) (map_eq h)

theorem hasIndeterminate_eq (h : Alike F v w) : v.hasIndeterminate = w.hasIndeterminate := by
  induction h with
  | atom | float => rfl
  | list length _ ih =>
    rw [hasIndeterminate, hasIndeterminate, anyIndeterminate_eq_any, anyIndeterminate_eq_any]
    exact any_eq (List.forall₂_iff_get.mpr ⟨length, ih⟩)
  | @object fs gs nodup keys _ ih =>
    have hnone := Fields.forall_mem_congr nodup keys fun key v w hv hw =>
      show v.hasIndeterminate = false ↔ w.hasIndeterminate = false by rw [ih key v w hv hw]
    rw [hasIndeterminate, hasIndeterminate, anyFieldIndeterminate_eq_any,
      anyFieldIndeterminate_eq_any, Bool.eq_iff_iff, ← not_iff_not]
    simpa only [List.any_eq_true, not_exists, not_and, Bool.not_eq_true] using hnone

/-! ### With the same floats -/

section SameFloats

variable (hF : ∀ {x y}, F x y → x = y)

include hF

/-- **Values that are alike equal the same values**, loosely. -/
theorem looseEq_eq (h : Alike F v w) : v.looseEq = w.looseEq := by
  induction h with
  | atom => rfl
  | float h => rw [hF h]
  | list length _ ih =>
    have hmap := map_eq (List.forall₂_iff_get.mpr ⟨length, ih⟩)
    funext e
    cases e with
    | list es => exact looseEqItems_congr hmap es
    | _ => rfl
  | @object fs gs nodup keys _ ih =>
    funext e
    cases e with
    | object es =>
      have hlength : fs.length = gs.length := by simpa [Fields.keys] using keys.length_eq
      have hfields : looseEqFields fs es = looseEqFields gs es := by
        rw [Bool.eq_iff_iff, looseEqFields_iff, looseEqFields_iff]
        refine Fields.forall_mem_congr (P := fun key v => ∃ e, Fields.get? es key = some e ∧
          v.looseEq e = true) nodup keys fun key v w hv hw => ?_
        rw [ih key v w hv hw]
      rw [looseEq, looseEq, hlength, hfields]
    | _ => rfl

theorem scalarText?_eq (h : Alike F v w) : v.scalarText? = w.scalarText? := by
  cases h with
  | float h => rw [hF h]
  | _ => rfl

theorem number?_eq (h : Alike F v w) : v.number? = w.number? := by
  cases h with
  | float h => rw [hF h]
  | _ => rfl

theorem contains_eq (h : Alike F v w) : v.contains = w.contains := by
  funext needle
  cases h with
  | atom | float => rfl
  | list length items =>
    refine any_eq (List.forall₂_iff_get.mpr ⟨length, fun n h h' => ?_⟩)
    rw [looseEq_eq hF (items n h h')]
  | @object fs gs _ keys _ =>
    have hcontains : ∀ key, fs.contains key = gs.contains key := by
      intro key
      rw [Bool.eq_iff_iff, Fields.contains_iff, Fields.contains_iff, keys.mem_iff]
    simp only [contains, hcontains]

/-- No operator tells values apart that are alike. -/
theorem holdsOn_eq (h : Alike F v w) (check : Check) : check.holdsOn v = check.holdsOn w := by
  have hnull : v.isNull = w.isNull := by cases h <;> rfl
  have hmatch : v.hasMatch = w.hasMatch := by
    funext p
    rw [hasMatch, hasMatch, h.scalarText?_eq hF]
  simp only [Check.holdsOn, hnull, hmatch, h.looseEq_eq hF, h.contains_eq hF, greaterThan, lessThan,
    oneOf, h.number?_eq hF]

end SameFloats

end Alike

end Value

/-! ### Look-up -/

/-- A path leads to alike places in alike values. -/
theorem Path.resolve?_alike {F : Binary64 → Binary64 → Prop} (path : Path) {v w : Value}
    (h : v.Alike F w) : Option.Rel (Value.Alike F) (resolve? path v) (resolve? path w) := by
  induction path generalizing v w with
  | nil => exact .some h
  | cons segment rest ih =>
    have hbind : ∀ {a b : Option Value}, Option.Rel (Value.Alike F) a b →
        Option.Rel (Value.Alike F) (a.bind (resolve? rest)) (b.bind (resolve? rest)) := by
      intro a b hab
      cases hab with
      | none => exact .none
      | some hvw => exact ih hvw
    cases h with
    | @atom v hatom =>
      -- both sides are the same, and what is found in an atom is none or itself
      cases v with
      | unknown | computed =>
        rw [resolve?_of_isIndeterminate rfl]
        exact .some (.atom rfl)
      | float | list | object => simp [Value.isAtom] at hatom
      | _ => cases segment <;> exact .none
    | float => cases segment <;> exact .none
    | list length items =>
      cases segment with
      | key name => exact .none
      | index n => exact hbind (Value.Alike.getElem? (.list length items) n)
      | wildcard =>
        have hitems := List.forall₂_iff_get.mpr ⟨length, items⟩
        exact resolve?_wildcard_rel Value.Alike.list_iff.mpr (hitems.imp fun _ _ h => ih h)
    | object nodup keys fields =>
      cases segment with
      | key name => exact hbind (Value.Alike.get? (.object nodup keys fields) name)
      | index n | wildcard => exact .none

/-- A path leads to the same place in attributes that are alike. -/
theorem Path.find?_alike {F : Binary64 → Binary64 → Prop} {attributes attributes' : Fields}
    (h : (Value.object attributes).Alike F (.object attributes')) (text : String) :
    Option.Rel (Value.Alike F) (find? attributes text) (find? attributes' text) := by
  rw [find?, find?]
  cases parse? text with
  | none => exact .none
  | some path =>
    cases path with
    | nil => exact .none
    | cons segment rest =>
      simp only [Option.bind_some, lookup?_cons]
      exact resolve?_alike (segment :: rest) h

/-! ### Verdicts -/

section Verdicts

variable {attributes attributes' : Fields}

/-- Conjunctions agree if their children do. -/
theorem Condition.verdictAll_congr {children : List Condition}
    (h : ∀ c ∈ children, c.verdict attributes = c.verdict attributes') (unknown : Bool) :
    verdictAll attributes unknown children = verdictAll attributes' unknown children := by
  induction children generalizing unknown with
  | nil => rfl
  | cons c rest ih =>
    obtain ⟨hc, hrest⟩ := List.forall_mem_cons.mp h
    simp only [verdictAll, hc, ih hrest]

/-- Disjunctions agree if their children do. -/
theorem Condition.verdictAny_congr {children : List Condition}
    (h : ∀ c ∈ children, c.verdict attributes = c.verdict attributes') (unknown : Bool) :
    verdictAny attributes unknown children = verdictAny attributes' unknown children := by
  induction children generalizing unknown with
  | nil => rfl
  | cons c rest ih =>
    obtain ⟨hc, hrest⟩ := List.forall_mem_cons.mp h
    simp only [verdictAny, hc, ih hrest]

variable {F : Binary64 → Binary64 → Prop} (hF : ∀ {x y}, F x y → x = y)

include hF

/-- A check says the same of alike values. -/
theorem Check.verdictOn_alike (check : Check) {a b : Option Value}
    (h : Option.Rel (Value.Alike F) a b) : check.verdictOn a = check.verdictOn b := by
  cases h with
  | none => rfl
  | @some v w h =>
    have hhangs : check.operator.hangsOnUnknown v = check.operator.hangsOnUnknown w := by
      have hopen := h.hasIndeterminate_eq
      cases h with
      | atom => rfl
      | float => cases check.operator <;> rfl
      | list =>
        cases check.operator with
        | «exists» | notExists => rfl
        | _ => exact hopen
      | object =>
        cases check.operator with
        | «exists» | notExists | contains | notContains => rfl
        | _ => exact hopen
    rw [verdictOn, verdictOn, Value.Alike.congruence.isIndeterminate_eq h, hhangs,
      h.holdsOn_eq hF]

/-- **Rules cannot tell alike attributes apart.** -/
theorem Condition.verdict_alike (h : (Value.object attributes).Alike F (.object attributes'))
    (c : Condition) : c.verdict attributes = c.verdict attributes' := by
  induction c with
  | check check => exact check.verdictOn_alike hF (Path.find?_alike h check.path)
  | all children ih => exact verdictAll_congr ih false
  | any children ih => exact verdictAny_congr ih false
  | not child ih => rw [verdict, verdict, ih]

/-- A rule says the same, word for word, of resources with alike attributes. -/
theorem Rule.violation?_alike (h : (Value.object attributes).Alike F (.object attributes'))
    (strict : Bool) (rule : Rule) (r : Resource) :
    rule.violation? strict { r with attributes } =
      rule.violation? strict { r with attributes := attributes' } := by
  have happlies : rule.appliesTo { r with attributes } =
      rule.appliesTo { r with attributes := attributes' } := rfl
  simp only [violation?, violation, happlies, Message.render_withAttributes,
    Condition.verdict_alike hF h]

end Verdicts

end InfraPolicy
