import InfraPolicy.Proofs.Lookup
import InfraPolicy.Rule.Violation

/-!
# Certain verdicts

A verdict that does not hang on unknown values is right for all that these values can be. For a
single check this holds under every refinement of the attributes (`Check.verdict_refine`). For a
condition it holds under every **resolution**: while some values are still open, a conjunction that
is certain to fail may become undecided, because a child before the failing one was undecided and
now fails without certainty.

The one exception is built into the statements. Existence is answered from what a path finds, and a
path that goes on after a wildcard counts indeterminate items as found. `Condition.ExistenceStops`
says that no check of existence has such a path.
-/

namespace InfraPolicy

/-! ### Induction over conditions -/

/-- Structural induction over conditions: above the checks, the statement may be assumed for all
children. -/
@[elab_as_elim, induction_eliminator]
theorem Condition.inductionOnChildren {motive : Condition → Prop}
    (check : ∀ c, motive (.check c))
    (all : ∀ children, (∀ c ∈ children, motive c) → motive (.all children))
    (any : ∀ children, (∀ c ∈ children, motive c) → motive (.any children))
    (not : ∀ child, motive child → motive (.not child)) : ∀ c, motive c
  | .check c => check c
  | .all children => all children fun c _ => inductionOnChildren check all any not c
  | .any children => any children fun c _ => inductionOnChildren check all any not c
  | .not child => not child (inductionOnChildren check all any not child)

mutual

/-- The checks of a condition, from left to right. -/
def Condition.checks : Condition → List Check
  | .check c => [c]
  | .all children => Condition.checksOf children
  | .any children => Condition.checksOf children
  | .not child => child.checks

/-- The checks of several conditions. -/
def Condition.checksOf : List Condition → List Check
  | [] => []
  | c :: rest => c.checks ++ Condition.checksOf rest

end

theorem Condition.mem_checksOf {children : List Condition} {check : Check} :
    check ∈ Condition.checksOf children ↔ ∃ c ∈ children, check ∈ c.checks := by
  induction children with
  | nil => simp [Condition.checksOf]
  | cons c rest ih => simp [Condition.checksOf, ih]

/-- If the check is one of existence, then its path stops at the first wildcard. -/
def Check.ExistenceStops (check : Check) : Prop :=
  check.operator = .exists ∨ check.operator = .notExists →
    (Path.parse? check.path).all Path.stopsAtWildcard = true

instance (check : Check) : Decidable check.ExistenceStops :=
  inferInstanceAs (Decidable (_ → _))

/-- No check of existence has a path that goes on after a wildcard. -/
def Condition.ExistenceStops (c : Condition) : Prop :=
  ∀ check ∈ c.checks, check.ExistenceStops

instance (c : Condition) : Decidable c.ExistenceStops :=
  inferInstanceAs (Decidable (∀ check ∈ c.checks, check.ExistenceStops))

namespace Condition

theorem ExistenceStops.of_mem_all {children : List Condition} {c : Condition}
    (h : (Condition.all children).ExistenceStops) (hc : c ∈ children) : c.ExistenceStops :=
  fun check hcheck => h check (mem_checksOf.mpr ⟨c, hc, hcheck⟩)

theorem ExistenceStops.of_mem_any {children : List Condition} {c : Condition}
    (h : (Condition.any children).ExistenceStops) (hc : c ∈ children) : c.ExistenceStops :=
  fun check hcheck => h check (mem_checksOf.mpr ⟨c, hc, hcheck⟩)

end Condition

/-! ### Verdicts -/

namespace Verdict

theorem eq_certain {v : Verdict} (h : v.unknown = false) : v = .certain v.passed := by
  obtain ⟨passed, unknown⟩ := v
  subst h
  rfl

theorem eq_fail {v : Verdict} (hpassed : v.passed = false) (hcertain : v.unknown = false) :
    v = .fail := by
  rw [eq_certain hcertain, hpassed]
  rfl

end Verdict

/-! ### Checks -/

namespace Check

/-- An operator does not hang on unknown values if there are none, if it asks for existence, or if
it asks for a key of an object. -/
theorem hangsOnUnknown_eq_false {op : Operator} {found : Value}
    (h : op.hangsOnUnknown found = false) :
    found.hasIndeterminate = false ∨ (op = .exists ∨ op = .notExists) ∨
      ((op = .contains ∨ op = .notContains) ∧ ∃ fields, found = .object fields) := by
  cases op with
  | «exists» | notExists => simp
  | contains | notContains =>
    cases found with
    | object fields => simp
    | _ => exact .inl h
  | _ => exact .inl h

theorem hangsOnUnknown_of_determinate {op : Operator} {found : Value}
    (h : found.hasIndeterminate = false) : op.hangsOnUnknown found = false := by
  cases op <;> cases found <;> first | rfl | exact h

/-- A verdict is certain only on a value that is known and on which the operator does not hang. -/
theorem of_verdictOn_certain {check : Check} {found : Value}
    (h : (check.verdictOn (some found)).unknown = false) :
    found.isIndeterminate = false ∧ check.operator.hangsOnUnknown found = false := by
  rw [verdictOn] at h
  split_ifs at h with hopen
  · simp [Verdict.undecided] at h
  · simpa using hopen

theorem verdictOn_eq_certain {check : Check} {found : Value}
    (hknown : found.isIndeterminate = false)
    (hhangs : check.operator.hangsOnUnknown found = false) :
    check.verdictOn (some found) = .certain (check.holdsOn found) := by
  simp [verdictOn, hknown, hhangs]

/-- Refinement keeps the keys of an object, and only they matter. -/
theorem contains_object_refine {fs gs : Fields} (h : fs.RefinedBy gs) (needle : Value) :
    (Value.object gs).contains needle = (Value.object fs).contains needle := by
  rw [Value.contains, Value.contains]
  cases needle.scalarText? with
  | none => rfl
  | some key => exact h.contains_eq key

/-- A certain verdict on a value is the verdict on every refinement of it. -/
theorem verdictOn_some_refine {check : Check} {v w : Value} (h : v.RefinedBy w)
    (hcertain : (check.verdictOn (some v)).unknown = false) :
    check.verdictOn (some w) = check.verdictOn (some v) := by
  obtain ⟨hknown, hhangs⟩ := of_verdictOn_certain hcertain
  rcases hangsOnUnknown_eq_false hhangs with hdet | hop | ⟨hop, fields, rfl⟩
  · rw [h.eq_of_determinate hdet]
  · -- existence looks at the top of the value only
    have hknown' : w.isIndeterminate = false := h.isIndeterminate_eq hknown
    rcases hop with hop | hop <;>
      rw [verdictOn_eq_certain hknown hhangs, verdictOn_eq_certain hknown' (by rw [hop]; rfl),
        holdsOn, holdsOn, hop, h.isNull_eq hknown]
  · cases h with
    | object hfields =>
      rcases hop with hop | hop <;>
        rw [verdictOn_eq_certain hknown hhangs, verdictOn_eq_certain rfl (by rw [hop]; rfl),
          holdsOn, holdsOn, hop, contains_object_refine hfields]

/-- A verdict that is certain stays when what was found is refined. -/
theorem verdictOn_refine {check : Check} {a b : Option Value}
    (h : Option.Rel Value.RefinedBy a b) (hcertain : (check.verdictOn a).unknown = false) :
    check.verdictOn b = check.verdictOn a := by
  cases h with
  | none => rfl
  | some hvw => exact verdictOn_some_refine hvw hcertain

/-- **A certain verdict of a check survives refinement**, whole or in part. -/
theorem verdict_refine {attributes attributes' : Fields} (h : attributes.RefinedBy attributes')
    {check : Check} (hstops : check.ExistenceStops)
    (hcertain : (check.verdict attributes).unknown = false) :
    check.verdict attributes' = check.verdict attributes := by
  rw [verdict] at hcertain ⊢
  rw [verdict]
  rcases Path.find?_refine h check.path with ⟨path, u, hpath, hfound, hopen⟩ | hrel
  · -- an unsettled value leaves nothing certain but existence, and then the path has stopped
    exfalso
    rw [hfound] at hcertain
    obtain ⟨hknown, hhangs⟩ := of_verdictOn_certain hcertain
    rcases hopen with hopen | ⟨hgoes, hopen, items, rfl⟩
    · exact absurd hopen (by simp [hknown])
    · rcases hangsOnUnknown_eq_false hhangs with hdet | hop | ⟨-, fields, hfields⟩
      · simp [hopen] at hdet
      · have hstop := hstops hop
        rw [hpath, Option.all_some] at hstop
        simp [hstop] at hgoes
      · exact Value.noConfusion hfields
  · exact verdictOn_refine hrel hcertain

/-- Where nothing is indeterminate, a check is decided by what its path finds. -/
theorem verdict_eq_certain {attributes : Fields}
    (h : Value.anyFieldIndeterminate attributes = false) (check : Check) :
    check.verdict attributes =
      .certain ((Path.find? attributes check.path).elim check.operator.holdsWhenAbsent
        check.holdsOn) := by
  rw [verdict]
  cases hfound : Path.find? attributes check.path with
  | none => rfl
  | some found =>
    have hdet : found.hasIndeterminate = false := Path.hasIndeterminate_of_find? h hfound
    rw [verdictOn_eq_certain (Value.isIndeterminate_of_determinate hdet)
      (hangsOnUnknown_of_determinate hdet)]
    rfl

/-- On attributes that are all known every check is certain. -/
theorem verdict_certain {attributes : Fields} (h : Value.anyFieldIndeterminate attributes = false)
    (check : Check) : (check.verdict attributes).unknown = false := by
  rw [verdict_eq_certain h]
  rfl

end Check

/-! ### Conditions -/

namespace Condition

variable {attributes attributes' : Fields}

/-- A conjunction with an undecided child can only be certain to fail. -/
theorem verdictAll_true_certain {children : List Condition}
    (h : (verdictAll attributes true children).unknown = false) :
    verdictAll attributes true children = .fail := by
  induction children with
  | nil => simp [verdictAll] at h
  | cons c rest ih =>
    rw [verdictAll] at h ⊢
    split_ifs at h ⊢ with hpassed
    · exact ih h
    · exact Verdict.eq_fail (Bool.eq_false_iff.mpr hpassed) h

/-- A disjunction with an undecided child can only be certain to pass. -/
theorem verdictAny_true_certain {children : List Condition}
    (h : (verdictAny attributes true children).unknown = false) :
    verdictAny attributes true children = .pass := by
  induction children with
  | nil => simp [verdictAny] at h
  | cons c rest ih =>
    rw [verdictAny] at h ⊢
    split_ifs at h ⊢ with hpassed
    · exact hpassed
    · exact ih h

/-- Where nothing is indeterminate, every condition is certain. -/
theorem verdict_certain (h : Value.anyFieldIndeterminate attributes = false) (c : Condition) :
    (c.verdict attributes).unknown = false := by
  induction c with
  | check c => exact c.verdict_certain h
  | all children ih =>
    rw [verdict]
    induction children with
    | nil => rfl
    | cons c rest ih' =>
      rw [verdictAll, ih c List.mem_cons_self, Bool.or_self]
      split_ifs
      · exact ih' fun d hd => ih d (List.mem_cons_of_mem c hd)
      · exact ih c List.mem_cons_self
  | any children ih =>
    rw [verdict]
    induction children with
    | nil => rfl
    | cons c rest ih' =>
      rw [verdictAny, ih c List.mem_cons_self, Bool.or_self]
      split_ifs
      · exact ih c List.mem_cons_self
      · exact ih' fun d hd => ih d (List.mem_cons_of_mem c hd)
  | not child ih => exact ih

section Resolution

variable (hresolved : ∀ c : Condition, (c.verdict attributes').unknown = false)

include hresolved in
/-- A conjunction whose children keep their certain verdicts keeps its own. Children that were
undecided before the one that fails may now fail themselves, which does not change the verdict. -/
theorem verdictAll_resolve {children : List Condition} {unknown : Bool}
    (hchildren : ∀ c ∈ children, (c.verdict attributes).unknown = false →
      c.verdict attributes' = c.verdict attributes)
    (hcertain : (verdictAll attributes unknown children).unknown = false) :
    verdictAll attributes' false children = verdictAll attributes unknown children := by
  induction children generalizing unknown with
  | nil =>
    obtain rfl : unknown = false := hcertain
    rfl
  | cons c rest ih =>
    have hrest : ∀ d ∈ rest, (d.verdict attributes).unknown = false →
        d.verdict attributes' = d.verdict attributes :=
      fun d hd => hchildren d (List.mem_cons_of_mem c hd)
    have hc := hchildren c List.mem_cons_self
    rw [verdictAll] at hcertain
    rw [verdictAll, verdictAll]
    by_cases hpassed : (c.verdict attributes).passed = true
    · rw [if_pos hpassed] at hcertain ⊢
      by_cases hpassed' : (c.verdict attributes').passed = true
      · rw [if_pos hpassed', hresolved c, Bool.or_self]
        exact ih hrest hcertain
      · -- the child was undecided and has turned out to fail; the failure comes earlier, no more
        have hopen : (c.verdict attributes).unknown = true := by
          by_contra hopen
          rw [hc (Bool.eq_false_iff.mpr hopen)] at hpassed'
          exact hpassed' hpassed
        rw [hopen, Bool.or_true] at hcertain ⊢
        rw [if_neg hpassed', verdictAll_true_certain hcertain]
        exact Verdict.eq_fail (Bool.eq_false_iff.mpr hpassed') (hresolved c)
    · rw [if_neg hpassed] at hcertain ⊢
      rw [hc hcertain, if_neg hpassed]

include hresolved in
/-- A disjunction whose children keep their certain verdicts keeps its own. -/
theorem verdictAny_resolve {children : List Condition} {unknown : Bool}
    (hchildren : ∀ c ∈ children, (c.verdict attributes).unknown = false →
      c.verdict attributes' = c.verdict attributes)
    (hcertain : (verdictAny attributes unknown children).unknown = false) :
    verdictAny attributes' false children = verdictAny attributes unknown children := by
  induction children generalizing unknown with
  | nil =>
    obtain rfl : unknown = false := hcertain
    rfl
  | cons c rest ih =>
    have hrest : ∀ d ∈ rest, (d.verdict attributes).unknown = false →
        d.verdict attributes' = d.verdict attributes :=
      fun d hd => hchildren d (List.mem_cons_of_mem c hd)
    have hc := hchildren c List.mem_cons_self
    rw [verdictAny] at hcertain
    rw [verdictAny, verdictAny]
    by_cases hpass : c.verdict attributes = .pass
    · rw [hc (by rw [hpass]; rfl), if_pos hpass, if_pos hpass]
    · rw [if_neg hpass] at hcertain ⊢
      by_cases hpass' : c.verdict attributes' = .pass
      · -- the child was undecided and has turned out to pass, as a later one does anyway
        have hopen : (c.verdict attributes).unknown = true := by
          by_contra hopen
          rw [hc (Bool.eq_false_iff.mpr hopen)] at hpass'
          exact hpass hpass'
        rw [hopen, Bool.or_true] at hcertain ⊢
        rw [if_pos hpass', verdictAny_true_certain hcertain]
        exact hpass'
      · rw [if_neg hpass', hresolved c, Bool.or_self]
        exact ih hrest hcertain

end Resolution

/-- A certain verdict is the verdict on every full resolution of the attributes. -/
theorem verdict_resolve (h : attributes.ResolvedBy attributes') {c : Condition}
    (hstops : c.ExistenceStops) (hcertain : (c.verdict attributes).unknown = false) :
    c.verdict attributes' = c.verdict attributes := by
  have hresolved := verdict_certain h.determinate
  induction c with
  | check c => exact Check.verdict_refine h.refined (hstops c (List.mem_singleton_self c)) hcertain
  | all children ih =>
    exact verdictAll_resolve hresolved (fun c hc => ih c hc (hstops.of_mem_all hc)) hcertain
  | any children ih =>
    exact verdictAny_resolve hresolved (fun c hc => ih c hc (hstops.of_mem_any hc)) hcertain
  | not child ih =>
    have hchild := ih hstops hcertain
    rw [verdict, verdict, hchild]

end Condition

/-! ### Violations -/

/-- A message says nothing about the attributes of a resource. -/
theorem Message.render_withAttributes (template : String) (r : Resource) (attributes : Fields) :
    Message.render template { r with attributes } = Message.render template r := by
  have hfill : ∀ last placeholders,
      Message.fill? { r with attributes } last placeholders =
        Message.fill? r last placeholders := by
    intro last placeholders
    induction placeholders with
    | nil => rfl
    | cons p rest ih => simp only [Message.fill?, ih]; rfl
  simp only [Message.render, hfill]

theorem Rule.reports_lenient {v : Verdict} : Rule.reports false v = true ↔ v = .fail := by
  obtain ⟨passed, unknown⟩ := v
  cases passed <;> cases unknown <;> decide

/-- A violation is reported without strictness exactly when the rule applies and certainly fails. -/
theorem Rule.violation?_lenient_eq_some {rule : Rule} {r : Resource} {v : Violation} :
    rule.violation? false r = some v ↔
      rule.appliesTo r = true ∧ rule.condition.verdict r.attributes = .fail ∧
        v = rule.violation r false := by
  dsimp only [Rule.violation?]
  constructor
  · intro h
    split_ifs at h with happlies hreports
    have hfail := Rule.reports_lenient.mp hreports
    rw [hfail] at h
    exact ⟨happlies, hfail, (Option.some.inj h).symm⟩
  · rintro ⟨happlies, hfail, rfl⟩
    rw [if_pos happlies, hfail]
    rfl

/-- **Certain verdicts survive every resolution of unknowns.** On any full resolution of the
attributes a condition has the verdict that it certainly has on the attributes themselves. So what
is reported without strictness stays reported word for word, whatever the open values turn out to
be. -/
theorem certain_verdict_survives_resolution {attributes resolution : Fields}
    (h : attributes.ResolvedBy resolution) :
    (∀ c : Condition, c.ExistenceStops → (c.verdict attributes).unknown = false →
      c.verdict resolution = c.verdict attributes) ∧
    ∀ (rule : Rule) (r : Resource) (v : Violation), rule.condition.ExistenceStops →
      r.attributes = attributes → rule.violation? false r = some v →
        rule.violation? false { r with attributes := resolution } = some v := by
  refine ⟨fun c hstops hcertain => Condition.verdict_resolve h hstops hcertain, ?_⟩
  rintro rule r v hstops rfl hv
  obtain ⟨happlies, hfail, rfl⟩ := Rule.violation?_lenient_eq_some.mp hv
  have hfail' : rule.condition.verdict resolution = .fail := by
    rw [Condition.verdict_resolve h hstops (by rw [hfail]; rfl), hfail]
  refine Rule.violation?_lenient_eq_some.mpr ⟨happlies, hfail', ?_⟩
  simp only [Rule.violation, Message.render_withAttributes]

/-- A conjunction that certainly fails behind an undecided child, in attributes with something
unknown in a list and in an object. -/
theorem certain_verdict_survives_resolution_example :
    let attributes : Fields :=
      [("ingress", .list [.object [("port", .int 22), ("cidr", .unknown)], .computed]),
        ("tags", .object [("Name", .unknown)])]
    let resolution : Fields :=
      [("ingress", .list [.object [("port", .int 22), ("cidr", .string "0.0.0.0/0")],
          .object [("port", .null)]]),
        ("tags", .object [("Name", .list [])])]
    let c : Condition :=
      .all [.check ⟨"tags.Name", .equals, some (.string "web"), none⟩,
        .check ⟨"tags", .contains, some (.string "Name"), none⟩,
        .not (.check ⟨"ingress[*]", .exists, none, none⟩)]
    attributes.ResolvedBy resolution ∧ c.verdict attributes = .fail ∧
      c.verdict resolution = c.verdict attributes := by
  intro attributes resolution c
  have hresolved : attributes.ResolvedBy resolution :=
    ⟨.cons (.list (.cons (.object (.cons (.int 22) (.cons (.unknown _) .nil)))
        (.cons (.computed _) .nil)))
      (.cons (.object (.cons (.unknown _) .nil)) .nil), rfl⟩
  have hfail : c.verdict attributes = .fail := by decide +kernel
  exact ⟨hresolved, hfail,
    (certain_verdict_survives_resolution hresolved).1 c (by decide +kernel) (by rw [hfail]; rfl)⟩

end InfraPolicy
