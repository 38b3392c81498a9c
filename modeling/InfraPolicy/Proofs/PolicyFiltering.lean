import InfraPolicy.Project.Checker
import InfraPolicy.Proofs.Outcomes

/-!
# Filtering by policy

A policy chooses rules before they are applied. Here is what that amounts to for the violations of a
whole check: they are those that the loosest policy reports, without the ones that the policy does
not keep (`Policy.Keeps`), and in the same order.

Two checkers that differ in their policies read the same files and find the same resources, so all
that is to be compared is what they say of one resource (`Checker.check_agree`).
-/

namespace InfraPolicy

namespace Policy

/-- Everything is reported, of the same rules. -/
def loosest (p : Policy) : Policy where
  minSeverity := .info
  strict := true
  disableBuiltin := p.disableBuiltin
  deny := []
  allow := []

/-- What a policy keeps of all violations. -/
def Keeps (p : Policy) (v : Violation) : Prop :=
  v.ruleId ∉ p.deny ∧ (p.allow = [] ∨ v.ruleId ∈ p.allow) ∧
    v.severity.AtLeast p.minSeverity ∧ (p.strict = true ∨ v.indeterminate = false)

instance (p : Policy) (v : Violation) : Decidable (p.Keeps v) :=
  inferInstanceAs (Decidable (_ ∧ _ ∧ _ ∧ _))

/-- What a policy asks of a rule. -/
theorem admits_iff {p : Policy} {rule : Rule} :
    p.admits rule = true ↔
      rule.id ∉ p.deny ∧ (p.allow = [] ∨ rule.id ∈ p.allow) ∧
        rule.severity.AtLeast p.minSeverity := by
  simp [admits, Severity.meets, Severity.rank_le_rank_iff, and_assoc]

/-- The loosest policy leaves no rule out. -/
theorem filter_loosest (p : Policy) (rules : List Rule) : p.loosest.filter rules = rules := by
  refine List.filter_eq_self.mpr fun rule _ => admits_iff.mpr ⟨List.not_mem_nil, .inl rfl, ?_⟩
  simp [loosest, Severity.AtLeast]

end Policy

/-! ### One rule -/

namespace Rule

variable {rule : Rule} {r : Resource}

/-- A violation is marked exactly if the verdict is undecided. -/
theorem eq_violation_of_violation? {strict : Bool} {v : Violation}
    (h : rule.violation? strict r = some v) :
    v = rule.violation r (rule.condition.verdict r.attributes).unknown := by
  dsimp only [violation?] at h
  split_ifs at h
  exact (Option.some.inj h).symm

/-- Without strictness, the violations that are not marked are reported. -/
theorem violation?_eq_filter (strict : Bool) (rule : Rule) (r : Resource) :
    rule.violation? strict r =
      (rule.violation? true r).filter fun v => strict || !v.indeterminate := by
  dsimp only [violation?, reports]
  cases rule.appliesTo r with
  | false => rfl
  | true =>
    generalize rule.condition.verdict r.attributes = verdict
    obtain ⟨passed, unknown⟩ := verdict
    cases unknown with
    | true => cases strict <;> rfl
    | false => cases passed <;> cases strict <;> rfl

/-- A rule that the policy admits reports what the policy keeps, and any other rule has nothing that
it keeps. -/
theorem violation?_admitted (p : Policy) (rule : Rule) (r : Resource) :
    (if p.admits rule = true then rule.violation? p.strict r else none) =
      (rule.violation? true r).filter fun v => decide (p.Keeps v) := by
  cases hv : rule.violation? true r with
  | none =>
    rw [violation?_eq_filter p.strict, hv]
    simp
  | some v =>
    have heq := eq_violation_of_violation? hv
    have hid : v.ruleId = rule.id := by rw [heq]; rfl
    have hseverity : v.severity = rule.severity := by rw [heq]; rfl
    -- what the policy asks of the violation splits into what it asks of the rule and of the verdict
    have hkeeps : p.Keeps v ↔ p.admits rule = true ∧ (p.strict || !v.indeterminate) = true := by
      rw [Policy.Keeps, hid, hseverity, Policy.admits_iff]
      simp [and_assoc]
    rw [violation?_eq_filter p.strict, hv, Option.filter_some, Option.filter_some]
    split_ifs <;> simp_all

end Rule

/-! ### Whole checks -/

/-- A result that has the violations of another one that are kept, in the same order, and is
otherwise about the same files and resources. -/
structure CheckResult.Restricts (keep : Violation → Bool) (result whole : CheckResult) : Prop where
  violations : result.violations = whole.violations.filter keep
  filesScanned : result.filesScanned = whole.filesScanned
  resourcesFound : result.resourcesFound = whole.resourcesFound

namespace Checker

/-- What the policy leaves of the violations of a resource. -/
theorem violationsOf_eq_filter (c : Checker) (r : Resource) :
    c.violationsOf r =
      ({ c with policy := c.policy.loosest }.violationsOf r).filter
        fun v => decide (c.policy.Keeps v) := by
  rw [violationsOf, violationsOf, activeRules, activeRules, Policy.filter_loosest, Policy.filter,
    List.filterMap_filter, List.filter_filterMap]
  exact List.filterMap_congr fun rule _ => Rule.violation?_admitted c.policy rule r

/-- What the lack of strictness leaves of the violations of a resource. -/
theorem violationsOf_lenient {c : Checker} (hlenient : c.policy.strict = false) (r : Resource) :
    c.violationsOf r =
      ({ c with policy := { c.policy with strict := true } }.violationsOf r).filter
        fun v => !v.indeterminate := by
  rw [violationsOf, violationsOf, hlenient, List.filter_filterMap]
  exact List.filterMap_congr fun rule _ => Rule.violation?_eq_filter false rule r

variable {c c' : Checker} {keep : Violation → Bool}

theorem checkModule_agree (h : ∀ r, c.violationsOf r = (c'.violationsOf r).filter keep)
    (hvalues : c.valuesFile = c'.valuesFile) (read : FileReader)
    (files : List String) :
    Agree (fun found found' => found.resourcesFound = found'.resourcesFound ∧
        found.violations = found'.violations.filter keep)
      (c.checkModule read files) (c'.checkModule read files) := by
  rw [checkModule, checkModule, hvalues]
  refine (Agree.refl Eq.refl _).bind fun m m' hm => ?_
  subst hm
  refine ⟨rfl, ?_⟩
  rw [List.filter_flatMap]
  exact congrArg (m.resources.flatMap ·) (funext h)

/-- **A filter on each resource is a filter on the whole check.** -/
theorem check_agree (h : ∀ r, c.violationsOf r = (c'.violationsOf r).filter keep)
    (hvalues : c.valuesFile = c'.valuesFile) (read : FileReader)
    (files : List String) :
    Agree (CheckResult.Restricts keep) (c.check read files) (c'.check read files) := by
  rw [check, check]
  refine (Agree.mapM fun group _ => checkModule_agree h hvalues read group.2).bind
    fun found found' hfound => ?_
  have hresources : found.map Findings.resourcesFound = found'.map Findings.resourcesFound :=
    map_eq_map_of_forall₂ hfound fun _ _ h => h.1
  have hviolations : found.map Findings.violations =
      found'.map fun whole => whole.violations.filter keep :=
    map_eq_map_of_forall₂ hfound fun _ _ h => h.2
  refine ⟨?_, rfl, congrArg (List.foldr (· + ·) 0) hresources⟩
  rw [List.filter_flatMap, List.flatMap_def, List.flatMap_def, hviolations]

/-- The policy of the options is that of the checker, and nothing else of it but the choice of
built-in rules has a part in the making of the checker. -/
theorem ofOptions_agree (read : FileReader) (o : CheckerOptions) (p : Policy)
    (hbuiltin : p.disableBuiltin = o.policy.disableBuiltin) :
    Agree (fun c c' => c.policy = o.policy ∧ c' = { c with policy := p })
      (ofOptions read o) (ofOptions read { o with policy := p }) := by
  have hlayers : { o with policy := p }.layers read = o.layers read := by
    rw [CheckerOptions.layers, CheckerOptions.layers, CheckerOptions.builtinLayer,
      CheckerOptions.builtinLayer, hbuiltin]
    rfl
  rw [ofOptions, ofOptions, hlayers]
  refine (Agree.refl Eq.refl _).bind fun layers layers' h => ?_
  subst h
  exact ⟨rfl, rfl⟩

end Checker

/-- **A policy only filters violations.** Under any policy the same checkers can be made and the
same checks succeed as under the loosest one, about the same files and resources, and the violations
are those of the loosest one that the policy keeps, in the same order. In particular strictness only
adds violations that are marked as undecided. -/
theorem policy_only_filters_violations (read : FileReader) (o : CheckerOptions)
    (files : List String) :
    Agree
      (fun c loosest =>
        Agree (CheckResult.Restricts fun v => decide (o.policy.Keeps v))
          (c.check read files) (loosest.check read files))
      (Checker.ofOptions read o)
      (Checker.ofOptions read { o with policy := o.policy.loosest }) ∧
    Agree
      (fun lenient strict =>
        Agree (CheckResult.Restricts fun v => !v.indeterminate)
          (lenient.check read files) (strict.check read files))
      (Checker.ofOptions read { o with policy := { o.policy with strict := false } })
      (Checker.ofOptions read { o with policy := { o.policy with strict := true } }) := by
  constructor
  · refine (Checker.ofOptions_agree read o o.policy.loosest rfl).imp fun c loosest h => ?_
    obtain ⟨hpolicy, rfl⟩ := h
    rw [← hpolicy]
    exact Checker.check_agree c.violationsOf_eq_filter rfl read files
  · refine (Checker.ofOptions_agree read { o with policy := { o.policy with strict := false } }
      { o.policy with strict := true } rfl).imp fun lenient strict h => ?_
    obtain ⟨hpolicy, rfl⟩ := h
    have hlenient : lenient.policy.strict = false := by rw [hpolicy]
    have hstrict : { o.policy with strict := true } = { lenient.policy with strict := true } := by
      rw [hpolicy]
    rw [hstrict]
    exact Checker.check_agree (Checker.violationsOf_lenient hlenient) rfl read files

/-- Five rules that a bucket breaks, the last one undecidedly. Of all that the loosest policy
reports there remain the error and the warning: the info is not severe enough, the next rule is
denied, and what is undecided is reported in strict mode only. -/
theorem policy_only_filters_violations_example :
    let rule (id severity : String) (condition : ConditionDef) : RuleDef :=
      { id, name := id, severity, resourceType := "bucket", condition := some condition
        message := "broken" }
    let absent : ConditionDef := { path := some "acl", operator := "exists" }
    let undecided : ConditionDef :=
      { path := some "owner", operator := "equals", value := some (.string "ops") }
    let o : CheckerOptions :=
      { policy := { minSeverity := .warning, disableBuiltin := true, deny := ["D"] }
        configRules := [rule "W" "warning" absent, rule "I" "info" absent, rule "E" "error" absent,
          rule "D" "error" absent, rule "U" "error" undecided] }
    let read : FileReader :=
      fun _ => .ok "resource \"bucket\" \"logs\" \x7b owner = var.owner \x7d\n"
    let brief (v : Violation) : String × Severity × Bool := (v.ruleId, v.severity, v.indeterminate)
    ∃ c loosest result whole,
      Checker.ofOptions read o = .ok c ∧
      Checker.ofOptions read { o with policy := o.policy.loosest } = .ok loosest ∧
      c.check read ["main.tf"] = .ok result ∧ loosest.check read ["main.tf"] = .ok whole ∧
      whole.violations.map brief =
        [("W", .warning, false), ("I", .info, false), ("E", .error, false), ("D", .error, false),
          ("U", .error, true)] ∧
      result.violations.map brief = [("W", .warning, false), ("E", .error, false)] := by
  intro rule absent undecided o read brief
  obtain ⟨loosest, whole, hloosest, hwhole, hall, hkept⟩ : ∃ loosest whole,
      Checker.ofOptions read { o with policy := o.policy.loosest } = .ok loosest ∧
      loosest.check read ["main.tf"] = .ok whole ∧
      whole.violations.map brief =
        [("W", .warning, false), ("I", .info, false), ("E", .error, false), ("D", .error, false),
          ("U", .error, true)] ∧
      (whole.violations.filter fun v => decide (o.policy.Keeps v)).map brief =
        [("W", .warning, false), ("E", .error, false)] := by
    refine ⟨_, _, eq_ok_getD_of_isSome ?_, eq_ok_getD_of_isSome ?_, ?_, ?_⟩ <;> decide +kernel
  -- with their values in view, unification would run both checks
  clear_value o read
  obtain ⟨c, hc, hchecks⟩ :=
    (policy_only_filters_violations read o ["main.tf"]).1.exists_of_ok_right hloosest
  obtain ⟨result, hresult, hrestricts⟩ := hchecks.exists_of_ok_right hwhole
  refine ⟨c, loosest, result, whole, hc, hloosest, hresult, hwhole, hall, ?_⟩
  rw [hrestricts.violations]
  exact hkept

end InfraPolicy
