import InfraPolicy.Proofs.Confidence

/-!
# The order of children

A disjunction passes if one of its children certainly does, and else it fails, certainly if all of
its children are certain. The order of the children plays no part in this. A conjunction has the
verdict of its first child that does not pass, and such a verdict comes in two kinds: a check fails
with certainty only, but a negation or a disjunction may fail without it. If both kinds are among
the children of a conjunction, then their order decides on the verdict
(`Condition.forall_perm_verdict_all_iff`); it is the only way in which order matters
(`Condition.Reordered.verdict_eq`).
-/

namespace InfraPolicy.Condition

variable {attributes : Fields}

/-! ### Verdicts of junctions -/

/-- The verdict of the first child that does not pass. -/
def firstFailure? (attributes : Fields) (children : List Condition) : Option Verdict :=
  (children.map (verdict attributes)).find? fun v => !v.passed

/-- The first failure decides; without one, the conjunction passes as certainly as all of its
children do. -/
theorem verdictAll_eq (unknown : Bool) (children : List Condition) :
    verdictAll attributes unknown children =
      (firstFailure? attributes children).getD
        ⟨true, unknown || (children.map (verdict attributes)).any (·.unknown)⟩ := by
  induction children generalizing unknown with
  | nil => simp [verdictAll, firstFailure?]
  | cons c rest ih =>
    rw [verdictAll, firstFailure?, List.map_cons]
    cases hpassed : (c.verdict attributes).passed with
    | false => simp [hpassed]
    | true =>
      rw [List.find?_cons_of_neg (by simp [hpassed]), if_pos rfl, ih, ← firstFailure?,
        List.any_cons, Bool.or_assoc]

/-- A child that certainly passes decides; without one, the disjunction fails as certainly as all
of its children are. -/
theorem verdictAny_eq (unknown : Bool) (children : List Condition) :
    verdictAny attributes unknown children =
      if .pass ∈ children.map (verdict attributes) then .pass
      else ⟨false, unknown || (children.map (verdict attributes)).any (·.unknown)⟩ := by
  induction children generalizing unknown with
  | nil => simp [verdictAny]
  | cons c rest ih =>
    rw [verdictAny, List.map_cons]
    by_cases hpass : c.verdict attributes = .pass
    · simp [hpass]
    · rw [if_neg hpass, ih, List.any_cons, Bool.or_assoc]
      simp only [List.mem_cons, Ne.symm hpass, false_or]

theorem verdict_any_perm {cs ds : List Condition} (h : cs.Perm ds) :
    (Condition.any ds).verdict attributes = (Condition.any cs).verdict attributes := by
  have hmap := h.map (verdict attributes)
  rw [verdict, verdict, verdictAny_eq, verdictAny_eq, hmap.any_eq]
  simp only [hmap.mem_iff]

/-! ### Conjunctions -/

/-- Children in another order with a first failure of the same kind, if there is a failure. -/
def KeepsFirstFailure (attributes : Fields) (cs ds : List Condition) : Prop :=
  firstFailure? attributes cs = firstFailure? attributes ds

protected theorem KeepsFirstFailure.refl (attributes : Fields) (children : List Condition) :
    KeepsFirstFailure attributes children children := rfl

/-- Of the children that fail, some do so with certainty and some without. -/
def MixesFailures (attributes : Fields) (children : List Condition) : Prop :=
  (∃ c ∈ children, c.verdict attributes = ⟨false, false⟩) ∧
    ∃ c ∈ children, c.verdict attributes = ⟨false, true⟩

instance (cs ds : List Condition) : Decidable (KeepsFirstFailure attributes cs ds) :=
  inferInstanceAs (Decidable (_ = _))

instance (children : List Condition) : Decidable (MixesFailures attributes children) :=
  inferInstanceAs (Decidable (_ ∧ _))

/-- In every order there is a first failure, or in none. -/
theorem firstFailure?_perm (attributes : Fields) {cs ds : List Condition} (h : cs.Perm ds) :
    (firstFailure? attributes cs = none ∧ firstFailure? attributes ds = none) ∨
      ∃ v w, firstFailure? attributes cs = some v ∧ firstFailure? attributes ds = some w := by
  have hmap := h.map (verdict attributes)
  have hsome : (firstFailure? attributes cs).isSome = (firstFailure? attributes ds).isSome := by
    rw [firstFailure?, firstFailure?, Bool.eq_iff_iff, List.find?_isSome, List.find?_isSome]
    simp only [hmap.mem_iff]
  cases hcs : firstFailure? attributes cs with
  | none => exact .inl ⟨rfl, by simpa [hcs] using hsome.symm⟩
  | some v =>
    rw [hcs, Option.isSome_some, eq_comm, Option.isSome_iff_exists] at hsome
    exact .inr ⟨v, hsome.choose, rfl, hsome.choose_spec⟩

/-- Another order of children changes the verdict of a conjunction exactly if it puts a failure of
the other kind first. -/
theorem verdict_all_perm_iff {cs ds : List Condition} (h : cs.Perm ds) :
    (Condition.all ds).verdict attributes = (Condition.all cs).verdict attributes ↔
      KeepsFirstFailure attributes cs ds := by
  rw [KeepsFirstFailure, verdict, verdict, verdictAll_eq, verdictAll_eq,
    (h.map (verdict attributes)).any_eq]
  rcases firstFailure?_perm attributes h with ⟨hcs, hds⟩ | ⟨v, w, hcs, hds⟩
  · simp [hcs, hds]
  · simp [hcs, hds, eq_comm]

/-- The first failure is that of a child. -/
theorem exists_of_firstFailure? {children : List Condition} {v : Verdict}
    (h : firstFailure? attributes children = some v) :
    v.passed = false ∧ ∃ c ∈ children, c.verdict attributes = v := by
  rw [firstFailure?] at h
  have hfails := List.find?_some h
  exact ⟨by simpa using hfails, List.mem_map.mp (List.mem_of_find?_eq_some h)⟩

/-- With failures of one kind only, every order has a first failure of this kind or none. -/
theorem keepsFirstFailure_of_not_mixes {cs ds : List Condition} (h : cs.Perm ds)
    (hmixes : ¬ MixesFailures attributes cs) : KeepsFirstFailure attributes cs ds := by
  rw [KeepsFirstFailure]
  rcases firstFailure?_perm attributes h with ⟨hcs, hds⟩ | ⟨⟨passed, unknown⟩, ⟨passed', unknown'⟩,
    hcs, hds⟩
  · rw [hcs, hds]
  · obtain ⟨hv, c, hc, hcv⟩ := exists_of_firstFailure? hcs
    obtain ⟨hw, d, hd, hdw⟩ := exists_of_firstFailure? hds
    have hd' : d ∈ cs := h.mem_iff.mpr hd
    subst hv hw
    rw [hcs, hds, Option.some_inj]
    cases unknown with
    | false =>
      cases unknown' with
      | false => rfl
      | true => exact absurd ⟨⟨c, hc, hcv⟩, d, hd', hdw⟩ hmixes
    | true =>
      cases unknown' with
      | false => exact absurd ⟨⟨d, hd', hdw⟩, c, hc, hcv⟩ hmixes
      | true => rfl

/-- A child that fails gives the conjunction its verdict in an order that puts it first. -/
theorem exists_perm_verdict_all {children : List Condition} {c : Condition} (hc : c ∈ children)
    (hfails : (c.verdict attributes).passed = false) :
    ∃ ds, children.Perm ds ∧
      (Condition.all ds).verdict attributes = c.verdict attributes := by
  obtain ⟨front, back, rfl⟩ := List.append_of_mem hc
  refine ⟨c :: (front ++ back), List.perm_middle, ?_⟩
  rw [verdict, verdictAll, if_neg (by simp [hfails])]

/-- **When the order of a conjunction does not matter**: exactly if its failing children are all
certain or all uncertain. -/
theorem forall_perm_verdict_all_iff (children : List Condition) :
    (∀ ds, children.Perm ds →
      (Condition.all ds).verdict attributes = (Condition.all children).verdict attributes) ↔
      ¬ MixesFailures attributes children := by
  constructor
  · rintro h ⟨⟨c, hc, hcertain⟩, d, hd, hopen⟩
    obtain ⟨cs, hcs, hfirst⟩ := exists_perm_verdict_all hc (by rw [hcertain])
    obtain ⟨ds, hds, hfirst'⟩ := exists_perm_verdict_all hd (by rw [hopen])
    have hsame : c.verdict attributes = d.verdict attributes := by
      rw [← hfirst, ← hfirst', h cs hcs, h ds hds]
    rw [hcertain, hopen] at hsame
    exact absurd hsame (by decide)
  · intro hmixes ds hds
    exact (verdict_all_perm_iff hds).mpr (keepsFirstFailure_of_not_mixes hds hmixes)

/-! ### Conditions -/

/-- Conditions that differ in the order of children at any depth: in any way below disjunctions,
and as far as it is allowed below conjunctions. -/
inductive Reordered (allowed : List Condition → List Condition → Prop) :
    Condition → Condition → Prop where
  | check (c : Check) : Reordered allowed (.check c) (.check c)
  | all {cs ds es : List Condition} (length : cs.length = ds.length)
      (below : ∀ n h h', Reordered allowed (cs.get ⟨n, h⟩) (ds.get ⟨n, h'⟩))
      (perm : ds.Perm es) (order : allowed ds es) : Reordered allowed (.all cs) (.all es)
  | any {cs ds es : List Condition} (length : cs.length = ds.length)
      (below : ∀ n h h', Reordered allowed (cs.get ⟨n, h⟩) (ds.get ⟨n, h'⟩))
      (perm : ds.Perm es) : Reordered allowed (.any cs) (.any es)
  | not {c d : Condition} (below : Reordered allowed c d) : Reordered allowed (.not c) (.not d)

namespace Reordered

variable {allowed allowed' : List Condition → List Condition → Prop} {c d : Condition}

theorem imp (himp : ∀ {cs ds}, cs.Perm ds → allowed cs ds → allowed' cs ds)
    (h : Reordered allowed c d) : Reordered allowed' c d := by
  induction h with
  | check c => exact .check c
  | all length _ perm order ih => exact .all length ih perm (himp perm order)
  | any length _ perm ih => exact .any length ih perm
  | not _ ih => exact .not ih

protected theorem refl (hrefl : ∀ cs, allowed cs cs) (c : Condition) : Reordered allowed c c := by
  induction c with
  | check c => exact .check c
  | all cs ih => exact .all rfl (fun n h _ => ih _ (List.get_mem cs ⟨n, h⟩)) (.refl cs) (hrefl cs)
  | any cs ih => exact .any rfl (fun n h _ => ih _ (List.get_mem cs ⟨n, h⟩)) (.refl cs)
  | not c ih => exact .not ih

/-- What is the same for the children one by one is the same for the lists of them. -/
theorem map_eq_of_get {α : Type} {f : Condition → α} {cs ds : List Condition}
    (length : cs.length = ds.length)
    (h : ∀ n h h', f (ds.get ⟨n, h'⟩) = f (cs.get ⟨n, h⟩)) : ds.map f = cs.map f := by
  refine List.ext_get (by simp [length]) fun n hn hn' => ?_
  simpa using h n (by simpa using hn') (by simpa using hn)

/-- **Order matters only between failures.** -/
theorem verdict_eq (h : Reordered (KeepsFirstFailure attributes) c d) :
    d.verdict attributes = c.verdict attributes := by
  induction h with
  | check c => rfl
  | @all cs ds es length _ perm order ih =>
    have hbelow := map_eq_of_get length ih
    calc (Condition.all es).verdict attributes
        = (Condition.all ds).verdict attributes := (verdict_all_perm_iff perm).mpr order
      _ = (Condition.all cs).verdict attributes := by
          rw [verdict, verdict, verdictAll_eq, verdictAll_eq, firstFailure?, firstFailure?, hbelow]
  | @any cs ds es length _ perm ih =>
    have hbelow := map_eq_of_get length ih
    calc (Condition.any es).verdict attributes
        = (Condition.any ds).verdict attributes := verdict_any_perm perm
      _ = (Condition.any cs).verdict attributes := by
          rw [verdict, verdict, verdictAny_eq, verdictAny_eq, hbelow]
  | not _ ih => rw [verdict, verdict, ih]

end Reordered

/-- Without uncertain verdicts there is nothing to mix. -/
theorem not_mixesFailures (h : Value.anyFieldIndeterminate attributes = false)
    (children : List Condition) : ¬ MixesFailures attributes children := by
  rintro ⟨-, c, -, hopen⟩
  have hcertain := verdict_certain h c
  simp [hopen] at hcertain

end InfraPolicy.Condition

namespace InfraPolicy

open Condition (Reordered KeepsFirstFailure MixesFailures)

/-- **The order of children matters only between failures.** If conditions differ in the order of
children, at any depth, and no conjunction gets a first failure of another kind, certain or
uncertain, then they have the same verdict, and rules with them report the same, strictly or not.
This is all: the children of a conjunction may be put in any order exactly if their failures are of
one kind. So where nothing is unknown, all orders are the same. -/
theorem order_matters_only_between_failures (attributes : Fields) :
    (∀ c d : Condition, Reordered (KeepsFirstFailure attributes) c d →
      d.verdict attributes = c.verdict attributes ∧
      ∀ (strict : Bool) (rule : Rule) (r : Resource), r.attributes = attributes →
        Rule.violation? strict { rule with condition := d } r =
          Rule.violation? strict { rule with condition := c } r) ∧
    (∀ children : List Condition,
      (∀ ds, children.Perm ds →
        (Condition.all ds).verdict attributes = (Condition.all children).verdict attributes) ↔
      ¬ MixesFailures attributes children) ∧
    (Value.anyFieldIndeterminate attributes = false →
      ∀ c d : Condition, Reordered (fun _ _ => True) c d →
        d.verdict attributes = c.verdict attributes) := by
  refine ⟨fun c d h => ⟨h.verdict_eq, ?_⟩, Condition.forall_perm_verdict_all_iff, ?_⟩
  · rintro strict rule r rfl
    simp only [Rule.violation?, h.verdict_eq]
    rfl
  · intro hknown c d h
    refine (h.imp fun {cs ds} hperm _ => ?_).verdict_eq
    exact Condition.keepsFirstFailure_of_not_mixes hperm (Condition.not_mixesFailures hknown cs)

/-- A conjunction with failures of both kinds, whose first failure stays the uncertain one, below a
disjunction in another order. -/
theorem order_matters_only_between_failures_example :
    let attributes : Fields := [("acl", .unknown), ("port", .int 22)]
    let undecided : Condition := .check ⟨"acl", .equals, some (.string "private"), none⟩
    let failing : Condition := .check ⟨"port", .equals, some (.int 80), none⟩
    let passing : Condition := .check ⟨"port", .exists, none, none⟩
    let c : Condition :=
      .any [.all [passing, .not undecided, failing], .not (.all [undecided, passing])]
    let d : Condition :=
      .any [.not (.all [passing, undecided]), .all [.not undecided, failing, passing]]
    MixesFailures attributes [passing, .not undecided, failing] ∧
      Reordered (KeepsFirstFailure attributes) c d ∧
      d.verdict attributes = c.verdict attributes := by
  intro attributes undecided failing passing c d
  have hrefl : ∀ cs : List Condition,
      List.Forall₂ (Reordered (KeepsFirstFailure attributes)) cs cs :=
    fun cs => List.forall₂_same.mpr fun c _ => .refl (KeepsFirstFailure.refl attributes) c
  have hmixed := List.forall₂_iff_get.mp (hrefl [passing, .not undecided, failing])
  have hnegated := List.forall₂_iff_get.mp (hrefl [undecided, passing])
  have hrotate : [passing, .not undecided, failing].Perm [.not undecided, failing, passing] :=
    (List.perm_append_singleton passing [.not undecided, failing]).symm
  have hchildren := List.forall₂_iff_get.mp (List.Forall₂.cons
    (Reordered.all hmixed.1 hmixed.2 hrotate (by decide +kernel))
    (.cons (.not (.all hnegated.1 hnegated.2 (.swap passing undecided []) (by decide +kernel)))
      .nil))
  have hreordered : Reordered (KeepsFirstFailure attributes) c d :=
    .any hchildren.1 hchildren.2 (.swap _ _ [])
  exact ⟨by decide +kernel, hreordered,
    ((order_matters_only_between_failures attributes).1 c d hreordered).1⟩

/-- **The order of failures changes a verdict.** A conjunction of an uncertain and a certain failure
is not reported; in the other order it is. -/
theorem order_of_failures_changes_verdict :
    let attributes : Fields := [("acl", .unknown), ("port", .int 22)]
    let a : Condition := .not (.check ⟨"acl", .equals, some (.string "private"), none⟩)
    let b : Condition := .check ⟨"port", .equals, some (.int 80), none⟩
    let rule : Rule := { (default : Rule) with condition := .all [a, b] }
    let rule' : Rule := { rule with condition := .all [b, a] }
    let r : Resource := { (default : Resource) with attributes }
    [a, b].Perm [b, a] ∧ rule.condition.verdict attributes = ⟨false, true⟩ ∧
      rule'.condition.verdict attributes = ⟨false, false⟩ ∧
      (rule.violation? false r).isSome = false ∧ (rule'.violation? false r).isSome = true := by
  intro attributes a b rule rule' r
  exact ⟨.swap b a [], by decide +kernel, by decide +kernel, by decide +kernel, by decide +kernel⟩

end InfraPolicy
