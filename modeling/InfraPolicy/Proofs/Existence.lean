import InfraPolicy.Proofs.Confidence

/-!
# Existence behind wildcards

A check of existence is certain as soon as its path finds something that is not indeterminate
itself. A wildcard finds a list, and in it the indeterminate items that the rest of the path did not
get through. So the check can be certain while all that it rests on is open, and the open items may
turn out to lead nowhere.

`Path.leads` says that this is not so: the path gets to its end past known values. Then it does so
in every refinement (`Path.leads_refine`); otherwise it leads nowhere once there is a null in every
open place (`Path.resolve?_resolved_of_not_leads`). With this the certain verdicts that last can be
told from those that do not.
-/

namespace InfraPolicy

theorem Value.resolvedItems_eq_map (items : List Value) :
    Value.resolvedItems items = items.map Value.resolved := by
  induction items with
  | nil => rfl
  | cons v rest ih => rw [Value.resolvedItems, ih, List.map_cons]

theorem Fields.get?_resolved (fields : Fields) (key : String) :
    fields.resolved.get? key = (fields.get? key).map Value.resolved := by
  induction fields with
  | nil => rfl
  | cons p rest ih =>
    rw [Fields.resolved, Fields.get?_cons, Fields.get?_cons, ih]
    split_ifs <;> rfl

namespace Path

/-- The path gets to its end past known values; after a wildcard, in one item at least. -/
def leads : Path → Value → Bool
  | [], _ => true
  | .key name :: rest, .object fields => (Fields.get? fields name).any (leads rest)
  | .index n :: rest, .list items => items[n]?.any (leads rest)
  | .wildcard :: rest, .list items => items.any (leads rest)
  | _ :: _, _ => false

/-! ### Steps -/

/-- A wildcard finds a list as soon as the rest of the path leads somewhere in one of the items. -/
theorem exists_resolve?_wildcard {rest : Path} {items : List Value} {v : Value} (hv : v ∈ items)
    (h : (resolve? rest v).isSome = true) :
    ∃ found, resolve? (.wildcard :: rest) (.list items) = some (.list found) := by
  obtain ⟨u, hu⟩ := Option.isSome_iff_exists.mp h
  have hmem : u ∈ items.filterMap (resolve? rest) := List.mem_filterMap.mpr ⟨v, hv, hu⟩
  exact ⟨_, by rw [resolve?_wildcard, if_neg (List.ne_nil_of_mem hmem)]⟩

/-- Where a single step leads, the rest of the path leads on. -/
private theorem any_leads_refine {rest : Path} {a b : Option Value}
    (h : Option.Rel Value.RefinedBy a b)
    (hrest : ∀ {v w : Value}, v.RefinedBy w → rest.leads v = true → rest.leads w = true)
    (ha : a.any (leads rest) = true) : b.any (leads rest) = true := by
  cases h with
  | none => exact ha
  | some hvw => exact hrest hvw ha

/-! ### Where a path leads -/

/-- A path that leads somewhere leads there in every refinement. -/
theorem leads_refine {path : Path} {v w : Value} (h : v.RefinedBy w) (hv : path.leads v = true) :
    path.leads w = true := by
  induction path generalizing v w with
  | nil => rfl
  | cons segment rest ih =>
    cases h with
    | list items =>
      cases segment with
      | key name => exact hv
      | index n => exact any_leads_refine (items.getElem? n) ih hv
      | wildcard =>
        rename_i xs ys
        obtain ⟨u, hu, hleads⟩ := List.any_eq_true.mp hv
        obtain ⟨n, hn⟩ := List.mem_iff_getElem?.mp hu
        have hitem := any_leads_refine (items.getElem? n) ih (by rw [hn]; exact hleads)
        obtain ⟨u', hu', hleads'⟩ := (Option.any_eq_true _ _).mp hitem
        exact List.any_eq_true.mpr ⟨u', List.mem_of_getElem? hu', hleads'⟩
    | object fields =>
      cases segment with
      | key name => exact any_leads_refine (fields.get? name) ih hv
      | index n | wildcard => exact hv
    | _ => cases segment <;> simp [leads] at hv ⊢

/-- A path that leads somewhere finds a value there. -/
theorem isSome_resolve?_of_leads {path : Path} {v : Value} (h : path.leads v = true) :
    (resolve? path v).isSome = true := by
  induction path generalizing v with
  | nil => rfl
  | cons segment rest ih =>
    have hstep : ∀ {a : Option Value}, a.any (leads rest) = true →
        (a.bind (resolve? rest)).isSome = true := by
      intro a ha
      cases a with
      | none => exact ha
      | some u => exact ih ha
    cases segment <;> cases v <;> simp only [leads, Bool.false_eq_true] at h
    · exact hstep h
    · exact hstep h
    · obtain ⟨u, hu, hleads⟩ := List.any_eq_true.mp h
      obtain ⟨found, hfound⟩ := exists_resolve?_wildcard hu (ih hleads)
      rw [hfound]
      rfl

/-- What a leading path finds in a refinement is null if it was null, and else is not. -/
theorem exists_resolve?_refine {path : Path} {v w found : Value} (h : v.RefinedBy w)
    (hleads : path.leads v = true) (hfound : resolve? path v = some found)
    (hknown : found.isIndeterminate = false) :
    ∃ found', resolve? path w = some found' ∧ found'.isNull = found.isNull := by
  induction path generalizing v w with
  | nil =>
    obtain rfl := Option.some.inj hfound
    exact ⟨w, rfl, h.isNull_eq hknown⟩
  | cons segment rest ih =>
    have hstep : ∀ {a b : Option Value}, Option.Rel Value.RefinedBy a b →
        a.any (leads rest) = true → a.bind (resolve? rest) = some found →
          ∃ found', b.bind (resolve? rest) = some found' ∧ found'.isNull = found.isNull := by
      intro a b hab ha hfound
      cases hab with
      | none => simp at ha
      | some hvw => exact ih hvw ha hfound
    cases h with
    | list items =>
      cases segment with
      | key name => simp [leads] at hleads
      | index n => exact hstep (items.getElem? n) hleads hfound
      | wildcard =>
        -- a list is found on both sides, and which one does not matter
        have hleads' := leads_refine (.list items) hleads
        obtain ⟨u, hu, hu'⟩ := List.any_eq_true.mp hleads'
        obtain ⟨found', hfound'⟩ := exists_resolve?_wildcard hu (isSome_resolve?_of_leads hu')
        rw [resolve?_wildcard] at hfound
        split_ifs at hfound
        obtain rfl := Option.some.inj hfound
        exact ⟨_, hfound', rfl⟩
    | object fields =>
      cases segment with
      | key name => exact hstep (fields.get? name) hleads hfound
      | index n | wildcard => simp [leads] at hleads
    | _ => cases segment <;> simp [leads] at hleads

/-- A path that finds something known without leading there has gathered a list. -/
theorem eq_list_of_not_leads {path : Path} {v found : Value} (hleads : path.leads v = false)
    (hfound : resolve? path v = some found) (hknown : found.isIndeterminate = false) :
    ∃ items, found = .list items := by
  induction path generalizing v with
  | nil => simp [leads] at hleads
  | cons segment rest ih =>
    rcases resolve?_cons_cases hfound with ⟨hopen, rfl⟩ | ⟨name, fields, u, rfl, rfl, hu, hrest⟩ |
      ⟨n, items, u, rfl, rfl, hu, hrest⟩ | ⟨items, rfl, rfl, rfl⟩
    · simp [hopen] at hknown
    · rw [leads, hu, Option.any_some] at hleads
      exact ih hleads hrest
    · rw [leads, hu, Option.any_some] at hleads
      exact ih hleads hrest
    · exact ⟨_, rfl⟩

/-- A path that does not lead to its end leads nowhere when all that is open is null. -/
theorem resolve?_resolved_of_not_leads {path : Path} {v : Value} (h : path.leads v = false) :
    resolve? path v.resolved = none := by
  induction path generalizing v with
  | nil => simp [leads] at h
  | cons segment rest ih =>
    have hstep : ∀ {a : Option Value}, a.any (leads rest) = false →
        (a.map Value.resolved).bind (resolve? rest) = none := by
      intro a ha
      cases a with
      | none => rfl
      | some u => exact ih ha
    cases v with
    | list items =>
      rw [Value.resolved, Value.resolvedItems_eq_map]
      cases segment with
      | key name => rfl
      | index n =>
        rw [resolve?_index, List.getElem?_map]
        exact hstep h
      | wildcard =>
        have hnone : (items.map Value.resolved).filterMap (resolve? rest) = [] := by
          rw [List.filterMap_map, List.filterMap_eq_nil_iff]
          intro u hu
          exact ih (Bool.eq_false_iff.mpr (List.any_eq_false.mp h u hu))
        rw [resolve?_wildcard, if_pos hnone]
    | object fields =>
      cases segment with
      | key name =>
        rw [Value.resolved, resolve?_key, Fields.get?_resolved]
        exact hstep h
      | index n | wildcard => rfl
    | _ => cases segment <;> rfl

end Path

/-! ### Checks of existence -/

namespace Check

/-- A check of existence, one way or the other. -/
def AsksExistence (check : Check) : Prop :=
  check.operator = .exists ∨ check.operator = .notExists

/-- A check of existence holds of what is not there if it holds of a null, and the other way round
of all else that is known. -/
theorem AsksExistence.verdictOn_eq {check : Check} (hop : check.AsksExistence)
    {found : Option Value} (hknown : found.all (! ·.isIndeterminate) = true) :
    check.verdictOn found =
      .certain (found.all Value.isNull == check.operator.holdsWhenAbsent) := by
  cases found with
  | none => rcases hop with hop | hop <;> rw [verdictOn, hop] <;> rfl
  | some u =>
    have hu : u.isIndeterminate = false := by simpa using hknown
    rw [verdictOn_eq_certain hu (by rcases hop with hop | hop <;> rw [hop] <;> rfl), holdsOn]
    rcases hop with hop | hop <;> rw [hop, Option.all_some] <;> cases u.isNull <;> rfl

/-- A path that leads nowhere leads nowhere in a refinement. -/
theorem verdict_refine_of_find?_eq_none {check : Check} {attributes attributes' : Fields}
    (h : attributes.RefinedBy attributes') (hnone : Path.find? attributes check.path = none) :
    check.verdict attributes' = check.verdict attributes := by
  have hnone' : Path.find? attributes' check.path = none := by
    rcases Path.find?_refine h check.path with ⟨-, u, -, hu, -⟩ | hrel
    · simp [hnone] at hu
    · cases hfind : Path.find? attributes' check.path with
      | none => rfl
      | some u =>
        rw [hnone, hfind] at hrel
        nomatch hrel
  rw [verdict, verdict, hnone, hnone']

variable {check : Check} {attributes : Fields} {path : Path} {found : Value}

/-- A certain answer is final if the path leads to its end. -/
theorem AsksExistence.verdict_resolve (hop : check.AsksExistence)
    (hfollows : ∀ fields, Path.find? fields check.path = path.resolve? (.object fields))
    (hfound : Path.find? attributes check.path = some found)
    (hknown : found.isIndeterminate = false) (hleads : path.leads (.object attributes) = true)
    {resolution : Fields} (h : attributes.ResolvedBy resolution) :
    check.verdict resolution = check.verdict attributes := by
  rw [hfollows] at hfound
  obtain ⟨found', hfound', hnull⟩ :=
    Path.exists_resolve?_refine (.object h.refined) hleads hfound hknown
  rw [← hfollows] at hfound hfound'
  have hknown' : found'.isIndeterminate = false :=
    Value.isIndeterminate_of_determinate (Path.hasIndeterminate_of_find? h.determinate hfound')
  rw [verdict, verdict, hfound, hfound', hop.verdictOn_eq (by simpa using hknown'),
    hop.verdictOn_eq (by simpa using hknown), Option.all_some, Option.all_some, hnull]

/-- A certain answer is refuted by nulls if the path does not lead to its end. -/
theorem AsksExistence.verdict_resolved_ne (hop : check.AsksExistence)
    (hfollows : ∀ fields, Path.find? fields check.path = path.resolve? (.object fields))
    (hfound : Path.find? attributes check.path = some found)
    (hknown : found.isIndeterminate = false) (hleads : path.leads (.object attributes) = false) :
    check.verdict attributes.resolved ≠ check.verdict attributes := by
  have hnone : Path.find? attributes.resolved check.path = none := by
    rw [hfollows]
    exact Path.resolve?_resolved_of_not_leads hleads
  obtain ⟨items, rfl⟩ := Path.eq_list_of_not_leads hleads (hfollows _ ▸ hfound) hknown
  rw [verdict, verdict, hnone, hfound, hop.verdictOn_eq rfl, hop.verdictOn_eq rfl]
  cases check.operator.holdsWhenAbsent <;> simp [Verdict.certain, Value.isNull]

end Check

/-- **When a certain answer about existence is final.** A check of existence is certain on
attributes. It keeps its verdict on every full resolution of them exactly if its path leads nowhere,
or leads to its end past known values: any other path gets past a wildcard in open items only, and
these may turn out to lack what it asks for. -/
theorem certain_existence_is_final_iff {check : Check} (hop : check.AsksExistence)
    {attributes : Fields} (hcertain : (check.verdict attributes).unknown = false) :
    (∀ resolution, attributes.ResolvedBy resolution →
      check.verdict resolution = check.verdict attributes) ↔
    Path.find? attributes check.path = none ∨
      (Path.parse? check.path).any (·.leads (.object attributes)) = true := by
  cases hfound : Path.find? attributes check.path with
  | none =>
    have hfinal : ∀ resolution, attributes.ResolvedBy resolution →
        check.verdict resolution = check.verdict attributes :=
      fun _ h => Check.verdict_refine_of_find?_eq_none h.refined hfound
    simpa using hfinal
  | some found =>
    obtain ⟨path, hpath, hfollows⟩ := Path.exists_path_of_find? hfound
    have hknown : found.isIndeterminate = false := by
      rw [Check.verdict, hfound] at hcertain
      exact (Check.of_verdictOn_certain hcertain).1
    simp only [hpath, Option.any_some, reduceCtorEq, false_or]
    constructor
    · intro hfinal
      by_contra hleads
      rw [Bool.not_eq_true] at hleads
      have hresolved := (Fields.RefinedBy.refl attributes).resolvedBy_resolved
      exact hop.verdict_resolved_ne hfollows hfound hknown hleads (hfinal _ hresolved)
    · intro hleads resolution h
      exact hop.verdict_resolve hfollows hfound hknown hleads h

/-- Of two items one is open, and in the other one the path gets to an open value: something is
there in any case. -/
theorem certain_existence_is_final_iff_example :
    let check : Check := ⟨"ingress[*].ports[*].from", .notExists, none, none⟩
    let attributes : Fields := [("ingress", .list [.unknown,
      .object [("ports", .list [.computed, .object [("from", .unknown)]])]])]
    check.verdict attributes = .fail ∧
      ∀ resolution, attributes.ResolvedBy resolution → check.verdict resolution = .fail := by
  intro check attributes
  have hfail : check.verdict attributes = .fail := by decide +kernel
  have hop : check.AsksExistence := .inr rfl
  have hfinal := (certain_existence_is_final_iff hop (by rw [hfail]; rfl)).mpr
    (.inr (by decide +kernel))
  rw [hfail] at hfinal
  exact ⟨hfail, hfinal⟩

/-- **A certain answer about existence may be wrong.** Of a list with an open item a check is
certain that the items have ports, and the item turns out to have none. -/
theorem certain_existence_refuted_by_resolution :
    let check : Check := ⟨"ingress[*].port", .notExists, none, none⟩
    let attributes : Fields := [("ingress", .list [.unknown])]
    let resolution : Fields := [("ingress", .list [.object []])]
    attributes.ResolvedBy resolution ∧ check.verdict attributes = .fail ∧
      check.verdict resolution = .pass := by
  intro check attributes resolution
  have hresolved : attributes.ResolvedBy resolution :=
    ⟨.cons (.list (.cons (.unknown _) .nil)) .nil, by rfl⟩
  exact ⟨hresolved, by decide +kernel, by decide +kernel⟩

end InfraPolicy
