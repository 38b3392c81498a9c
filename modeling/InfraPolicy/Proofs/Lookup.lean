import InfraPolicy.Path.Text
import InfraPolicy.Proofs.Refinement

/-!
# Look-up under refinement

What a path finds in refined values. `Path.follows_of_refinedBy` says it for all paths at once:
either both sides lead nowhere, or both find values of which the one refines the other, or what was
found first is **unsettled**. It is unsettled when it is itself indeterminate, or when it is a list
that a wildcard gathered by carrying further steps to items some of which are indeterminate: such an
item counts as found for now, and may turn out to lead nowhere.

Everything that evaluation needs of look-up follows from this one induction over the path.
-/

namespace InfraPolicy

namespace Path

/-- No step follows a wildcard. -/
def stopsAtWildcard : Path → Bool
  | [] => true
  | .wildcard :: rest => rest.isEmpty
  | .key _ :: rest | .index _ :: rest => stopsAtWildcard rest

/-- What a path found may depend on indeterminate values: it is one, or a wildcard went on into
one. -/
def Unsettled (path : Path) (found : Value) : Prop :=
  found.isIndeterminate = true ∨
    (path.stopsAtWildcard = false ∧ found.hasIndeterminate = true ∧ ∃ items, found = .list items)

theorem Unsettled.hasIndeterminate {path : Path} {found : Value} (h : path.Unsettled found) :
    found.hasIndeterminate = true := by
  rcases h with h | ⟨-, h, -⟩
  · exact Value.hasIndeterminate_of_isIndeterminate h
  · exact h

/-- A path **follows** a value into another: it finds refined values or leads nowhere in both,
unless what it finds in the first is unsettled. -/
def Follows (path : Path) (v w : Value) : Prop :=
  (∃ u, resolve? path v = some u ∧ path.Unsettled u) ∨
    Option.Rel Value.RefinedBy (resolve? path v) (resolve? path w)

/-- Look-up in attributes is look-up in the object that they are, but for the empty path. -/
theorem lookup?_cons (segment : Segment) (rest : Path) (attributes : Fields) :
    lookup? (segment :: rest) attributes = resolve? (segment :: rest) (.object attributes) := by
  cases segment <;> rfl

/-! ### Found values -/

/-- A wildcard finds a list of what its items lead to, unless none leads anywhere. -/
theorem resolve?_wildcard (rest : Path) (items : List Value) :
    resolve? (.wildcard :: rest) (.list items) =
      if items.filterMap (resolve? rest) = [] then none
      else some (.list (items.filterMap (resolve? rest))) := by
  rw [resolve?, if_neg (by simp [Value.isIndeterminate])]
  cases hfound : items.filterMap (resolve? rest) with
  | nil => simp
  | cons v vs => simp

/-- Where the first step of a path that finds something leads: nowhere beyond an indeterminate
value, into a field, into an item, or into all items of a list. -/
theorem resolve?_cons_cases {segment : Segment} {rest : Path} {v found : Value}
    (h : resolve? (segment :: rest) v = some found) :
    (v.isIndeterminate = true ∧ found = v) ∨
    (∃ name fields u, segment = .key name ∧ v = .object fields ∧
      Fields.get? fields name = some u ∧ resolve? rest u = some found) ∨
    (∃ n items u, segment = .index n ∧ v = .list items ∧ items[n]? = some u ∧
      resolve? rest u = some found) ∨
    ∃ items, segment = .wildcard ∧ v = .list items ∧
      found = .list (items.filterMap (resolve? rest)) := by
  by_cases hopen : v.isIndeterminate = true
  · rw [resolve?_of_isIndeterminate hopen] at h
    exact .inl ⟨hopen, (Option.some.inj h).symm⟩
  · right
    cases segment with
    | key name =>
      cases v with
      | object fields =>
        obtain ⟨u, hu, hfound⟩ := Option.bind_eq_some_iff.mp h
        exact .inl ⟨name, fields, u, rfl, rfl, hu, hfound⟩
      | _ => simp [resolve?, hopen] at h
    | index n =>
      cases v with
      | list items =>
        obtain ⟨u, hu, hfound⟩ := Option.bind_eq_some_iff.mp h
        exact .inr (.inl ⟨n, items, u, rfl, rfl, hu, hfound⟩)
      | _ => simp [resolve?, hopen] at h
    | wildcard =>
      cases v with
      | list items =>
        rw [resolve?_wildcard] at h
        split_ifs at h
        exact .inr (.inr ⟨items, rfl, rfl, (Option.some.inj h).symm⟩)
      | _ => simp [resolve?, hopen] at h

/-- Found in values without anything indeterminate, a value has nothing indeterminate either. -/
theorem hasIndeterminate_of_resolve? {path : Path} {v found : Value}
    (hv : v.hasIndeterminate = false) (h : resolve? path v = some found) :
    found.hasIndeterminate = false := by
  induction path generalizing v found with
  | nil => rwa [← Option.some.inj h]
  | cons segment rest ih =>
    rcases resolve?_cons_cases h with ⟨-, rfl⟩ | ⟨name, fields, u, rfl, rfl, hu, hfound⟩ |
      ⟨n, items, u, rfl, rfl, hu, hfound⟩ | ⟨items, rfl, rfl, rfl⟩
    · exact hv
    · exact ih (Fields.hasIndeterminate_of_get? hv hu) hfound
    · exact ih (Value.hasIndeterminate_of_mem hv (List.mem_of_getElem? hu)) hfound
    · rw [Value.hasIndeterminate, Value.anyIndeterminate_eq_any, List.any_eq_false]
      intro u hu
      obtain ⟨w, hw, hwu⟩ := List.mem_filterMap.mp hu
      simp [ih (Value.hasIndeterminate_of_mem hv hw) hwu]

/-! ### Refined values -/

/-- A step whose targets refine each other, given that the rest of the path behaves on them. -/
private theorem bind_refine {rest : Path} {a b : Option Value} (h : Option.Rel Value.RefinedBy a b)
    (hrest : ∀ {v w : Value}, v.RefinedBy w → rest.Follows v w) :
    (∃ u, a.bind (resolve? rest) = some u ∧ rest.Unsettled u) ∨
      Option.Rel Value.RefinedBy (a.bind (resolve? rest)) (b.bind (resolve? rest)) := by
  cases h with
  | none => exact .inr .none
  | some hvw => exact hrest hvw

/-- A wildcard finds related lists when the rest of the path finds related values item by item. -/
theorem resolve?_wildcard_rel {R : Value → Value → Prop}
    (hlist : ∀ {xs ys}, List.Forall₂ R xs ys → R (.list xs) (.list ys)) {rest : Path}
    {xs ys : List Value}
    (h : List.Forall₂ (fun v w => Option.Rel R (resolve? rest v) (resolve? rest w)) xs ys) :
    Option.Rel R (resolve? (.wildcard :: rest) (.list xs))
      (resolve? (.wildcard :: rest) (.list ys)) := by
  have hfound : List.Forall₂ R (xs.filterMap (resolve? rest)) (ys.filterMap (resolve? rest)) :=
    List.rel_filterMap (fun _ _ h => h) h
  have hnil : xs.filterMap (resolve? rest) = [] ↔ ys.filterMap (resolve? rest) = [] := by
    rw [← List.length_eq_zero_iff, hfound.length_eq, List.length_eq_zero_iff]
  rw [resolve?_wildcard, resolve?_wildcard]
  by_cases hys : ys.filterMap (resolve? rest) = []
  · rw [if_pos hys, if_pos (hnil.mpr hys)]
    exact .none
  · rw [if_neg hys, if_neg (mt hnil.mp hys)]
    exact .some (hlist hfound)

/-- A wildcard that goes on into an unsettled item finds an unsettled list. -/
private theorem unsettled_wildcard {rest : Path} {xs : List Value} {v u : Value} (hv : v ∈ xs)
    (hu : resolve? rest v = some u) (hopen : rest.Unsettled u) (hrest : rest ≠ []) :
    ∃ found, resolve? (.wildcard :: rest) (.list xs) = some found ∧
      Path.Unsettled (.wildcard :: rest) found := by
  have hmem : u ∈ xs.filterMap (resolve? rest) := List.mem_filterMap.mpr ⟨v, hv, hu⟩
  refine ⟨.list (xs.filterMap (resolve? rest)), ?_, .inr ⟨?_, ?_, _, rfl⟩⟩
  · rw [resolve?_wildcard, if_neg (List.ne_nil_of_mem hmem)]
  · rw [stopsAtWildcard, List.isEmpty_eq_false_iff]
    exact hrest
  · rw [Value.hasIndeterminate, Value.anyIndeterminate_eq_any]
    exact List.any_eq_true.mpr ⟨u, hmem, hopen.hasIndeterminate⟩

/-- The wildcard step, given that the rest of the path behaves on every item. -/
private theorem wildcard_follows {rest : Path} {xs ys : List Value}
    (h : List.Forall₂ Value.RefinedBy xs ys)
    (hrest : ∀ {v w : Value}, v.RefinedBy w → rest.Follows v w) :
    Path.Follows (.wildcard :: rest) (.list xs) (.list ys) := by
  have hlist : ∀ {xs ys}, List.Forall₂ Value.RefinedBy xs ys →
      (Value.list xs).RefinedBy (.list ys) :=
    fun h => .list (Value.itemsRefinedBy_iff.mpr h)
  by_cases hstop : rest = []
  · -- where the path stops every item is found, known or not
    subst hstop
    exact .inr (resolve?_wildcard_rel hlist (h.imp fun _ _ hvw => .some hvw))
  · by_cases hopen : ∃ v ∈ xs, ∃ u, resolve? rest v = some u ∧ rest.Unsettled u
    · obtain ⟨v, hv, u, hu, hopen⟩ := hopen
      exact .inl (unsettled_wildcard hv hu hopen hstop)
    · right
      refine resolve?_wildcard_rel hlist ?_
      refine ((List.forall₂_and_left _ _).mpr ⟨fun v hv hu => hopen ⟨v, hv, hu⟩, h⟩).imp ?_
      rintro v w ⟨hv, hvw⟩
      exact (hrest hvw).resolve_left hv

/-- **Look-up respects refinement.** In refined values a path finds refined values, or leads nowhere
where it led nowhere, unless what it found is unsettled. -/
theorem follows_of_refinedBy {v w : Value} (h : v.RefinedBy w) (path : Path) :
    path.Follows v w := by
  induction path generalizing v w with
  | nil => exact .inr (.some h)
  | cons segment rest ih =>
    cases h with
    | unknown | computed =>
      exact .inl ⟨_, resolve?_of_isIndeterminate rfl _, .inl rfl⟩
    | null | bool | int | float | string =>
      cases segment <;> exact .inr .none
    | list items =>
      cases segment with
      | key name => exact .inr .none
      | index n => exact bind_refine (items.getElem? n) ih
      | wildcard => exact wildcard_follows (Value.itemsRefinedBy_iff.mp items) ih
    | object fields =>
      cases segment with
      | key name => exact bind_refine (fields.get? name) ih
      | index n => exact .inr .none
      | wildcard => exact .inr .none

/-! ### Look-up by the text of a path -/

/-- A text with which something is found spells a path, and it is followed from the object that the
attributes are. -/
theorem exists_path_of_find? {attributes : Fields} {text : String} {found : Value}
    (h : find? attributes text = some found) :
    ∃ path, parse? text = some path ∧
      ∀ fields, find? fields text = resolve? path (.object fields) := by
  obtain ⟨path, hpath, hlookup⟩ := Option.bind_eq_some_iff.mp h
  cases path with
  | nil => simp [lookup?] at hlookup
  | cons segment rest =>
    refine ⟨segment :: rest, hpath, fun fields => ?_⟩
    rw [find?, hpath, Option.bind_some, lookup?_cons]

/-- The path that a text spells is followed from attributes into attributes that refine them. -/
theorem find?_refine {attributes attributes' : Fields} (h : attributes.RefinedBy attributes')
    (text : String) :
    (∃ path u, parse? text = some path ∧ find? attributes text = some u ∧ path.Unsettled u) ∨
      Option.Rel Value.RefinedBy (find? attributes text) (find? attributes' text) := by
  rw [find?, find?]
  cases hpath : parse? text with
  | none => exact .inr .none
  | some path =>
    cases path with
    | nil => exact .inr .none
    | cons segment rest =>
      simp only [Option.bind_some, lookup?_cons]
      rcases follows_of_refinedBy (.object h) (segment :: rest) with ⟨u, hu, hopen⟩ | hrel
      · exact .inl ⟨_, u, rfl, hu, hopen⟩
      · exact .inr hrel

theorem hasIndeterminate_of_find? {attributes : Fields} {text : String} {found : Value}
    (h : Value.anyFieldIndeterminate attributes = false)
    (hfound : find? attributes text = some found) :
    found.hasIndeterminate = false := by
  obtain ⟨path, -, hlookup⟩ := Option.bind_eq_some_iff.mp hfound
  cases path with
  | nil => exact absurd hlookup (by simp [lookup?])
  | cons segment rest =>
    rw [lookup?_cons] at hlookup
    exact hasIndeterminate_of_resolve? (v := .object attributes) h hlookup

end Path

end InfraPolicy
