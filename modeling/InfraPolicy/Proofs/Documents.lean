import InfraPolicy.Module.Basic
import InfraPolicy.Proofs.Leaves

/-!
# What documents give rise to

The facts about documents that comparing two readings of them needs. The values of a scope come from
expressions that are written in the blocks; the variables are looked up in the values file first and
then among the defaults. If all expressions of a document have related values in two scopes, then it
declares the same resources in both, with related attributes (`Document.resources_rel`).
-/

namespace InfraPolicy

/-! ### Where values come from -/

theorem nodup_keys_assignedValues (body : List Hcl.Item) : (assignedValues body).keys.Nodup :=
  Fields.nodup_keys_ofList _

/-- The values of a values file are those of the expressions in it, on their own. -/
theorem exists_of_mem_assignedValues {body : List Hcl.Item} {p : String × Value}
    (hp : p ∈ assignedValues body) :
    ∃ e ∈ Hcl.Item.exprsOf body, p.2 = ({} : Hcl.Scope).eval e := by
  refine Fields.forall_mem_insertAll (P := fun v => ∃ e ∈ Hcl.Item.exprsOf body,
    v = ({} : Hcl.Scope).eval e) (List.forall_mem_nil _) (fun q hq => ?_) p hp
  obtain ⟨attr, hattr, rfl⟩ := List.mem_map.mp hq
  exact ⟨attr.2, Hcl.Item.mem_exprsOf_of_mem_attrs hattr, rfl⟩

namespace Document

/-- So are the defaults of variables. -/
theorem exists_of_mem_defaults {d : Document} {p : String × Value} (hp : p ∈ d.defaults) :
    ∃ q ∈ d.blocks, ∃ e ∈ Hcl.Item.exprsOf q.2.body, p.2 = ({} : Hcl.Scope).eval e := by
  obtain ⟨q, hq, hdefault⟩ := List.mem_filterMap.mp hp
  dsimp only at hdefault
  split_ifs at hdefault
  rw [default?] at hdefault
  obtain ⟨name, -, hdefault⟩ := Option.bind_eq_some_iff.mp hdefault
  obtain ⟨e, hlookup, hdefault⟩ := Option.bind_eq_some_iff.mp hdefault
  have hmem : ("default", e) ∈ Hcl.Item.attrs q.2.body := by
    obtain ⟨before, after, heq, -⟩ := List.lookup_eq_some_iff.mp hlookup
    simp [heq]
  obtain rfl := Option.some.inj hdefault
  exact ⟨q, hq, e, Hcl.Item.mem_exprsOf_of_mem_attrs hmem, rfl⟩

/-- The expression of a local stands in a block of the document. -/
theorem exists_of_mem_localDefs {d : Document} {p : String × Hcl.Expr} (hp : p ∈ d.localDefs) :
    ∃ q ∈ d.blocks, p.2 ∈ Hcl.Item.exprsOf q.2.body := by
  obtain ⟨q, hq, hp⟩ := List.mem_flatMap.mp hp
  dsimp only at hp
  split_ifs at hp
  · exact ⟨q, hq, Hcl.Item.mem_exprsOf_of_mem_attrs hp⟩
  · simp at hp

end Document

theorem Hcl.Scope.setVariables_eq (scope : Scope) (pairs : List (String × Value)) :
    scope.setVariables pairs = { scope with vars := scope.vars.insertAll pairs } := by
  induction pairs generalizing scope with
  | nil => rfl
  | cons p rest ih => exact ih (scope.setVariable p.1 p.2)

/-- A variable has the value that it was set to last. -/
theorem Hcl.Scope.get?_vars_setVariables {pairs : Fields} (h : pairs.keys.Nodup) (scope : Scope)
    (name : String) :
    (scope.setVariables pairs).vars.get? name = (pairs.get? name).or (scope.vars.get? name) := by
  rw [setVariables_eq]
  exact Fields.get?_insertAll h scope.vars name

/-! ### Resources -/

/-- The same resource but for its attributes, which are related as an object. -/
structure Resource.Rel (R : Value → Value → Prop) (r r' : Resource) : Prop where
  kind : r.kind = r'.kind
  name : r.name = r'.name
  location : r.location = r'.location
  attributes : R (.object r.attributes) (.object r'.attributes)

namespace Document

variable {R : Value → Value → Prop} {s s' : Hcl.Scope}

/-- A block is the same resource in two scopes, with related attributes. -/
theorem resource?_rel (hR : Value.Compatible R) (location : Location) {b : Hcl.Block}
    (h : ∀ e ∈ Hcl.Item.exprsOf b.body, R (s.eval e) (s'.eval e)) :
    Option.Rel (Resource.Rel R) (resource? s location b) (resource? s' location b) := by
  rw [resource?, resource?]
  split
  · split_ifs
    · have hattributes := hR.object (Hcl.nodup_keys_assemble _ _ _) (Hcl.attributes_rel hR h)
      exact .some ⟨rfl, rfl, rfl, hattributes⟩
    · exact .none
  · exact .none

/-- **A document declares related resources** in scopes that give related values to its
expressions. -/
theorem resources_rel (hR : Value.Compatible R) {d : Document}
    (h : ∀ q ∈ d.blocks, ∀ e ∈ Hcl.Item.exprsOf q.2.body, R (s.eval e) (s'.eval e)) :
    List.Forall₂ (Resource.Rel R) (d.resources s) (d.resources s') := by
  have hblocks : List.Forall₂ (fun p q => p = q ∧ p ∈ d.blocks) d.blocks d.blocks :=
    List.forall₂_same.mpr fun p hp => ⟨rfl, hp⟩
  refine List.rel_filterMap (fun p q hpq => ?_) hblocks
  obtain ⟨rfl, hp⟩ := hpq
  exact resource?_rel hR p.1 (h p hp)

end Document

end InfraPolicy
