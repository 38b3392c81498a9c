import InfraPolicy.Proofs.Confidence
import InfraPolicy.Proofs.Documents
import InfraPolicy.Proofs.Locals

/-!
# Supplying values for variables

A module is read twice, once without a values file and once with one that gives values to variables
without a default. The second reading knows more: its scope refines the first one's
(`Hcl.Scope.ofDocuments_refine`), and so do the attributes of its resources
(`Module.resources_refine`), block by block.

Of two readings of which the one refines the other, neither contradicts the other: both have the
verdict of a resolution that they have in common wherever they are certain. This is less than that
certainty survives. Values that are only known in part may leave a conjunction undecided that
certainly failed before.
-/

namespace InfraPolicy

namespace Hcl

/-! ### Plain keys in bodies -/

mutual

/-- Every key of an object in the item, at any depth, is a name or a literal text. -/
def Item.plainKeys : Item → Bool
  | .attr _ e => e.plainKeys
  | .block _ _ body => Item.plainKeysList body

/-- The keys of objects in a body are plain. -/
def Item.plainKeysList : List Item → Bool
  | [] => true
  | item :: rest => item.plainKeys && Item.plainKeysList rest

end

mutual

theorem Item.plainKeys_of_mem_exprs : ∀ item : Item, item.plainKeys = true →
    ∀ e ∈ item.exprs, e.plainKeys = true
  | .attr _ _, h => List.forall_mem_singleton.mpr h
  | .block _ _ body, h => Item.plainKeys_of_mem_exprsOf body h

theorem Item.plainKeys_of_mem_exprsOf : ∀ body : List Item, Item.plainKeysList body = true →
    ∀ e ∈ Item.exprsOf body, e.plainKeys = true
  | [], _ => nofun
  | item :: rest, h => by
    rw [Item.plainKeysList, Bool.and_eq_true] at h
    exact List.forall_mem_append.mpr
      ⟨Item.plainKeys_of_mem_exprs item h.1, Item.plainKeys_of_mem_exprsOf rest h.2⟩

end

end Hcl

/-! ### The scope of documents -/

namespace Fields

theorem KeyedOnce.nil : KeyedOnce [] := trivial

end Fields

namespace Document

/-- Every key of an object in the document, at any depth, is a name or a literal text. -/
def plainKeys (d : Document) : Bool :=
  d.blocks.all fun (_, b) => Hcl.Item.plainKeysList b.body

/-- A default value has its keys once. -/
theorem keyedOnce_of_mem_defaults {d : Document} {p : String × Value} (hp : p ∈ d.defaults) :
    p.2.KeyedOnce := by
  obtain ⟨-, -, e, -, hvalue⟩ := exists_of_mem_defaults hp
  rw [hvalue]
  exact Hcl.Scope.eval_keyedOnce .empty e

theorem plainKeys_of_mem_localDefs {d : Document} (h : d.plainKeys = true) {p : String × Hcl.Expr}
    (hp : p ∈ d.localDefs) : p.2.plainKeys = true := by
  obtain ⟨q, hq, hmem⟩ := exists_of_mem_localDefs hp
  exact Hcl.Item.plainKeys_of_mem_exprsOf _ (List.all_eq_true.mp h q hq) _ hmem

end Document

/-- A values file gives each variable one value, which has its keys once. -/
theorem assignedValues_keyedOnce (body : List Hcl.Item) : (assignedValues body).KeyedOnce := by
  refine Fields.KeyedOnce.nil.insertAll fun p hp => ?_
  obtain ⟨⟨name, e⟩, -, rfl⟩ := List.mem_map.mp hp
  exact Hcl.Scope.eval_keyedOnce .empty e

namespace Hcl.Scope

/-- **The scope of documents is monotone** in the values that are given to variables without a
default. -/
theorem ofDocuments_refine {documents : List Document} {values : Fields}
    (hkeys : ∀ d ∈ documents, d.plainKeys = true)
    (hnames : ((documents.flatMap Document.localDefs).map Prod.fst).Nodup)
    (hvalues : values.KeyedOnce)
    (hfresh : ∀ name ∈ values.keys, name ∉ (documents.flatMap Document.defaults).map Prod.fst) :
    (ofDocuments documents []).RefinedBy (ofDocuments documents values) := by
  have hdefs : WellDeclared (documents.flatMap Document.localDefs) := by
    refine ⟨hnames, fun p hp => ?_⟩
    obtain ⟨d, hd, hp⟩ := List.mem_flatMap.mp hp
    exact Document.plainKeys_of_mem_localDefs (hkeys d hd) hp
  have hdefaults : ∀ p ∈ documents.flatMap Document.defaults, p.2.KeyedOnce := by
    intro p hp
    obtain ⟨d, -, hp⟩ := List.mem_flatMap.mp hp
    exact Document.keyedOnce_of_mem_defaults hp
  rw [ofDocuments, ofDocuments, setVariables_eq, setVariables_eq, setVariables_eq]
  -- no local has a value yet, so both runs rise from where they start
  refine (Abreast.resolveLocals hdefs ?_).refined
  refine ⟨⟨fun name v hv => ?_, .refl _⟩, ?_, ?_, ?_, .nil⟩
  · by_cases hname : name ∈ (documents.flatMap Document.defaults).map Prod.fst
    · -- a variable with a default keeps it, since no value is given to it
      refine ⟨v, ?_, .refl v⟩
      rw [Fields.get?_insertAll_of_notMem _ fun hmem => hfresh name hmem hname]
      exact hv
    · have hnone := (Fields.get?_insertAll_of_notMem [] hname).symm.trans hv
      simp at hnone
  · intro d _ v hv
    simp at hv
  · intro d _ v hv
    simp at hv
  · have hvars := Fields.KeyedOnce.nil.insertAll hdefaults
    exact hvars.insertAll fun p hp => hvalues.of_mem hp

end Hcl.Scope

/-! ### The resources of a module -/

/-- Fields are refined key by key. -/
theorem Fields.refinedBy_iff {fs gs : Fields} :
    fs.RefinedBy gs ↔ Fields.Rel Value.RefinedBy fs gs := by
  constructor
  · intro h
    induction fs generalizing gs with
    | nil => cases h; exact .nil
    | cons p rest ih =>
      cases h with
      | cons head tail => exact .cons ⟨rfl, head⟩ (ih tail)
  · intro h
    induction h with
    | nil => exact .nil
    | @cons p q _ _ hhead _ ih =>
      obtain ⟨k, v⟩ := p
      obtain ⟨k', w⟩ := q
      obtain ⟨rfl, hvw⟩ := hhead
      exact .cons hvw ih

/-- The same resource, of which more may be known. -/
structure Resource.RefinedBy (r r' : Resource) : Prop where
  kind : r.kind = r'.kind
  name : r.name = r'.name
  location : r.location = r'.location
  attributes : r.attributes.RefinedBy r'.attributes

/-- Containers of refined values are refined. -/
theorem Value.RefinedBy.compatible : Value.Compatible Value.RefinedBy where
  atom v _ := .refl v
  list h := .list (Value.itemsRefinedBy_iff.mpr h)
  object _ h := .object (Fields.refinedBy_iff.mpr h)

theorem Document.resources_refine {s s' : Hcl.Scope} (h : s.RefinedBy s') {d : Document}
    (hkeys : d.plainKeys = true) :
    List.Forall₂ Resource.RefinedBy (d.resources s) (d.resources s') := by
  have hrel := resources_rel Value.RefinedBy.compatible fun q hq e he =>
    Hcl.Scope.eval_refine h e
      (Hcl.Item.plainKeys_of_mem_exprsOf _ (List.all_eq_true.mp hkeys q hq) e he)
  refine hrel.imp fun r r' hr => ⟨hr.kind, hr.name, hr.location, ?_⟩
  cases hr.attributes with
  | object hfields => exact hfields

namespace Module

/-- **Both readings find the same resources**, and the second knows more of them. -/
theorem resources_refine {documents : List Document} {values : Fields}
    (hkeys : ∀ d ∈ documents, d.plainKeys = true)
    (h : (Hcl.Scope.ofDocuments documents []).RefinedBy (Hcl.Scope.ofDocuments documents values)) :
    List.Forall₂ Resource.RefinedBy (ofDocuments documents []).resources
      (ofDocuments documents values).resources := by
  have hdocuments : List.Forall₂ (fun d d' => d = d' ∧ d ∈ documents) documents documents :=
    List.forall₂_same.mpr fun d hd => ⟨rfl, hd⟩
  refine List.rel_flatMap hdocuments fun d d' hdd' => ?_
  obtain ⟨rfl, hd⟩ := hdd'
  exact Document.resources_refine h (hkeys d hd)

end Module

/-- Two readings of a resource that are both certain have the same verdict, since they have a
resolution in common. -/
theorem Condition.verdict_unique {attributes attributes' : Fields}
    (h : attributes.RefinedBy attributes') {c : Condition} (hstops : c.ExistenceStops)
    {v v' : Verdict} (hv : c.verdict attributes = v) (hv' : c.verdict attributes' = v')
    (hcertain : v.unknown = false) (hcertain' : v'.unknown = false) : v = v' := by
  subst hv hv'
  calc c.verdict attributes
      = c.verdict attributes'.resolved :=
        (verdict_resolve h.resolvedBy_resolved hstops hcertain).symm
    _ = c.verdict attributes' :=
        verdict_resolve (Fields.RefinedBy.refl attributes').resolvedBy_resolved hstops hcertain'

/-- **Supplying values for variables flips no certain verdict.** The names of the locals are
distinct, the keys of objects are plain, and the values are for variables without a default; locals
may refer to each other in any way, also in circles. Then both readings of the documents give the
same resources, and on each of them no condition is certain of one verdict before and of the other
after. -/
theorem supplied_values_flip_no_certain_verdict (documents : List Document) (body : List Hcl.Item)
    (hkeys : ∀ d ∈ documents, d.plainKeys = true)
    (hnames : ((documents.flatMap Document.localDefs).map Prod.fst).Nodup)
    (hfresh : ∀ name ∈ (assignedValues body).keys,
      name ∉ (documents.flatMap Document.defaults).map Prod.fst) :
    List.Forall₂
      (fun r r' : Resource =>
        r.kind = r'.kind ∧ r.name = r'.name ∧ r.location = r'.location ∧
        (∀ c : Condition, c.ExistenceStops →
          (c.verdict r.attributes).unknown = false → (c.verdict r'.attributes).unknown = false →
            c.verdict r.attributes = c.verdict r'.attributes) ∧
        ∀ rule : Rule, rule.condition.ExistenceStops →
          (∀ v, rule.violation? false r = some v → rule.condition.verdict r'.attributes ≠ .pass) ∧
          (rule.condition.verdict r.attributes = .pass → rule.violation? false r' = none))
      (Module.ofDocuments documents []).resources
      (Module.ofDocuments documents (assignedValues body)).resources := by
  have hscope := Hcl.Scope.ofDocuments_refine hkeys hnames (assignedValues_keyedOnce body) hfresh
  refine (Module.resources_refine hkeys hscope).imp fun r r' h => ?_
  refine ⟨h.kind, h.name, h.location,
    fun c hstops => Condition.verdict_unique h.attributes hstops rfl rfl,
    fun rule hstops => ⟨fun v hv hpass => ?_, fun hpass => ?_⟩⟩
  · obtain ⟨-, hfail, -⟩ := Rule.violation?_lenient_eq_some.mp hv
    have heq := Condition.verdict_unique h.attributes hstops hfail hpass rfl rfl
    cases heq
  · refine Option.eq_none_iff_forall_ne_some.mpr fun v hv => ?_
    obtain ⟨-, hfail, -⟩ := Rule.violation?_lenient_eq_some.mp hv
    have heq := Condition.verdict_unique h.attributes hstops hpass hfail rfl rfl
    cases heq

/-- A local that refers to a later one and to a variable that is supplied, in a condition with a
child that is undecided without the values. -/
theorem supplied_values_flip_no_certain_verdict_example :
    let reference (root name : String) : Hcl.Expr := .traversal (.variable root) [.attr name]
    let document : Document := ⟨"main.tf",
      [(⟨"main.tf", 1, 1⟩, ⟨"locals", [],
          [.attr "tags" (.object [(.variable "Env", reference "var" "env"),
            (.text "Team", reference "local" "team")]),
          .attr "team" (reference "var" "team")]⟩),
        (⟨"main.tf", 6, 1⟩, ⟨"variable", ["team"], [.attr "default" (.text "core")]⟩),
        (⟨"main.tf", 9, 1⟩, ⟨"resource", ["aws_s3_bucket", "logs"],
          [.attr "tags" (reference "local" "tags"),
          .block "versioning" [] [.attr "enabled" (reference "var" "versioned")]]⟩)]⟩
    let body : List Hcl.Item := [.attr "env" (.text "prod"), .attr "versioned" (.bool true)]
    let c : Condition :=
      .all [.check ⟨"tags.Env", .equals, some (.string "prod"), none⟩,
        .check ⟨"versioning.enabled", .equals, some (.bool true), none⟩,
        .check ⟨"tags.Team", .equals, some (.string "ops"), none⟩]
    let before := (Module.ofDocuments [document] []).resources
    let after := (Module.ofDocuments [document] (assignedValues body)).resources
    (before.map fun r => c.verdict r.attributes) = [.fail] ∧
      (after.map fun r => c.verdict r.attributes) = [.fail] ∧
      List.Forall₂ (fun r r' => r.name = r'.name ∧
        ((c.verdict r.attributes).unknown = false → (c.verdict r'.attributes).unknown = false →
          c.verdict r.attributes = c.verdict r'.attributes)) before after := by
  intro reference document body c before after
  refine ⟨by decide +kernel, by decide +kernel, ?_⟩
  have hagree := supplied_values_flip_no_certain_verdict [document] body (by decide +kernel)
    (by decide +kernel) (by decide +kernel)
  refine hagree.imp fun r r' h => ?_
  obtain ⟨-, hname, -, hverdict, -⟩ := h
  exact ⟨hname, hverdict c (by decide +kernel)⟩

end InfraPolicy
