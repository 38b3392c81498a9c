import InfraPolicy.Proofs.Documents
import InfraPolicy.Proofs.Locals
import InfraPolicy.Rule.Violation
import Mathlib.Data.List.Permutation

/-!
# Variables that are not mentioned

The attributes of a resource hang on the variables that its body mentions, directly or through
locals, and on no others. A body **mentions** what its leaves lead to: `Hcl.Reaches` follows the
locals among them into their declarations, all of them if a name is declared more than once, and in
circles as well.

What is reached is closed under looking into locals (`Hcl.Reaches.closed`), and on a closed part of
the names two runs stay in agreement step by step (`Hcl.Scope.AgreeOn.revisit`): a local of the part
is evaluated alike, and its old value is kept or replaced alike, while any other local may change in
one run and not in the other. All locals share the number of passes, which unrelated ones decide;
this has no influence, since a pass that comes too many changes nothing.
-/

namespace InfraPolicy

namespace Hcl

/-! ### Mentions -/

/-- What leaves lead to: themselves, and the leaves of the locals among what they lead to. -/
inductive Reaches (defs : List (String × Expr)) (start : List Leaf) : Leaf → Prop where
  | leaf {l : Leaf} (h : l ∈ start) : Reaches defs start l
  | «local» {d : String × Expr} {l : Leaf} (hname : Reaches defs start (.reference "local" d.1))
      (hd : d ∈ defs) (h : l ∈ d.2.leaves) : Reaches defs start l

/-- Looking into the locals of a part of the leaves does not lead out of it. -/
def ClosedUnder (defs : List (String × Expr)) (P : Leaf → Prop) : Prop :=
  ∀ d ∈ defs, P (.reference "local" d.1) → ∀ l ∈ d.2.leaves, P l

instance (defs : List (String × Expr)) (P : Leaf → Prop) [DecidablePred P] :
    Decidable (ClosedUnder defs P) :=
  inferInstanceAs (Decidable (∀ d ∈ defs, P (.reference "local" d.1) → ∀ l ∈ d.2.leaves, P l))

theorem Reaches.closed (defs : List (String × Expr)) (start : List Leaf) :
    ClosedUnder defs (Reaches defs start) :=
  fun _ hd hname _ hl => .local hname hd hl

/-- A closed list of leaves has in it what it leads to. -/
theorem Reaches.mem_of_closed {defs : List (String × Expr)} {start part : List Leaf} {l : Leaf}
    (h : Reaches defs start l) (hstart : start ⊆ part) (hclosed : ClosedUnder defs (· ∈ part)) :
    l ∈ part := by
  induction h with
  | leaf h => exact hstart h
  | «local» _ hd h ih => exact hclosed _ hd ih _ h

/-- The leaves of the expressions of a body, also of those in the blocks inside it. -/
def Item.leavesOf (body : List Item) : List Leaf :=
  (Item.exprsOf body).flatMap Expr.leaves

/-- A body mentions a variable, directly or through locals. -/
def MentionsVariable (defs : List (String × Expr)) (body : List Item) (name : String) : Prop :=
  Reaches defs (Item.leavesOf body) (.reference "var" name)

namespace Scope

/-! ### Scopes that agree on a part of the names -/

/-- The variables and locals of a part of the leaves have the same values, or none, in both
scopes. -/
structure AgreeOn (P : Leaf → Prop) (s s' : Scope) : Prop where
  vars : ∀ name, P (.reference "var" name) → s.vars.get? name = s'.vars.get? name
  locals : ∀ name, P (.reference "local" name) → s.locals.get? name = s'.locals.get? name

variable {P : Leaf → Prop} {defs : List (String × Expr)} {s s' : Scope}

theorem AgreeOn.value (h : AgreeOn P s s') {l : Leaf} (hl : P l) : l.value s = l.value s' := by
  cases l with
  | number x => rfl
  | reference root name =>
    rw [Leaf.value, Leaf.value, table?, table?]
    by_cases hvar : root = "var"
    · subst hvar
      simp only [if_true, h.vars name hl]
    · by_cases hlocal : root = "local"
      · subst hlocal
        simp only [if_neg hvar, if_true, h.locals name hl]
      · simp only [if_neg hvar, if_neg hlocal]

theorem AgreeOn.eval (h : AgreeOn P s s') {e : Expr} (he : ∀ l ∈ e.leaves, P l) :
    s.eval e = s'.eval e :=
  eval_congr fun l hl => h.value (he l hl)

/-- A local is set to values that are the same if it belongs to the part. -/
theorem AgreeOn.setLocal (h : AgreeOn P s s') (name : String) {v w : Value}
    (hvw : P (.reference "local" name) → v = w) :
    AgreeOn P (s.setLocal name v) (s'.setLocal name w) := by
  refine ⟨h.vars, fun other hother => ?_⟩
  rw [locals_setLocal, locals_setLocal, Fields.get?_insert, Fields.get?_insert]
  split_ifs with hname
  · subst hname
    rw [hvw hother]
  · exact h.locals other hother

/-- One step of the first pass. -/
theorem AgreeOn.evaluate (hclosed : ClosedUnder defs P) (h : AgreeOn P s s') {d : String × Expr}
    (hd : d ∈ defs) :
    AgreeOn P (s.setLocal d.1 (s.eval d.2)) (s'.setLocal d.1 (s'.eval d.2)) :=
  h.setLocal d.1 fun hname => h.eval (hclosed d hd hname)

/-- One step of a later pass. -/
theorem AgreeOn.revisit (hclosed : ClosedUnder defs P) (h : AgreeOn P s s') {d : String × Expr}
    (hd : d ∈ defs) : AgreeOn P (s.revisit d) (s'.revisit d) := by
  by_cases hname : P (.reference "local" d.1)
  · have hset := h.evaluate hclosed hd
    have hold := h.locals d.1 hname
    have hnew := h.eval (hclosed d hd hname)
    rw [revisit_eq, revisit_eq, hold, hnew]
    rw [hnew] at hset
    split_ifs
    · exact h
    · exact hset
  · -- what becomes of other locals does not matter, and may differ
    refine ⟨fun name hP => ?_, fun name hP => ?_⟩
    · rw [vars_revisit, vars_revisit]
      exact h.vars name hP
    · have hne : name ≠ d.1 := by
        rintro rfl
        exact hname hP
      rw [get?_locals_revisit_of_ne s hne, get?_locals_revisit_of_ne s' hne]
      exact h.locals name hP

/-- **A closed part of the names evolves on its own**, whatever the others do to the passes. -/
theorem AgreeOn.resolveLocals (hclosed : ClosedUnder defs P) (h : AgreeOn P s s') :
    AgreeOn P (Scope.resolveLocals defs s) (Scope.resolveLocals defs s') :=
  resolveLocals_rel (fun _ hd _ _ hrun => hrun.evaluate hclosed hd)
    (fun _ hd _ _ hrun => hrun.revisit hclosed hd) h

end Scope

end Hcl

/-! ### Two values files -/

/-- The scopes of documents under two values files agree where the files do. -/
theorem Hcl.Scope.ofDocuments_agreeOn (documents : List Document) {values values' : Fields}
    {P : Leaf → Prop} (hvalues : values.keys.Nodup) (hvalues' : values'.keys.Nodup)
    (hclosed : ClosedUnder (documents.flatMap Document.localDefs) P)
    (hagree : ∀ name, P (.reference "var" name) → values.get? name = values'.get? name) :
    AgreeOn P (ofDocuments documents values) (ofDocuments documents values') := by
  refine AgreeOn.resolveLocals hclosed ⟨fun name hname => ?_, fun name _ => ?_⟩
  · rw [get?_vars_setVariables hvalues, get?_vars_setVariables hvalues', hagree name hname]
  · rw [setVariables_eq, setVariables_eq _ values']

/-- **Variables that a resource does not mention have no influence on it.** Two values files give
the same value, or none, to every variable that the body of a resource block mentions, directly or
through locals; locals may refer to each other in circles and repeat names. Then the block declares
a resource with the same attributes under both of them, and every rule says the same of it, strictly
or not. -/
theorem unmentioned_variables_have_no_influence (documents : List Document)
    (body body' : List Hcl.Item) {d : Document} (hd : d ∈ documents) {location : Location}
    {b : Hcl.Block} (hb : (location, b) ∈ d.blocks)
    (hagree : ∀ name,
      Hcl.MentionsVariable (documents.flatMap Document.localDefs) b.body name →
        (assignedValues body).get? name = (assignedValues body').get? name)
    {r : Resource}
    (hr : Document.resource? (Module.ofDocuments documents (assignedValues body)).scope location b =
      some r) :
    r ∈ (Module.ofDocuments documents (assignedValues body)).resources ∧
    ∃ r' ∈ (Module.ofDocuments documents (assignedValues body')).resources,
      Document.resource? (Module.ofDocuments documents (assignedValues body')).scope location b =
        some r' ∧
      r'.attributes = r.attributes ∧
      ∀ (strict : Bool) (rule : Rule), rule.violation? strict r' = rule.violation? strict r := by
  have hmem : ∀ {values : Fields} {r : Resource},
      Document.resource? (Module.ofDocuments documents values).scope location b = some r →
        r ∈ (Module.ofDocuments documents values).resources :=
    fun h => List.mem_flatMap.mpr ⟨d, hd, List.mem_filterMap.mpr ⟨(location, b), hb, h⟩⟩
  have hscope := Hcl.Scope.ofDocuments_agreeOn documents (nodup_keys_assignedValues body)
    (nodup_keys_assignedValues body') (Hcl.Reaches.closed _ (Hcl.Item.leavesOf b.body)) hagree
  have hattributes :
      Hcl.attributes (Module.ofDocuments documents (assignedValues body)).scope b.body =
        Hcl.attributes (Module.ofDocuments documents (assignedValues body')).scope b.body := by
    refine (Hcl.attributes_rel Value.Congruence.eq.toCompatible fun e he => ?_).eq
    exact hscope.eval fun l hl => .leaf (List.mem_flatMap.mpr ⟨e, he, hl⟩)
  have hr' : Document.resource? (Module.ofDocuments documents (assignedValues body')).scope
      location b = some r := by
    rw [← hr, Document.resource?, Document.resource?, hattributes]
  exact ⟨hmem hr, r, hmem hr', hr', rfl, fun _ _ => rfl⟩

/-- A resource that mentions one variable directly and another one through two locals, of which one
is declared twice and refers to itself. Two values files differ in a variable that only another
local mentions. -/
theorem unmentioned_variables_have_no_influence_example :
    let reference (root name : String) : Hcl.Expr := .traversal (.variable root) [.attr name]
    let block : Hcl.Block := ⟨"resource", ["aws_s3_bucket", "logs"],
      [.attr "bucket" (reference "var" "name"),
        .block "tagging" [] [.attr "tags" (reference "local" "tags")]]⟩
    let document : Document := ⟨"main.tf",
      [(⟨"main.tf", 1, 1⟩, ⟨"locals", [],
          [.attr "tags" (.list [reference "local" "team", .call "lower" [reference "var" "size"]]),
          .attr "team" (reference "local" "team"), .attr "team" (reference "var" "team"),
          .attr "disk" (reference "var" "size")]⟩),
        (⟨"main.tf", 7, 1⟩, block)]⟩
    let body : List Hcl.Item := [.attr "team" (.text "core"), .attr "size" (.int 10)]
    let body' : List Hcl.Item := [.attr "size" (.int 20), .attr "team" (.text "core")]
    let r : Resource := ⟨"aws_s3_bucket", "logs", [("bucket", .unknown),
      ("tagging", .object [("tags", .list [.string "core", .computed])])], ⟨"main.tf", 7, 1⟩⟩
    (∀ name, Hcl.MentionsVariable document.localDefs block.body name →
      (assignedValues body).get? name = (assignedValues body').get? name) ∧
    ∃ r' ∈ (Module.ofDocuments [document] (assignedValues body')).resources,
      r'.attributes = r.attributes := by
  intro reference block document body body' r
  have hmentions : ∀ name, Hcl.MentionsVariable document.localDefs block.body name →
      name = "name" ∨ name = "team" := by
    intro name h
    have hpart : Hcl.Leaf.reference "var" name ∈ [Hcl.Leaf.reference "var" "name",
        .reference "local" "tags", .reference "local" "team", .reference "var" "team"] :=
      h.mem_of_closed (by decide) (by decide)
    simpa using hpart
  have hagree : ∀ name, Hcl.MentionsVariable document.localDefs block.body name →
      (assignedValues body).get? name = (assignedValues body').get? name := by
    intro name h
    rcases hmentions name h with rfl | rfl <;> rfl
  have hb : (⟨"main.tf", 7, 1⟩, block) ∈ document.blocks := by simp [document]
  have hr : Document.resource? (Module.ofDocuments [document] (assignedValues body)).scope
      ⟨"main.tf", 7, 1⟩ block = some r := by cbv
  have hinfluence := unmentioned_variables_have_no_influence [document] body body'
    List.mem_cons_self hb (by simpa using hagree) hr
  obtain ⟨-, r', hmem, -, hattributes, -⟩ := hinfluence
  exact ⟨hagree, r', hmem, hattributes⟩

end InfraPolicy
