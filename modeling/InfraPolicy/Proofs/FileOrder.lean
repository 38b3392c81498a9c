import InfraPolicy.Project.Checker
import InfraPolicy.Proofs.AlikeVerdicts
import InfraPolicy.Proofs.Documents
import InfraPolicy.Proofs.Literals
import InfraPolicy.Proofs.LocalFixpoint
import InfraPolicy.Proofs.Outcomes

/-!
# The order of files

What the resources of a module mean does not hang on the order in which its files are given. The
variables are the same in every order, if no variable has two defaults; the locals settle on like
values in every order, if none is declared twice and they do not refer to each other in circles.
Then all expressions have like values, and no rule can tell the difference.

A permutation of the files permutes the resources, document by document, and so it permutes the
violations.
-/

namespace InfraPolicy

/-! ### Regular values -/

/-- Alike, with the same floats, all of them regular. This is the likeness of values that are read
from files. -/
abbrev Value.RegularAlike : Value → Value → Prop :=
  Value.Alike Binary64.RegularEq

theorem Value.RegularAlike.likeness : Value.Likeness Value.RegularAlike :=
  Value.Alike.likeness Binary64.RegularEq.likeness

/-- An expression with regular numbers respects likeness. -/
theorem Hcl.Expr.IsRegular.sound {e : Hcl.Expr} (h : e.IsRegular) :
    e.Sound Value.RegularAlike :=
  fun x hx => .float ⟨rfl, h x hx⟩

/-- A regular expression has a regular value on its own. -/
theorem Hcl.Expr.IsRegular.eval_empty {e : Hcl.Expr} (h : e.IsRegular) :
    Value.RegularAlike (({} : Hcl.Scope).eval e) (({} : Hcl.Scope).eval e) := by
  have hempty : Hcl.Scope.Sound Value.RegularAlike [] {} :=
    ⟨⟨fun _ => .atom rfl, fun _ _ => .atom rfl⟩, fun _ _ => rfl⟩
  exact hempty.eval Value.Alike.congruence h.sound

namespace Document

variable {d : Document}

/-- The expressions of a regular document are regular. -/
theorem IsRegular.exprs (h : d.IsRegular) {q : Location × Hcl.Block} (hq : q ∈ d.blocks) :
    ∀ e ∈ Hcl.Item.exprsOf q.2.body, e.IsRegular := by
  intro e he
  obtain ⟨item, hitem, he⟩ := Hcl.Item.mem_exprsOf.mp he
  exact h q hq item hitem e he

theorem IsRegular.defaults (h : d.IsRegular) {p : String × Value} (hp : p ∈ d.defaults) :
    Value.RegularAlike p.2 p.2 := by
  obtain ⟨q, hq, e, he, hvalue⟩ := exists_of_mem_defaults hp
  rw [hvalue]
  exact (h.exprs hq e he).eval_empty

theorem IsRegular.localDefs (h : d.IsRegular) {p : String × Hcl.Expr} (hp : p ∈ d.localDefs) :
    p.2.Sound Value.RegularAlike := by
  obtain ⟨q, hq, he⟩ := exists_of_mem_localDefs hp
  exact (h.exprs hq p.2 he).sound

end Document

theorem exists_body_of_parseValues {file content : String} {values : Fields}
    (h : parseValues file content = .ok values) :
    ∃ body, Hcl.parseBody? content = some body ∧ assignedValues body = values := by
  rw [parseValues] at h
  cases hbody : Hcl.parseBody? content with
  | none => simp [hbody] at h
  | some body =>
    rw [hbody] at h
    exact ⟨body, rfl, Except.ok.inj h⟩

/-- The values of a values file are regular. -/
theorem regularAlike_of_parseValues {file content : String} {values : Fields}
    (h : parseValues file content = .ok values) : ∀ p ∈ values, Value.RegularAlike p.2 p.2 := by
  obtain ⟨body, hbody, rfl⟩ := exists_body_of_parseValues h
  intro p hp
  obtain ⟨e, he, hvalue⟩ := exists_of_mem_assignedValues hp
  obtain ⟨item, hitem, he⟩ := Hcl.Item.mem_exprsOf.mp he
  rw [hvalue]
  exact (Hcl.isRegular_of_parseBody? hbody item hitem e he).eval_empty

/-! ### The scope of documents -/

namespace Hcl.Scope

/-- Before any local has a value, a scope is sound if the values of its variables are. -/
theorem sound_setVariables {defaults values : Fields} (defs : List (String × Expr))
    (hdefaults : ∀ p ∈ defaults, Value.RegularAlike p.2 p.2)
    (hvalues : ∀ p ∈ values, Value.RegularAlike p.2 p.2) :
    Sound Value.RegularAlike defs ((setVariables {} defaults).setVariables values) := by
  rw [setVariables_eq, setVariables_eq]
  refine ⟨⟨fun name => ?_, fun _ _ => .atom rfl⟩, fun _ _ => rfl⟩
  have hvars := Fields.forall_mem_insertAll (P := fun v => Value.RegularAlike v v)
    (Fields.forall_mem_insertAll (P := fun v => Value.RegularAlike v v) (List.forall_mem_nil _)
      hdefaults) hvalues
  rw [varValue]
  cases hv : Fields.get? (Fields.insertAll (Fields.insertAll [] defaults) values) name with
  | none => exact .atom rfl
  | some v => exact hvars _ (Fields.mem_of_get? hv)

/-- Variables have the same values in every order of their defaults. -/
theorem get?_vars_setVariables_perm {defaults defaults' values : Fields}
    (hperm : defaults.Perm defaults') (hnodup : defaults.keys.Nodup) (hvalues : values.keys.Nodup)
    (name : String) :
    ((setVariables {} defaults).setVariables values).vars.get? name =
      ((setVariables {} defaults').setVariables values).vars.get? name := by
  have hnodup' : defaults'.keys.Nodup := (hperm.map Prod.fst).nodup_iff.mp hnodup
  rw [get?_vars_setVariables hvalues, get?_vars_setVariables hvalues,
    get?_vars_setVariables hnodup, get?_vars_setVariables hnodup', Fields.get?_perm hnodup hperm]

/-- **The scope of documents does not hang on their order**, up to likeness. -/
theorem ofDocuments_perm {documents documents' : List Document} {values : Fields}
    (hregular : ∀ d ∈ documents, d.IsRegular) (hvalues : ∀ p ∈ values, Value.RegularAlike p.2 p.2)
    (hkeys : values.keys.Nodup) (hperm : documents.Perm documents')
    (hdefaults : ((documents.flatMap Document.defaults).map Prod.fst).Nodup)
    (hlocals : ((documents.flatMap Document.localDefs).map Prod.fst).Nodup)
    (hacyclic : Acyclic (documents.flatMap Document.localDefs)) :
    LikeOn Value.RegularAlike (fun _ => True) (ofDocuments documents values)
      (ofDocuments documents' values) := by
  have hpermDefaults := hperm.flatMap_right Document.defaults
  have hpermLocals := hperm.flatMap_right Document.localDefs
  have hdefs : Determined Value.RegularAlike (documents.flatMap Document.localDefs) := by
    refine ⟨hlocals, hacyclic, fun p hp => ?_⟩
    obtain ⟨d, hd, hp⟩ := List.mem_flatMap.mp hp
    exact (hregular d hd).localDefs hp
  have hsound : ∀ p ∈ documents.flatMap Document.defaults, Value.RegularAlike p.2 p.2 := by
    intro p hp
    obtain ⟨d, hd, hp⟩ := List.mem_flatMap.mp hp
    exact (hregular d hd).defaults hp
  have hsound' : ∀ p ∈ documents'.flatMap Document.defaults, Value.RegularAlike p.2 p.2 :=
    fun p hp => hsound p (hpermDefaults.mem_iff.mpr hp)
  have hstart := sound_setVariables (documents.flatMap Document.localDefs) hsound hvalues
  refine resolveLocals_perm Value.RegularAlike.likeness hdefs hpermLocals hstart
    (sound_setVariables _ hsound' hvalues) fun name => ?_
  -- The variables are not only alike: they are the same.
  have hname := get?_vars_setVariables_perm hpermDefaults hdefaults hkeys name
  rw [varValue, varValue, ← hname]
  exact hstart.values.vars name

end Hcl.Scope

/-! ### Resources and violations -/

/-- No rule tells resources with like attributes apart. -/
theorem Resource.Rel.violationsOf_eq {r r' : Resource} (h : Resource.Rel Value.RegularAlike r r')
    (c : Checker) : c.violationsOf r = c.violationsOf r' := by
  obtain ⟨kind, name, attributes, location⟩ := r
  obtain ⟨kind', name', attributes', location'⟩ := r'
  obtain ⟨rfl, rfl, rfl, hattributes⟩ := h
  exact List.filterMap_congr fun rule _ => Rule.violation?_alike (fun hxy => hxy.1) hattributes
    c.policy.strict rule ⟨kind, name, attributes, location⟩

/-- Resources that are alike have the same violations. -/
theorem Checker.flatMap_violationsOf_eq (c : Checker) {rs rs' : List Resource}
    (h : List.Forall₂ (Resource.Rel Value.RegularAlike) rs rs') :
    rs.flatMap c.violationsOf = rs'.flatMap c.violationsOf := by
  have hmap := map_eq_map_of_forall₂ h fun _ _ hr => hr.violationsOf_eq c
  rw [List.flatMap_def, List.flatMap_def, hmap]

/-- **The order of files does not change what resources mean.** Documents and a values file are
read; no variable has two defaults, no local is declared twice, and locals do not refer to each
other in circles. Then in every order of the documents each of them declares the same resources with
identical attributes, the module lists them in the order of the documents, and every checker finds
the same violations. A module without a values file is one with an empty values file. -/
theorem file_order_is_immaterial {documents documents' : List Document} {values : Fields}
    (hread : ∀ d ∈ documents, ∃ file content, Document.parse file content = .ok d)
    (hvalues : ∃ file content, parseValues file content = .ok values)
    (hperm : documents.Perm documents')
    (hdefaults : ((documents.flatMap Document.defaults).map Prod.fst).Nodup)
    (hlocals : ((documents.flatMap Document.localDefs).map Prod.fst).Nodup)
    (hacyclic : Hcl.Acyclic (documents.flatMap Document.localDefs)) :
    let m := Module.ofDocuments documents values
    let m' := Module.ofDocuments documents' values
    m.resources = documents.flatMap (Document.resources m.scope) ∧
    m'.resources = documents'.flatMap (Document.resources m'.scope) ∧
    (∀ d ∈ documents, List.Forall₂
      (fun r r' => r.kind = r'.kind ∧ r.name = r'.name ∧ r.location = r'.location ∧
        (Value.object r.attributes).identical (.object r'.attributes) = true)
      (d.resources m.scope) (d.resources m'.scope)) ∧
    ∀ c : Checker,
      (m.resources.flatMap c.violationsOf).Perm (m'.resources.flatMap c.violationsOf) := by
  intro m m'
  have hregular : ∀ d ∈ documents, d.IsRegular := by
    intro d hd
    obtain ⟨file, content, hparse⟩ := hread d hd
    exact Document.isRegular_of_parse hparse
  obtain ⟨file, content, hvalues⟩ := hvalues
  obtain ⟨body, -, hbody⟩ := exists_body_of_parseValues hvalues
  have hscope := Hcl.Scope.ofDocuments_perm hregular (regularAlike_of_parseValues hvalues)
    (hbody ▸ nodup_keys_assignedValues body) hperm hdefaults hlocals hacyclic
  have hresources : ∀ d ∈ documents, List.Forall₂ (Resource.Rel Value.RegularAlike)
      (d.resources m.scope) (d.resources m'.scope) := by
    intro d hd
    refine Document.resources_rel Value.Alike.congruence.toCompatible fun q hq e he => ?_
    have hsound := ((hregular d hd).exprs hq e he).sound
    exact hscope.eval Value.Alike.congruence hsound fun _ _ => trivial
  refine ⟨rfl, rfl, fun d hd => ?_, fun c => ?_⟩
  · exact (hresources d hd).imp fun r r' hr =>
      ⟨hr.kind, hr.name, hr.location, hr.attributes.identical Binary64.RegularEq.eqv⟩
  · -- Document by document the violations are the same; then only the documents change places.
    calc m.resources.flatMap c.violationsOf
        = documents.flatMap fun d => (d.resources m.scope).flatMap c.violationsOf :=
          List.flatMap_assoc
      _ = documents.flatMap fun d => (d.resources m'.scope).flatMap c.violationsOf :=
          List.flatMap_congr fun d hd => c.flatMap_violationsOf_eq (hresources d hd)
      _ |>.Perm (documents'.flatMap fun d => (d.resources m'.scope).flatMap c.violationsOf) :=
          hperm.flatMap_right _
      _ = m'.resources.flatMap c.violationsOf := List.flatMap_assoc.symm

/-- A local that refers to one of another file, which refers to a variable that is given a value. In
the one order the reference goes forward, in the other it goes back. -/
theorem file_order_is_immaterial_example :
    let main := Document.parse "main.tf"
      ("resource \"bucket\" \"logs\" \x7b tags = local.tags \x7d\n" ++
        "locals \x7b tags = local.base \x7d\n")
    let shared := Document.parse "shared.tf"
      ("variable \"team\" \x7b default = \"none\" \x7d\n" ++
        "locals \x7b base = [var.team, 0.5] \x7d\n")
    let given := parseValues "team.tfvars" "team = \"ops\"\n"
    ∃ d d' values, main = .ok d ∧ shared = .ok d' ∧ given = .ok values ∧
      ((Module.ofDocuments [d, d'] values).resources.map fun r =>
        (r.address, (Value.object r.attributes).identical (.object
          [("tags", .list [.string "ops", .float (.ofDecimal false 5 (-1))])]))) =
        [("bucket.logs", true)] ∧
      ∀ c : Checker,
        ((Module.ofDocuments [d, d'] values).resources.flatMap c.violationsOf).Perm
          ((Module.ofDocuments [d', d] values).resources.flatMap c.violationsOf) := by
  intro main shared given
  let d := main.toOption.getD default
  let d' := shared.toOption.getD default
  let values := given.toOption.getD default
  -- The local `tags` refers to `base`, and that one to no local.
  let rank (name : String) : Nat := if name = "tags" then 1 else 0
  obtain ⟨hmain, hshared, hgiven, hresources, hdefaults, hlocals, hrank⟩ :
      main.toOption.isSome = true ∧ shared.toOption.isSome = true ∧ given.toOption.isSome = true ∧
      ((Module.ofDocuments [d, d'] values).resources.map fun r =>
        (r.address, (Value.object r.attributes).identical (.object
          [("tags", .list [.string "ops", .float (.ofDecimal false 5 (-1))])]))) =
        [("bucket.logs", true)] ∧
      (([d, d'].flatMap Document.defaults).map Prod.fst).Nodup ∧
      (([d, d'].flatMap Document.localDefs).map Prod.fst).Nodup ∧
      ∀ p ∈ [d, d'].flatMap Document.localDefs,
        ∀ other ∈ ([d, d'].flatMap Document.localDefs).map Prod.fst,
          .reference "local" other ∈ p.2.leaves → rank other < rank p.1 := by
    decide +kernel
  have hread : ∀ p ∈ [d, d'], ∃ file content, Document.parse file content = .ok p := by
    simp only [List.forall_mem_cons]
    exact ⟨⟨_, _, eq_ok_getD_of_isSome hmain⟩, ⟨_, _, eq_ok_getD_of_isSome hshared⟩,
      List.forall_mem_nil _⟩
  refine ⟨d, d', values, eq_ok_getD_of_isSome hmain, eq_ok_getD_of_isSome hshared,
    eq_ok_getD_of_isSome hgiven, hresources, ?_⟩
  exact (file_order_is_immaterial hread ⟨_, _, eq_ok_getD_of_isSome hgiven⟩ (.swap d' d [])
    hdefaults hlocals (.of_rank rank hrank)).2.2.2

end InfraPolicy
