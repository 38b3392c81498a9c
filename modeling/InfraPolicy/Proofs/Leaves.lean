import InfraPolicy.Module.Attributes
import InfraPolicy.Proofs.Evaluation
import InfraPolicy.Proofs.FieldLookup

/-!
# What values hang on

The value of an expression is built from its **leaves**: the numbers that are written in it and the
names that it refers to. `Hcl.Scope.eval_rel` says so for a relation between values instead of
equality, and for two scopes: if the leaves of an expression have related values, then so has the
expression. This needs a relation that construction and inspection respect, a
`Value.Congruence`. Equality is one (`Value.Congruence.eq`), and then the statement is that
evaluation reads no other names than those that it finds among the leaves.

Attributes of blocks are only put together from values, never taken apart, so a relation that
construction respects is enough for them (`Hcl.attributes_rel`).
-/

namespace InfraPolicy

/-! ### Relations that evaluation respects -/

namespace Value

/-- Neither a container nor a float. -/
def isAtom : Value → Bool
  | .float _ | .list _ | .object _ => false
  | _ => true

/-- A relation that holds of atoms and themselves, and of containers with related content. -/
structure Compatible (R : Value → Value → Prop) : Prop where
  atom : ∀ v, v.isAtom = true → R v v
  list : ∀ {xs ys}, List.Forall₂ R xs ys → R (.list xs) (.list ys)
  object : ∀ {fs gs : Fields}, fs.keys.Nodup → Fields.Rel R fs gs → R (.object fs) (.object gs)

/-- A compatible relation such that related values look alike and have related parts. -/
structure Congruence (R : Value → Value → Prop) : Prop extends Compatible R where
  isIndeterminate_eq : ∀ {v w}, R v w → v.isIndeterminate = w.isIndeterminate
  text?_eq : ∀ {v w}, R v w → v.text? = w.text?
  selected_eq : ∀ {i j}, R i j → ∀ v, Hcl.selected v i = Hcl.selected v j
  fieldOf : ∀ {v w}, R v w → ∀ key, R (Hcl.fieldOf v key) (Hcl.fieldOf w key)
  itemOf : ∀ {v w}, R v w → ∀ index, R (Hcl.itemOf v index) (Hcl.itemOf w index)

theorem Congruence.eq : Congruence Eq where
  atom _ _ := rfl
  list h := by
    rw [List.forall₂_eq_eq_eq] at h
    rw [h]
  object _ h := by rw [h.eq]
  isIndeterminate_eq h := by rw [h]
  text?_eq h := by rw [h]
  selected_eq h v := by rw [h]
  fieldOf h key := by rw [h]
  itemOf h index := by rw [h]

variable {R : Value → Value → Prop}

/-- Related indices select related parts of related values. -/
theorem Congruence.selected (hR : Congruence R) {v w i j : Value} (hvw : R v w) (hij : R i j) :
    R (Hcl.selected v i) (Hcl.selected w j) := by
  rw [← hR.selected_eq hij]
  cases i with
  | int n => exact hR.itemOf hvw n.toInt
  | string key => exact hR.fieldOf hvw key
  | _ => exact hR.atom _ rfl

theorem Congruence.legacyItemOf (hR : Congruence R) {v w : Value} (hvw : R v w) (n : Nat) :
    R (Hcl.legacyItemOf v n) (Hcl.legacyItemOf w n) := by
  rw [Hcl.legacyItemOf, Hcl.legacyItemOf]
  split_ifs
  · exact hR.itemOf hvw n
  · exact hR.atom _ rfl

end Value

namespace Hcl

/-! ### Leaves -/

/-- What the value of an expression is made from. -/
inductive Leaf where
  /-- A float that is written. -/
  | number (x : Binary64)
  /-- The name after a root: a variable or a local, if it is the root of these. -/
  | reference (root name : String)
deriving DecidableEq, Repr

/-- The value of a leaf in a scope. -/
def Leaf.value (scope : Scope) : Leaf → Value
  | .number x => .float x
  | .reference root name =>
    match scope.table? (.variable root) with
    | some table => (Fields.get? table name).getD .unknown
    | none => .computed

mutual

/-- The leaves of an expression. What stands in a call, an operation or any other expression that is
computed anyway does not count. -/
def Expr.leaves : Expr → List Leaf
  | .float x => [.number x]
  | .list items => Expr.leavesOf items
  | .object items => Expr.leavesOfItems items
  | .template [.interpolation e] => e.leaves
  | .traversal (.variable root) (.attr name :: steps) =>
    .reference root name :: Step.leavesOf steps
  | .paren inner => inner.leaves
  | _ => []

/-- The leaves of several expressions. -/
def Expr.leavesOf : List Expr → List Leaf
  | [] => []
  | e :: rest => e.leaves ++ Expr.leavesOf rest

/-- The leaves of keys and values. -/
def Expr.leavesOfItems : List (Expr × Expr) → List Leaf
  | [] => []
  | (key, e) :: rest => key.leaves ++ e.leaves ++ Expr.leavesOfItems rest

/-- The leaves of an index. -/
def Step.leaves : Step → List Leaf
  | .index e => e.leaves
  | _ => []

/-- The leaves of several steps. -/
def Step.leavesOf : List Step → List Leaf
  | [] => []
  | step :: rest => step.leaves ++ Step.leavesOf rest

end

namespace Scope

/-- A reference means the value of its leaf, or what the steps after it lead to. -/
theorem eval_reference (s : Scope) (root name : String) (steps : List Step) :
    s.eval (.traversal (.variable root) (.attr name :: steps)) =
      s.navigate ((Leaf.reference root name).value s) steps := by
  rw [eval, Leaf.value]
  cases s.table? (.variable root) with
  | none => exact (s.navigate_of_isIndeterminate rfl steps).symm
  | some table =>
    dsimp only
    cases table.get? name with
    | none => exact (s.navigate_of_isIndeterminate rfl steps).symm
    | some v => rfl

variable {R : Value → Value → Prop} {s s' : Scope}

/-- A key names the same field if it has related values. -/
theorem keyName?_rel (hR : Value.Congruence R) {key : Expr} (h : R (s.eval key) (s'.eval key)) :
    s.keyName? key = s'.keyName? key := by
  cases key with
  | «variable» name => rfl
  | _ => exact hR.text?_eq h

mutual

/-- **Evaluation reads leaves only.** Where the leaves of an expression have related values, so has
the expression. -/
theorem eval_rel (hR : Value.Congruence R) : ∀ e : Expr,
    (∀ leaf ∈ e.leaves, R (leaf.value s) (leaf.value s')) → R (s.eval e) (s'.eval e)
  | .list items, h => hR.list (evalItems_rel hR items h)
  | .object items, h => by
    have hfields := evalFields_rel hR items h Fields.nodup_keys_nil .nil
    exact hR.object hfields.1 hfields.2
  | .template [.interpolation e], h => eval_rel hR e h
  -- all other templates are literal texts, or computed in every scope
  | .template [], _ => hR.atom _ rfl
  | .template (.text t :: rest), _ => by
    rw [eval, eval]
    · cases literalParts? (.text t :: rest) <;> exact hR.atom _ rfl
    all_goals exact nofun
  | .template (.directive _ _ :: _), _ => hR.atom _ rfl
  | .template (.interpolation _ :: _ :: _), _ => hR.atom _ rfl
  | .traversal root (.attr name :: steps), h => by
    cases root with
    | «variable» root =>
      obtain ⟨hleaf, hsteps⟩ := List.forall_mem_cons.mp h
      rw [eval_reference, eval_reference]
      exact navigate_rel hR steps hsteps hleaf
    | _ => exact hR.atom _ rfl
  | .paren inner, h => eval_rel hR inner h
  | .float x, h => h (.number x) List.mem_cons_self
  | .null, _ | .bool _, _ | .int _, _ | .text _, _ | .unreadable, _ | .variable _, _
  | .call _ _, _ | .conditional _ _ _, _ | .operation _ _, _ | .comprehension _ _, _ =>
    hR.atom _ rfl
  | .traversal _ [], _ | .traversal _ (.index _ :: _), _ | .traversal _ (.legacyIndex _ :: _), _
  | .traversal _ (.splat :: _), _ => hR.atom _ rfl

theorem evalItems_rel (hR : Value.Congruence R) : ∀ items : List Expr,
    (∀ leaf ∈ Expr.leavesOf items, R (leaf.value s) (leaf.value s')) →
      List.Forall₂ R (s.evalItems items) (s'.evalItems items)
  | [], _ => .nil
  | e :: rest, h => by
    obtain ⟨he, hrest⟩ := List.forall_mem_append.mp h
    exact .cons (eval_rel hR e he) (evalItems_rel hR rest hrest)

/-- Objects are related field by field, if each key comes once. -/
theorem evalFields_rel (hR : Value.Congruence R) : ∀ (items : List (Expr × Expr)) {fs gs : Fields},
    (∀ leaf ∈ Expr.leavesOfItems items, R (leaf.value s) (leaf.value s')) →
      fs.keys.Nodup → Fields.Rel R fs gs →
      (s.evalFields fs items).keys.Nodup ∧
        Fields.Rel R (s.evalFields fs items) (s'.evalFields gs items)
  | [], _, _, _, hnodup, hfields => ⟨hnodup, hfields⟩
  | (key, e) :: rest, fs, gs, h, hnodup, hfields => by
    obtain ⟨hitem, hrest⟩ := List.forall_mem_append.mp h
    obtain ⟨hkey, he⟩ := List.forall_mem_append.mp hitem
    have hvalue := eval_rel hR e he
    rw [evalFields_cons, evalFields_cons, keyName?_rel hR (eval_rel hR key hkey)]
    cases s'.keyName? key with
    | none => exact evalFields_rel hR rest hrest hnodup hfields
    | some name =>
      exact evalFields_rel hR rest hrest (Fields.nodup_keys_insert hnodup name _)
        (hfields.insert name hvalue)

/-- Steps into related values lead to related ones. -/
theorem navigate_rel (hR : Value.Congruence R) : ∀ (steps : List Step) {v w : Value},
    (∀ leaf ∈ Step.leavesOf steps, R (leaf.value s) (leaf.value s')) → R v w →
      R (s.navigate v steps) (s'.navigate w steps)
  | [], _, _, _, hvw => hvw
  | step :: rest, v, w, h, hvw => by
    obtain ⟨hstep, hrest⟩ := List.forall_mem_append.mp h
    rw [navigate, navigate, hR.isIndeterminate_eq hvw]
    split_ifs
    · exact hvw
    · exact navigate_rel hR rest hrest (stepInto_rel hR step hstep hvw)

theorem stepInto_rel (hR : Value.Congruence R) : ∀ (step : Step) {v w : Value},
    (∀ leaf ∈ step.leaves, R (leaf.value s) (leaf.value s')) → R v w →
      R (s.stepInto v step) (s'.stepInto w step)
  | .attr name, _, _, _, hvw => hR.fieldOf hvw name
  | .index e, _, _, h, hvw => hR.selected hvw (eval_rel hR e h)
  | .legacyIndex n, _, _, _, hvw => hR.legacyItemOf hvw n
  | .splat, _, _, _, _ => hR.atom _ rfl

end

/-- An expression has the same value in scopes that give the same values to its leaves. -/
theorem eval_congr {e : Expr} (h : ∀ leaf ∈ e.leaves, leaf.value s = leaf.value s') :
    s.eval e = s'.eval e :=
  eval_rel .eq e h

end Scope

/-! ### Attributes of blocks -/

mutual

/-- The expressions of an item, also those in the blocks inside it. -/
def Item.exprs : Item → List Expr
  | .attr _ e => [e]
  | .block _ _ body => Item.exprsOf body

/-- The expressions in a body, at any depth. -/
def Item.exprsOf : List Item → List Expr
  | [] => []
  | item :: rest => item.exprs ++ Item.exprsOf rest

end

/-- The attributes of a body are some of its expressions. -/
theorem Item.mem_exprsOf_of_mem_attrs {body : List Item} {p : String × Expr}
    (hp : p ∈ Item.attrs body) : p.2 ∈ Item.exprsOf body := by
  induction body with
  | nil => simp [Item.attrs] at hp
  | cons item rest ih =>
    rw [Item.exprsOf, List.mem_append]
    cases item with
    | attr name e =>
      rcases List.mem_cons.mp hp with rfl | hp
      · exact .inl List.mem_cons_self
      · exact .inr (ih hp)
    | block name labels body => exact .inr (ih hp)

section Attributes

variable {R : Value → Value → Prop} {s s' : Scope}

/-- Attributes are related if their expressions have related values. -/
theorem attrValues_rel {body : List Item}
    (h : ∀ e ∈ Item.exprsOf body, R (s.eval e) (s'.eval e)) :
    Fields.Rel R (attrValues s body) (attrValues s' body) := by
  rw [attrValues, attrValues]
  refine List.forall₂_map_left_iff.mpr (List.forall₂_map_right_iff.mpr ?_)
  exact List.forall₂_same.mpr fun p hp => ⟨rfl, h p.2 (Item.mem_exprsOf_of_mem_attrs hp)⟩

/-- Groups of the same names, in the same order, with related values. -/
def GroupsRel (R : Value → Value → Prop) :
    List (String × List Value) → List (String × List Value) → Prop :=
  List.Forall₂ fun g g' => g.1 = g'.1 ∧ List.Forall₂ R g.2 g'.2

theorem addToGroup_rel {groups groups' : List (String × List Value)}
    (h : GroupsRel R groups groups') (name : String) {v w : Value} (hvw : R v w) :
    GroupsRel R (addToGroup name v groups) (addToGroup name w groups') := by
  induction h with
  | nil => exact .cons ⟨rfl, .cons hvw .nil⟩ .nil
  | @cons g g' rest rest' hg hrest ih =>
    obtain ⟨n, vs⟩ := g
    obtain ⟨n', ws⟩ := g'
    obtain ⟨rfl, hvs⟩ := hg
    rw [addToGroup, addToGroup]
    split_ifs
    · exact .cons ⟨rfl, List.rel_append hvs (.cons hvw .nil)⟩ hrest
    · exact .cons ⟨rfl, hvs⟩ ih

theorem groupByName_rel {ps qs : Fields} (h : Fields.Rel R ps qs) :
    GroupsRel R (groupByName ps) (groupByName qs) := by
  rw [groupByName, groupByName]
  suffices hfold : ∀ {groups groups'}, GroupsRel R groups groups' →
      GroupsRel R (ps.foldl (fun groups p => addToGroup p.1 p.2 groups) groups)
        (qs.foldl (fun groups p => addToGroup p.1 p.2 groups) groups') from hfold .nil
  induction h with
  | nil => exact fun hgroups => hgroups
  | @cons p q _ _ hhead _ ih =>
    intro groups groups' hgroups
    obtain ⟨k, v⟩ := p
    obtain ⟨k', w⟩ := q
    obtain ⟨rfl, hvw⟩ := hhead
    exact ih (addToGroup_rel hgroups k hvw)

/-- One block or several: the group is related if its blocks are. -/
theorem groupValue_rel (hR : Value.Compatible R) {vs ws : List Value} (h : List.Forall₂ R vs ws) :
    R (groupValue vs) (groupValue ws) := by
  cases h with
  | nil => exact hR.list .nil
  | cons head tail =>
    cases tail with
    | nil => exact head
    | cons head' tail => exact hR.list (.cons head (.cons head' tail))

/-- Attributes put together from related parts are related. -/
theorem assemble_rel (hR : Value.Compatible R) {attrs attrs' blocks blocks' : Fields}
    (hattrs : Fields.Rel R attrs attrs') (hblocks : Fields.Rel R blocks blocks')
    (generated : List String) :
    Fields.Rel R (assemble attrs blocks generated) (assemble attrs' blocks' generated) := by
  have hwritten : Fields.Rel R (Fields.ofList attrs) (Fields.ofList attrs') :=
    Fields.Rel.insertAll .nil hattrs
  have hgroups : Fields.Rel R ((groupByName blocks).map fun g => (g.1, groupValue g.2))
      ((groupByName blocks').map fun g => (g.1, groupValue g.2)) := by
    refine List.forall₂_map_left_iff.mpr (List.forall₂_map_right_iff.mpr ?_)
    exact (groupByName_rel hblocks).imp fun g g' hg => ⟨hg.1, groupValue_rel hR hg.2⟩
  have hgenerated : Fields.Rel R (generated.map fun name => (name, .computed))
      (generated.map fun name => (name, .computed)) :=
    List.forall₂_same.mpr fun p hp => by
      obtain ⟨name, -, rfl⟩ := List.mem_map.mp hp
      exact ⟨rfl, hR.atom _ rfl⟩
  exact (hwritten.insertAll hgroups).insertAll hgenerated

theorem nodup_keys_assemble (attrs blocks : Fields) (generated : List String) :
    (assemble attrs blocks generated).keys.Nodup :=
  Fields.nodup_keys_insertAll (Fields.nodup_keys_insertAll (Fields.nodup_keys_ofList attrs) _) _

mutual

/-- The objects that blocks are, by recursion over the blocks inside them. -/
theorem blockValue?_rel (hR : Value.Compatible R) : ∀ item : Item,
    (∀ e ∈ item.exprs, R (s.eval e) (s'.eval e)) →
      Fields.Rel R (blockValue? s item).toList (blockValue? s' item).toList
  | .attr _ _, _ => .nil
  | .block name labels body, h => by
    rw [blockValue?, blockValue?]
    split_ifs
    · exact .nil
    · refine .cons ⟨rfl, hR.object (nodup_keys_assemble _ _ _) ?_⟩ .nil
      exact assemble_rel hR (attrValues_rel h) (blockValues_rel hR body h) (generated body)

theorem blockValues_rel (hR : Value.Compatible R) : ∀ body : List Item,
    (∀ e ∈ Item.exprsOf body, R (s.eval e) (s'.eval e)) →
      Fields.Rel R (blockValues s body) (blockValues s' body)
  | [], _ => .nil
  | item :: rest, h => by
    obtain ⟨hitem, hrest⟩ := List.forall_mem_append.mp h
    rw [blockValues, blockValues]
    exact List.rel_append (blockValue?_rel hR item hitem) (blockValues_rel hR rest hrest)

end

/-- **The attributes of a body are related** if all the expressions in it have related values. -/
theorem attributes_rel (hR : Value.Compatible R) {body : List Item}
    (h : ∀ e ∈ Item.exprsOf body, R (s.eval e) (s'.eval e)) :
    Fields.Rel R (attributes s body) (attributes s' body) :=
  assemble_rel hR (attrValues_rel h) (blockValues_rel hR body h) (generated body)

end Attributes

end Hcl

end InfraPolicy
