import InfraPolicy.Hcl.Scope
import InfraPolicy.Proofs.Refinement
import InfraPolicy.Value.Equality

/-!
# Evaluation in larger scopes

A scope is **refined** by another when every variable and local that has a value in the one has a
refined value in the other, which may give values to more names. `Hcl.Scope.eval_refine` says that
evaluation is monotone: in a refined scope an expression has a refined value, and a value that is
known throughout is final.

This needs the keys of objects to be fixed. A key that is itself computed from a variable appears
only once the variable is known, so `Expr.plainKeys` asks that every key, at any depth, is a name or
a literal text.

Evaluation also keeps the fields of objects apart: the values it builds hold each key once
(`Hcl.Scope.eval_keyedOnce`), so that a refinement that is identical to what it refines is the same
value (`Value.RefinedBy.eq_of_identical`).
-/

namespace InfraPolicy

/-- Every name of the one table is in the other, with a refined value. -/
def Fields.ExtendedBy (table table' : Fields) : Prop :=
  ∀ name v, table.get? name = some v → ∃ w, table'.get? name = some w ∧ v.RefinedBy w

theorem Fields.ExtendedBy.refl (table : Fields) : table.ExtendedBy table :=
  fun _ v hv => ⟨v, hv, .refl v⟩

theorem Fields.ExtendedBy.trans {s t u : Fields} (hst : s.ExtendedBy t) (htu : t.ExtendedBy u) :
    s.ExtendedBy u := by
  intro name v hv
  obtain ⟨w, hw, hvw⟩ := hst name v hv
  obtain ⟨x, hx, hwx⟩ := htu name w hw
  exact ⟨x, hx, hvw.trans hwx⟩

/-- Inserting a refined value under the same name on both sides. -/
theorem Fields.ExtendedBy.insert {table table' : Fields} (h : table.ExtendedBy table')
    (name : String) {v w : Value} (hvw : v.RefinedBy w) :
    (table.insert name v).ExtendedBy (table'.insert name w) := by
  intro other u hu
  rw [Fields.get?_insert] at hu
  rw [Fields.get?_insert]
  split_ifs at hu ⊢ with hname
  · obtain rfl := Option.some.inj hu
    exact ⟨w, rfl, hvw⟩
  · exact h other u hu

/-! ### Each key once -/

mutual

/-- Every object in the value, at any depth, holds each key once. -/
def Value.KeyedOnce : Value → Prop
  | .list items => Value.ItemsKeyedOnce items
  | .object fields => Fields.KeyedOnce fields
  | _ => True

/-- In every item each object has each key once. -/
def Value.ItemsKeyedOnce : List Value → Prop
  | [] => True
  | v :: rest => v.KeyedOnce ∧ Value.ItemsKeyedOnce rest

/-- Each key comes once, here and in every object inside. -/
def Fields.KeyedOnce : Fields → Prop
  | [] => True
  | (key, v) :: rest => key ∉ Fields.keys rest ∧ v.KeyedOnce ∧ Fields.KeyedOnce rest

end

namespace Fields

/-- The condition as one on the keys and one on the values. -/
theorem keyedOnce_iff {fields : Fields} :
    fields.KeyedOnce ↔ fields.keys.Nodup ∧ ∀ p ∈ fields, p.2.KeyedOnce := by
  induction fields with
  | nil => simp [KeyedOnce, keys]
  | cons p rest ih =>
    obtain ⟨key, v⟩ := p
    have hkeys : keys ((key, v) :: rest) = key :: keys rest := rfl
    rw [KeyedOnce, ih, hkeys, List.nodup_cons, List.forall_mem_cons]
    tauto

theorem KeyedOnce.nodup_keys {fields : Fields} (h : fields.KeyedOnce) : fields.keys.Nodup :=
  (keyedOnce_iff.mp h).1

theorem KeyedOnce.of_mem {fields : Fields} (h : fields.KeyedOnce) {p : String × Value}
    (hp : p ∈ fields) : p.2.KeyedOnce :=
  (keyedOnce_iff.mp h).2 p hp

theorem KeyedOnce.get? {fields : Fields} (h : fields.KeyedOnce) {key : String} {v : Value}
    (hv : fields.get? key = some v) : v.KeyedOnce := by
  induction fields with
  | nil => simp at hv
  | cons p rest ih =>
    obtain ⟨k, u⟩ := p
    obtain ⟨-, hu, hrest⟩ := h
    rw [get?_cons] at hv
    split_ifs at hv
    · exact Option.some.inj hv ▸ hu
    · exact ih hrest hv

/-- Insertion adds no key that is there. -/
theorem KeyedOnce.insert {fields : Fields} (h : fields.KeyedOnce) (key : String) {v : Value}
    (hv : v.KeyedOnce) : (fields.insert key v).KeyedOnce := by
  induction fields with
  | nil => exact ⟨List.not_mem_nil, hv, trivial⟩
  | cons p rest ih =>
    obtain ⟨k, u⟩ := p
    obtain ⟨hk, hu, hrest⟩ := h
    rw [Fields.insert]
    split_ifs with hkey
    · exact ⟨hk, hv, hrest⟩
    · refine ⟨?_, hu, ih hrest⟩
      rw [keys_insert]
      split_ifs
      · exact hk
      · simp [hk, hkey]

theorem KeyedOnce.insertAll {fields : Fields} (h : fields.KeyedOnce) {pairs : List (String × Value)}
    (hpairs : ∀ p ∈ pairs, p.2.KeyedOnce) : (fields.insertAll pairs).KeyedOnce := by
  induction pairs generalizing fields with
  | nil => exact h
  | cons p rest ih =>
    exact ih (h.insert p.1 (hpairs p List.mem_cons_self))
      fun q hq => hpairs q (List.mem_cons_of_mem p hq)

/-- Under a key of the rest, the fields hold what the rest holds. -/
theorem KeyedOnce.get?_tail {key name : String} {v w : Value} {rest : Fields}
    (h : KeyedOnce ((key, v) :: rest)) (hw : rest.get? name = some w) :
    Fields.get? ((key, v) :: rest) name = some w := by
  rw [get?_cons, if_neg, hw]
  rintro rfl
  rw [(get?_eq_none_iff rest key).mpr h.1] at hw
  simp at hw

end Fields

theorem Value.itemsKeyedOnce_iff {items : List Value} :
    Value.ItemsKeyedOnce items ↔ ∀ v ∈ items, v.KeyedOnce := by
  induction items with
  | nil => simp [Value.ItemsKeyedOnce]
  | cons v rest ih => rw [Value.ItemsKeyedOnce, ih, List.forall_mem_cons]

theorem Value.ItemsKeyedOnce.getElem? {items : List Value} (h : Value.ItemsKeyedOnce items)
    {n : Nat} {v : Value} (hv : items[n]? = some v) : v.KeyedOnce :=
  Value.itemsKeyedOnce_iff.mp h v (List.mem_of_getElem? hv)

mutual

/-- A refinement that is identical to what it refines is the same value. -/
theorem Value.RefinedBy.eq_of_identical {v w : Value} (h : v.RefinedBy w) (hw : w.KeyedOnce)
    (hid : v.identical w = true) : v = w := by
  cases h with
  | unknown | computed => cases w <;> simp_all [Value.identical]
  | null | bool | int | float | string => rfl
  | list items => rw [items.eq_of_identical hw hid]
  | object fields =>
    simp only [Value.identical, Bool.and_eq_true] at hid
    rw [fields.eq_of_identical hw (fun _ _ hget => hget) hid.2]

theorem Value.ItemsRefinedBy.eq_of_identical {xs ys : List Value} (h : Value.ItemsRefinedBy xs ys)
    (hys : Value.ItemsKeyedOnce ys) (hid : Value.identicalItems xs ys = true) : xs = ys := by
  cases h with
  | nil => rfl
  | cons head tail =>
    rw [Value.identicalItems, Bool.and_eq_true] at hid
    rw [head.eq_of_identical hys.1 hid.1, tail.eq_of_identical hys.2 hid.2]

/-- Identity compares the fields of the one object, `fs`, with what the whole other object, `whole`,
holds under their keys; `gs` are the fields of it that refine them. -/
theorem Fields.RefinedBy.eq_of_identical {fs gs whole : Fields} (h : fs.RefinedBy gs)
    (hgs : gs.KeyedOnce) (hwhole : ∀ key v, gs.get? key = some v → whole.get? key = some v)
    (hid : Value.identicalFields fs whole = true) : fs = gs := by
  cases h with
  | nil => rfl
  | @cons key v w fs gs head tail =>
    have hget : whole.get? key = some w := hwhole key w (by rw [Fields.get?_cons, if_pos rfl])
    rw [Value.identicalFields, hget, Bool.and_eq_true] at hid
    obtain ⟨hkey, hw, hrest⟩ := id hgs
    rw [head.eq_of_identical hw hid.1,
      tail.eq_of_identical hrest (fun k u hu => hwhole k u (hgs.get?_tail hu)) hid.2]

end

namespace Hcl

/-! ### Plain keys -/

/-- A key that is a name or a literal text. -/
def Expr.isPlainKey : Expr → Bool
  | .variable _ | .text _ => true
  | _ => false

mutual

/-- Every key of an object in the expression, at any depth, is a name or a literal text. -/
def Expr.plainKeys : Expr → Bool
  | .list items => Expr.plainKeysList items
  | .object items => Expr.plainKeysItems items
  | .template parts => Part.plainKeysList parts
  | .traversal root steps => root.plainKeys && Step.plainKeysList steps
  | .paren inner => inner.plainKeys
  | .call _ arguments => Expr.plainKeysList arguments
  | .conditional test yes no => test.plainKeys && yes.plainKeys && no.plainKeys
  | .operation _ operands => Expr.plainKeysList operands
  | .comprehension collection results => collection.plainKeys && Expr.plainKeysList results
  | _ => true

/-- The keys of objects in all expressions are plain. -/
def Expr.plainKeysList : List Expr → Bool
  | [] => true
  | e :: rest => e.plainKeys && Expr.plainKeysList rest

/-- The keys of an object are plain, and so are those in its values. -/
def Expr.plainKeysItems : List (Expr × Expr) → Bool
  | [] => true
  | (key, e) :: rest => key.isPlainKey && e.plainKeys && Expr.plainKeysItems rest

/-- The keys of objects in an index are plain. -/
def Step.plainKeys : Step → Bool
  | .index e => e.plainKeys
  | _ => true

/-- The keys of objects in all steps are plain. -/
def Step.plainKeysList : List Step → Bool
  | [] => true
  | step :: rest => step.plainKeys && Step.plainKeysList rest

/-- The keys of objects in a part of a text are plain. -/
def Part.plainKeys : Part → Bool
  | .text _ => true
  | .interpolation e => e.plainKeys
  | .directive arguments parts => Expr.plainKeysList arguments && Part.plainKeysList parts

/-- The keys of objects in all parts of a text are plain. -/
def Part.plainKeysList : List Part → Bool
  | [] => true
  | part :: rest => part.plainKeys && Part.plainKeysList rest

end

/-! ### Steps into refined values -/

/-- What is not there is unknown, and may be anything later. -/
private theorem getD_unknown_refine {a b : Option Value} (h : Option.Rel Value.RefinedBy a b) :
    (a.getD .unknown).RefinedBy (b.getD .unknown) := by
  cases h with
  | none => exact .unknown _
  | some hvw => exact hvw

/-- What is found under a key is refined with the value. -/
theorem fieldOf_refine {v w : Value} (h : v.RefinedBy w) (key : String) :
    (fieldOf v key).RefinedBy (fieldOf w key) := by
  cases h with
  | object fields => exact getD_unknown_refine (fields.get? key)
  | _ => exact .unknown _

/-- What is found at a position is refined with the value. -/
theorem itemOf_refine {v w : Value} (h : v.RefinedBy w) (index : Int) :
    (itemOf v index).RefinedBy (itemOf w index) := by
  cases h with
  | list items =>
    rw [itemOf, itemOf]
    split_ifs
    · exact getD_unknown_refine (items.getElem? index.toNat)
    · exact .unknown _
  | _ => exact .unknown _

theorem legacyItemOf_refine {v w : Value} (h : v.RefinedBy w) (n : Nat) :
    (legacyItemOf v n).RefinedBy (legacyItemOf w n) := by
  rw [legacyItemOf, legacyItemOf]
  split_ifs
  · exact itemOf_refine h n
  · exact .unknown _

/-- An index that is known selects the same part of a refined value. -/
theorem selected_refine {v w i j : Value} (h : v.RefinedBy w) (hij : i.RefinedBy j) :
    (selected v i).RefinedBy (selected w j) := by
  cases hij with
  | int n => exact itemOf_refine h n.toInt
  | string key => exact fieldOf_refine h key
  | computed => exact .computed _
  | _ => exact .unknown _

/-! ### Evaluation is monotone -/

namespace Scope

/-- Every variable and local of the one scope has a refined value in the other. -/
structure RefinedBy (scope scope' : Scope) : Prop where
  vars : scope.vars.ExtendedBy scope'.vars
  locals : scope.locals.ExtendedBy scope'.locals

theorem RefinedBy.trans {s t u : Scope} (hst : s.RefinedBy t) (htu : t.RefinedBy u) :
    s.RefinedBy u :=
  ⟨hst.vars.trans htu.vars, hst.locals.trans htu.locals⟩

/-- A root makes tables available of which the one extends the other. -/
theorem RefinedBy.table? {s s' : Scope} (h : s.RefinedBy s') (root : Expr) :
    Option.Rel Fields.ExtendedBy (s.table? root) (s'.table? root) := by
  cases root with
  | «variable» name =>
    rw [Scope.table?, Scope.table?]
    split_ifs
    · exact .some h.vars
    · exact .some h.locals
    · exact .none
  | _ => exact .none

variable {s s' : Scope}

/-- A reference to a name, given that the steps after it behave on refined values. -/
private theorem reference_refine {root : Expr} {name : String} {steps : List Step}
    (h : s.RefinedBy s')
    (hsteps : ∀ {v w : Value}, v.RefinedBy w →
      (s.navigate v steps).RefinedBy (s'.navigate w steps)) :
    (s.eval (.traversal root (.attr name :: steps))).RefinedBy
      (s'.eval (.traversal root (.attr name :: steps))) := by
  have htable := h.table? root
  rw [eval, eval]
  cases hs : s.table? root with
  | none => exact .computed _
  | some table =>
    cases hs' : s'.table? root with
    | none =>
      rw [hs, hs'] at htable
      cases htable
    | some table' =>
      rw [hs, hs'] at htable
      dsimp only
      cases hv : table.get? name with
      | none => exact .unknown _
      | some v =>
        cases htable with
        | some htable =>
          obtain ⟨w, hw, hvw⟩ := htable name v hv
          rw [hw]
          exact hsteps hvw

mutual

/-- **Evaluation is monotone.** In a refined scope an expression with plain keys has a refined
value. -/
theorem eval_refine (h : s.RefinedBy s') :
    ∀ e : Expr, e.plainKeys = true → (s.eval e).RefinedBy (s'.eval e)
  | .list items, hkeys => .list (evalItems_refine h items hkeys)
  | .object items, hkeys => .object (evalFields_refine h items hkeys .nil)
  | .template [.interpolation e], hkeys => by
    simp only [Expr.plainKeys, Part.plainKeysList, Part.plainKeys, Bool.and_true] at hkeys
    exact eval_refine h e hkeys
  -- all other templates are literal texts, or computed in every scope
  | .template [], _ | .template (.text _ :: _), _ | .template (.directive _ _ :: _), _
  | .template (.interpolation _ :: _ :: _), _ => .refl _
  | .traversal root (.attr name :: steps), hkeys => by
    simp only [Expr.plainKeys, Step.plainKeysList, Bool.and_eq_true] at hkeys
    exact reference_refine h fun hvw => navigate_refine h steps hkeys.2.2 hvw
  | .traversal _ [], _ | .traversal _ (.index _ :: _), _ | .traversal _ (.legacyIndex _ :: _), _
  | .traversal _ (.splat :: _), _ => .computed _
  | .paren inner, hkeys => eval_refine h inner hkeys
  | .null, _ => .null
  | .bool b, _ => .bool b
  | .int n, _ => .int n
  | .float x, _ => .float x
  | .text s, _ => .string s
  | .unreadable, _ | .variable _, _ | .call _ _, _ | .conditional _ _ _, _ | .operation _ _, _
  | .comprehension _ _, _ => .computed _

theorem evalItems_refine (h : s.RefinedBy s') : ∀ items : List Expr,
    Expr.plainKeysList items = true → Value.ItemsRefinedBy (s.evalItems items) (s'.evalItems items)
  | [], _ => .nil
  | e :: rest, hkeys => by
    rw [Expr.plainKeysList, Bool.and_eq_true] at hkeys
    exact .cons (eval_refine h e hkeys.1) (evalItems_refine h rest hkeys.2)

/-- Objects with plain keys are refined field by field: their keys do not hang on the scope. -/
theorem evalFields_refine (h : s.RefinedBy s') : ∀ (items : List (Expr × Expr)) {fs gs : Fields},
    Expr.plainKeysItems items = true → fs.RefinedBy gs →
      (s.evalFields fs items).RefinedBy (s'.evalFields gs items)
  | [], _, _, _, hfields => hfields
  | (key, e) :: rest, fs, gs, hkeys, hfields => by
    simp only [Expr.plainKeysItems, Bool.and_eq_true] at hkeys
    obtain ⟨⟨hkey, he⟩, hrest⟩ := hkeys
    have hvalue := eval_refine h e he
    cases key with
    | «variable» name => exact evalFields_refine h rest hrest (hfields.insert name hvalue)
    | text name => exact evalFields_refine h rest hrest (hfields.insert name hvalue)
    | _ => simp [Expr.isPlainKey] at hkey

/-- Steps into a value that is refined lead to one that is refined. -/
theorem navigate_refine (h : s.RefinedBy s') : ∀ (steps : List Step) {v w : Value},
    Step.plainKeysList steps = true → v.RefinedBy w →
      (s.navigate v steps).RefinedBy (s'.navigate w steps)
  | [], _, _, _, hvw => hvw
  | step :: rest, v, w, hkeys, hvw => by
    rw [Step.plainKeysList, Bool.and_eq_true] at hkeys
    by_cases hv : v.isIndeterminate = true
    · -- the steps end here on the one side, and whatever the other finds refines that
      rw [s.navigate_of_isIndeterminate hv]
      exact Value.refinedBy_of_isIndeterminate hv _
    · have hw : w.isIndeterminate = false := hvw.isIndeterminate_eq (Bool.eq_false_iff.mpr hv)
      rw [navigate, navigate, if_neg hv, hw, if_neg Bool.false_ne_true]
      exact navigate_refine h rest hkeys.2 (stepInto_refine h step hkeys.1 hvw)

theorem stepInto_refine (h : s.RefinedBy s') : ∀ (step : Step) {v w : Value},
    step.plainKeys = true → v.RefinedBy w → (s.stepInto v step).RefinedBy (s'.stepInto w step)
  | .attr name, _, _, _, hvw => fieldOf_refine hvw name
  | .index e, _, _, hkeys, hvw => selected_refine hvw (eval_refine h e hkeys)
  | .legacyIndex n, _, _, _, hvw => legacyItemOf_refine hvw n
  | .splat, _, _, _, _ => .computed _

end

/-- **What is known stays known.** If every variable and local of a scope has a refined value in
another scope, which may know more names, then every expression with plain keys has a refined value
there. So a value without anything indeterminate inside is the same in both. -/
theorem known_values_stay_known (h : s.RefinedBy s') {e : Expr} (hkeys : e.plainKeys = true) :
    (s.eval e).RefinedBy (s'.eval e) ∧
      ((s.eval e).hasIndeterminate = false → s'.eval e = s.eval e) := by
  have hrefined := eval_refine h e hkeys
  exact ⟨hrefined, fun hknown => hrefined.eq_of_determinate hknown⟩

/-- A variable is known in part and gets known further, another one is new. An index that is looked
up itself, steps past the known part, and what is computed in every scope. -/
theorem known_values_stay_known_example :
    let ref (root name : String) (steps : List Step) : Expr :=
      .traversal (.variable root) (.attr name :: steps)
    let s : Scope := {
      vars := [("hosts", .list [.object [("port", .int 22), ("name", .unknown)], .computed])]
      locals := [("first", .int 0)] }
    let s' : Scope := {
      vars := [("env", .string "prod"),
        ("hosts", .list [.object [("port", .int 22), ("name", .string "a")], .object []])]
      locals := [("first", .int 0), ("tags", .object [])] }
    let port := ref "var" "hosts" [.index (ref "local" "first" []), .attr "port"]
    let e : Expr := .object [
      (.variable "port", port),
      (.text "names", .list [.template [.interpolation (ref "var" "hosts" [.legacyIndex 0,
        .index (.text "name")])], ref "var" "hosts" [.index (.int 1), .attr "name"]]),
      (.variable "env", .paren (ref "var" "env" [])),
      (.variable "all", ref "var" "hosts" [.splat, .attr "port"])]
    s.RefinedBy s' ∧ e.plainKeys = true ∧ (s.eval e).RefinedBy (s'.eval e) ∧
      s.eval port = .int 22 ∧ s'.eval port = .int 22 := by
  intro ref s s' port e
  have hrefined : s.RefinedBy s' := by
    refine ⟨fun name v hv => ?_, fun name v hv => ?_⟩
    · obtain ⟨rfl, rfl⟩ : name = "hosts" ∧ v = _ := by simpa [s, Fields.get?_cons, eq_comm] using hv
      exact ⟨_, rfl, .list (.cons (.object (.cons (.int 22) (.cons (.unknown _) .nil)))
        (.cons (.computed _) .nil))⟩
    · obtain ⟨rfl, rfl⟩ : name = "first" ∧ v = _ := by simpa [s, Fields.get?_cons, eq_comm] using hv
      exact ⟨_, rfl, .int 0⟩
  have hport : s.eval port = .int 22 := rfl
  refine ⟨hrefined, rfl, (known_values_stay_known hrefined (e := e) rfl).1, hport, ?_⟩
  rw [(known_values_stay_known hrefined (e := port) rfl).2 (by rw [hport]; rfl), hport]

/-! ### Evaluation keeps keys apart -/

/-- The values of all variables and locals hold each key once. -/
structure KeyedOnce (scope : Scope) : Prop where
  vars : scope.vars.KeyedOnce
  locals : scope.locals.KeyedOnce

theorem KeyedOnce.empty : KeyedOnce {} :=
  ⟨trivial, trivial⟩

theorem KeyedOnce.table? (h : s.KeyedOnce) {root : Expr} {table : Fields}
    (htable : s.table? root = some table) : table.KeyedOnce := by
  cases root with
  | «variable» name =>
    rw [Scope.table?] at htable
    split_ifs at htable
    · exact Option.some.inj htable ▸ h.vars
    · exact Option.some.inj htable ▸ h.locals
  | _ => simp [Scope.table?] at htable

/-- A step into a value leads to one that has its keys once. -/
theorem fieldOf_keyedOnce {v : Value} (h : v.KeyedOnce) (key : String) :
    (fieldOf v key).KeyedOnce := by
  cases v with
  | object fields =>
    rw [fieldOf]
    cases hget : Fields.get? fields key with
    | none => trivial
    | some w => exact Fields.KeyedOnce.get? h hget
  | _ => trivial

theorem itemOf_keyedOnce {v : Value} (h : v.KeyedOnce) (index : Int) :
    (itemOf v index).KeyedOnce := by
  cases v with
  | list items =>
    rw [itemOf]
    split_ifs
    · cases hget : items[index.toNat]? with
      | none => trivial
      | some w => exact Value.ItemsKeyedOnce.getElem? h hget
    · trivial
  | _ => trivial

theorem selected_keyedOnce {v : Value} (h : v.KeyedOnce) (index : Value) :
    (selected v index).KeyedOnce := by
  cases index with
  | int n => exact itemOf_keyedOnce h n.toInt
  | string key => exact fieldOf_keyedOnce h key
  | _ => trivial

theorem legacyItemOf_keyedOnce {v : Value} (h : v.KeyedOnce) (n : Nat) :
    (legacyItemOf v n).KeyedOnce := by
  rw [legacyItemOf]
  split_ifs
  · exact itemOf_keyedOnce h n
  · trivial

theorem stepInto_keyedOnce : ∀ (step : Step) {v : Value},
    v.KeyedOnce → (s.stepInto v step).KeyedOnce
  | .attr name, _, hv => fieldOf_keyedOnce hv name
  | .index e, _, hv => selected_keyedOnce hv (s.eval e)
  | .legacyIndex n, _, hv => legacyItemOf_keyedOnce hv n
  | .splat, _, _ => trivial

/-- The name that a key of an object gives to its field, if it is a text. -/
def keyName? (scope : Scope) : Expr → Option String
  | .variable name => some name
  | key => (scope.eval key).text?

/-- One field after another: a key without a name leaves its field out. -/
theorem evalFields_cons (fs : Fields) (key e : Expr) (rest : List (Expr × Expr)) :
    s.evalFields fs ((key, e) :: rest) =
      match s.keyName? key with
      | some name => s.evalFields (fs.insert name (s.eval e)) rest
      | none => s.evalFields fs rest := by
  by_cases hkey : ∃ name, key = .variable name
  · obtain ⟨name, rfl⟩ := hkey
    rfl
  · have hkey : ∀ name, key = .variable name → False := fun name h => hkey ⟨name, h⟩
    rw [evalFields, keyName?]
    · cases s.eval key <;> rfl
    · exact hkey
    · exact hkey

private theorem literal_keyedOnce (text : Option String) :
    (match text with
      | some t => Value.string t
      | none => .computed).KeyedOnce := by
  cases text <;> trivial

mutual

/-- Where the values of a scope hold each key once, so do the values of expressions. -/
theorem eval_keyedOnce (h : s.KeyedOnce) : ∀ e : Expr, (s.eval e).KeyedOnce
  | .list items => evalItems_keyedOnce h items
  | .object items => evalFields_keyedOnce h items trivial
  | .template [.interpolation e] => eval_keyedOnce h e
  | .template (.text t :: rest) => literal_keyedOnce (literalParts? (.text t :: rest))
  | .template [] | .template (.directive _ _ :: _)
  | .template (.interpolation _ :: _ :: _) => trivial
  | .traversal root (.attr name :: steps) => by
    rw [eval]
    cases htable : s.table? root with
    | none => trivial
    | some table =>
      dsimp only
      cases hv : table.get? name with
      | none => trivial
      | some v => exact navigate_keyedOnce h steps ((h.table? htable).get? hv)
  | .paren inner => eval_keyedOnce h inner
  | .traversal _ [] | .traversal _ (.index _ :: _) | .traversal _ (.legacyIndex _ :: _)
  | .traversal _ (.splat :: _) => trivial
  | .null | .bool _ | .int _ | .float _ | .text _ | .unreadable | .variable _ | .call _ _
  | .conditional _ _ _ | .operation _ _ | .comprehension _ _ => trivial

theorem evalItems_keyedOnce (h : s.KeyedOnce) :
    ∀ items : List Expr, Value.ItemsKeyedOnce (s.evalItems items)
  | [] => trivial
  | e :: rest => ⟨eval_keyedOnce h e, evalItems_keyedOnce h rest⟩

/-- An object that is evaluated has each key once, since its fields are inserted. -/
theorem evalFields_keyedOnce (h : s.KeyedOnce) : ∀ (items : List (Expr × Expr)) {fs : Fields},
    fs.KeyedOnce → (s.evalFields fs items).KeyedOnce
  | [], _, hfs => hfs
  | (key, e) :: rest, fs, hfs => by
    have hvalue := eval_keyedOnce h e
    rw [evalFields_cons]
    cases s.keyName? key with
    | none => exact evalFields_keyedOnce h rest hfs
    | some name => exact evalFields_keyedOnce h rest (hfs.insert name hvalue)

theorem navigate_keyedOnce (h : s.KeyedOnce) : ∀ (steps : List Step) {v : Value},
    v.KeyedOnce → (s.navigate v steps).KeyedOnce
  | [], _, hv => hv
  | step :: rest, v, hv => by
    rw [navigate]
    split_ifs
    · exact hv
    · exact navigate_keyedOnce h rest (stepInto_keyedOnce step hv)

end

end Scope

end Hcl

end InfraPolicy
