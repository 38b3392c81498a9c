import InfraPolicy.Value.Basic
import Mathlib.Data.List.Forall2

/-!
# Refinement of values

What a static reading leaves open may become known later. `v.RefinedBy w` says that `w` is `v` with
some of its indeterminate values, at any depth, replaced by others: lists keep their length, objects
keep their keys, and everything else stays as it is. It is a preorder, and a value that holds
nothing indeterminate is refined by itself only (`Value.RefinedBy.eq_of_determinate`).

A **resolution** of attributes is a refinement in which nothing indeterminate is left. Every
attributes have one: `Fields.resolved` puts a null in every open place.
-/

namespace InfraPolicy

mutual

/-- `v.RefinedBy w`: the value `w` is `v` with some of its indeterminate values replaced. -/
inductive Value.RefinedBy : Value → Value → Prop where
  | unknown (w : Value) : Value.RefinedBy .unknown w
  | computed (w : Value) : Value.RefinedBy .computed w
  | null : Value.RefinedBy .null .null
  | bool (b : Bool) : Value.RefinedBy (.bool b) (.bool b)
  | int (n : Int64) : Value.RefinedBy (.int n) (.int n)
  | float (x : Binary64) : Value.RefinedBy (.float x) (.float x)
  | string (s : String) : Value.RefinedBy (.string s) (.string s)
  | list {xs ys : List Value} (items : Value.ItemsRefinedBy xs ys) :
      Value.RefinedBy (.list xs) (.list ys)
  | object {fs gs : Fields} (fields : Fields.RefinedBy fs gs) :
      Value.RefinedBy (.object fs) (.object gs)

/-- Refinement item by item. -/
inductive Value.ItemsRefinedBy : List Value → List Value → Prop where
  | nil : Value.ItemsRefinedBy [] []
  | cons {v w : Value} {xs ys : List Value} (head : Value.RefinedBy v w)
      (tail : Value.ItemsRefinedBy xs ys) : Value.ItemsRefinedBy (v :: xs) (w :: ys)

/-- Refinement field by field: the same keys in the same order. -/
inductive Fields.RefinedBy : Fields → Fields → Prop where
  | nil : Fields.RefinedBy [] []
  | cons {key : String} {v w : Value} {fs gs : Fields}
      (head : Value.RefinedBy v w) (tail : Fields.RefinedBy fs gs) :
      Fields.RefinedBy ((key, v) :: fs) ((key, w) :: gs)

end

/-! ### Refinement is a preorder -/

mutual

/-- Every value refines itself. -/
@[refl]
theorem Value.RefinedBy.refl : ∀ v : Value, v.RefinedBy v
  | .null => .null
  | .bool b => .bool b
  | .int n => .int n
  | .float x => .float x
  | .string s => .string s
  | .list items => .list (Value.ItemsRefinedBy.refl items)
  | .object fields => .object (Fields.RefinedBy.refl fields)
  | .unknown => .unknown _
  | .computed => .computed _

theorem Value.ItemsRefinedBy.refl : ∀ xs : List Value, Value.ItemsRefinedBy xs xs
  | [] => .nil
  | v :: rest => .cons (Value.RefinedBy.refl v) (Value.ItemsRefinedBy.refl rest)

@[refl]
theorem Fields.RefinedBy.refl : ∀ fs : Fields, fs.RefinedBy fs
  | [] => .nil
  | (_, v) :: rest => .cons (Value.RefinedBy.refl v) (Fields.RefinedBy.refl rest)

end

mutual

/-- What refines a refinement refines the original. -/
theorem Value.RefinedBy.trans {u v w : Value} (huv : u.RefinedBy v) (hvw : v.RefinedBy w) :
    u.RefinedBy w := by
  cases huv with
  | unknown => exact .unknown w
  | computed => exact .computed w
  | null | bool | int | float | string => exact hvw
  | list huv =>
    cases hvw with
    | list hvw => exact .list (huv.trans hvw)
  | object huv =>
    cases hvw with
    | object hvw => exact .object (huv.trans hvw)

theorem Value.ItemsRefinedBy.trans {xs ys zs : List Value} (hxy : Value.ItemsRefinedBy xs ys)
    (hyz : Value.ItemsRefinedBy ys zs) : Value.ItemsRefinedBy xs zs := by
  cases hxy with
  | nil => exact hyz
  | cons head tail =>
    cases hyz with
    | cons head' tail' => exact .cons (head.trans head') (tail.trans tail')

theorem Fields.RefinedBy.trans {fs gs hs : Fields} (hfg : fs.RefinedBy gs) (hgh : gs.RefinedBy hs) :
    fs.RefinedBy hs := by
  cases hfg with
  | nil => exact hgh
  | cons head tail =>
    cases hgh with
    | cons head' tail' => exact .cons (head.trans head') (tail.trans tail')

end

/-! ### What refinement leaves alone -/

mutual

/-- **Nothing to refine.** A value without anything indeterminate inside is refined by itself
only. -/
theorem Value.RefinedBy.eq_of_determinate {v w : Value} (h : v.RefinedBy w)
    (hv : v.hasIndeterminate = false) : w = v := by
  cases h with
  | unknown | computed => simp [Value.hasIndeterminate] at hv
  | null | bool | int | float | string => rfl
  | list items => rw [items.eq_of_determinate hv]
  | object fields => rw [fields.eq_of_determinate hv]

/-- Items that are known cannot be refined. -/
theorem Value.ItemsRefinedBy.eq_of_determinate {xs ys : List Value}
    (h : Value.ItemsRefinedBy xs ys) (hxs : Value.anyIndeterminate xs = false) : ys = xs := by
  cases h with
  | nil => rfl
  | cons head tail =>
    rw [Value.anyIndeterminate, Bool.or_eq_false_iff] at hxs
    rw [head.eq_of_determinate hxs.1, tail.eq_of_determinate hxs.2]

theorem Fields.RefinedBy.eq_of_determinate {fs gs : Fields} (h : fs.RefinedBy gs)
    (hfs : Value.anyFieldIndeterminate fs = false) : gs = fs := by
  cases h with
  | nil => rfl
  | cons head tail =>
    rw [Value.anyFieldIndeterminate, Bool.or_eq_false_iff] at hfs
    rw [head.eq_of_determinate hfs.1, tail.eq_of_determinate hfs.2]

end

/-- Everything refines what is not known at all. -/
theorem Value.refinedBy_of_isIndeterminate {v : Value} (hv : v.isIndeterminate = true) (w : Value) :
    v.RefinedBy w := by
  cases v with
  | unknown => exact .unknown w
  | computed => exact .computed w
  | _ => simp [Value.isIndeterminate] at hv

/-- A value that is known at the top stays known there. -/
theorem Value.RefinedBy.isIndeterminate_eq {v w : Value} (h : v.RefinedBy w)
    (hv : v.isIndeterminate = false) : w.isIndeterminate = false := by
  cases h with
  | unknown | computed => simp [Value.isIndeterminate] at hv
  | null | bool | int | float | string | list | object => rfl

/-- A value that is known at the top keeps being null or not. -/
theorem Value.RefinedBy.isNull_eq {v w : Value} (h : v.RefinedBy w)
    (hv : v.isIndeterminate = false) : w.isNull = v.isNull := by
  cases h with
  | unknown | computed => simp [Value.isIndeterminate] at hv
  | null | bool | int | float | string | list | object => rfl

/-- Lists are refined item by item. -/
theorem Value.itemsRefinedBy_iff {xs ys : List Value} :
    Value.ItemsRefinedBy xs ys ↔ List.Forall₂ Value.RefinedBy xs ys := by
  constructor
  · intro h
    induction xs generalizing ys with
    | nil => cases h; exact .nil
    | cons v rest ih =>
      cases h with
      | cons head tail => exact .cons head (ih tail)
  · intro h
    induction h with
    | nil => exact .nil
    | cons head _ ih => exact .cons head ih

/-- Lists that are related item by item have related items at every position, or none on both
sides. -/
theorem option_rel_getElem? {α β : Type*} {R : α → β → Prop} {xs : List α} {ys : List β}
    (h : List.Forall₂ R xs ys) (n : Nat) : Option.Rel R xs[n]? ys[n]? := by
  induction h generalizing n with
  | nil => exact .none
  | cons head _ ih =>
    cases n with
    | zero => exact .some head
    | succ n => exact ih n

theorem Value.ItemsRefinedBy.getElem? {xs ys : List Value} (h : Value.ItemsRefinedBy xs ys)
    (n : Nat) : Option.Rel Value.RefinedBy xs[n]? ys[n]? :=
  option_rel_getElem? (Value.itemsRefinedBy_iff.mp h) n

namespace Fields

/-- Refinement keeps the keys and their order. -/
theorem RefinedBy.keys_eq {fs gs : Fields} (h : fs.RefinedBy gs) : gs.keys = fs.keys := by
  induction fs generalizing gs with
  | nil => cases h; rfl
  | cons p rest ih =>
    cases h with
    | cons head tail => exact congrArg (List.cons _) (ih tail)

/-- Looking up a key finds refined values, or nothing on both sides. -/
theorem RefinedBy.get? {fs gs : Fields} (h : fs.RefinedBy gs) (key : String) :
    Option.Rel Value.RefinedBy (fs.get? key) (gs.get? key) := by
  induction fs generalizing gs with
  | nil => cases h; exact .none
  | cons p rest ih =>
    cases h with
    | @cons k v w _ _ head tail =>
      rw [get?_cons, get?_cons]
      split_ifs
      · exact .some head
      · exact ih tail

theorem contains_iff (fields : Fields) (key : String) :
    fields.contains key = true ↔ key ∈ fields.keys := by
  rw [contains, Option.isSome_iff_ne_none, ne_eq, get?_eq_none_iff, not_not]

theorem RefinedBy.contains_eq {fs gs : Fields} (h : fs.RefinedBy gs) (key : String) :
    gs.contains key = fs.contains key := by
  rw [Bool.eq_iff_iff, contains_iff, contains_iff, h.keys_eq]

/-- Insertion respects refinement. -/
theorem RefinedBy.insert {fs gs : Fields} (h : fs.RefinedBy gs) (key : String) {v w : Value}
    (hvw : v.RefinedBy w) : (fs.insert key v).RefinedBy (gs.insert key w) := by
  induction fs generalizing gs with
  | nil => cases h; exact .cons hvw .nil
  | cons p rest ih =>
    cases h with
    | @cons k v' w' _ gs' head tail =>
      by_cases hk : k = key
      · simpa only [Fields.insert, if_pos hk] using RefinedBy.cons hvw tail
      · simpa only [Fields.insert, if_neg hk] using RefinedBy.cons head (ih tail)

end Fields

/-! ### Determinate values -/

theorem Value.isIndeterminate_of_determinate {v : Value} (h : v.hasIndeterminate = false) :
    v.isIndeterminate = false := by
  rw [Bool.eq_false_iff] at h ⊢
  exact mt Value.hasIndeterminate_of_isIndeterminate h

/-- The items of a list without anything indeterminate have nothing indeterminate inside. -/
theorem Value.hasIndeterminate_of_mem {items : List Value} {v : Value}
    (h : (Value.list items).hasIndeterminate = false) (hv : v ∈ items) :
    v.hasIndeterminate = false := by
  rw [Value.hasIndeterminate, Value.anyIndeterminate_eq_any, List.any_eq_false] at h
  exact Bool.eq_false_iff.mpr (h v hv)

/-- The same for the fields of an object. -/
theorem Fields.hasIndeterminate_of_get? {fields : Fields} {key : String} {v : Value}
    (h : Value.anyFieldIndeterminate fields = false) (hv : fields.get? key = some v) :
    v.hasIndeterminate = false := by
  induction fields with
  | nil => simp at hv
  | cons p rest ih =>
    rw [Value.anyFieldIndeterminate, Bool.or_eq_false_iff] at h
    rw [Fields.get?_cons] at hv
    split_ifs at hv
    · exact Option.some.inj hv ▸ h.1
    · exact ih h.2 hv

/-! ### Resolutions -/

/-- A **full resolution** of attributes: a refinement in which nothing indeterminate is left. -/
structure Fields.ResolvedBy (attributes resolution : Fields) : Prop where
  refined : attributes.RefinedBy resolution
  determinate : Value.anyFieldIndeterminate resolution = false

mutual

/-- The value with a null for everything indeterminate inside. -/
def Value.resolved : Value → Value
  | .unknown | .computed => .null
  | .list items => .list (Value.resolvedItems items)
  | .object fields => .object (Fields.resolved fields)
  | v => v

/-- The items with a value for everything that is not known. -/
def Value.resolvedItems : List Value → List Value
  | [] => []
  | v :: rest => v.resolved :: Value.resolvedItems rest

/-- The fields with a value for everything that is not known. -/
def Fields.resolved : Fields → Fields
  | [] => []
  | (key, v) :: rest => (key, v.resolved) :: Fields.resolved rest

end

mutual

/-- Filling in what is not known is a refinement. -/
theorem Value.refinedBy_resolved : ∀ v : Value, v.RefinedBy v.resolved
  | .null => .null
  | .bool b => .bool b
  | .int n => .int n
  | .float x => .float x
  | .string s => .string s
  | .list items => .list (Value.itemsRefinedBy_resolvedItems items)
  | .object fields => .object (Fields.refinedBy_resolved fields)
  | .unknown => .unknown _
  | .computed => .computed _

theorem Value.itemsRefinedBy_resolvedItems :
    ∀ xs : List Value, Value.ItemsRefinedBy xs (Value.resolvedItems xs)
  | [] => .nil
  | v :: rest => .cons v.refinedBy_resolved (Value.itemsRefinedBy_resolvedItems rest)

theorem Fields.refinedBy_resolved : ∀ fs : Fields, fs.RefinedBy fs.resolved
  | [] => .nil
  | (_, v) :: rest => .cons v.refinedBy_resolved (Fields.refinedBy_resolved rest)

end

mutual

/-- Nothing unknown is left where all is filled in. -/
theorem Value.hasIndeterminate_resolved : ∀ v : Value, v.resolved.hasIndeterminate = false
  | .null | .bool _ | .int _ | .float _ | .string _ | .unknown | .computed => rfl
  | .list items => Value.anyIndeterminate_resolvedItems items
  | .object fields => Fields.anyFieldIndeterminate_resolved fields

theorem Value.anyIndeterminate_resolvedItems :
    ∀ xs : List Value, Value.anyIndeterminate (Value.resolvedItems xs) = false
  | [] => rfl
  | v :: rest => by
    rw [Value.resolvedItems, Value.anyIndeterminate, v.hasIndeterminate_resolved,
      Value.anyIndeterminate_resolvedItems rest, Bool.or_self]

theorem Fields.anyFieldIndeterminate_resolved :
    ∀ fs : Fields, Value.anyFieldIndeterminate fs.resolved = false
  | [] => rfl
  | (_, v) :: rest => by
    rw [Fields.resolved, Value.anyFieldIndeterminate, v.hasIndeterminate_resolved,
      Fields.anyFieldIndeterminate_resolved rest, Bool.or_self]

end

/-- Whatever refines attributes has a resolution in common with them. -/
theorem Fields.RefinedBy.resolvedBy_resolved {fs gs : Fields} (h : fs.RefinedBy gs) :
    fs.ResolvedBy gs.resolved :=
  ⟨h.trans (Fields.refinedBy_resolved gs), Fields.anyFieldIndeterminate_resolved gs⟩

end InfraPolicy
