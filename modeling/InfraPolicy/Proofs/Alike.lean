import InfraPolicy.Proofs.Leaves
import InfraPolicy.Value.Equality
import Mathlib.Data.List.Perm.Subperm

/-!
# Values that are alike

Identity of values passes over the order of the fields of objects, and it compares floats as
numbers. `Value.Alike` is the relation behind it, taken apart by the structure of values, with the
comparison of floats left open as a parameter. It is a partial equivalence only: a value is alike
itself if every object inside it has distinct keys and every float inside it compares with itself.
Between such values identity implies that they are alike (`Value.Alike.of_identical`), and being
alike implies identity (`Value.Alike.identical`).

What evaluation needs of such a relation, and what the passes over locals need, is a
`Value.Likeness`.
-/

namespace InfraPolicy

namespace Value

private theorem sizeOf_lt_of_mem {fields : Fields} {p : String × Value} (h : p ∈ fields) :
    sizeOf p.2 < 1 + sizeOf fields := by
  have hlt := List.sizeOf_lt_of_mem h
  obtain ⟨key, v⟩ := p
  rw [Prod.mk.sizeOf_spec] at hlt
  dsimp only
  omega

/-- Structural induction over values: for lists and objects, the statement may be assumed for all
that they hold. -/
@[elab_as_elim]
theorem inductionOnParts {motive : Value → Prop} (atom : ∀ v, v.isAtom = true → motive v)
    (float : ∀ x, motive (.float x))
    (list : ∀ items, (∀ v ∈ items, motive v) → motive (.list items))
    (object : ∀ fields : Fields, (∀ p ∈ fields, motive p.2) → motive (.object fields))
    (v : Value) : motive v := by
  cases v with
  | float x => exact float x
  | list items => exact list items fun v _ => inductionOnParts atom float list object v
  | object fields =>
    refine object fields fun p hp => ?_
    have := sizeOf_lt_of_mem hp
    exact inductionOnParts atom float list object p.2
  | _ => exact atom _ rfl
termination_by v

/-! ### Identity by structure -/

/-- Lists are identical item by item. -/
theorem identicalItems_iff {xs ys : List Value} :
    identicalItems xs ys = true ↔ List.Forall₂ (fun v w => v.identical w = true) xs ys := by
  induction xs generalizing ys with
  | nil => cases ys <;> simp [identicalItems]
  | cons v rest ih => cases ys <;> simp [identicalItems, ih]

/-- Fields are identical if each one is found among the others. -/
theorem identicalFields_iff {fs gs : Fields} :
    identicalFields fs gs = true ↔
      ∀ p ∈ fs, ∃ w, gs.get? p.1 = some w ∧ p.2.identical w = true := by
  induction fs with
  | nil => simp [identicalFields]
  | cons p rest ih =>
    rw [identicalFields, Bool.and_eq_true, ih, List.forall_mem_cons]
    cases gs.get? p.1 <;> simp

/-! ### Alike -/

/-- Values that differ in the order of fields, and in floats as far as `F` allows. -/
inductive Alike (F : Binary64 → Binary64 → Prop) : Value → Value → Prop where
  | atom {v : Value} (h : v.isAtom = true) : Alike F v v
  | float {x y : Binary64} (h : F x y) : Alike F (.float x) (.float y)
  | list {xs ys : List Value} (length : xs.length = ys.length)
      (items : ∀ n h h', Alike F (xs.get ⟨n, h⟩) (ys.get ⟨n, h'⟩)) : Alike F (.list xs) (.list ys)
  | object {fs gs : Fields} (nodup : fs.keys.Nodup) (keys : fs.keys.Perm gs.keys)
      (fields : ∀ key v w, fs.get? key = some v → gs.get? key = some w → Alike F v w) :
      Alike F (.object fs) (.object gs)

/-- A relation that evaluation respects, a partial equivalence, and as coarse as identity. -/
structure Likeness (R : Value → Value → Prop) : Prop extends Congruence R where
  symm : ∀ {v w}, R v w → R w v
  trans : ∀ {u v w}, R u v → R v w → R u w
  of_identical : ∀ {v w}, R v v → R w w → v.identical w = true → R v w

end Value

/-- The same for numbers. -/
structure Binary64.Likeness (F : Binary64 → Binary64 → Prop) : Prop where
  symm : ∀ {x y}, F x y → F y x
  trans : ∀ {x y z}, F x y → F y z → F x z
  of_eqv : ∀ {x y}, F x x → F y y → x.eqv y = true → F x y

namespace Value.Alike

variable {F : Binary64 → Binary64 → Prop} {u v w : Value}

/-- Lists of alike items are alike. -/
theorem list_iff {xs ys : List Value} :
    Alike F (.list xs) (.list ys) ↔ List.Forall₂ (Alike F) xs ys := by
  rw [List.forall₂_iff_get]
  constructor
  · intro h
    cases h with
    | atom h => simp [isAtom] at h
    | list length items => exact ⟨length, items⟩
  · exact fun h => .list h.1 h.2

protected theorem symm (hF : ∀ {x y}, F x y → F y x) (h : Alike F v w) : Alike F w v := by
  induction h with
  | atom h => exact .atom h
  | float h => exact .float (hF h)
  | list length _ ih => exact .list length.symm fun n h h' => ih n h' h
  | object nodup keys _ ih =>
    exact .object (keys.nodup_iff.mp nodup) keys.symm fun key v w hv hw => ih key w v hw hv

protected theorem trans (hF : ∀ {x y z}, F x y → F y z → F x z) (huv : Alike F u v)
    (hvw : Alike F v w) : Alike F u w := by
  induction huv generalizing w with
  | atom _ => exact hvw
  | float h =>
    cases hvw with
    | atom h => simp [isAtom] at h
    | float h' => exact .float (hF h h')
  | list length _ ih =>
    cases hvw with
    | atom h => simp [isAtom] at h
    | list length' items =>
      exact .list (length.trans length') fun n h h' => ih n h (length ▸ h) (items n _ h')
  | object nodup keys _ ih =>
    cases hvw with
    | atom h => simp [isAtom] at h
    | object nodup' keys' fields =>
      refine .object nodup (keys.trans keys') fun key v w hv hw => ?_
      obtain ⟨u, hu⟩ :=
        Fields.exists_get?_of_mem_keys (keys'.mem_iff.mpr (Fields.mem_keys_of_get? hw))
      exact ih key v u hv hu (fields key u w hu hw)

/-- A value in which every object holds each key once is alike itself. -/
theorem of_keyedOnce (hF : ∀ x, F x x) (hv : v.KeyedOnce) : Alike F v v := by
  induction v using Value.inductionOnParts with
  | atom v h => exact .atom h
  | float x => exact .float (hF x)
  | list items ih =>
    have hitems := Value.itemsKeyedOnce_iff.mp hv
    exact list_iff.mpr (List.forall₂_same.mpr fun v hmem => ih v hmem (hitems v hmem))
  | object fields ih =>
    refine .object (Fields.KeyedOnce.nodup_keys hv) (.refl _) fun key v w hget hget' => ?_
    obtain rfl : v = w := Option.some.inj (hget.symm.trans hget')
    have hmem := Fields.mem_of_get? hget
    exact ih _ hmem (Fields.KeyedOnce.of_mem hv hmem)

/-! ### Alike values have alike parts -/

theorem getElem? {xs ys : List Value} (h : Alike F (.list xs) (.list ys)) (n : Nat) :
    Option.Rel (Alike F) xs[n]? ys[n]? :=
  option_rel_getElem? (list_iff.mp h) n

/-- Objects that are alike have alike values under each key. -/
theorem get? {fs gs : Fields} (h : Alike F (.object fs) (.object gs)) (key : String) :
    Option.Rel (Alike F) (fs.get? key) (gs.get? key) := by
  cases h with
  | atom h => simp [isAtom] at h
  | object _ keys fields => exact Fields.option_rel_get? keys fields key

private theorem getD_unknown {a b : Option Value} (h : Option.Rel (Alike F) a b) :
    Alike F (a.getD .unknown) (b.getD .unknown) := by
  cases h with
  | none => exact .atom rfl
  | some h => exact h

/-- **Evaluation cannot tell alike values apart.** -/
theorem congruence : Congruence (Alike F) where
  atom _ h := .atom h
  list h := list_iff.mpr h
  object hnodup h := by
    refine .object hnodup (h.keys_eq ▸ .refl _) fun key v w hv hw => ?_
    have hrel := h.get? key
    rw [hv, hw] at hrel
    cases hrel with
    | some hvw => exact hvw
  isIndeterminate_eq h := by cases h <;> rfl
  text?_eq h := by cases h <;> rfl
  selected_eq h v := by cases h <;> rfl
  fieldOf h key := by
    cases h with
    | @atom _ h =>
      rename_i v
      cases v with
      | object => simp [isAtom] at h
      | _ => exact .atom rfl
    | float | list => exact .atom rfl
    | object nodup keys fields => exact getD_unknown (get? (.object nodup keys fields) key)
  itemOf h index := by
    cases h with
    | @atom _ h =>
      rename_i v
      cases v with
      | list => simp [isAtom] at h
      | _ => exact .atom rfl
    | float | object => exact .atom rfl
    | list length items =>
      rw [Hcl.itemOf, Hcl.itemOf]
      split_ifs
      · exact getD_unknown (getElem? (.list length items) index.toNat)
      · exact .atom rfl

/-! ### Identity -/

/-- Identical atoms are equal. -/
private theorem eq_of_identical_atom (hv : v.isAtom = true) (h : v.identical w = true) : w = v := by
  cases v <;> cases w <;> simp_all [isAtom, identical]

/-- Values that are alike something, and identical, are alike. -/
theorem of_identical (hF : Binary64.Likeness F) (hv : Alike F v u) (hw : Alike F w w)
    (h : v.identical w = true) : Alike F v w := by
  induction hv generalizing w with
  | atom hatom =>
    rw [eq_of_identical_atom hatom h]
    exact .atom hatom
  | @float x y hxy =>
    cases w with
    | float z =>
      cases hw with
      | atom h => simp [isAtom] at h
      | float hz => exact .float (hF.of_eqv (hF.trans hxy (hF.symm hxy)) hz h)
    | _ => simp [identical] at h
  | @list xs ys length _ ih =>
    cases w with
    | list zs =>
      rw [identical, identicalItems_iff, List.forall₂_iff_get] at h
      have hzs := List.forall₂_iff_get.mp (list_iff.mp hw)
      exact .list h.1 fun n hn hn' => ih n hn (length ▸ hn) (hzs.2 n hn' hn') (h.2 n hn hn')
    | _ => simp [identical] at h
  | @object fs gs nodup keys _ ih =>
    cases w with
    | object hs =>
      rw [identical, Bool.and_eq_true, identicalFields_iff, beq_iff_eq] at h
      obtain ⟨hlength, hfields⟩ := h
      have hkeys : fs.keys.Perm (Fields.keys hs) :=
        Fields.keys_perm_of_forall_get? nodup hlength fun p hp =>
          (hfields p hp).imp fun _ hw => hw.1
      refine .object nodup hkeys fun key v w hv hw' => ?_
      have hmem := keys.mem_iff.mp (Fields.mem_keys_of_get? hv)
      obtain ⟨u, hu⟩ := Fields.exists_get?_of_mem_keys hmem
      obtain ⟨w', hget, hid⟩ := hfields _ (Fields.mem_of_get? hv)
      obtain rfl : w = w' := Option.some.inj (hw'.symm.trans hget)
      have hwf : Option.Rel (Alike F) (some w) (some w) := hw' ▸ hw.get? key
      cases hwf with
      | some hwf => exact ih key v u hv hu hwf hid
    | _ => simp [identical] at h

/-- Alike values are identical if their floats are equal as numbers. -/
theorem identical (hF : ∀ {x y}, F x y → x.eqv y = true) (h : Alike F v w) :
    v.identical w = true := by
  induction h with
  | @atom v h => cases v <;> simp_all [isAtom, Value.identical]
  | float h => exact hF h
  | list length _ ih =>
    rw [Value.identical, identicalItems_iff, List.forall₂_iff_get]
    exact ⟨length, ih⟩
  | @object fs gs nodup keys _ ih =>
    rw [Value.identical, Bool.and_eq_true, identicalFields_iff, beq_iff_eq]
    refine ⟨by simpa [Fields.keys] using keys.length_eq, fun p hp => ?_⟩
    have hv := Fields.get?_of_mem nodup hp
    obtain ⟨w, hw⟩ := Fields.exists_get?_of_mem_keys (keys.mem_iff.mp (Fields.mem_keys_of_get? hv))
    exact ⟨w, hw, ih p.1 p.2 w hv hw⟩

/-- Being alike is a likeness of values, if it is one of doubles. -/
theorem likeness (hF : Binary64.Likeness F) : Likeness (Alike F) where
  toCongruence := congruence
  symm h := h.symm hF.symm
  trans h h' := h.trans hF.trans h'
  of_identical hv hw h := of_identical hF hv hw h

end Value.Alike

/-! ### Regular numbers -/

namespace Binary64

/-- A number that is neither a zero nor a NaN. -/
def IsRegular (x : Binary64) : Prop :=
  x.magnitude ≠ 0 ∧ x.isNaN = false

/-- Sign and magnitude determine a number. -/
theorem ext_magnitude {x y : Binary64} (hsign : x.isNegative = y.isNegative)
    (hmagnitude : x.magnitude = y.magnitude) : x = y := by
  obtain ⟨x⟩ := x
  obtain ⟨y⟩ := y
  have hx : x.toNat < 2 ^ 64 := x.toNat_lt
  have hy : y.toNat < 2 ^ 64 := y.toNat_lt
  have htwo : Number.twoTo 63 = 2 ^ 63 := rfl
  have hbits : x.toNat = y.toNat := by
    simp only [isNegative, magnitude, htwo, decide_eq_decide] at hsign hmagnitude
    omega
  rw [UInt64.toNat.inj hbits]

/-- Regular numbers that are numerically equal are the same. -/
theorem eq_of_eqv {x y : Binary64} (hx : x.IsRegular) (h : x.eqv y = true) : x = y := by
  have horder : x.order = y.order := by
    simp only [eqv, Bool.and_eq_true, beq_iff_eq] at h
    exact h.2
  have hne := hx.1
  rw [order, order] at horder
  have hsign : x.isNegative = y.isNegative := by
    cases hneg : x.isNegative <;> cases hneg' : y.isNegative <;>
      simp [hneg, hneg'] at horder ⊢ <;> omega
  rw [hsign] at horder
  refine ext_magnitude hsign ?_
  split_ifs at horder <;> omega

/-- Equality of regular numbers. -/
def RegularEq (x y : Binary64) : Prop :=
  x = y ∧ x.IsRegular

theorem RegularEq.eqv {x y : Binary64} (h : RegularEq x y) : x.eqv y = true := by
  obtain ⟨rfl, -, hnan⟩ := h
  exact eqv_self hnan

theorem RegularEq.likeness : Likeness RegularEq where
  symm h := ⟨h.1.symm, h.1 ▸ h.2⟩
  trans h h' := ⟨h.1.trans h'.1, h.2⟩
  of_eqv hx _ h := ⟨eq_of_eqv hx.2 h, hx.2⟩

end Binary64

end InfraPolicy
