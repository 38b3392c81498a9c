import InfraPolicy.Proofs.AlikeVerdicts

/-!
# The equality of rules

`Value.looseEq` looks for each field of the one object among those of the other, which is one
direction only. If the keys of an object are distinct, as many fields that are all found leave no
others, so the other direction follows (`Value.looseEq_object_iff`). From this come symmetry and
that the order of fields has no influence, on either side and at any depth.
-/

namespace InfraPolicy

namespace Value

/-! ### Objects -/

/-- Lists are loosely equal item by item. -/
theorem looseEqItems_iff {xs ys : List Value} :
    looseEqItems xs ys = true ↔ List.Forall₂ (fun v w => v.looseEq w = true) xs ys := by
  induction xs generalizing ys with
  | nil => cases ys <;> simp [looseEqItems]
  | cons v rest ih => cases ys <;> simp [looseEqItems, ih]

/-- Objects are loosely equal if they have the same keys, in any order, with loosely equal
values. -/
theorem looseEq_object_iff {fs gs : Fields} (hnodup : fs.keys.Nodup) :
    (object fs).looseEq (object gs) = true ↔ fs.keys.Perm gs.keys ∧
      ∀ key v w, fs.get? key = some v → gs.get? key = some w → v.looseEq w = true := by
  rw [looseEq, Bool.and_eq_true, beq_iff_eq, looseEqFields_iff]
  constructor
  · rintro ⟨hlength, hfields⟩
    refine ⟨Fields.keys_perm_of_forall_get? hnodup hlength fun p hp => ?_, fun key v w hv hw => ?_⟩
    · obtain ⟨w, hw, -⟩ := hfields p hp
      exact ⟨w, hw⟩
    · obtain ⟨u, hu, hvu⟩ := hfields _ (Fields.mem_of_get? hv)
      obtain rfl : w = u := Option.some.inj (hw.symm.trans hu)
      exact hvu
  · rintro ⟨hkeys, hfields⟩
    refine ⟨by simpa [Fields.keys] using hkeys.length_eq, fun p hp => ?_⟩
    have hv := Fields.get?_of_mem hnodup hp
    obtain ⟨w, hw⟩ := Fields.exists_get?_of_mem_keys (hkeys.mem_iff.mp (Fields.mem_keys_of_get? hv))
    exact ⟨w, hw, hfields p.1 p.2 w hv hw⟩

/-! ### Symmetry -/

theorem looseEq_comm_of_isAtom {v : Value} (h : v.isAtom = true) (w : Value) :
    v.looseEq w = w.looseEq v := by
  cases v with
  | int n =>
    cases w with
    | int m => exact BEq.comm
    | float x => exact Binary64.eqv_symm _ x
    | _ => rfl
  | bool b =>
    cases w with
    | bool c => exact BEq.comm
    | _ => rfl
  | string s =>
    cases w with
    | string t => exact BEq.comm
    | _ => rfl
  | float | list | object => simp [isAtom] at h
  | null | unknown | computed => cases w <;> rfl

theorem looseEqItems_comm {xs ys : List Value}
    (h : ∀ v ∈ xs, ∀ w ∈ ys, v.looseEq w = w.looseEq v) :
    looseEqItems xs ys = looseEqItems ys xs := by
  induction xs generalizing ys with
  | nil => cases ys <;> rfl
  | cons v xs ih =>
    cases ys with
    | nil => rfl
    | cons w ys =>
      have hrest := ih fun v hv w hw =>
        h v (List.mem_cons_of_mem _ hv) w (List.mem_cons_of_mem _ hw)
      rw [looseEqItems, looseEqItems, h v List.mem_cons_self w List.mem_cons_self, hrest]

/-- **The equality of rules is symmetric.** -/
theorem looseEq_comm {v w : Value} (hv : v.KeyedOnce) (hw : w.KeyedOnce) :
    v.looseEq w = w.looseEq v := by
  induction v using inductionOnParts generalizing w with
  | atom v h => exact looseEq_comm_of_isAtom h w
  | float x =>
    cases w with
    | int n => exact Binary64.eqv_symm x _
    | float y => exact Binary64.eqv_symm x y
    | _ => rfl
  | list xs ih =>
    cases w with
    | list ys =>
      have hxs := itemsKeyedOnce_iff.mp hv
      have hys := itemsKeyedOnce_iff.mp hw
      exact looseEqItems_comm fun v hv w hw => ih v hv (hxs v hv) (hys w hw)
    | _ => rfl
  | object fs ih =>
    cases w with
    | object gs =>
      have hfs : fs.KeyedOnce := hv
      have hgs : Fields.KeyedOnce gs := hw
      have hcomm : ∀ key v w, fs.get? key = some v → Fields.get? gs key = some w →
          v.looseEq w = w.looseEq v := by
        intro key v w hv hw
        exact ih _ (Fields.mem_of_get? hv) (hfs.get? hv) (hgs.get? hw)
      -- with distinct keys on both sides, each asks the same of the other
      rw [Bool.eq_iff_iff, looseEq_object_iff hfs.nodup_keys, looseEq_object_iff hgs.nodup_keys]
      constructor
      · rintro ⟨hkeys, hfields⟩
        refine ⟨hkeys.symm, fun key w v hw hv => ?_⟩
        rw [← hcomm key v w hv hw]
        exact hfields key v w hv hw
      · rintro ⟨hkeys, hfields⟩
        refine ⟨hkeys.symm, fun key v w hv hw => ?_⟩
        rw [hcomm key v w hv hw]
        exact hfields key w v hw hv
    | _ => rfl

/-! ### Equality with itself -/

/-- A NaN anywhere inside the value. -/
inductive HasNaN : Value → Prop
  | float {x : Binary64} (h : x.isNaN = true) : HasNaN (.float x)
  | item {v : Value} {items : List Value} (hmem : v ∈ items) (h : HasNaN v) : HasNaN (.list items)
  | field {key : String} {v : Value} {fields : Fields} (hmem : (key, v) ∈ fields) (h : HasNaN v) :
      HasNaN (.object fields)

/-- **A value equals itself**, unless there is a NaN in it. -/
theorem looseEq_self_iff {v : Value} (hv : v.KeyedOnce) : v.looseEq v = true ↔ ¬v.HasNaN := by
  induction v using inductionOnParts with
  | atom v h =>
    have hnan : ¬v.HasNaN := by
      intro hnan
      cases hnan <;> simp [isAtom] at h
    refine iff_of_true ?_ hnan
    cases v <;> simp_all [isAtom, looseEq]
  | float x =>
    constructor
    · rintro heq (hnan : HasNaN _)
      cases hnan with
      | float h => simp [looseEq, Binary64.eqv, h] at heq
    · intro h
      exact Binary64.eqv_self (Bool.eq_false_iff.mpr fun hnan => h (.float hnan))
  | list xs ih =>
    have hxs := itemsKeyedOnce_iff.mp hv
    rw [looseEq, looseEqItems_iff, List.forall₂_same]
    constructor
    · rintro h (hnan : HasNaN _)
      cases hnan with
      | item hmem hnan => exact (ih _ hmem (hxs _ hmem)).mp (h _ hmem) hnan
    · exact fun h v hmem => (ih v hmem (hxs v hmem)).mpr fun hnan => h (.item hmem hnan)
  | object fs ih =>
    have hfs : fs.KeyedOnce := hv
    rw [looseEq_object_iff hfs.nodup_keys]
    constructor
    · rintro ⟨-, h⟩ (hnan : HasNaN _)
      cases hnan with
      | @field key v _ hmem hnan =>
        have hget := Fields.get?_of_mem hfs.nodup_keys hmem
        exact (ih _ hmem (hfs.of_mem hmem)).mp (h key v v hget hget) hnan
    · refine fun h => ⟨.refl _, fun key v w hv hw => ?_⟩
      obtain rfl : v = w := Option.some.inj (hv.symm.trans hw)
      have hmem := Fields.mem_of_get? hv
      exact (ih _ hmem (hfs.of_mem hmem)).mpr fun hnan => h (.field hmem hnan)

/-! ### Identity -/

/-- **Identical values are equal to rules.** -/
theorem looseEq_of_identical {v w : Value} (h : v.identical w = true) : v.looseEq w = true := by
  induction v using inductionOnParts generalizing w with
  | atom v hatom => cases v <;> cases w <;> simp_all [isAtom, identical, looseEq]
  | float x =>
    cases w with
    | float y => exact h
    | _ => simp [identical] at h
  | list xs ih =>
    cases w with
    | list ys =>
      rw [identical, identicalItems_iff, List.forall₂_iff_get] at h
      rw [looseEq, looseEqItems_iff, List.forall₂_iff_get]
      exact ⟨h.1, fun n hn hn' => ih _ (List.get_mem xs ⟨n, hn⟩) (h.2 n hn hn')⟩
    | _ => simp [identical] at h
  | object fs ih =>
    cases w with
    | object gs =>
      rw [identical, Bool.and_eq_true, identicalFields_iff] at h
      rw [looseEq, Bool.and_eq_true, looseEqFields_iff]
      refine ⟨h.1, fun p hp => ?_⟩
      obtain ⟨w, hw, hid⟩ := h.2 p hp
      exact ⟨w, hw, ih p hp hid⟩
    | _ => simp [identical] at h

/-! ### The order of fields -/

/-- Values that differ in the order of the fields of objects, at any depth. -/
inductive Reordered : Value → Value → Prop
  | refl (v : Value) : Reordered v v
  | list {xs ys : List Value} (length : xs.length = ys.length)
      (items : ∀ n h h', Reordered (xs.get ⟨n, h⟩) (ys.get ⟨n, h'⟩)) :
      Reordered (.list xs) (.list ys)
  | object {fs gs hs : Fields} (keys : fs.keys = gs.keys)
      (fields : ∀ n h h', Reordered (fs.get ⟨n, h⟩).2 (gs.get ⟨n, h'⟩).2) (perm : gs.Perm hs) :
      Reordered (.object fs) (.object hs)

theorem Reordered.alike {v w : Value} (h : v.Reordered w) (hv : v.KeyedOnce) : Alike Eq v w := by
  induction h with
  | refl v => exact .of_keyedOnce (fun _ => rfl) hv
  | @list xs ys length _ ih =>
    have hxs := itemsKeyedOnce_iff.mp hv
    exact .list length fun n h h' => ih n h h' (hxs _ (List.get_mem xs ⟨n, h⟩))
  | @object fs gs hs keys _ perm ih =>
    have hfs : fs.KeyedOnce := hv
    have hgs : gs.keys.Nodup := keys ▸ hfs.nodup_keys
    have hrel : Fields.Rel (fun v w => v.KeyedOnce → Alike Eq v w) fs gs := by
      refine List.forall₂_iff_get.mpr ⟨?_, fun n h h' => ⟨?_, ih n h h'⟩⟩
      · simpa [Fields.keys] using congrArg List.length keys
      · simpa [Fields.keys, h, h'] using congrArg (fun l => l[n]?) keys
    refine .object hfs.nodup_keys (keys ▸ perm.map Prod.fst) fun key v w hv hw => ?_
    have hvw := hrel.get? key
    rw [hv, Fields.get?_perm hgs perm, hw] at hvw
    cases hvw with
    | some hvw => exact hvw (hfs.get? hv)

theorem Alike.keyedOnce {F : Binary64 → Binary64 → Prop} {v w : Value} (h : Alike F v w) :
    w.KeyedOnce := by
  induction h with
  | @atom v h => cases v <;> simp_all [isAtom, KeyedOnce]
  | float => trivial
  | @list xs ys length _ ih =>
    refine itemsKeyedOnce_iff.mpr fun w hw => ?_
    obtain ⟨⟨n, hn⟩, rfl⟩ := List.get_of_mem hw
    exact ih n (length ▸ hn) hn
  | @object fs gs nodup keys _ ih =>
    have hgs := keys.nodup_iff.mp nodup
    refine Fields.keyedOnce_iff.mpr ⟨hgs, fun p hp => ?_⟩
    have hw := Fields.get?_of_mem hgs hp
    obtain ⟨v, hv⟩ := Fields.exists_get?_of_mem_keys (keys.mem_iff.mpr (Fields.mem_keys_of_get? hw))
    exact ih p.1 v p.2 hv hw

/-- **The order of fields has no influence**, on either side. -/
theorem Reordered.looseEq_eq {v v' w w' : Value} (h : v.Reordered v') (h' : w.Reordered w')
    (hv : v.KeyedOnce) (hw : w.KeyedOnce) : v'.looseEq w' = v.looseEq w := by
  have halike := h.alike hv
  have halike' := h'.alike hw
  -- what is known of the left side is used for the right side by symmetry
  calc v'.looseEq w' = v.looseEq w' := by rw [halike.looseEq_eq id]
    _ = w'.looseEq v := looseEq_comm hv halike'.keyedOnce
    _ = w.looseEq v := by rw [halike'.looseEq_eq id]
    _ = v.looseEq w := looseEq_comm hw hv

/-- To contain an item and to be one of the items is the same. -/
theorem contains_list_eq_oneOf {xs : List Value} {v : Value} (hxs : ∀ x ∈ xs, x.KeyedOnce)
    (hv : v.KeyedOnce) : (Value.list xs).contains v = v.oneOf (.list xs) := by
  have hany : ∀ x ∈ xs, (x.looseEq v = true ↔ v.looseEq x = true) := by
    intro x hx
    rw [looseEq_comm (hxs x hx) hv]
  rw [contains, oneOf, Bool.eq_iff_iff, List.any_eq_true, List.any_eq_true]
  exact exists_congr fun x => and_congr_right (hany x)

/-- **The equality of rules is a coarser identity that sees no order of fields**, for values in
which every object holds each key once: it is symmetric, a value equals itself unless there is a NaN
in it, identical values are equal, and fields may be put into another order on either side. So a
list contains what is one of its items. -/
theorem looseEq_is_symmetric_and_order_blind {a b : Value} (ha : a.KeyedOnce) (hb : b.KeyedOnce) :
    a.looseEq b = b.looseEq a ∧
    (a.looseEq a = true ↔ ¬a.HasNaN) ∧
    (a.identical b = true → a.looseEq b = true) ∧
    (∀ a' b', a.Reordered a' → b.Reordered b' → a'.looseEq b' = a.looseEq b) ∧
    ∀ xs : List Value, (∀ x ∈ xs, x.KeyedOnce) →
      (Value.list xs).contains a = a.oneOf (.list xs) :=
  ⟨looseEq_comm ha hb, looseEq_self_iff ha, looseEq_of_identical,
    fun _ _ ha' hb' => ha'.looseEq_eq hb' ha hb, fun _ hxs => contains_list_eq_oneOf hxs ha⟩

/-- An object with its fields in two orders, against another one. -/
theorem looseEq_is_symmetric_and_order_blind_example :
    let a : Value := .object [("port", .int 22), ("open", .bool true)]
    let a' : Value := .object [("open", .bool true), ("port", .int 22)]
    let b : Value := .object [("open", .string " true "), ("port", .float (.ofInt 22))]
    a.KeyedOnce ∧ b.KeyedOnce ∧ ¬a.HasNaN ∧ a.Reordered a' ∧ a.looseEq a = true ∧
      a.looseEq b = true ∧ b.looseEq a = true ∧ a'.looseEq b = true ∧
      a.oneOf (.list [.null, b]) = (Value.list [.null, b]).contains a := by
  intro a a' b
  have ha : a.KeyedOnce := by simp [a, KeyedOnce, Fields.KeyedOnce, Fields.keys]
  have hb : b.KeyedOnce := by simp [b, KeyedOnce, Fields.KeyedOnce, Fields.keys]
  have hnan : ¬a.HasNaN := by
    simp only [a]
    rintro (_ | _ | ⟨hmem, hnan⟩)
    rcases List.mem_pair.mp hmem with h | h <;> cases h <;> cases hnan
  have ha' : a.Reordered a' := .object rfl (fun n h h' => .refl _) (List.Perm.swap _ _ _)
  have hab : a.looseEq b = true := by
    simp only [a, b]
    rfl
  obtain ⟨hcomm, hself, -, horder, hlist⟩ := looseEq_is_symmetric_and_order_blind ha hb
  refine ⟨ha, hb, hnan, ha', hself.mpr hnan, hab, hcomm ▸ hab,
    (horder a' b ha' (.refl b)).trans hab, (hlist [.null, b] ?_).symm⟩
  simpa [KeyedOnce] using hb

end Value

end InfraPolicy
