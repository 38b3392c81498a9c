import InfraPolicy.Value.Basic
import Mathlib.Data.List.Forall2
import Mathlib.Data.List.Nodup
import Mathlib.Data.List.Perm.Subperm

/-!
# Looking up fields

Fields are a list, of which look-up sees the first entry with a key. What can be found does not hang
on the order if the keys are distinct (`Fields.get?_perm`), and insertion keeps them distinct. Of
pairs with distinct keys that are inserted one after another, each wins over what was there before
(`Fields.get?_insertAll`).

`Fields.Rel` relates fields with the same keys in the same order, value by value.
-/

namespace InfraPolicy.Fields

variable {fs gs : Fields} {key : String} {v : Value}

/-! ### Distinct keys -/

theorem mem_of_get? (h : fs.get? key = some v) : (key, v) ∈ fs := by
  induction fs with
  | nil => simp at h
  | cons p rest ih =>
    rw [get?_cons] at h
    split_ifs at h with hkey
    · obtain rfl := Option.some.inj h
      subst hkey
      exact List.mem_cons_self
    · exact List.mem_cons_of_mem p (ih h)

/-- Where keys are distinct, look-up finds every pair. -/
theorem get?_of_mem (hnodup : fs.keys.Nodup) (h : (key, v) ∈ fs) : fs.get? key = some v := by
  induction fs with
  | nil => simp at h
  | cons p rest ih =>
    obtain ⟨k, u⟩ := p
    obtain ⟨hk, hrest⟩ := List.nodup_cons.mp hnodup
    rw [get?_cons]
    rcases List.mem_cons.mp h with heq | h
    · obtain ⟨rfl, rfl⟩ := Prod.ext_iff.mp heq
      rw [if_pos rfl]
    · have hne : k ≠ key := by
        rintro rfl
        exact hk (List.mem_map.mpr ⟨_, h, rfl⟩)
      rw [if_neg hne]
      exact ih hrest h

theorem mem_keys_of_get? (h : fs.get? key = some v) : key ∈ fs.keys :=
  List.mem_map_of_mem (mem_of_get? h)

theorem exists_get?_of_mem_keys (h : key ∈ fs.keys) : ∃ v, fs.get? key = some v := by
  rw [← Option.ne_none_iff_exists', ne_eq, get?_eq_none_iff]
  exact not_not_intro h

theorem nodup_keys_nil : (keys []).Nodup := List.nodup_nil

/-- Insertion keeps keys distinct. -/
theorem nodup_keys_insert (h : fs.keys.Nodup) (key : String) (v : Value) :
    (fs.insert key v).keys.Nodup := by
  rw [keys_insert]
  split_ifs with hmem
  · exact h
  · rw [← List.concat_eq_append]
    exact List.Nodup.concat hmem h

theorem nodup_keys_insertAll (h : fs.keys.Nodup) (pairs : List (String × Value)) :
    (fs.insertAll pairs).keys.Nodup := by
  induction pairs generalizing fs with
  | nil => exact h
  | cons p rest ih => exact ih (nodup_keys_insert h p.1 p.2)

/-- Fields that are made from pairs have each key once. -/
theorem nodup_keys_ofList (pairs : List (String × Value)) : (ofList pairs).keys.Nodup :=
  nodup_keys_insertAll nodup_keys_nil pairs

/-! ### Insertion of many pairs -/

/-- The value of the last pair with a key. -/
def last? (pairs : List (String × Value)) (key : String) : Option Value :=
  (pairs.filter fun p => p.1 = key).getLast?.map Prod.snd

theorem last?_cons (p : String × Value) (rest : List (String × Value)) (key : String) :
    last? (p :: rest) key =
      (last? rest key).or (if p.1 = key then some p.2 else none) := by
  rw [last?, last?, List.filter_cons]
  by_cases hkey : p.1 = key
  · rw [if_pos (by simpa using hkey), if_pos hkey]
    cases hrest : rest.filter fun q => q.1 = key with
    | nil => rfl
    | cons q qs => rw [List.getLast?_cons_cons, List.getLast?_cons]; rfl
  · rw [if_neg (by simpa using hkey), if_neg hkey, Option.or_none]

/-- **The last pair with a key wins**, over pairs before it and over what was there. -/
theorem get?_insertAll_eq (fields : Fields) (pairs : List (String × Value)) (key : String) :
    (fields.insertAll pairs).get? key = (last? pairs key).or (fields.get? key) := by
  induction pairs generalizing fields with
  | nil => rfl
  | cons p rest ih =>
    rw [insertAll, List.foldl_cons, ← insertAll, ih, get?_insert, last?_cons, Option.or_assoc]
    split_ifs <;> rfl

/-- Where each key comes once, its only pair is the last one. -/
theorem last?_eq_get? {values : Fields} (h : values.keys.Nodup) (key : String) :
    last? values key = values.get? key := by
  induction values with
  | nil => rfl
  | cons p rest ih =>
    obtain ⟨k, v⟩ := p
    obtain ⟨hk, hrest⟩ := List.nodup_cons.mp h
    rw [last?_cons, ih hrest, get?_cons]
    split_ifs with hkey
    · subst hkey
      rw [(get?_eq_none_iff rest k).mpr hk]
      rfl
    · exact Option.or_none

/-- A key that no pair has is not found. -/
theorem last?_eq_none {pairs : List (String × Value)} {key : String}
    (h : key ∉ pairs.map Prod.fst) : last? pairs key = none := by
  have hnil : pairs.filter (fun p => p.1 = key) = [] := by
    refine List.filter_eq_nil_iff.mpr fun p hp hkey => h ?_
    exact of_decide_eq_true hkey ▸ List.mem_map_of_mem hp
  rw [last?, hnil]
  rfl

/-- Of fields that are inserted with distinct keys, each one wins over what was there. -/
theorem get?_insertAll {values : Fields} (h : values.keys.Nodup) (fields : Fields)
    (key : String) :
    (fields.insertAll values).get? key = (values.get? key).or (fields.get? key) := by
  rw [get?_insertAll_eq, last?_eq_get? h]

/-- Keys that are not inserted keep what they had. -/
theorem get?_insertAll_of_notMem (fields : Fields) {pairs : List (String × Value)} {key : String}
    (h : key ∉ pairs.map Prod.fst) : (fields.insertAll pairs).get? key = fields.get? key := by
  rw [get?_insertAll_eq, last?_eq_none h, Option.none_or]

/-- What holds of the values and of the one that is put in holds of all afterwards. -/
theorem forall_mem_insert {P : Value → Prop} (hfields : ∀ p ∈ fs, P p.2) (key : String)
    (hv : P v) : ∀ p ∈ fs.insert key v, P p.2 := by
  induction fs with
  | nil => simpa [Fields.insert] using hv
  | cons q rest ih =>
    obtain ⟨hq, hrest⟩ := List.forall_mem_cons.mp hfields
    rw [Fields.insert]
    split_ifs
    · exact List.forall_mem_cons.mpr ⟨hv, hrest⟩
    · exact List.forall_mem_cons.mpr ⟨hq, ih hrest⟩

/-- What holds of the pairs that are inserted holds of all fields. -/
theorem forall_mem_insertAll {P : Value → Prop} (hfields : ∀ p ∈ fs, P p.2)
    {pairs : List (String × Value)} (hpairs : ∀ p ∈ pairs, P p.2) :
    ∀ p ∈ fs.insertAll pairs, P p.2 := by
  induction pairs generalizing fs with
  | nil => exact hfields
  | cons q rest ih =>
    obtain ⟨hq, hrest⟩ := List.forall_mem_cons.mp hpairs
    exact ih (forall_mem_insert hfields q.1 hq) hrest

/-! ### Fields in another order -/

/-- Fields with distinct keys are looked up alike in every order. -/
theorem get?_perm (hnodup : fs.keys.Nodup) (hperm : fs.Perm gs) (key : String) :
    fs.get? key = gs.get? key := by
  have hkeys : fs.keys.Perm gs.keys := hperm.map Prod.fst
  cases hv : fs.get? key with
  | none =>
    rw [get?_eq_none_iff, hkeys.mem_iff, ← get?_eq_none_iff] at hv
    exact hv.symm
  | some v =>
    have hmem : (key, v) ∈ gs := hperm.mem_iff.mp (mem_of_get? hv)
    exact (get?_of_mem (hkeys.nodup_iff.mp hnodup) hmem).symm

/-- Distinct keys that are all found among as many fields leave no others there. -/
theorem keys_perm_of_forall_get? (hnodup : fs.keys.Nodup) (hlength : fs.length = gs.length)
    (h : ∀ p ∈ fs, ∃ w, gs.get? p.1 = some w) : fs.keys.Perm gs.keys := by
  have hsubset : fs.keys ⊆ gs.keys := by
    intro key hkey
    obtain ⟨v, hv⟩ := exists_get?_of_mem_keys hkey
    obtain ⟨w, hw⟩ := h _ (mem_of_get? hv)
    exact mem_keys_of_get? hw
  refine (List.subperm_of_subset hnodup hsubset).perm_of_length_le ?_
  simp [keys, hlength]

/-- Fields with the same keys in any order have related values if those under each key are. -/
theorem option_rel_get? {R : Value → Value → Prop} (hkeys : fs.keys.Perm gs.keys)
    (h : ∀ key v w, fs.get? key = some v → gs.get? key = some w → R v w) (key : String) :
    Option.Rel R (fs.get? key) (gs.get? key) := by
  cases hv : fs.get? key with
  | none =>
    rw [get?_eq_none_iff, hkeys.mem_iff, ← get?_eq_none_iff] at hv
    rw [hv]
    exact .none
  | some v =>
    obtain ⟨w, hw⟩ := exists_get?_of_mem_keys (hkeys.mem_iff.mp (mem_keys_of_get? hv))
    rw [hw]
    exact .some (h key v w hv hw)

/-- What holds of all fields of the one holds of all fields of the other, if they have the same
distinct keys and it holds of the values under a key together. -/
theorem forall_mem_congr {P : String → Value → Prop} (hnodup : fs.keys.Nodup)
    (hkeys : fs.keys.Perm gs.keys)
    (h : ∀ key v w, fs.get? key = some v → gs.get? key = some w → (P key v ↔ P key w)) :
    (∀ p ∈ fs, P p.1 p.2) ↔ ∀ p ∈ gs, P p.1 p.2 := by
  constructor
  · intro hfs p hp
    have hw := get?_of_mem (hkeys.nodup_iff.mp hnodup) hp
    obtain ⟨v, hv⟩ := exists_get?_of_mem_keys (hkeys.mem_iff.mpr (mem_keys_of_get? hw))
    exact (h p.1 v p.2 hv hw).mp (hfs _ (mem_of_get? hv))
  · intro hgs p hp
    have hv := get?_of_mem hnodup hp
    obtain ⟨w, hw⟩ := exists_get?_of_mem_keys (hkeys.mem_iff.mp (mem_keys_of_get? hv))
    exact (h p.1 p.2 w hv hw).mpr (hgs _ (mem_of_get? hw))

/-! ### Fields related one by one -/

/-- The same keys in the same order, with related values. -/
def Rel (R : Value → Value → Prop) : Fields → Fields → Prop :=
  List.Forall₂ fun p q => p.1 = q.1 ∧ R p.2 q.2

variable {R : Value → Value → Prop}

theorem Rel.keys_eq (h : Rel R fs gs) : fs.keys = gs.keys := by
  induction h with
  | nil => rfl
  | cons hhead _ ih => exact List.cons_eq_cons.mpr ⟨hhead.1, ih⟩

/-- Related fields have related values under each key. -/
theorem Rel.get? (h : Rel R fs gs) (key : String) :
    Option.Rel R (fs.get? key) (gs.get? key) := by
  induction h with
  | nil => exact .none
  | @cons p q _ _ hhead _ ih =>
    obtain ⟨k, v⟩ := p
    obtain ⟨k', w⟩ := q
    obtain ⟨rfl, hvw⟩ := hhead
    rw [get?_cons, get?_cons]
    split_ifs
    · exact .some hvw
    · exact ih

/-- Insertion respects the relation. -/
theorem Rel.insert (h : Rel R fs gs) (key : String) {v w : Value} (hvw : R v w) :
    Rel R (fs.insert key v) (gs.insert key w) := by
  induction h with
  | nil => exact .cons ⟨rfl, hvw⟩ .nil
  | @cons p q _ _ hhead htail ih =>
    obtain ⟨k, v'⟩ := p
    obtain ⟨k', w'⟩ := q
    obtain ⟨rfl, hhead⟩ := hhead
    rw [Fields.insert, Fields.insert]
    split_ifs
    · exact .cons ⟨rfl, hvw⟩ htail
    · exact .cons ⟨rfl, hhead⟩ ih

theorem Rel.insertAll (h : Rel R fs gs) {ps qs : Fields} (hpq : Rel R ps qs) :
    Rel R (fs.insertAll ps) (gs.insertAll qs) := by
  induction hpq generalizing fs gs with
  | nil => exact h
  | @cons p q _ _ hhead _ ih =>
    obtain ⟨k, v⟩ := p
    obtain ⟨k', w⟩ := q
    obtain ⟨rfl, hvw⟩ := hhead
    exact ih (h.insert k hvw)

theorem Rel.eq (h : Rel Eq fs gs) : fs = gs := by
  induction h with
  | nil => rfl
  | cons hhead _ ih => rw [Prod.ext hhead.1 hhead.2, ih]

end InfraPolicy.Fields
