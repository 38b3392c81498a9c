import InfraPolicy.Proofs.FieldLookup
import InfraPolicy.Text.SortedSet
import InfraPolicy.Value.Json
import Mathlib.Data.List.Induction

/-!
# Sorted by key

Texts are collected in a sorted set, and the fields of an object that is read from JSON are sorted
by key. Both are insertion sorts, and the keys of sorted fields are the sorted set of the keys
(`Fields.keys_sorted`). Fields whose keys are distinct are only put into another order
(`Fields.sorted_perm`), and sorted fields stay as they are (`Fields.sorted_eq_self`).
-/

namespace InfraPolicy

/-! ### Sorted sets of texts -/

namespace Text

variable {s t : String} {set texts : List String}

/-- A text is added, and nothing else. -/
theorem mem_insertSorted : t ∈ insertSorted s set ↔ t = s ∨ t ∈ set := by
  induction set with
  | nil => simp [insertSorted]
  | cons u rest ih =>
    rw [insertSorted]
    split_ifs with hlt heq
    · exact List.mem_cons
    · subst heq
      simp
    · rw [List.mem_cons, ih, List.mem_cons, or_left_comm]

/-- Adding a text keeps the order, and adds none that is there. -/
theorem pairwise_insertSorted (h : set.Pairwise (· < ·)) (s : String) :
    (insertSorted s set).Pairwise (· < ·) := by
  induction set with
  | nil => exact List.pairwise_singleton _ s
  | cons u rest ih =>
    obtain ⟨hu, hrest⟩ := List.pairwise_cons.mp h
    rw [insertSorted]
    split_ifs with hlt heq
    · refine List.pairwise_cons.mpr ⟨fun t ht => ?_, h⟩
      rcases List.mem_cons.mp ht with rfl | ht
      · exact hlt
      · exact String.lt_trans hlt (hu t ht)
    · exact h
    · -- neither less nor equal, so `s` comes after `u`
      have hgt : u < s := by
        by_contra hle
        exact heq (String.le_antisymm (String.not_lt.mp hle) (String.not_lt.mp hlt))
      refine List.pairwise_cons.mpr ⟨fun t ht => ?_, ih hrest⟩
      rcases mem_insertSorted.mp ht with rfl | ht
      · exact hgt
      · exact hu t ht

/-- A sorted set has the texts of the list. -/
theorem mem_sortedSet : t ∈ sortedSet texts ↔ t ∈ texts := by
  induction texts using List.reverseRecOn with
  | nil => rfl
  | append_singleton texts s ih =>
    rw [sortedSet, List.foldl_append, List.foldl_cons, List.foldl_nil, ← sortedSet,
      mem_insertSorted, ih, List.mem_append, List.mem_singleton, or_comm]

/-- A sorted set is strictly increasing, so it has no text twice. -/
theorem pairwise_sortedSet (texts : List String) : (sortedSet texts).Pairwise (· < ·) := by
  induction texts using List.reverseRecOn with
  | nil => exact List.Pairwise.nil
  | append_singleton texts s ih =>
    rw [sortedSet, List.foldl_append, List.foldl_cons, List.foldl_nil, ← sortedSet]
    exact pairwise_insertSorted ih s

end Text

/-! ### Sorted fields -/

namespace Fields

variable {fields : Fields} {key : String} {value : Value} {p : String × Value}

theorem mem_insertSorted (h : p ∈ insertSorted fields key value) :
    p = (key, value) ∨ p ∈ fields := by
  induction fields with
  | nil => exact .inl (List.mem_singleton.mp h)
  | cons first rest ih =>
    rw [insertSorted] at h
    split_ifs at h
    · exact List.mem_cons.mp h
    · exact (List.mem_cons.mp h).imp_right (List.mem_cons_of_mem first)
    · rcases List.mem_cons.mp h with rfl | h
      · exact .inr List.mem_cons_self
      · exact (ih h).imp_right (List.mem_cons_of_mem first)

/-- The last pair is inserted last. -/
theorem sorted_concat (fields : Fields) (p : String × Value) :
    sorted (fields ++ [p]) = insertSorted (sorted fields) p.1 p.2 := by
  rw [sorted, List.foldl_append]
  rfl

theorem mem_sorted (h : p ∈ sorted fields) : p ∈ fields := by
  induction fields using List.reverseRecOn with
  | nil => exact h
  | append_singleton fields q ih =>
    rw [sorted_concat] at h
    rcases mem_insertSorted h with rfl | h
    · exact List.mem_append_right fields List.mem_cons_self
    · exact List.mem_append_left [q] (ih h)

theorem keys_insertSorted (fields : Fields) (key : String) (value : Value) :
    (insertSorted fields key value).keys = Text.insertSorted key fields.keys := by
  have hcons : ∀ (p : String × Value) (rest : Fields), keys (p :: rest) = p.1 :: keys rest :=
    fun _ _ => rfl
  induction fields with
  | nil => rfl
  | cons first rest ih =>
    rw [insertSorted, hcons, Text.insertSorted]
    split_ifs with hlt hkey hkey' hkey'
    · rfl
    · rw [hcons, hkey]
    · exact absurd hkey.symm hkey'
    · exact absurd hkey'.symm hkey
    · rw [hcons, ih]

/-- The keys of sorted fields are the sorted set of keys. -/
theorem keys_sorted (fields : Fields) : (sorted fields).keys = Text.sortedSet fields.keys := by
  induction fields using List.reverseRecOn with
  | nil => rfl
  | append_singleton fields p ih =>
    rw [sorted_concat, keys_insertSorted, ih, keys, keys, List.map_append, Text.sortedSet,
      Text.sortedSet, List.foldl_append]
    rfl

theorem pairwise_keys_sorted (fields : Fields) : (sorted fields).keys.Pairwise (· < ·) := by
  rw [keys_sorted]
  exact Text.pairwise_sortedSet fields.keys

/-- A new key is put somewhere among the others. -/
theorem insertSorted_perm (h : key ∉ fields.keys) (value : Value) :
    (insertSorted fields key value).Perm ((key, value) :: fields) := by
  induction fields with
  | nil => exact .refl _
  | cons first rest ih =>
    obtain ⟨hfirst, hrest⟩ := not_or.mp (mt List.mem_cons.mpr h)
    rw [insertSorted]
    split_ifs with hlt hkey
    · exact .refl _
    · exact absurd hkey.symm hfirst
    · exact ((ih hrest).cons first).trans (List.Perm.swap _ _ _)

/-- Fields with distinct keys are only put into another order. -/
theorem sorted_perm (h : fields.keys.Nodup) : (sorted fields).Perm fields := by
  induction fields using List.reverseRecOn with
  | nil => exact .refl _
  | append_singleton fields p ih =>
    have hkeys : keys (fields ++ [p]) = keys fields ++ [p.1] := List.map_append
    rw [hkeys, List.nodup_append] at h
    obtain ⟨hfields, -, hnew⟩ := h
    have hperm := ih hfields
    have hnotMem : p.1 ∉ (sorted fields).keys := by
      intro hmem
      have hmem' : p.1 ∈ keys fields := (hperm.map Prod.fst).mem_iff.mp hmem
      exact hnew p.1 hmem' p.1 (List.mem_singleton.mpr rfl) rfl
    rw [sorted_concat]
    calc insertSorted (sorted fields) p.1 p.2
        |>.Perm (p :: sorted fields) := insertSorted_perm hnotMem p.2
      _ |>.Perm (p :: fields) := hperm.cons p
      _ |>.Perm (fields ++ [p]) := (List.perm_append_singleton p fields).symm

/-- Keys in increasing order are distinct. -/
theorem nodup_keys_of_pairwise (h : fields.keys.Pairwise (· < ·)) : fields.keys.Nodup := by
  refine h.imp fun hlt heq => ?_
  rw [heq] at hlt
  exact String.lt_irrefl _ hlt

/-- Fields that are sorted stay as they are. -/
theorem sorted_eq_self (h : fields.keys.Pairwise (· < ·)) : sorted fields = fields := by
  have hpairs : ∀ {fs : Fields}, fs.keys.Pairwise (· < ·) → fs.Pairwise fun p q => p.1 < q.1 :=
    List.pairwise_map.mp
  refine (sorted_perm (nodup_keys_of_pairwise h)).eq_of_pairwise ?_
    (hpairs (pairwise_keys_sorted fields)) (hpairs h)
  intro p q _ _ hpq hqp
  exact absurd hqp (String.lt_asymm hpq)

end Fields

end InfraPolicy
