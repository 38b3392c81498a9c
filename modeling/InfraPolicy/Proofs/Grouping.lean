import Mathlib.Data.List.Dedup
import Mathlib.Data.List.Induction
import Mathlib.Data.List.Nodup

/-!
# Grouping in order of first occurrence

Rules by identifier, fields by key, files by directory and blocks by name are all collected in the
same way: an item whose key is new comes last, and one whose key is there already changes what is
under it. The keys then stand in the order in which they first occur (`keys_foldl`). If all that is
under a key is kept, in order, then the collection is told by the keys and the items that have them
(`foldl_addUnder`).
-/

namespace InfraPolicy

variable {ι κ α : Type*}

/-! ### First occurrences -/

section Keys

variable [BEq κ] [LawfulBEq κ]

/-- What comes last in a list is new, or it was there before. -/
theorem eraseDups_concat (seen : List κ) (a : κ) :
    (seen ++ [a]).eraseDups = if a ∈ seen then seen.eraseDups else seen.eraseDups ++ [a] := by
  rw [List.eraseDups_append, List.removeAll]
  split_ifs with hmem
  · rw [List.filter_cons_of_neg (by simpa using hmem)]
    simp
  · rw [List.filter_cons_of_pos (by simpa using hmem)]
    rfl

theorem nodup_eraseDups (keys : List κ) : keys.eraseDups.Nodup := by
  induction keys using List.reverseRecOn with
  | nil => exact List.nodup_nil
  | append_singleton keys key ih =>
    rw [eraseDups_concat]
    split_ifs with hmem
    · exact ih
    · rw [← List.concat_eq_append]
      exact List.Nodup.concat (mt List.mem_eraseDups.mp hmem) ih

/-- Only the first occurrences among keys that are added count. -/
theorem eraseDups_append_eraseDups (seen keys : List κ) :
    (seen ++ keys.eraseDups).eraseDups = (seen ++ keys).eraseDups := by
  induction keys using List.reverseRecOn with
  | nil => rfl
  | append_singleton keys key ih =>
    rw [← List.append_assoc, eraseDups_concat, eraseDups_concat]
    by_cases hkeys : key ∈ keys
    · rw [if_pos hkeys, if_pos (List.mem_append_right seen hkeys), ih]
    · rw [if_neg hkeys, ← List.append_assoc, eraseDups_concat, ih]
      simp only [List.mem_append, List.mem_eraseDups]

/-- **Keys stand in order of first occurrence** in a collection to which every item adds its own key
at the end, unless the key is there already. -/
theorem keys_foldl {γ : Type*} {keys : γ → List κ} {add : γ → ι → γ} {key : ι → κ}
    (hadd : ∀ c i, keys (add c i) = if key i ∈ keys c then keys c else keys c ++ [key i])
    {c : γ} {seen : List κ} (hc : keys c = seen.eraseDups) (items : List ι) :
    keys (items.foldl add c) = (seen ++ items.map key).eraseDups := by
  induction items generalizing c seen with
  | nil => rw [List.foldl_nil, List.map_nil, List.append_nil, hc]
  | cons i rest ih =>
    have hi : keys (add c i) = (seen ++ [key i]).eraseDups := by
      rw [hadd, eraseDups_concat, hc]
      simp only [List.mem_eraseDups]
    rw [List.foldl_cons, ih hi, List.map_cons, List.append_assoc, List.singleton_append]

end Keys

/-! ### Groups -/

variable [DecidableEq κ]

/-- Put something under a key. A new key comes last. -/
def addUnder (key : κ) (a : α) : List (κ × List α) → List (κ × List α)
  | [] => [(key, [a])]
  | (k, as) :: rest => if k = key then (k, as ++ [a]) :: rest else (k, as) :: addUnder key a rest

section Step

variable {keys : List κ} {group : κ → List α} {key : κ} {a : α}

/-- What has a known key goes to its group. -/
theorem addUnder_of_mem (hnodup : keys.Nodup) (hmem : key ∈ keys) :
    addUnder key a (keys.map fun k => (k, group k)) =
      keys.map fun k => (k, if key = k then group k ++ [a] else group k) := by
  induction keys with
  | nil => simp at hmem
  | cons k rest ih =>
    obtain ⟨hk, hrest⟩ := List.nodup_cons.mp hnodup
    rw [List.map_cons, List.map_cons, addUnder]
    by_cases h : key = k
    · -- the key does not come again, so the other groups stay as they are
      subst h
      rw [if_pos rfl, if_pos rfl, List.cons_inj_right]
      refine List.map_congr_left fun k hk' => ?_
      rw [if_neg]
      rintro rfl
      exact hk hk'
    · rw [if_neg (Ne.symm h), if_neg h, ih hrest (List.mem_of_ne_of_mem h hmem)]

/-- What has a new key makes a group at the end. -/
theorem addUnder_of_notMem (hmem : key ∉ keys) :
    addUnder key a (keys.map fun k => (k, group k)) =
      (keys.map fun k => (k, group k)) ++ [(key, [a])] := by
  induction keys with
  | nil => rfl
  | cons k rest ih =>
    rw [List.mem_cons, not_or] at hmem
    rw [List.map_cons, addUnder, if_neg (Ne.symm hmem.1), ih hmem.2, List.cons_append]

end Step

/-- **The groups are the keys** in order of first occurrence, each with what comes under it, in
order. -/
theorem foldl_addUnder [BEq κ] [LawfulBEq κ] (key : ι → κ) (value : ι → α) (items : List ι) :
    items.foldl (fun groups i => addUnder (key i) (value i) groups) [] =
      (items.map key).eraseDups.map fun k => (k, (items.filter fun i => key i = k).map value) := by
  -- items are added at the end, so the induction is from the end
  induction items using List.reverseRecOn with
  | nil => rfl
  | append_singleton items i ih =>
    have hgroup : ∀ k, ((items ++ [i]).filter fun j => key j = k).map value =
        if key i = k then ((items.filter fun j => key j = k).map value) ++ [value i]
        else (items.filter fun j => key j = k).map value := by
      intro k
      rw [List.filter_append, List.map_append]
      split_ifs with hk <;> simp [hk]
    rw [List.foldl_append, ih, List.foldl_cons, List.foldl_nil, List.map_append,
      List.map_singleton, eraseDups_concat]
    split_ifs with hmem
    · rw [addUnder_of_mem (nodup_eraseDups _) (List.mem_eraseDups.mpr hmem)]
      exact List.map_congr_left fun k _ => by rw [hgroup]
    · rw [addUnder_of_notMem (mt List.mem_eraseDups.mp hmem), List.map_append, List.map_singleton]
      congr 1
      · refine List.map_congr_left fun k hk => ?_
        rw [hgroup, if_neg]
        rintro rfl
        exact hmem (List.mem_eraseDups.mp hk)
      · have hnone : (items.filter fun j => key j = key i) = [] := by
          refine List.filter_eq_nil_iff.mpr fun j hj hkey => hmem ?_
          rw [← of_decide_eq_true hkey]
          exact List.mem_map_of_mem hj
        rw [hgroup, if_pos rfl, hnone, List.map_nil, List.nil_append]

end InfraPolicy
