import Mathlib.Data.List.Basic

/-!
# Texts in parts

A text that is cut at a separator is made of its parts, each but the last with the separator behind
it (`Text.flatMap_of_splitOn_eq`), and where two texts are put together, the last part of the one
and the first part of the other become one (`Text.splitOn_append_of_eq`).
-/

namespace InfraPolicy.Text

variable {sep : Char} {cs : List Char}

/-- A separator in front of a text adds an empty part to it. -/
theorem splitOn_cons_self (sep : Char) (cs : List Char) :
    (sep :: cs).splitOn sep = [] :: cs.splitOn sep := by
  rw [List.splitOn_cons_eq_if_modifyHead, if_pos BEq.rfl]

/-- Any other character in front of a text goes to its first part. -/
theorem splitOn_cons_of_ne {c : Char} {first : List Char} {rest : List (List Char)} (hc : c ≠ sep)
    (h : cs.splitOn sep = first :: rest) : (c :: cs).splitOn sep = (c :: first) :: rest := by
  have hc : ¬(c == sep) = true := by simpa using hc
  rw [List.splitOn_cons_eq_if_modifyHead, if_neg hc, h, List.modifyHead_cons]

/-- No part holds the separator. -/
theorem notMem_of_mem_splitOn {part : List Char} (h : part ∈ cs.splitOn sep) : sep ∉ part := by
  induction cs generalizing part with
  | nil =>
    rw [List.splitOn_nil, List.mem_singleton] at h
    simp [h]
  | cons c cs ih =>
    by_cases hc : c = sep
    · rw [hc, splitOn_cons_self] at h
      rcases List.mem_cons.mp h with rfl | h
      · exact List.not_mem_nil
      · exact ih h
    · obtain ⟨first, rest, hsplit⟩ := List.exists_cons_of_ne_nil (List.splitOn_ne_nil sep cs)
      rw [splitOn_cons_of_ne hc hsplit] at h
      rw [hsplit] at ih
      rcases List.mem_cons.mp h with rfl | h
      · exact List.not_mem_cons_of_ne_of_not_mem (Ne.symm hc) (ih List.mem_cons_self)
      · exact ih (List.mem_cons_of_mem first h)

/-- Two texts put together are cut where each of them is cut, and the two parts where they meet are
one. -/
theorem splitOn_append_of_eq {a b last first : List Char} {front rest : List (List Char)}
    (ha : a.splitOn sep = front ++ [last]) (hb : b.splitOn sep = first :: rest) :
    (a ++ b).splitOn sep = front ++ (last ++ first) :: rest := by
  induction a generalizing front last with
  | nil =>
    rw [List.splitOn_nil] at ha
    obtain ⟨rfl, rfl⟩ : front = [] ∧ last = [] := by
      cases front with
      | nil => simpa [eq_comm] using ha
      | cons part parts => simp at ha
    exact hb
  | cons c cs ih =>
    rw [List.cons_append]
    by_cases hc : c = sep
    · subst hc
      rw [splitOn_cons_self] at ha ⊢
      cases front with
      | nil => exact absurd (List.cons.inj ha).2 (List.splitOn_ne_nil c cs)
      | cons part parts =>
        obtain ⟨rfl, hparts⟩ := List.cons.inj ha
        rw [ih hparts]
        rfl
    -- `c` joins the first part of `cs`, which is where the texts meet if it is the only one
    · obtain ⟨part, parts, hcs⟩ := List.exists_cons_of_ne_nil (List.splitOn_ne_nil sep cs)
      rw [splitOn_cons_of_ne hc hcs] at ha
      cases front with
      | nil =>
        obtain ⟨rfl, rfl⟩ := List.cons.inj ha
        have hcs : cs.splitOn sep = [] ++ [part] := hcs
        exact splitOn_cons_of_ne hc (ih hcs)
      | cons part' parts' =>
        obtain ⟨rfl, rfl⟩ := List.cons.inj ha
        have hcs : cs.splitOn sep = (part :: parts') ++ [last] := hcs
        exact splitOn_cons_of_ne hc (ih hcs)

/-- A text has one part more than it has separators. -/
theorem length_splitOn (sep : Char) (cs : List Char) :
    (cs.splitOn sep).length = cs.count sep + 1 := by
  induction cs with
  | nil => rfl
  | cons c cs ih =>
    by_cases hc : c = sep
    · rw [hc, splitOn_cons_self, List.length_cons, ih, List.count_cons_self]
    · obtain ⟨part, parts, hsplit⟩ := List.exists_cons_of_ne_nil (List.splitOn_ne_nil sep cs)
      rw [splitOn_cons_of_ne hc hsplit, List.count_cons_of_ne hc, ← ih, hsplit]
      rfl

/-- The parts but the last, each with the separator behind it, and the last one make up the text. -/
theorem flatMap_of_splitOn_eq {last : List Char} {front : List (List Char)}
    (h : cs.splitOn sep = front ++ [last]) : front.flatMap (· ++ [sep]) ++ last = cs := by
  have hjoined : [sep].intercalate (front ++ [last]) = cs := by
    rw [← h, List.intercalate_splitOn]
  rw [← hjoined]
  clear h hjoined
  induction front with
  | nil => simp
  | cons part front ih =>
    have hne : front ++ [last] ≠ [] := by simp
    rw [List.cons_append, List.intercalate_cons_of_ne_nil hne, ← ih]
    simp

end InfraPolicy.Text
