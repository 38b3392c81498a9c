import InfraPolicy.Text.Blank
import Mathlib.Data.List.DropRight
import Mathlib.Tactic.SplitIfs

/-!
# Texts without blanks around them

A text that has been trimmed neither begins nor ends with a blank, and a text is left alone exactly
if it is like that. So blanks that are put around a text make no difference to what is left of it
(`Text.trimChars_append_append`), and whatever stands between two trimmed texts is out of the reach
of trimming (`Text.trim_between`).
-/

namespace InfraPolicy.Text

theorem isBlank_head_trimChars {cs : List Char} {c : Char} (h : (trimChars cs).head? = some c) :
    isBlank c = false := by
  obtain ⟨behind, hbehind⟩ : trimChars cs <+: cs.dropWhile isBlank :=
    List.rdropWhile_prefix isBlank _
  have hhead : (cs.dropWhile isBlank).head? = some c := by
    rw [← hbehind, List.head?_append, h, Option.some_or]
  simpa [hhead] using List.head?_dropWhile_not isBlank cs

theorem isBlank_getLast_trimChars {cs : List Char} {c : Char}
    (h : (trimChars cs).getLast? = some c) : isBlank c = false := by
  rw [trimChars, List.getLast?_reverse] at h
  simpa [h] using List.head?_dropWhile_not isBlank (cs.dropWhile isBlank).reverse

/-- Text that trimming leaves alone does not begin with a blank. -/
theorem isBlank_head_of_trimChars_eq {c : Char} {cs : List Char}
    (h : trimChars (c :: cs) = c :: cs) : isBlank c = false := by
  have hhead : (trimChars (c :: cs)).head? = some c := by rw [h, List.head?_cons]
  exact isBlank_head_trimChars hhead

theorem trim_eq_self_iff {s : String} : trim s = s ↔ trimChars s.toList = s.toList := by
  rw [trim, ← String.toList_inj, String.toList_ofList]

/-- Blanks around a text are trimmed off with those it has itself. -/
theorem trimChars_append_append {before after : List Char}
    (hbefore : ∀ c ∈ before, isBlank c = true) (hafter : ∀ c ∈ after, isBlank c = true)
    (cs : List Char) : trimChars (before ++ cs ++ after) = trimChars cs := by
  have hreverse : ∀ c ∈ after.reverse, isBlank c = true := fun c hc =>
    hafter c (List.mem_reverse.mp hc)
  rw [trimChars, trimChars, List.append_assoc, List.dropWhile_append_of_pos hbefore,
    List.dropWhile_append]
  -- if all of `cs` is blank, nothing is left that could shield `after` from the front
  split_ifs with hblank
  · rw [List.isEmpty_iff.mp hblank, List.dropWhile_eq_nil_iff.mpr hafter]
  · rw [List.reverse_append, List.dropWhile_append_of_pos hreverse]

/-- A text that begins and ends with trimmed text is trimmed. -/
theorem trim_between {front back : String} (hfront : trim front = front) (hback : trim back = back)
    (hfront_ne : front ≠ "") (hback_ne : back ≠ "") (between : String) :
    trim (front ++ (between ++ back)) = front ++ (between ++ back) := by
  rw [trim_eq_self_iff] at hfront hback ⊢
  rw [ne_eq, ← String.toList_eq_nil_iff] at hfront_ne hback_ne
  rw [String.toList_append, String.toList_append]
  apply trimChars_eq_self
  · intro c hc
    rw [List.head?_append_of_ne_nil _ hfront_ne, ← hfront] at hc
    exact isBlank_head_trimChars hc
  · intro c hc
    rw [← List.append_assoc, List.getLast?_append_of_ne_nil _ hback_ne, ← hback] at hc
    exact isBlank_getLast_trimChars hc

end InfraPolicy.Text
