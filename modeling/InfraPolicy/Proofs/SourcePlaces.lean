import InfraPolicy.Module.Basic
import InfraPolicy.Proofs.ForwardReading
import InfraPolicy.Proofs.Outcomes
import InfraPolicy.Proofs.SplitText
import Mathlib.Data.Prod.Lex
import Mathlib.Data.String.Basic

/-!
# Places identify offsets

Offsets count bytes, and places count lines and the characters of a line. Between characters the two
say the same: the text before a place can be read off its line and column
(`Location.textBefore?_after`), and it has as many bytes as the offset says. Of two offsets the
smaller one has the earlier place (`Location.position_ofOffset_lt`).

The items of a source file begin one behind the other, since reading goes forward, so its blocks
stand in the order of their places, and no two of them share one.
-/

namespace InfraPolicy

namespace Location

/-! ### Offsets between characters -/

/-- An offset in bytes that lies between two characters, or at an end of the text. -/
def IsBoundary (content : List Char) (offset : ℕ) : Prop :=
  ∃ front, front <+: content ∧ String.utf8Len front = offset

theorem charsBefore?_utf8Len (front back : List Char) :
    charsBefore? (String.utf8Len front) (front ++ back) = some front := by
  induction front with
  | nil => rw [String.utf8Len_nil, charsBefore?]
  | cons c front ih =>
    obtain ⟨n, hn⟩ := Nat.exists_eq_succ_of_ne_zero c.utf8Size_pos.ne'
    have hlen : String.utf8Len (c :: front) = (String.utf8Len front + n) + 1 := by
      rw [String.utf8Len_cons, hn]
      rfl
    have hsub : String.utf8Len front + n + 1 - c.utf8Size = String.utf8Len front := by omega
    rw [hlen, List.cons_append, charsBefore?, if_pos (by omega), hsub, ih]
    rfl

/-- The place of an offset is that behind the text before it. -/
theorem ofOffset_utf8Len (file : String) (front back : List Char) :
    ofOffset file (front ++ back) (String.utf8Len front) = after file front := by
  rw [ofOffset, charsBefore?_utf8Len, Option.getD_some]

/-! ### The text before a place -/

/-- The text before a place: the lines before its line, each with its line break, and the characters
of its own line before its column. There is none if the text has no such line, or the line no such
column. -/
def textBefore? (l : Location) (content : List Char) : Option (List Char) :=
  match l.line, l.column with
  | line + 1, column + 1 => do
    let lines := content.splitOn '\n'
    let current ← lines[line]?
    if column ≤ current.length then
      some ((lines.take line).flatMap (· ++ ['\n']) ++ current.take column)
    else none
  | _, _ => none

/-- Seen from the end, the characters of one line come before any line break. -/
theorem takeWhile_reverse_append {line : List Char} (h : '\n' ∉ line) (rest : List Char) :
    (line.reverse ++ rest).takeWhile (· != '\n') =
      line.reverse ++ rest.takeWhile (· != '\n') := by
  refine List.takeWhile_append_of_pos fun c hc => bne_iff_ne.mpr ?_
  rintro rfl
  exact h (List.mem_reverse.mp hc)

/-- What follows the last line break of a text is its last line. -/
theorem takeWhile_reverse_of_splitOn_eq {front last : List Char} {lines : List (List Char)}
    (h : front.splitOn '\n' = lines ++ [last]) :
    front.reverse.takeWhile (· != '\n') = last.reverse := by
  have hlast : '\n' ∉ last := by
    have hmem : last ∈ front.splitOn '\n' := by simp [h]
    exact Text.notMem_of_mem_splitOn hmem
  rw [← Text.flatMap_of_splitOn_eq h, List.reverse_append, takeWhile_reverse_append hlast]
  -- Before the last line there is a line break, or nothing.
  obtain rfl | ⟨before, line, rfl⟩ := List.eq_nil_or_concat' lines
  · simp
  · simp

/-- The line counts the parts, and the column the characters of the last one. -/
theorem after_eq_of_splitOn_eq (file : String) {front last : List Char} {lines : List (List Char)}
    (h : front.splitOn '\n' = lines ++ [last]) :
    after file front = { file, line := lines.length + 1, column := last.length + 1 } := by
  have hcount : front.count '\n' + 1 = lines.length + 1 := by
    rw [← Text.length_splitOn, h, List.length_append, List.length_singleton]
  rw [after, takeWhile_reverse_of_splitOn_eq h, List.length_reverse, hcount]

/-- The text before a place is found again from the place. -/
theorem textBefore?_after (file : String) (front back : List Char) :
    (after file front).textBefore? (front ++ back) = some front := by
  obtain ⟨lines, last, hfront⟩ :=
    (List.eq_nil_or_concat' (front.splitOn '\n')).resolve_left (List.splitOn_ne_nil _ _)
  obtain ⟨first, rest, hback⟩ := List.exists_cons_of_ne_nil (List.splitOn_ne_nil '\n' back)
  rw [after_eq_of_splitOn_eq file hfront, textBefore?, Text.splitOn_append_of_eq hfront hback]
  simp [Text.flatMap_of_splitOn_eq hfront]

/-! ### The order of places -/

/-- Where a place stands in its file. -/
def position (l : Location) : ℕ ×ₗ ℕ :=
  toLex (l.line, l.column)

/-- More text leads to a later place. -/
theorem position_after_lt (file : String) (front : List Char) {between : List Char}
    (h : between ≠ []) :
    (after file front).position < (after file (front ++ between)).position := by
  rw [position, position, Prod.Lex.toLex_lt_toLex]
  simp only [after, List.count_append, List.reverse_append]
  -- A line break in between makes the line later, and otherwise the column is.
  by_cases hbreak : '\n' ∈ between
  · have hcount := List.count_pos_iff.mpr hbreak
    exact .inl (by omega)
  · have hcount := List.count_eq_zero.mpr hbreak
    have hlength := List.length_pos_iff.mpr h
    rw [takeWhile_reverse_append hbreak, List.length_append, List.length_reverse]
    exact .inr ⟨by omega, by omega⟩

/-- Of two offsets the smaller one has the earlier place. -/
theorem position_ofOffset_lt (file : String) {content : List Char} {o o' : ℕ}
    (ho : IsBoundary content o) (ho' : IsBoundary content o') (h : o < o') :
    (ofOffset file content o).position < (ofOffset file content o').position := by
  obtain ⟨front, hfront, rfl⟩ := ho
  obtain ⟨front', hfront', rfl⟩ := ho'
  have hprefix : front <+: front' := by
    refine (List.prefix_or_prefix_of_prefix hfront hfront').resolve_right fun hprefix => ?_
    exact absurd (String.utf8Len_le_of_prefix hprefix) (Nat.not_le_of_lt h)
  obtain ⟨between, rfl⟩ := hprefix
  have hne : between ≠ [] := by
    rintro rfl
    simp at h
  obtain ⟨back', rfl⟩ := hfront'
  rw [ofOffset_utf8Len, List.append_assoc, ofOffset_utf8Len]
  exact position_after_lt file front hne

end Location

/-! ### Items and blocks -/

namespace Hcl

theorem utf8Len_lt_of_suffix {cs cs' : List Char} (h : cs <:+ cs')
    (hlength : cs.length < cs'.length) : String.utf8Len cs < String.utf8Len cs' := by
  obtain ⟨front, rfl⟩ := h
  have hne : front ≠ [] := by
    rintro rfl
    simp at hlength
  have hpos := Nat.pos_of_ne_zero (mt String.utf8Len_eq_zero.mp hne)
  rw [String.utf8Len_append]
  omega

theorem foldl_utf8Size (n : ℕ) (cs : List Char) :
    cs.foldl (fun n c => n + c.utf8Size) n = n + String.utf8Len cs := by
  induction cs generalizing n with
  | nil => rfl
  | cons c cs ih =>
    rw [List.foldl_cons, ih, String.utf8Len_cons]
    omega

/-- Items are at offsets between characters, which increase. -/
theorem offsets_of_parseItems? {cs : List Char} {items : List (ℕ × Item)}
    (h : parseItems? cs = some items) :
    (∀ p ∈ items, Location.IsBoundary cs p.1) ∧ items.Pairwise fun p q => p.1 < q.1 := by
  rw [parseItems?] at h
  obtain ⟨read, hread, hitems⟩ := Option.bind_eq_some_iff.mp h
  obtain rfl := Option.some.inj hitems
  obtain ⟨s, hrun⟩ := Reader.exists_run_of_whole? hread
  obtain ⟨hsuffix, hpairwise⟩ := starts_of_bodyItems hrun
  simp only [foldl_utf8Size, Nat.zero_add]
  refine ⟨List.forall_mem_map.mpr fun p hp => ?_, List.pairwise_map.mpr ?_⟩
  · obtain ⟨front, hfront : front ++ p.1 = cs⟩ := hsuffix p hp
    have hlen := String.utf8Len_append front p.1
    rw [hfront] at hlen
    exact ⟨front, ⟨p.1, hfront⟩, by dsimp only; omega⟩
  · refine hpairwise.imp_of_mem fun {p q} hp hq hlater => ?_
    have hlt := utf8Len_lt_of_suffix hlater.1 hlater.2
    have hle := String.utf8Len_le_of_suffix (hsuffix p hp)
    dsimp only at hle ⊢
    omega

end Hcl

namespace Document

/-- Blocks at increasing offsets stand in the order of their places. -/
theorem pairwise_blocksOf (file : String) {content : List Char} {items : List (ℕ × Hcl.Item)}
    (hboundary : ∀ p ∈ items, Location.IsBoundary content p.1)
    (hincreasing : items.Pairwise fun p q => p.1 < q.1) :
    (blocksOf file content items).Pairwise fun p q => p.1.position < q.1.position := by
  induction items with
  | nil => exact .nil
  | cons q rest ih =>
    obtain ⟨offset, item⟩ := q
    obtain ⟨hoffset, hrest⟩ := List.forall_mem_cons.mp hboundary
    obtain ⟨hlater, hincreasing⟩ := List.pairwise_cons.mp hincreasing
    have ih := ih hrest hincreasing
    cases item with
    | attr name e => exact ih
    | block name labels body =>
      refine List.pairwise_cons.mpr ⟨fun p hp => ?_, ih⟩
      obtain ⟨q, hq, heq, -⟩ := exists_of_mem_blocksOf hp
      rw [heq]
      exact Location.position_ofOffset_lt file hoffset (hrest q hq) (hlater q hq)

/-- The blocks of a file stand one behind the other. -/
theorem pairwise_blocks_of_parse {file content : String} {d : Document}
    (h : parse file content = .ok d) :
    d.blocks.Pairwise fun p q => p.1.position < q.1.position := by
  obtain ⟨items, hitems, rfl⟩ := exists_items_of_parse h
  obtain ⟨hboundary, hincreasing⟩ := Hcl.offsets_of_parseItems? hitems
  exact pairwise_blocksOf file hboundary hincreasing

theorem location_of_resource? {scope : Hcl.Scope} {location : Location} {b : Hcl.Block}
    {r : Resource} (h : resource? scope location b = some r) : r.location = location := by
  unfold resource? at h
  split at h
  · split_ifs at h
    cases h
    rfl
  · cases h

/-- The resources of a file stand one behind the other. -/
theorem pairwise_resources {d : Document} (scope : Hcl.Scope)
    (h : d.blocks.Pairwise fun p q => p.1.position < q.1.position) :
    (d.resources scope).Pairwise fun r r' => r.location.position < r'.location.position := by
  refine List.pairwise_filterMap.mpr (h.imp fun {p q} hlt r hr r' hr' => ?_)
  rw [location_of_resource? hr, location_of_resource? hr']
  exact hlt

end Document

/-- **Places identify offsets.** The text before the place of an offset, in lines and characters of
a line, is the text before the offset in bytes. So places are in the order of their offsets, the
blocks of a source file stand in the order of their places, no two of them at the same place, and
its resources are listed in that order. -/
theorem places_identify_offsets (file content : String) :
    (∀ offset, Location.IsBoundary content.toList offset →
      ∃ front, front <+: content.toList ∧ String.utf8Len front = offset ∧
        (Location.ofOffset file content.toList offset).textBefore? content.toList = some front) ∧
    (∀ o o', Location.IsBoundary content.toList o → Location.IsBoundary content.toList o' → o < o' →
      (Location.ofOffset file content.toList o).position <
        (Location.ofOffset file content.toList o').position) ∧
    ∀ d, Document.parse file content = .ok d →
      (d.blocks.Pairwise fun p q => p.1.position < q.1.position) ∧
      (d.blocks.map Prod.fst).Nodup ∧
      ∀ scope, (d.resources scope).Pairwise fun r r' =>
        r.location.position < r'.location.position := by
  refine ⟨fun offset hoffset => ?_, fun o o' ho ho' h => ?_, fun d hd => ?_⟩
  · obtain ⟨front, ⟨back, hcontent⟩, rfl⟩ := hoffset
    refine ⟨front, ⟨back, hcontent⟩, rfl, ?_⟩
    rw [← hcontent, Location.ofOffset_utf8Len, Location.textBefore?_after]
  · exact Location.position_ofOffset_lt file ho ho' h
  · have hblocks := Document.pairwise_blocks_of_parse hd
    refine ⟨hblocks, List.pairwise_map.mpr (hblocks.imp fun hlt heq => ?_), fun scope => ?_⟩
    · exact absurd (congrArg Location.position heq) hlt.ne
    · exact Document.pairwise_resources scope hblocks

/-- Behind a letter of two bytes, before line breaks of both kinds, and two blocks after an empty
line, the second of which is indented. -/
theorem places_identify_offsets_example :
    let content :=
      "# ä\r\n\nresource \"a\" \"b\" \x7b\x7d\r\n  resource \"a\" \"c\" \x7b\x7d"
    Location.IsBoundary content.toList 4 ∧ Location.IsBoundary content.toList 6 ∧
    Location.ofOffset "main.tf" content.toList 4 = ⟨"main.tf", 1, 4⟩ ∧
    Location.ofOffset "main.tf" content.toList 6 = ⟨"main.tf", 2, 1⟩ ∧
    (∃ front, front <+: content.toList ∧ String.utf8Len front = 4 ∧
      (⟨"main.tf", 1, 4⟩ : Location).textBefore? content.toList = some front) ∧
    (⟨"main.tf", 1, 4⟩ : Location).position < (⟨"main.tf", 2, 1⟩ : Location).position ∧
    ∃ d, Document.parse "main.tf" content = .ok d ∧
      d.blocks.map Prod.fst = [⟨"main.tf", 3, 1⟩, ⟨"main.tf", 4, 3⟩] ∧
      (d.blocks.map Prod.fst).Nodup ∧
      ∀ scope, (d.resources scope).Pairwise fun r r' =>
        r.location.position < r'.location.position := by
  intro content
  let read := Document.parse "main.tf" content
  have hfour : Location.IsBoundary content.toList 4 :=
    ⟨"# ä".toList, by decide +kernel, by decide +kernel⟩
  have hsix : Location.IsBoundary content.toList 6 :=
    ⟨"# ä\r\n".toList, by decide +kernel, by decide +kernel⟩
  have hplace : Location.ofOffset "main.tf" content.toList 4 = ⟨"main.tf", 1, 4⟩ := by
    decide +kernel
  have hplace' : Location.ofOffset "main.tf" content.toList 6 = ⟨"main.tf", 2, 1⟩ := by
    decide +kernel
  have hread : read.toOption.isSome = true := by decide +kernel
  have hparse : read = .ok (read.toOption.getD default) := eq_ok_getD_of_isSome hread
  have hblocks : (read.toOption.getD default).blocks.map Prod.fst =
      [⟨"main.tf", 3, 1⟩, ⟨"main.tf", 4, 3⟩] := by decide +kernel
  obtain ⟨htext, horder, hdocument⟩ := places_identify_offsets "main.tf" content
  have htext := htext 4 hfour
  have horder := horder 4 6 hfour hsix (by decide)
  obtain ⟨-, hnodup, hresources⟩ := hdocument _ hparse
  rw [hplace] at htext horder
  rw [hplace'] at horder
  exact ⟨hfour, hsix, hplace, hplace', htext, horder, _, hparse, hblocks, hnodup, hresources⟩

end InfraPolicy
