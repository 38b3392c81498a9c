import InfraPolicy.Proofs.PathText

/-!
# Keys in quotes

A key that stands in quotes between brackets may hold blanks, slashes and opening brackets, or
nothing at all. But the text of a path is cut at its dots before brackets are looked at, so a dot in
a quoted key leaves a bracket open at the end of a part, and the whole text spells no path
(`Path.parse?_quoted_of_dot`). No other text spells a path with such a key either, since all
characters of a key stand together in one part (`Path.dot_notMem_of_parse?`): a field whose key has
a dot in it is out of the reach of paths.
-/

namespace InfraPolicy

/-! ### Where the characters of keys come from -/

theorem Text.trimChars_subset (cs : List Char) : trimChars cs ⊆ cs := by
  intro c hc
  rw [trimChars, List.mem_reverse] at hc
  have hc := (List.dropWhile_suffix isBlank).subset hc
  exact (List.dropWhile_suffix isBlank).subset (List.mem_reverse.mp hc)

namespace Segment

/-- The characters of a key; other steps have none. -/
def chars : Segment → List Char
  | .key name => name.toList
  | .index _ | .wildcard => []

/-- Quotes only lose characters. -/
theorem quoted?_subset {cs name : List Char} (h : quoted? cs = some name) : name ⊆ cs := by
  rw [quoted?.eq_def] at h
  split at h
  · rename_i cs
    split at h
    · rename_i inner hreverse
      obtain rfl := Option.some.inj h
      intro c hc
      have hc' : c ∈ cs.reverse := hreverse ▸ List.mem_cons_of_mem _ (List.mem_reverse.mp hc)
      exact List.mem_cons_of_mem _ (List.mem_reverse.mp hc')
    · simp at h
  · simp at h

/-- What stands in brackets holds all characters of the step. -/
theorem chars_subset_of_parseBracket? {inner : List Char} {segment : Segment}
    (h : parseBracket? inner = some segment) : segment.chars ⊆ inner := by
  rw [parseBracket?] at h
  split_ifs at h
  · obtain rfl := Option.some.inj h
    exact List.nil_subset inner
  · cases hquoted : quoted? (Text.trimChars inner) with
    | some name =>
      rw [hquoted] at h
      obtain rfl := Option.some.inj h
      rw [chars, String.toList_ofList]
      exact List.Subset.trans (quoted?_subset hquoted) (Text.trimChars_subset inner)
    | none =>
      rw [hquoted] at h
      obtain ⟨n, -, rfl⟩ := Option.map_eq_some_iff.mp h
      exact List.nil_subset inner

/-- A key between quotes is the key, whatever characters it has. -/
theorem parseBracket?_quoted (name : List Char) :
    parseBracket? ('"' :: (name ++ ['"'])) = some (.key (String.ofList name)) := by
  have hblank : Text.isBlank '"' = false := by decide
  have htrim : Text.trimChars ('"' :: (name ++ ['"'])) = '"' :: (name ++ ['"']) :=
    Text.trimChars_cons_append_cons hblank hblank name []
  have hstar : '"' :: (name ++ ['"']) ≠ ['*'] := by
    intro h
    exact absurd (List.cons.inj h).1 (by decide)
  have hquoted : quoted? ('"' :: (name ++ ['"'])) = some name := by simp [quoted?]
  rw [parseBracket?, htrim, if_neg hstar, hquoted]

end Segment

namespace Path

mutual

theorem chars_subset_of_parseBrackets? : ∀ {cs : List Char} {path : Path},
    parseBrackets? cs = some path → ∀ segment ∈ path, segment.chars ⊆ cs
  | [], path, h => by
    obtain rfl := Option.some.inj h
    simp
  | c :: cs, path, h => by
    rw [parseBrackets?] at h
    split_ifs at h
    intro segment hsegment
    have hsubset := chars_subset_of_parseInside? h segment hsegment
    exact List.Subset.trans hsubset (List.subset_cons_self c cs)

theorem chars_subset_of_parseInside? : ∀ {acc cs : List Char} {path : Path},
    parseInside? acc cs = some path → ∀ segment ∈ path, segment.chars ⊆ acc ++ cs
  | acc, [], path, h => by simp [parseInside?] at h
  | acc, c :: cs, path, h => by
    rw [parseInside?] at h
    split_ifs at h
    · obtain ⟨first, hfirst, h⟩ := Option.bind_eq_some_iff.mp h
      obtain ⟨rest, hrest, h⟩ := Option.bind_eq_some_iff.mp h
      obtain rfl := Option.some.inj h
      intro segment hsegment d hd
      rcases List.mem_cons.mp hsegment with rfl | hsegment
      · have hacc := Segment.chars_subset_of_parseBracket? hfirst hd
        exact List.mem_append_left _ (List.mem_reverse.mp hacc)
      · have hcs := chars_subset_of_parseBrackets? hrest segment hsegment hd
        exact List.mem_append_right acc (List.mem_cons_of_mem c hcs)
    · intro segment hsegment d hd
      have hmem := chars_subset_of_parseInside? h segment hsegment hd
      simp only [List.cons_append, List.mem_cons, List.mem_append] at hmem ⊢
      tauto

end

theorem chars_subset_of_parsePart? {part : List Char} {path : Path}
    (h : parsePart? part = some path) : ∀ segment ∈ path, segment.chars ⊆ part := by
  have hname : part.takeWhile (· != '[') ⊆ part := (List.takeWhile_prefix _).subset
  have hbrackets : part.dropWhile (· != '[') ⊆ part := (List.dropWhile_suffix _).subset
  intro segment hsegment
  rw [parsePart?] at h
  split_ifs at h
  · exact List.Subset.trans (chars_subset_of_parseBrackets? h segment hsegment) hbrackets
  · obtain ⟨rest, hrest, rfl⟩ := Option.map_eq_some_iff.mp h
    rcases List.mem_cons.mp hsegment with rfl | hsegment
    · rw [Segment.chars, String.toList_ofList]
      exact hname
    · exact List.Subset.trans (chars_subset_of_parseBrackets? hrest segment hsegment) hbrackets

/-- All characters of a step stand together in one part. -/
theorem exists_part_of_parseParts? {parts : List (List Char)} {path : Path}
    (h : parseParts? parts = some path) :
    ∀ segment ∈ path, ∃ part ∈ parts, segment.chars ⊆ part := by
  induction parts generalizing path with
  | nil =>
    obtain rfl := Option.some.inj h
    simp
  | cons part parts ih =>
    obtain ⟨front, hfront, h⟩ := Option.bind_eq_some_iff.mp h
    obtain ⟨back, hback, h⟩ := Option.bind_eq_some_iff.mp h
    obtain rfl := Option.some.inj h
    intro segment hsegment
    rcases List.mem_append.mp hsegment with hsegment | hsegment
    · exact ⟨part, List.mem_cons_self, chars_subset_of_parsePart? hfront segment hsegment⟩
    · obtain ⟨part', hpart', hsubset⟩ := ih hback segment hsegment
      exact ⟨part', List.mem_cons_of_mem part hpart', hsubset⟩

/-- **No path that is read from a text has a key with a dot in it.** -/
theorem dot_notMem_of_parse? {text : String} {path : Path} (h : parse? text = some path)
    {name : String} (hname : .key name ∈ path) : '.' ∉ name.toList := by
  obtain ⟨part, hpart, hsubset⟩ := exists_part_of_parseParts? h _ hname
  exact fun hdot => Text.notMem_of_mem_splitOn hpart (hsubset hdot)

/-! ### A name and a key in quotes -/

/-- A name that stands for itself in the text of a path. -/
structure IsPlainName (name : String) : Prop where
  ne_empty : name ≠ ""
  dot_notMem : '.' ∉ name.toList
  bracket_notMem : '[' ∉ name.toList
  trim_eq : Text.trim name = name

instance (name : String) : Decidable (IsPlainName name) :=
  decidable_of_iff
    (name ≠ "" ∧ '.' ∉ name.toList ∧ '[' ∉ name.toList ∧ Text.trim name = name)
    ⟨fun h => ⟨h.1, h.2.1, h.2.2.1, h.2.2.2⟩,
      fun h => ⟨h.ne_empty, h.dot_notMem, h.bracket_notMem, h.trim_eq⟩⟩

namespace IsPlainName

variable {name : String} (h : IsPlainName name)

include h

theorem trimChars_eq : Text.trimChars name.toList = name.toList :=
  Text.trim_eq_self_iff.mp h.trim_eq

/-- A plain name is a part of its own. -/
theorem parsePart?_eq : parsePart? name.toList = some [.key name] := by
  have hplain : ∀ c ∈ name.toList, (c != '[') = true := by
    intro c hc
    rw [bne_iff_ne]
    rintro rfl
    exact h.bracket_notMem hc
  have hempty : name.toList.isEmpty = false := by simpa using h.ne_empty
  rw [parsePart?, List.takeWhile_eq_self_iff.mpr hplain, List.dropWhile_eq_nil_iff.mpr hplain,
    hempty, parseBrackets?, String.ofList_toList]
  rfl

theorem spells : Spells name [.key name] := by
  refine ⟨h.trim_eq, ?_⟩
  rw [parse?, h.trimChars_eq, List.splitOn_eq_singleton h.dot_notMem, parseParts?, h.parsePart?_eq]
  rfl

theorem exists_cons : ∃ c cs, name.toList = c :: cs ∧ Text.isBlank c = false := by
  obtain ⟨c, cs, hcons⟩ : ∃ c cs, name.toList = c :: cs :=
    List.exists_cons_of_ne_nil (by simpa using h.ne_empty)
  exact ⟨c, cs, hcons, Text.isBlank_head_of_trimChars_eq (hcons ▸ h.trimChars_eq)⟩

end IsPlainName

variable {name key : String}

/-- A key in quotes continues a path. -/
theorem Spells.quoted {text : String} {path : Path} (h : Spells text path)
    (hdot : '.' ∉ key.toList) (hclose : ']' ∉ key.toList) :
    Spells (text ++ ("[\"" ++ key ++ "\"]")) (path ++ [.key key]) := by
  have hlist : ("\"" ++ key ++ "\"").toList = '"' :: (key.toList ++ ['"']) := by simp
  have hspelled : text ++ ("[\"" ++ key ++ "\"]") =
      text ++ ("[" ++ ("\"" ++ key ++ "\"") ++ "]") :=
    String.toList_inj.mp (by simp)
  have hsegment := Segment.parseBracket?_quoted key.toList
  rw [String.ofList_toList, ← hlist] at hsegment
  rw [hspelled]
  exact h.bracket (by simp [hdot]) (by simp [hclose]) hsegment

/-- A key in quotes is read as it stands, if it has neither a dot nor a closing bracket. -/
theorem parse?_quoted (hname : IsPlainName name) (hdot : '.' ∉ key.toList)
    (hclose : ']' ∉ key.toList) :
    parse? (name ++ "[\"" ++ key ++ "\"]") = some [.key name, .key key] := by
  have hspells := hname.spells.quoted hdot hclose
  rw [← String.append_assoc, ← String.append_assoc] at hspells
  exact hspells.parse?_eq

/-- A bracket that is never closed. -/
theorem parseInside?_eq_none {cs : List Char} (h : ']' ∉ cs) (acc : List Char) :
    parseInside? acc cs = none := by
  induction cs generalizing acc with
  | nil => rfl
  | cons c cs ih =>
    obtain ⟨hc, hcs⟩ := not_or.mp (mt List.mem_cons.mpr h)
    rw [parseInside?, if_neg (Ne.symm hc), ih hcs]

/-- A dot between the quotes cuts the text while the bracket is open. -/
theorem parse?_quoted_of_dot (hname : IsPlainName name) (hdot : '.' ∈ key.toList)
    (hclose : ']' ∉ key.toList) : parse? (name ++ "[\"" ++ key ++ "\"]") = none := by
  obtain ⟨front, back, hkey, hfront⟩ := List.eq_append_cons_of_mem hdot
  obtain ⟨c, cs, hcons, hblank⟩ := hname.exists_cons
  have hopen : ']' ∉ '"' :: front := by
    rw [hkey, List.mem_append, not_or] at hclose
    simpa using hclose.1
  -- the text up to the first dot of the key, which is a part of its own
  let first := name.toList ++ '[' :: '"' :: front
  have htext : Text.trimChars (name ++ "[\"" ++ key ++ "\"]").toList =
      first ++ '.' :: (back ++ ['"', ']']) := by
    have htrimmed := Text.trimChars_cons_append_cons (d := ']') hblank (by decide)
      (cs ++ '[' :: '"' :: (front ++ '.' :: (back ++ ['"']))) []
    simpa [first, hcons, hkey] using htrimmed
  have hfirst : '.' ∉ first := by simp [first, hname.dot_notMem, hfront]
  have hpart : parsePart? first = none := by
    rw [parsePart?_append hname.parsePart?_eq, parseBrackets?, if_pos rfl,
      parseInside?_eq_none hopen]
    rfl
  rw [parse?, htext, List.splitOn_append_cons_self_of_not_mem hfirst, parseParts?, hpart]
  rfl

end Path

/-- **A key in quotes leads to the field with that key, unless it has a dot in it.** Let a plain
name be that of an object among the attributes. The name and a key in quotes and brackets behind it,
with no closing bracket inside, find what the object holds under the key. If there is a dot in the
key, they find nothing, and no text at all spells a path with this key. -/
theorem quoted_key_is_found_unless_dotted {attributes fields : Fields} {name : String}
    (hname : Path.IsPlainName name) (hobject : attributes.get? name = some (.object fields))
    {key : String} (hclose : ']' ∉ key.toList) :
    ('.' ∉ key.toList →
      Path.find? attributes (name ++ "[\"" ++ key ++ "\"]") = fields.get? key) ∧
    ('.' ∈ key.toList →
      Path.find? attributes (name ++ "[\"" ++ key ++ "\"]") = none ∧
        ∀ text path, Path.parse? text = some path → .key key ∉ path) := by
  constructor
  · intro hdot
    rw [Path.find?, Path.parse?_quoted hname hdot hclose, Option.bind_some, Path.lookup?, hobject,
      Option.bind_some, Path.resolve?_key]
    cases fields.get? key <;> rfl
  · intro hdot
    refine ⟨?_, fun text path hpath hmem => Path.dot_notMem_of_parse? hpath hmem hdot⟩
    rw [Path.find?, Path.parse?_quoted_of_dot hname hdot hclose, Option.bind_none]

/-- A key with a blank, a slash, a quote and an opening bracket, the empty key, and a key with a
dot. -/
theorem quoted_key_is_found_unless_dotted_example :
    let tags : Fields := [("a /\"[", .int 1), ("", .int 2), ("a.b", .int 3)]
    let attributes : Fields := [("name", .null), ("tags", .object tags)]
    Path.IsPlainName "tags" ∧ attributes.get? "tags" = some (.object tags) ∧
      Path.find? attributes ("tags" ++ "[\"" ++ "a /\"[" ++ "\"]") = some (.int 1) ∧
      Path.find? attributes ("tags" ++ "[\"" ++ "" ++ "\"]") = some (.int 2) ∧
      Path.find? attributes ("tags" ++ "[\"" ++ "a.b" ++ "\"]") = none := by
  intro tags attributes
  have hname : Path.IsPlainName "tags" :=
    ⟨by decide, by decide +kernel, by decide +kernel, by decide +kernel⟩
  have hobject : attributes.get? "tags" = some (.object tags) := rfl
  have hkey := @quoted_key_is_found_unless_dotted attributes tags "tags" hname hobject
  refine ⟨hname, hobject, ?_, ?_, ?_⟩
  · rw [(hkey (by decide +kernel)).1 (by decide +kernel)]
    rfl
  · rw [(hkey (by decide +kernel)).1 (by decide +kernel)]
    rfl
  · exact ((hkey (by decide +kernel)).2 (by decide +kernel)).1

/-- A tag with a dot in its key is there and is not found under its key. -/
theorem dotted_key_in_quotes_is_not_found :
    let key := "kubernetes.io/role"
    let tags : Fields := [(key, .string "node")]
    let attributes : Fields := [("tags", .object tags)]
    Path.IsPlainName "tags" ∧ attributes.get? "tags" = some (.object tags) ∧
      ']' ∉ key.toList ∧ '"' ∉ key.toList ∧ tags.get? key = some (.string "node") ∧
      Path.find? attributes "tags[\"kubernetes.io/role\"]" = none := by
  intro key tags attributes
  have hname : Path.IsPlainName "tags" :=
    ⟨by decide, by decide +kernel, by decide +kernel, by decide +kernel⟩
  have hparse : Path.parse? "tags[\"kubernetes.io/role\"]" = none := by decide +kernel
  refine ⟨hname, rfl, by decide +kernel, by decide +kernel, rfl, ?_⟩
  rw [Path.find?, hparse]
  rfl

end InfraPolicy
