import InfraPolicy.Proofs.Lookup
import InfraPolicy.Proofs.SplitText
import InfraPolicy.Proofs.TrimmedText

/-!
# Texts of paths put together

A path that is read from a text can be continued by more text. Behind a bracketed step the reader
forgets what came before: the step may be replaced by another one, and what is read after it stays
the same, whether it is well formed or not (`Path.parse?_bracket`). To a text without blanks around
it (`Path.Spells`) a step in brackets adds itself, and a dot puts the path of another text behind.

So a wildcard and an index are followed by the same path, and a wildcard gathers what the indices
find one by one.
-/

namespace InfraPolicy

/-! ### Text -/

section Scans

variable {p : Char → Bool} {c : Char}

/-- Dropping stops at the latest at a character that is not dropped. -/
theorem dropWhile_append_cons (h : p c = false) (xs ys : List Char) :
    (xs ++ c :: ys).dropWhile p = xs.dropWhile p ++ c :: ys := by
  rw [List.dropWhile_append]
  split_ifs with hall
  · rw [List.isEmpty_iff.mp hall, List.dropWhile_cons_of_neg (by simp [h]), List.nil_append]
  · rfl

theorem takeWhile_append_cons (h : p c = false) (xs ys : List Char) :
    (xs ++ c :: ys).takeWhile p = xs.takeWhile p := by
  rw [List.takeWhile_append]
  split_ifs with hall
  · rw [List.takeWhile_cons_of_neg (by simp [h]), List.append_nil,
      (List.takeWhile_prefix p).eq_of_length hall]
  · rfl

end Scans

namespace Text

/-- Trimming text that begins with no blank trims what follows its last character that is known to
be none. -/
theorem trimChars_cons_append_cons {c d : Char} (hc : isBlank c = false) (hd : isBlank d = false)
    (between back : List Char) :
    trimChars (c :: (between ++ d :: back)) =
      c :: (between ++ d :: back.rdropWhile isBlank) := by
  have hsplit : (c :: (between ++ d :: back)).reverse =
      back.reverse ++ d :: (c :: between).reverse := by simp
  rw [trimChars, List.dropWhile_cons_of_neg (by simp [hc]), hsplit, dropWhile_append_cons hd,
    List.rdropWhile]
  simp

end Text

/-! ### Steps in brackets -/

namespace Segment

theorem isBlank_of_isDigit {c : Char} (h : Number.isDigit c = true) : Text.isBlank c = false := by
  have hrange : 48 ≤ c.toNat ∧ c.toNat ≤ 57 := by
    simpa [Number.isDigit, Char.le_def, UInt32.le_iff_toNat_le] using h
  simp [Text.isBlank]
  omega

/-- An index is read from its digits. -/
theorem parseBracket?_toDigits {n : Nat} (h : n < Number.twoTo 64) :
    parseBracket? (Nat.toDigits 10 n) = some (.index n) := by
  have hdigit : ∀ {c}, c ∈ Nat.toDigits 10 n → Number.isDigit c = true :=
    fun hc => Number.isDigit_of_mem_toDigits hc
  have htrim : Text.trimChars (Nat.toDigits 10 n) = Nat.toDigits 10 n :=
    Text.trimChars_eq_self (fun _ hc => isBlank_of_isDigit (hdigit (List.mem_of_head? hc)))
      fun _ hc => isBlank_of_isDigit (hdigit (List.mem_of_getLast? hc))
  have hhead : ∀ {c} {cs : List Char}, Number.isDigit c = false → Nat.toDigits 10 n ≠ c :: cs := by
    intro c cs hc hcons
    have hmem : c ∈ Nat.toDigits 10 n := hcons ▸ List.mem_cons_self
    simp [hdigit hmem] at hc
  have hquoted : quoted? (Nat.toDigits 10 n) = none := by
    rw [quoted?]
    exact fun _ => hhead (by decide)
  have hindex : index? (Nat.toDigits 10 n) = some n := by
    rw [index?, Number.readNat?_toDigits]
    · exact if_pos h
    · exact fun _ => hhead (by decide)
  rw [parseBracket?, htrim, if_neg (hhead (by decide)), hquoted, hindex]
  rfl

end Segment

namespace Path

/-- A step in brackets that is closed is read as such, and what follows it is read on its own. -/
theorem parseInside?_append_close {inner : List Char} (h : ']' ∉ inner) (acc rest : List Char) :
    parseInside? acc (inner ++ ']' :: rest) =
      (Segment.parseBracket? (acc.reverse ++ inner)).bind fun segment =>
        (parseBrackets? rest).map (segment :: ·) := by
  induction inner generalizing acc with
  | nil =>
    rw [List.nil_append, parseInside?, if_pos rfl, List.append_nil]
    cases Segment.parseBracket? acc.reverse <;> cases parseBrackets? rest <;> rfl
  | cons c cs ih =>
    obtain ⟨hc, hcs⟩ := not_or.mp (mt List.mem_cons.mpr h)
    rw [List.cons_append, parseInside?, if_neg (Ne.symm hc), ih hcs, List.reverse_cons,
      List.append_assoc, List.singleton_append]

theorem parseBrackets?_cons {inner : List Char} (h : ']' ∉ inner) (rest : List Char) :
    parseBrackets? ('[' :: (inner ++ ']' :: rest)) =
      (Segment.parseBracket? inner).bind fun segment =>
        (parseBrackets? rest).map (segment :: ·) := by
  rw [parseBrackets?, if_pos rfl, parseInside?_append_close h]
  rfl

mutual

/-- Behind steps that are read to their end, the reader goes on as from the start. -/
theorem parseBrackets?_append : ∀ {front : List Char} {path : Path},
    parseBrackets? front = some path → ∀ back : List Char,
      parseBrackets? (front ++ back) = (parseBrackets? back).map (path ++ ·)
  | [], path, h, back => by
    obtain rfl := Option.some.inj h
    simp
  | c :: cs, path, h, back => by
    rw [parseBrackets?] at h
    split_ifs at h with hc
    rw [List.cons_append, parseBrackets?, if_pos hc]
    exact parseInside?_append h back

theorem parseInside?_append : ∀ {acc front : List Char} {path : Path},
    parseInside? acc front = some path → ∀ back : List Char,
      parseInside? acc (front ++ back) = (parseBrackets? back).map (path ++ ·)
  | acc, [], path, h, back => by simp [parseInside?] at h
  | acc, c :: cs, path, h, back => by
    rw [parseInside?] at h
    rw [List.cons_append, parseInside?]
    split_ifs at h ⊢ with hc
    · obtain ⟨segment, hsegment, h⟩ := Option.bind_eq_some_iff.mp h
      obtain ⟨rest, hrest, h⟩ := Option.bind_eq_some_iff.mp h
      obtain rfl := Option.some.inj h
      rw [hsegment, parseBrackets?_append hrest back]
      cases parseBrackets? back <;> rfl
    · exact parseInside?_append h back

end

/-! ### Parts -/

/-- A part is continued by brackets. -/
theorem parsePart?_append {part : List Char} {path : Path} (h : parsePart? part = some path)
    (more : List Char) :
    parsePart? (part ++ '[' :: more) = (parseBrackets? ('[' :: more)).map (path ++ ·) := by
  have hname : (part ++ '[' :: more).takeWhile (· != '[') = part.takeWhile (· != '[') :=
    takeWhile_append_cons (by decide) part more
  have hbrackets : (part ++ '[' :: more).dropWhile (· != '[') =
      part.dropWhile (· != '[') ++ '[' :: more :=
    dropWhile_append_cons (by decide) part more
  have hsome : (part.dropWhile (· != '[') ++ '[' :: more).isEmpty = false := by simp
  rw [parsePart?] at h ⊢
  rw [hname, hbrackets, hsome, if_neg Bool.false_ne_true]
  by_cases hempty : (part.takeWhile (· != '[')).isEmpty = true
  · rw [if_pos hempty] at h ⊢
    split_ifs at h
    exact parseBrackets?_append h _
  · rw [if_neg hempty] at h ⊢
    obtain ⟨brackets, hbrackets, rfl⟩ := Option.map_eq_some_iff.mp h
    rw [parseBrackets?_append hbrackets, Option.map_map]
    rfl

theorem parseParts?_append (front back : List (List Char)) :
    parseParts? (front ++ back) =
      (parseParts? front).bind fun path => (parseParts? back).map (path ++ ·) := by
  induction front with
  | nil =>
    rw [List.nil_append, parseParts?]
    simp
  | cons part parts ih =>
    rw [List.cons_append, parseParts?, parseParts?, ih]
    cases parsePart? part with
    | none => rfl
    | some segments =>
      cases parseParts? parts with
      | none => rfl
      | some path => cases parseParts? back <;> simp

/-- What is read from the part that a closed bracket leaves open, and from the parts after it. -/
def parseBehind? : List (List Char) → Option Path
  | [] => none
  | part :: parts => do
    let segments ← parseBrackets? part
    let rest ← parseParts? parts
    some (segments ++ rest)

/-- A step in brackets is put behind parts that spell a path. -/
theorem parseParts?_bracket {front behind : List (List Char)} {last part inner : List Char}
    {path : Path} {segment : Segment} (hpath : parseParts? (front ++ [last]) = some path)
    (hclose : ']' ∉ inner) (hinner : Segment.parseBracket? inner = some segment) :
    parseParts? (front ++ (last ++ '[' :: (inner ++ ']' :: part)) :: behind) =
      (parseBehind? (part :: behind)).map (path ++ segment :: ·) := by
  rw [parseParts?_append] at hpath
  obtain ⟨before, hbefore, hpath⟩ := Option.bind_eq_some_iff.mp hpath
  obtain ⟨after, hafter, rfl⟩ := Option.map_eq_some_iff.mp hpath
  obtain ⟨segments, hlast, hafter⟩ := Option.bind_eq_some_iff.mp hafter
  obtain rfl : segments = after := by simpa [parseParts?] using hafter
  rw [parseParts?_append, hbefore, Option.bind_some, parseParts?, parsePart?_append hlast,
    parseBrackets?_cons hclose, hinner, parseBehind?]
  cases parseBrackets? part with
  | none => rfl
  | some brackets => cases parseParts? behind <;> simp

/-! ### Texts -/

/-- **A step in brackets between two texts.** Behind a text without blanks around it that spells a
path the step is added to the path, and what follows is read without regard to it. -/
theorem parse?_bracket {p : String} {path : Path} (htrim : Text.trim p = p)
    (hpath : parse? p = some path) {inner : List Char} {segment : Segment} (hdot : '.' ∉ inner)
    (hclose : ']' ∉ inner) (hinner : Segment.parseBracket? inner = some segment) (q : String) :
    parse? (p ++ "[" ++ String.ofList inner ++ "]" ++ q) =
      (parseBehind? ((q.toList.rdropWhile Text.isBlank).splitOn '.')).map
        (path ++ segment :: ·) := by
  have hp : Text.trimChars p.toList = p.toList := Text.trim_eq_self_iff.mp htrim
  rw [parse?, hp] at hpath
  -- `p` is not empty and does not begin with a blank, so trimming touches only the end of `q`.
  obtain ⟨c, cs, hcons⟩ : ∃ c cs, p.toList = c :: cs := by
    refine List.exists_cons_of_ne_nil fun hnil => ?_
    simp [hnil, parseParts?, parsePart?] at hpath
  have hblank : Text.isBlank c = false := Text.isBlank_head_of_trimChars_eq (hcons ▸ hp)
  have htext : Text.trimChars (p ++ "[" ++ String.ofList inner ++ "]" ++ q).toList =
      p.toList ++ (('[' :: (inner ++ [']'])) ++ q.toList.rdropWhile Text.isBlank) := by
    have htrimmed := Text.trimChars_cons_append_cons (d := ']') hblank (by decide)
      (cs ++ '[' :: inner) q.toList
    simpa [hcons] using htrimmed
  -- The step has no dot inside, so it lies within the part that the last of `p` and the first of
  -- `q` make together.
  obtain ⟨front, last, hfront⟩ :=
    (List.eq_nil_or_concat' (p.toList.splitOn '.')).resolve_left (List.splitOn_ne_nil _ _)
  obtain ⟨part, behind, hbehind⟩ := List.exists_cons_of_ne_nil
    (List.splitOn_ne_nil '.' (q.toList.rdropWhile Text.isBlank))
  have hstep : ('[' :: (inner ++ [']'])).splitOn '.' = [] ++ ['[' :: (inner ++ [']'])] :=
    List.splitOn_eq_singleton (by simp [hdot])
  rw [hfront] at hpath
  rw [parse?, htext, Text.splitOn_append_of_eq hfront (Text.splitOn_append_of_eq hstep hbehind),
    hbehind, ← parseParts?_bracket hpath hclose hinner]
  simp

/-- Blanks around a text make no difference. -/
theorem parse?_append_append {before after : String} (hbefore : Text.isBlankText before = true)
    (hafter : Text.isBlankText after = true) (text : String) :
    parse? (before ++ text ++ after) = parse? text := by
  rw [parse?, parse?, String.toList_append, String.toList_append,
    Text.trimChars_append_append (List.all_eq_true.mp hbefore) (List.all_eq_true.mp hafter)]

/-- A text spells a path and has no blanks around it, so that more text can be put behind it. -/
structure Spells (text : String) (path : Path) : Prop where
  trim_eq : Text.trim text = text
  parse?_eq : parse? text = some path

namespace Spells

variable {text : String} {path : Path}

theorem parseParts?_eq (h : Spells text path) :
    parseParts? (text.toList.splitOn '.') = some path := by
  have hparse := h.parse?_eq
  rwa [parse?, Text.trim_eq_self_iff.mp h.trim_eq] at hparse

theorem ne_empty (h : Spells text path) : text ≠ "" := by
  rintro rfl
  have hnone : parse? "" = none := by decide +kernel
  exact absurd (hnone.symm.trans h.parse?_eq) (Option.some_ne_none path).symm

/-- A step in brackets continues a path. -/
theorem bracket (h : Spells text path) {inner : String} {segment : Segment}
    (hdot : '.' ∉ inner.toList) (hclose : ']' ∉ inner.toList)
    (hinner : Segment.parseBracket? inner.toList = some segment) :
    Spells (text ++ ("[" ++ inner ++ "]")) (path ++ [segment]) := by
  have hback : Text.trim "]" = "]" := by decide +kernel
  have hspelled : text ++ ("[" ++ inner ++ "]") =
      text ++ "[" ++ String.ofList inner.toList ++ "]" ++ "" :=
    String.toList_inj.mp (by simp)
  refine ⟨Text.trim_between h.trim_eq hback h.ne_empty (by decide) ("[" ++ inner), ?_⟩
  rw [hspelled, parse?_bracket h.trim_eq h.parse?_eq hdot hclose hinner]
  rfl

/-- A dot between two texts puts their paths together. -/
theorem dot (h : Spells text path) {more : String} {rest : Path} (hmore : Spells more rest) :
    Spells (text ++ ("." ++ more)) (path ++ rest) := by
  have htrim := Text.trim_between h.trim_eq hmore.trim_eq h.ne_empty hmore.ne_empty "."
  have hlist : (text ++ ("." ++ more)).toList = text.toList ++ '.' :: more.toList := by simp
  refine ⟨htrim, ?_⟩
  rw [parse?, Text.trim_eq_self_iff.mp htrim, hlist, List.splitOn_append_cons_self,
    parseParts?_append, h.parseParts?_eq, hmore.parseParts?_eq]
  rfl

end Spells

/-! ### Wildcards and indices -/

/-- A wildcard gathers what the indices find one by one. -/
theorem filterMap_resolve?_index (rest : Path) (items : List Value) :
    (List.range items.length).filterMap (fun i => resolve? (.index i :: rest) (.list items)) =
      items.filterMap (resolve? rest) := by
  simp only [resolve?_index]
  induction items with
  | nil => rfl
  | cons v items ih =>
    rw [List.length_cons, List.range_succ_eq_map, List.filterMap_cons, List.filterMap_cons,
      List.filterMap_map]
    simp only [Function.comp_def, List.getElem?_cons_succ, ih]
    rfl

variable {attributes : Fields} {p : String} {items : List Value}

/-- Behind a path to a list a step in brackets goes into the list. -/
theorem find?_bracket (htrim : Text.trim p = p)
    (hplain : ∀ path, parse? p = some path → .wildcard ∉ path)
    (hfound : find? attributes p = some (.list items)) {inner : List Char} {segment : Segment}
    (hdot : '.' ∉ inner) (hclose : ']' ∉ inner)
    (hinner : Segment.parseBracket? inner = some segment) (q : String) :
    find? attributes (p ++ "[" ++ String.ofList inner ++ "]" ++ q) =
      (parseBehind? ((q.toList.rdropWhile Text.isBlank).splitOn '.')).bind fun rest =>
        resolve? (segment :: rest) (.list items) := by
  obtain ⟨path, hpath, hfollows⟩ := exists_path_of_find? hfound
  rw [hfollows] at hfound
  rw [find?, parse?_bracket htrim hpath hdot hclose hinner, Option.bind_map]
  refine congrArg _ (funext fun rest => ?_)
  have hlookup : lookup? (path ++ segment :: rest) attributes =
      resolve? (path ++ segment :: rest) (.object attributes) := by
    cases path with
    | nil => simp at hfound
    | cons first path => exact lookup?_cons first _ attributes
  rw [Function.comp_apply, hlookup, resolve?_append (hplain path hpath), hfound, Option.bind_some]

end Path

/-- **A wildcard finds what the indices find.** Let a text without blanks around it spell a path
without wildcards, which leads to a list. Put a wildcard in brackets behind it and any further text,
well formed or not. Then the list of all that is found with an index in the place of the wildcard,
one index after another, is found, or nothing if no index finds anything. The list has at most
`2 ^ 64` items, as every list in a machine has. -/
theorem wildcard_finds_what_indices_find {attributes : Fields} {p : String} {items : List Value}
    (htrim : Text.trim p = p) (hplain : ∀ path, Path.parse? p = some path → .wildcard ∉ path)
    (hfound : Path.find? attributes p = some (.list items))
    (hsize : items.length ≤ Number.twoTo 64) (q : String) :
    let found := (List.range items.length).filterMap fun i =>
      Path.find? attributes (p ++ "[" ++ toString i ++ "]" ++ q)
    Path.find? attributes (p ++ "[*]" ++ q) = if found = [] then none else some (.list found) := by
  intro found
  let behind := Path.parseBehind? ((q.toList.rdropWhile Text.isBlank).splitOn '.')
  have hstar : Path.find? attributes (p ++ "[*]" ++ q) =
      behind.bind fun rest => Path.resolve? (.wildcard :: rest) (.list items) := by
    have hspelled : p ++ "[*]" ++ q = p ++ "[" ++ String.ofList ['*'] ++ "]" ++ q :=
      String.toList_inj.mp (by simp)
    rw [hspelled]
    exact Path.find?_bracket htrim hplain hfound (by decide) (by decide) (by decide +kernel) q
  have hindices : found = (List.range items.length).filterMap fun i =>
      behind.bind fun rest => Path.resolve? (.index i :: rest) (.list items) := by
    refine List.filterMap_congr fun i hi => ?_
    have hi : i < Number.twoTo 64 := (List.mem_range.mp hi).trans_le hsize
    have hspelled : toString i = String.ofList (Nat.toDigits 10 i) := by
      rw [← Nat.toList_repr, String.ofList_toList]
      rfl
    have hdigit : ∀ {c}, c ∈ Nat.toDigits 10 i → Number.isDigit c = true :=
      fun hc => Number.isDigit_of_mem_toDigits hc
    rw [hspelled]
    exact Path.find?_bracket htrim hplain hfound (fun hc => absurd (hdigit hc) (by decide))
      (fun hc => absurd (hdigit hc) (by decide)) (Segment.parseBracket?_toDigits hi) q
  rw [hstar, hindices]
  -- A malformed `q` spoils every one of the texts.
  cases behind with
  | none => simp
  | some rest =>
    simp only [Option.bind_some, Path.filterMap_resolve?_index]
    exact Path.resolve?_wildcard rest items

/-- A list with an open item, a text and an object without ports, behind a key in quotes. With
another wildcard behind it two of its items lead on, with a bracket that is not closed none. -/
theorem wildcard_finds_what_indices_find_example :
    let ports : Value := .list [.int 22, .int 80]
    let items : List Value := [.object [("ports", ports)], .unknown, .string "x", .object []]
    let attributes : Fields := [("group", .object [("in bound", .list items)])]
    let p := "group[\"in bound\"]"
    let found (q : String) := (List.range items.length).filterMap fun i =>
      Path.find? attributes (p ++ "[" ++ toString i ++ "]" ++ q)
    Text.trim p = p ∧ Path.parse? p = some [.key "group", .key "in bound"] ∧
      Path.find? attributes p = some (.list items) ∧
      Path.find? attributes (p ++ "[*]" ++ ".ports[*] ") = some (.list [ports, .unknown]) ∧
      found ".ports[*] " = [ports, .unknown] ∧ found ".ports[" = [] := by
  intro ports items attributes p found
  have htrim : Text.trim p = p := by decide +kernel
  have hpath : Path.parse? p = some [.key "group", .key "in bound"] := by decide +kernel
  have hplain : ∀ path, Path.parse? p = some path → .wildcard ∉ path := by
    intro path h
    obtain rfl := Option.some.inj (hpath.symm.trans h)
    decide
  have hfound : Path.find? attributes p = some (.list items) := by
    rw [Path.find?, hpath]
    rfl
  have hagrees := wildcard_finds_what_indices_find htrim hplain hfound (by decide)
  have hports : Path.find? attributes (p ++ "[*]" ++ ".ports[*] ") =
      some (.list [ports, .unknown]) := by
    have hread : Path.parse? (p ++ "[*]" ++ ".ports[*] ") =
        some [.key "group", .key "in bound", .wildcard, .key "ports", .wildcard] := by
      decide +kernel
    rw [Path.find?, hread]
    rfl
  have hmalformed : Path.find? attributes (p ++ "[*]" ++ ".ports[") = none := by
    have hread : Path.parse? (p ++ "[*]" ++ ".ports[") = none := by decide +kernel
    rw [Path.find?, hread]
    rfl
  refine ⟨htrim, hpath, hfound, hports, ?_, ?_⟩
  · have h := hports.symm.trans (hagrees ".ports[*] ")
    split_ifs at h
    exact (Value.list.inj (Option.some.inj h)).symm
  · have h := hmalformed.symm.trans (hagrees ".ports[")
    split_ifs at h with hnone
    exact hnone

end InfraPolicy
