import InfraPolicy.Proofs.PathText
import InfraPolicy.Resource.Message
import Mathlib.Data.List.Infix

/-!
# Well-formed templates

A template is well formed if it is literals and placeholders in turn, where a literal has no double
brace and a placeholder names a property of the resource, with blanks around the name or without.
`Message.Layout` is such a sequence, and only such sequences can be built.

A text is the text of one layout at most (`Message.Layout.eq_of_text_eq`): braces may run together
where a literal meets a placeholder, but of three opening braces the last two begin the placeholder.
For the same reason a search for placeholders from left to right cuts the text where its layout does
(`Message.ofChars_text`). So a message is filled in if its template has a layout, and left alone
otherwise.
-/

namespace InfraPolicy

/-! ### Searching text -/

namespace Text

variable {cs part : List Char}

/-- The search finds the texts that stand somewhere in a row. -/
theorem hasInfix_iff : hasInfix cs part = true ↔ part <:+: cs := by
  induction cs with
  | nil => simp [hasInfix, List.infix_nil]
  | cons c cs ih =>
    rw [hasInfix, Bool.or_eq_true, List.isPrefixOf_iff_prefix, ih, List.infix_cons_iff]

end Text

namespace Message

/-! ### Literals -/

/-- Neither two opening nor two closing braces in a row. -/
def Plain (cs : List Char) : Prop :=
  ¬['{', '{'] <:+: cs ∧ ¬['}', '}'] <:+: cs

/-- The check for literals finds those without double braces. -/
theorem isPlain_iff {cs : List Char} : isPlain cs = true ↔ Plain cs := by
  rw [isPlain, Bool.and_eq_true, Bool.not_eq_true', Bool.not_eq_true', Bool.eq_false_iff,
    Bool.eq_false_iff, ne_eq, ne_eq, Text.hasInfix_iff, Text.hasInfix_iff, Plain]

theorem Plain.tail {c : Char} {cs : List Char} (h : Plain (c :: cs)) : Plain cs :=
  ⟨fun hinfix => h.1 (List.infix_cons hinfix), fun hinfix => h.2 (List.infix_cons hinfix)⟩

/-- A literal does not begin with two opening braces. -/
theorem Plain.ne_braces {cs rest : List Char} (h : Plain cs) : cs ≠ '{' :: '{' :: rest := by
  rintro rfl
  exact h.1 ⟨[], rest, rfl⟩

/-! ### Placeholders -/

/-- The properties of a resource that a message can show. -/
inductive Property where
  | resourceName
  | resourceType
  | file
  | line
deriving DecidableEq, Repr

namespace Property

/-- The name of a property as templates spell it. -/
def name : Property → List Char
  | .resourceName => "resource_name".toList
  | .resourceType => "resource_type".toList
  | .file => "file".toList
  | .line => "line".toList

/-- What a property is for a resource. -/
def of (r : Resource) : Property → String
  | .resourceName => r.name
  | .resourceType => r.kind
  | .file => r.location.file
  | .line => toString r.location.line

theorem name_injective : Function.Injective name := by
  intro p q
  cases p <;> cases q <;> decide

theorem name_ne_nil (p : Property) : p.name ≠ [] := by
  cases p <;> decide

theorem isNameChar_of_mem_name (p : Property) : ∀ c ∈ p.name, isNameChar c = true := by
  have hall : p.name.all isNameChar = true := by cases p <;> decide
  exact List.all_eq_true.mp hall

end Property

/-- A property is found by its name. -/
theorem property?_name (r : Resource) (p : Property) : property? r p.name = some (p.of r) := by
  cases p <;> rfl

/-- Nothing else is found than the properties. -/
theorem exists_of_property? {r : Resource} {name : List Char} {value : String}
    (h : property? r name = some value) : ∃ p : Property, p.name = name := by
  rw [property?] at h
  split_ifs at h with hname hkind hfile hline
  · exact ⟨.resourceName, hname.symm⟩
  · exact ⟨.resourceType, hkind.symm⟩
  · exact ⟨.file, hfile.symm⟩
  · exact ⟨.line, hline.symm⟩

theorem isBlank_of_isNameChar {c : Char} (h : isNameChar c = true) : Text.isBlank c = false := by
  have hrange : (97 ≤ c.toNat ∧ c.toNat ≤ 122) ∨ (65 ≤ c.toNat ∧ c.toNat ≤ 90) ∨ c.toNat = 95 := by
    simpa [isNameChar, Char.le_def, UInt32.le_iff_toNat_le, Char.ext_iff, UInt32.toNat_inj.symm,
      or_assoc] using h
  simp [Text.isBlank]
  omega

/-- What a scan takes and what it leaves, of a text that is put together at the place where it
stops. -/
theorem scan_append {p : Char → Bool} {xs ys : List Char} (hxs : ∀ c ∈ xs, p c = true)
    (hys : ∀ c, ys.head? = some c → p c = false) :
    (xs ++ ys).takeWhile p = xs ∧ (xs ++ ys).dropWhile p = ys := by
  rw [List.takeWhile_append_of_pos hxs, List.dropWhile_append_of_pos hxs]
  cases ys with
  | nil => simp
  | cons c cs =>
    have hc : ¬p c = true := by simp [hys c rfl]
    rw [List.takeWhile_cons_of_neg hc, List.dropWhile_cons_of_neg hc, List.append_nil]
    exact ⟨rfl, rfl⟩

/-- A name between double braces, with blanks around it. -/
def enclosed (before name after : List Char) : List Char :=
  '{' :: '{' :: (before ++ (name ++ (after ++ ['}', '}'])))

section Enclosed

variable {before name after rest : List Char}

theorem isBlank_head_name (hname : ∀ c ∈ name, isNameChar c = true) (hne : name ≠ [])
    (rest : List Char) (c : Char) (hc : (name ++ rest).head? = some c) :
    Text.isBlank c = false := by
  cases name with
  | nil => exact absurd rfl hne
  | cons d ds =>
    obtain rfl : d = c := Option.some.inj hc
    exact isBlank_of_isNameChar (hname d List.mem_cons_self)

theorem isNameChar_head_after (hafter : ∀ c ∈ after, Text.isBlank c = true) (rest : List Char)
    (c : Char) (hc : (after ++ '}' :: rest).head? = some c) : isNameChar c = false := by
  cases after with
  | nil =>
    obtain rfl : '}' = c := Option.some.inj hc
    decide
  | cons d ds =>
    obtain rfl : d = c := Option.some.inj hc
    refine Bool.eq_false_iff.mpr fun hchar => ?_
    have hblank := hafter d List.mem_cons_self
    rw [isBlank_of_isNameChar hchar] at hblank
    exact Bool.false_ne_true hblank

/-- A placeholder is found where one stands. -/
theorem placeholder?_enclosed (hbefore : ∀ c ∈ before, Text.isBlank c = true)
    (hname : ∀ c ∈ name, isNameChar c = true) (hne : name ≠ [])
    (hafter : ∀ c ∈ after, Text.isBlank c = true) (rest : List Char) :
    placeholder? (enclosed before name after ++ rest) = some (name, rest) := by
  have hwhole : enclosed before name after ++ rest =
      '{' :: '{' :: (before ++ (name ++ (after ++ '}' :: '}' :: rest))) := by
    simp [enclosed]
  have hclose : ∀ c, ('}' :: '}' :: rest).head? = some c → Text.isBlank c = false := by
    intro c hc
    obtain rfl : '}' = c := Option.some.inj hc
    decide
  obtain ⟨-, hbody⟩ :=
    scan_append hbefore (isBlank_head_name hname hne (after ++ '}' :: '}' :: rest))
  obtain ⟨hread, hleft⟩ := scan_append hname (isNameChar_head_after hafter ('}' :: rest))
  obtain ⟨-, hend⟩ := scan_append hafter hclose
  rw [hwhole, placeholder?, hbody, hleft, hend, hread]
  rfl

/-- Where a placeholder is found, there are double braces around a name. -/
theorem exists_enclosed_of_placeholder? {cs : List Char} (h : placeholder? cs = some (name, rest)) :
    ∃ before after, (∀ c ∈ before, Text.isBlank c = true) ∧
      (∀ c ∈ after, Text.isBlank c = true) ∧ cs = enclosed before name after ++ rest := by
  unfold placeholder? at h
  split at h
  · next text =>
    dsimp only at h
    split at h
    · next tail heq =>
      obtain ⟨rfl, rfl⟩ := Prod.ext_iff.mp (Option.some.inj h)
      refine ⟨text.takeWhile Text.isBlank,
        ((text.dropWhile Text.isBlank).dropWhile isNameChar).takeWhile Text.isBlank,
        fun c => List.mem_takeWhile_imp, fun c => List.mem_takeWhile_imp, ?_⟩
      simp only [enclosed, List.cons_append, List.append_assoc, List.nil_append]
      rw [← heq, List.takeWhile_append_dropWhile, List.takeWhile_append_dropWhile,
        List.takeWhile_append_dropWhile]
    · cases h
  · cases h

end Enclosed

/-- A placeholder as it stands in a template. -/
structure Slot where
  before : List Char
  property : Property
  after : List Char
  before_blank : ∀ c ∈ before, Text.isBlank c = true
  after_blank : ∀ c ∈ after, Text.isBlank c = true

namespace Slot

variable {s s' : Slot} {rest rest' : List Char}

/-- A slot as it is written: the name in double braces, with blanks around it. -/
def text (s : Slot) : List Char :=
  enclosed s.before s.property.name s.after

/-- A slot is read as its name, whatever follows. -/
theorem placeholder?_text (s : Slot) (rest : List Char) :
    placeholder? (s.text ++ rest) = some (s.property.name, rest) :=
  placeholder?_enclosed s.before_blank s.property.isNameChar_of_mem_name s.property.name_ne_nil
    s.after_blank rest

/-- The text tells where a placeholder ends and what it is. -/
theorem eq_of_text_append_eq (h : s.text ++ rest = s'.text ++ rest') : s = s' ∧ rest = rest' := by
  have hread := congrArg placeholder? h
  rw [placeholder?_text, placeholder?_text] at hread
  obtain ⟨hname, rfl⟩ := Prod.ext_iff.mp (Option.some.inj hread)
  have htext : s.text = s'.text := List.append_cancel_right h
  obtain ⟨before, property, after, hbefore, hafter⟩ := s
  obtain ⟨before', property', after', hbefore', hafter'⟩ := s'
  obtain rfl : property = property' := Property.name_injective hname
  simp only [text, enclosed, List.cons.injEq, true_and] at htext
  -- no name begins with a blank, so the blanks before it are those that a scan takes
  have hscan {xs ys : List Char} (hxs : ∀ c ∈ xs, Text.isBlank c = true) :
      (xs ++ (property.name ++ ys)).takeWhile Text.isBlank = xs :=
    (scan_append hxs (isBlank_head_name property.isNameChar_of_mem_name property.name_ne_nil ys)).1
  obtain rfl : before = before' := by
    rw [← hscan hbefore, htext, hscan hbefore']
  have hrest := List.append_cancel_left (List.append_cancel_left htext)
  obtain rfl : after = after' := List.append_cancel_right hrest
  exact ⟨rfl, rfl⟩

end Slot

/-! ### Layouts -/

/-- Literals and placeholders in turn. -/
inductive Layout where
  | last (literal : List Char) (plain : Plain literal)
  | slot (literal : List Char) (plain : Plain literal) (s : Slot) (rest : Layout)

namespace Layout

/-- A layout as it is written. -/
def text : Layout → List Char
  | .last literal _ => literal
  | .slot literal _ s rest => literal ++ (s.text ++ rest.text)

/-- The text with the properties of a resource in the place of the placeholders. -/
def filled (r : Resource) : Layout → List Char
  | .last literal _ => literal
  | .slot literal _ s rest => literal ++ (s.property.of r).toList ++ rest.filled r

/-- The layout as a search for placeholders sees it. -/
def cut : Layout → Template
  | .last literal _ => ⟨[], literal⟩
  | .slot literal _ s rest => ⟨(literal, s.property.name) :: rest.cut.placeholders, rest.cut.last⟩

end Layout

/-! ### Cutting a text at its placeholders -/

theorem placeholder?_eq_none {cs : List Char} (h : ∀ rest, cs ≠ '{' :: '{' :: rest) :
    placeholder? cs = none := by
  unfold placeholder?
  split
  · next rest => exact absurd rfl (h rest)
  · rfl

/-- The first of three opening braces does not begin a placeholder. -/
theorem placeholder?_three_braces (rest : List Char) :
    placeholder? ('{' :: '{' :: '{' :: rest) = none := by
  have hblank : ¬Text.isBlank '{' = true := by decide
  have hname : ¬isNameChar '{' = true := by decide
  rw [placeholder?, List.dropWhile_cons_of_neg hblank, List.dropWhile_cons_of_neg hname,
    List.dropWhile_cons_of_neg hblank]
  rfl

/-- No placeholder begins inside a literal, at whose end there is nothing or a placeholder. -/
theorem placeholder?_literal_append {c : Char} {literal back : List Char}
    (hplain : Plain (c :: literal)) (hback : back = [] ∨ ∃ rest, back = '{' :: '{' :: rest) :
    placeholder? (c :: (literal ++ back)) = none := by
  cases literal with
  | nil =>
    rcases hback with rfl | ⟨rest, rfl⟩
    · exact placeholder?_eq_none (by simp)
    · -- the literal may end in a brace of its own
      by_cases hc : c = '{'
      · subst hc
        exact placeholder?_three_braces rest
      · exact placeholder?_eq_none (by simp [hc])
  | cons d literal =>
    refine placeholder?_eq_none fun rest h => ?_
    obtain ⟨rfl, htail⟩ := List.cons.inj h
    obtain ⟨rfl, -⟩ := List.cons.inj htail
    exact hplain.ne_braces rfl

namespace Template

theorem ofChars_nil : ofChars [] = ⟨[], []⟩ := by
  rw [ofChars]
  rfl

/-- Where a placeholder begins, it is cut off. -/
theorem ofChars_of_placeholder? {cs name after : List Char}
    (h : placeholder? cs = some (name, after)) :
    ofChars cs = ⟨([], name) :: (ofChars after).placeholders, (ofChars after).last⟩ := by
  rw [ofChars]
  split
  · next heq =>
    obtain ⟨rfl, rfl⟩ := Prod.ext_iff.mp (Option.some.inj (h.symm.trans heq))
    rfl
  · next heq =>
    rw [h] at heq
    cases heq

/-- Any other character goes to the literal in front. -/
theorem ofChars_cons {c : Char} {rest : List Char} (h : placeholder? (c :: rest) = none) :
    ofChars (c :: rest) = (ofChars rest).push c := by
  rw [ofChars]
  split
  · next heq =>
    rw [h] at heq
    cases heq
  · rfl

/-- A template with more text at its front. -/
def prepend (literal : List Char) : Template → Template
  | ⟨[], last⟩ => ⟨[], literal ++ last⟩
  | ⟨(text, name) :: rest, last⟩ => ⟨(literal ++ text, name) :: rest, last⟩

theorem push_prepend (c : Char) (literal : List Char) (t : Template) :
    (t.prepend literal).push c = t.prepend (c :: literal) := by
  obtain ⟨placeholders, last⟩ := t
  cases placeholders <;> rfl

/-- A literal stays in one piece up to the next placeholder. -/
theorem ofChars_literal_append {literal back : List Char} (hplain : Plain literal)
    (hback : back = [] ∨ ∃ rest, back = '{' :: '{' :: rest) :
    ofChars (literal ++ back) = (ofChars back).prepend literal := by
  induction literal with
  | nil =>
    rw [List.nil_append]
    generalize ofChars back = t
    obtain ⟨placeholders, last⟩ := t
    cases placeholders <;> rfl
  | cons c literal ih =>
    rw [List.cons_append, ofChars_cons (placeholder?_literal_append hplain hback), ih hplain.tail,
      push_prepend]

end Template

/-- **A text is cut at its placeholders as its layout is.** -/
theorem ofChars_text (d : Layout) : Template.ofChars d.text = d.cut := by
  induction d with
  | last literal plain =>
    have hcut : Template.ofChars (literal ++ []) = (Template.ofChars []).prepend literal :=
      Template.ofChars_literal_append plain (.inl rfl)
    rw [List.append_nil, Template.ofChars_nil, Template.prepend, List.append_nil] at hcut
    exact hcut
  | slot literal plain s rest ih =>
    have hfound := Template.ofChars_of_placeholder? (s.placeholder?_text rest.text)
    have hbraces : ∃ back, s.text ++ rest.text = '{' :: '{' :: back := ⟨_, rfl⟩
    rw [Layout.text, Template.ofChars_literal_append plain (.inr hbraces), hfound, ih,
      Template.prepend, List.append_nil]
    rfl

/-- **A text has one layout at most.** -/
theorem Layout.eq_of_text_eq {d d' : Layout} (h : d.text = d'.text) : d = d' := by
  induction d generalizing d' with
  | last literal plain =>
    have hcut := congrArg Template.ofChars h
    rw [ofChars_text, ofChars_text] at hcut
    cases d' with
    | last literal' plain' =>
      obtain rfl : literal = literal' := h
      rfl
    | slot => cases hcut
  | slot literal plain s rest ih =>
    have hcut := congrArg Template.ofChars h
    rw [ofChars_text, ofChars_text] at hcut
    cases d' with
    | last => cases hcut
    | slot literal' plain' s' rest' =>
      obtain rfl : literal = literal' :=
        (Prod.ext_iff.mp (List.cons.inj (congrArg Template.placeholders hcut)).1).1
      obtain ⟨rfl, hrest⟩ := Slot.eq_of_text_append_eq (List.append_cancel_left h)
      rw [ih hrest]

/-! ### Filling in -/

/-- A template that comes from a layout is filled in. -/
theorem fill?_cut (r : Resource) (d : Layout) :
    fill? r d.cut.last d.cut.placeholders = some (d.filled r) := by
  induction d with
  | last literal plain => rw [Layout.cut, fill?, if_pos (isPlain_iff.mpr plain), Layout.filled]
  | slot literal plain s rest ih =>
    rw [Layout.cut, fill?, if_pos (isPlain_iff.mpr plain), property?_name, ih]
    rfl

theorem isSome_fill?_nil_iff {r : Resource} {last : List Char} :
    (fill? r last []).isSome = true ↔ Plain last := by
  rw [← isPlain_iff, fill?]
  split_ifs with hplain <;> simp [hplain]

/-- Filling in succeeds step by step: the literal is plain, the name is that of a property, and so
on. -/
theorem isSome_fill?_cons_iff {r : Resource} {last text name : List Char}
    {rest : List (List Char × List Char)} :
    (fill? r last ((text, name) :: rest)).isSome = true ↔
      Plain text ∧ (∃ p : Property, p.name = name) ∧ (fill? r last rest).isSome = true := by
  have hproperty : (property? r name).isSome = true ↔ ∃ p : Property, p.name = name := by
    rw [Option.isSome_iff_exists]
    constructor
    · rintro ⟨value, hvalue⟩
      exact exists_of_property? hvalue
    · rintro ⟨p, rfl⟩
      exact ⟨_, property?_name r p⟩
  rw [← isPlain_iff, ← hproperty, fill?]
  split_ifs with hplain
  · cases property? r name <;> cases fill? r last rest <;> simp [hplain]
  · simp [hplain]

/-- What can be filled in can be filled in without its first character. -/
theorem isSome_fill?_of_push {r : Resource} {c : Char} {t : Template}
    (h : (fill? r (t.push c).last (t.push c).placeholders).isSome = true) :
    (fill? r t.last t.placeholders).isSome = true := by
  obtain ⟨placeholders, last⟩ := t
  cases placeholders with
  | nil => exact isSome_fill?_nil_iff.mpr (isSome_fill?_nil_iff.mp h).tail
  | cons p rest =>
    obtain ⟨hplain, hrest⟩ := isSome_fill?_cons_iff.mp h
    exact isSome_fill?_cons_iff.mpr ⟨hplain.tail, hrest⟩

/-- A character more at the front belongs to the first literal. -/
theorem exists_layout_push {r : Resource} {c : Char} {d : Layout}
    (h : (fill? r (d.cut.push c).last (d.cut.push c).placeholders).isSome = true) :
    ∃ d' : Layout, d'.text = c :: d.text := by
  cases d with
  | last literal =>
    have hplain : Plain (c :: literal) := isSome_fill?_nil_iff.mp h
    exact ⟨.last (c :: literal) hplain, rfl⟩
  | slot literal _ s rest =>
    have hplain : Plain (c :: literal) := (isSome_fill?_cons_iff.mp h).1
    exact ⟨.slot (c :: literal) hplain s rest, rfl⟩

theorem plain_nil : Plain [] :=
  isPlain_iff.mp rfl

/-- **What can be filled in has a layout.** -/
theorem exists_layout {r : Resource} {cs : List Char}
    (h : (fill? r (Template.ofChars cs).last (Template.ofChars cs).placeholders).isSome = true) :
    ∃ d : Layout, d.text = cs := by
  -- the search for placeholders goes from left to right, and so does the layout
  induction cs using Template.ofChars.induct with
  | case1 cs name after hfound _ ih =>
    rw [Template.ofChars_of_placeholder? hfound] at h
    obtain ⟨-, ⟨p, rfl⟩, hrest⟩ := isSome_fill?_cons_iff.mp h
    obtain ⟨d, rfl⟩ := ih hrest
    obtain ⟨before, blanks, hbefore, hafter, rfl⟩ := exists_enclosed_of_placeholder? hfound
    exact ⟨.slot [] plain_nil ⟨before, p, blanks, hbefore, hafter⟩ d, rfl⟩
  | case2 => exact ⟨.last [] plain_nil, rfl⟩
  | case3 c rest hnone ih =>
    rw [Template.ofChars_cons hnone] at h
    obtain ⟨d, rfl⟩ := ih (isSome_fill?_of_push h)
    rw [ofChars_text] at h
    exact exists_layout_push h

/-- **Well-formed templates are filled in, and others are left alone.** If a template is literals
and placeholders in turn, then in one way only, and the message is the literals with the properties
of the resource between them, whatever these hold. Otherwise the message is the template. -/
theorem render_fills_well_formed_templates (template : String) (r : Resource) :
    (∀ d : Layout, d.text = template.toList →
      (∀ d' : Layout, d'.text = template.toList → d' = d) ∧
        render template r = String.ofList (d.filled r)) ∧
    ((¬∃ d : Layout, d.text = template.toList) → render template r = template) := by
  constructor
  · intro d hd
    refine ⟨fun d' hd' => Layout.eq_of_text_eq (hd'.trans hd.symm), ?_⟩
    rw [render, ← hd, ofChars_text, fill?_cut]
  · intro hnone
    rw [render]
    cases hfill : fill? r (Template.ofChars template.toList).last
      (Template.ofChars template.toList).placeholders with
    | none => rfl
    | some filled => exact absurd (exists_layout (r := r) (by rw [hfill]; rfl)) hnone

/-- A name with blanks around it between three braces, a value that looks like a placeholder and is
not filled in again, and a template that is left alone. -/
theorem render_fills_well_formed_templates_example :
    let r : Resource := ⟨"bucket", "logs", [], ⟨"\x7b\x7bline\x7d\x7d.tf", 7, 1⟩⟩
    render "\x7b\x7b\x7b line \x7d\x7d\x7d in \x7b\x7bfile\x7d\x7d" r =
        "\x7b7\x7d in \x7b\x7bline\x7d\x7d.tf" ∧
      (¬∃ d : Layout, d.text = ['{', '{']) ∧
      render (String.ofList ['{', '{']) r = String.ofList ['{', '{'] := by
  intro r
  have hblank : ∀ c ∈ [' '], Text.isBlank c = true := List.forall_mem_singleton.mpr rfl
  have hnil : ∀ c ∈ ([] : List Char), Text.isBlank c = true := List.forall_mem_nil _
  have hfilled := ((render_fills_well_formed_templates
    "\x7b\x7b\x7b line \x7d\x7d\x7d in \x7b\x7bfile\x7d\x7d" r).1
    (.slot ['{'] (isPlain_iff.mp rfl) ⟨[' '], .line, [' '], hblank, hblank⟩
      (.slot "\x7d in ".toList (isPlain_iff.mp rfl) ⟨[], .file, [], hnil, hnil⟩
        (.last [] plain_nil))) rfl).2
  have hnone : ¬∃ d : Layout, d.text = ['{', '{'] := by
    rintro ⟨d, hd⟩
    cases d with
    | last literal plain => exact plain.ne_braces hd
    | slot literal plain s rest =>
      have hlength := congrArg List.length hd
      simp [Layout.text, Slot.text, enclosed] at hlength
      omega
  refine ⟨hfilled.trans ?_, hnone, (render_fills_well_formed_templates _ r).2 ?_⟩
  · change String.ofList (['{'] ++ (toString 7).toList ++
      ("\x7d in ".toList ++ "\x7b\x7bline\x7d\x7d.tf".toList ++ [])) = _
    decide
  · rw [String.toList_ofList]
    exact hnone

end Message

end InfraPolicy
