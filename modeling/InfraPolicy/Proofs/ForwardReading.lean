import InfraPolicy.Hcl.Parser
import Mathlib.Data.List.Infix
import Mathlib.Tactic.SplitIfs

/-!
# Reading goes forward

What a reader leaves is a tail of what it was given, `Hcl.Reader.IsForward`. The rules are
instances: of a reader that is put together from such readers, instance search finds that it is one.
There are two kinds of readers that need more. Some look ahead and then go back to a place that they
remembered, which is no further back than where they began, `Hcl.Reader.Within`; others split cases
on what they have seen.

A reader may take nothing. One that takes a given character before it ends leaves less than it was
given, `Hcl.Reader.Consumes`, and the items of a body are read by such readers. So each item begins
behind the beginning of the one before it (`Hcl.starts_of_bodyItems`).
-/

namespace InfraPolicy.Hcl

namespace Reader

variable {α β : Type} {r r' : Reader α} {f : α → Reader β} {s s' : Source}

/-- One reader after another succeeds where the second one succeeds on what the first one leaves. -/
theorem run_bind_eq_some_iff {y : β} :
    (r >>= f).run s = some (y, s') ↔ ∃ x t, r.run s = some (x, t) ∧ (f x).run t = some (y, s') := by
  rw [StateT.run_bind, Option.bind_eq_bind, Option.bind_eq_some_iff, Prod.exists]

/-- A whole text is read by running the reader on it. -/
theorem exists_run_of_whole? {cs : List Char} {x : α} (h : whole? r cs = some x) :
    ∃ s, r.run { rest := cs } = some (x, s) := by
  rw [whole?] at h
  cases hrun : r.run { rest := cs } with
  | none => simp [hrun] at h
  | some result =>
    simp only [hrun, Option.ite_none_right_eq_some, Option.some.injEq] at h
    exact ⟨result.2, by rw [← h.2]⟩

/-! ### Readers that go forward -/

/-- A reader leaves a tail of what it was given. -/
class IsForward (r : Reader α) : Prop where
  suffix : ∀ {s s' : Source} {x : α}, r.run s = some (x, s') → s'.rest <:+ s.rest

namespace IsForward

instance pure (x : α) : IsForward (pure x) where
  suffix hrun := by
    cases hrun
    exact List.suffix_rfl

instance failure : IsForward (failure : Reader α) where
  suffix hrun := by cases hrun

instance bind [IsForward r] [∀ x, IsForward (f x)] : IsForward (r >>= f) where
  suffix hrun := by
    obtain ⟨x, t, hr, hf⟩ := run_bind_eq_some_iff.mp hrun
    exact (suffix hf).trans (suffix hr)

/-- For what comes after a step with an outcome that is looked at. -/
theorem step [IsForward r] (hf : ∀ x, IsForward (f x)) : IsForward (r >>= f) :=
  bind

instance ite {c : Prop} [Decidable c] [IsForward r] [IsForward r'] :
    IsForward (if c then r else r') := by
  split_ifs <;> infer_instance

theorem choice {c : Prop} [Decidable c] (h : IsForward r) (h' : IsForward r') :
    IsForward (if c then r else r') :=
  ite

/-- A change of the source that leaves a tail is forward. -/
theorem of_modify {g : Source → Source} (h : ∀ s, (g s).rest <:+ s.rest) :
    IsForward (modify g : Reader PUnit) where
  suffix {s s' x} hrun := by
    cases hrun
    exact h s

instance get : IsForward (get : Reader Source) where
  suffix hrun := by
    cases hrun
    exact List.suffix_rfl

instance write (cs : List Char) : IsForward (write cs) :=
  of_modify fun _ => List.suffix_rfl

instance rest : IsForward Reader.rest := by
  rw [Reader.rest]
  infer_instance

instance atEnd : IsForward atEnd := by
  rw [Reader.atEnd]
  infer_instance

instance peek : IsForward peek := by
  rw [Reader.peek]
  infer_instance

instance sees (c : Char) : IsForward (sees c) := by
  rw [Reader.sees]
  infer_instance

instance seesText (text : String) : IsForward (seesText text) := by
  rw [Reader.seesText]
  infer_instance

instance captured [IsForward r] : IsForward (captured r) := by
  have hwritten : ∀ w, IsForward (modify fun s => { s with written := w } : Reader PUnit) :=
    fun w => of_modify fun s => List.suffix_rfl
  rw [Reader.captured]
  infer_instance

end IsForward

/-! ### Going back to a remembered place -/

/-- What a reader leaves is a tail of `base`, if what it is given is one. -/
def Within (base : List Char) (r : Reader α) : Prop :=
  ∀ s x s', s.rest <:+ base → r.run s = some (x, s') → s'.rest <:+ base

namespace Within

variable {base : List Char}

/-- A reader that goes forward stays behind any place that it starts behind. -/
theorem of_isForward [IsForward r] : Within base r :=
  fun _ _ _ hs hrun => (IsForward.suffix hrun).trans hs

/-- One reader after another, neither of which goes back before the place. -/
theorem bind (hr : Within base r) (hf : ∀ x, Within base (f x)) : Within base (r >>= f) := by
  intro s y s' hs hrun
  obtain ⟨x, t, hx, hy⟩ := run_bind_eq_some_iff.mp hrun
  exact hf x t y s' (hr s x t hs hx) hy

theorem step [IsForward r] (hf : ∀ x, Within base (f x)) : Within base (r >>= f) :=
  bind of_isForward hf

theorem choice {c : Prop} [Decidable c] (h : Within base r) (h' : Within base r') :
    Within base (if c then r else r') := by
  split_ifs
  · exact h
  · exact h'

/-- On from a later place. -/
theorem moveTo {left : List Char} (h : left <:+ base) : Within base (moveTo left) := by
  intro s x s' hs hrun
  cases hrun
  exact h

/-- On from the place that was remembered. -/
theorem back {f : PUnit → Reader β} (hf : ∀ u, IsForward (f u)) :
    Within s.rest (set s >>= f) := by
  intro t y t' ht hrun
  obtain ⟨u, v, hset, hrun⟩ := run_bind_eq_some_iff.mp hrun
  cases hset
  exact IsForward.suffix hrun

end Within

/-- A reader that goes back to the place where it was is forward, if it stays behind that place. -/
theorem IsForward.of_get {f : Source → Reader β} (h : ∀ s, Within s.rest (f s)) :
    IsForward (MonadState.get >>= f) where
  suffix {s s' y} hrun := by
    obtain ⟨x, t, hx, hy⟩ := run_bind_eq_some_iff.mp hrun
    cases hx
    exact h s s y s' List.suffix_rfl hy

theorem IsForward.of_rest {f : List Char → Reader β} (h : ∀ cs, Within cs (f cs)) :
    IsForward (Reader.rest >>= f) where
  suffix {s s' y} hrun := by
    obtain ⟨x, t, hx, hy⟩ := run_bind_eq_some_iff.mp hrun
    cases hx
    exact h s.rest s y s' List.suffix_rfl hy

namespace IsForward

instance take (count : Nat) : IsForward (take count) := by
  rw [Reader.take]
  exact of_rest fun cs => .bind (.moveTo (List.drop_suffix _ _)) fun _ => .of_isForward

instance takeWhile (p : Char → Bool) : IsForward (takeWhile p) := by
  rw [Reader.takeWhile]
  exact of_rest fun cs => .bind (.moveTo (List.dropWhile_suffix _)) fun _ => .of_isForward

instance takeSome (p : Char → Bool) : IsForward (takeSome p) := by
  rw [Reader.takeSome]
  infer_instance

instance textIf (expected : String) : IsForward (textIf expected) := by
  rw [Reader.textIf]
  infer_instance

instance text (expected : String) : IsForward (text expected) := by
  rw [Reader.text]
  infer_instance

instance charIf (c : Char) : IsForward (charIf c) := by
  rw [Reader.charIf]
  infer_instance

instance char (c : Char) : IsForward (char c) := by
  rw [Reader.char]
  infer_instance

end IsForward

/-! ### Readers that take something -/

/-- A reader leaves less than it was given. -/
class Consumes (r : Reader α) : Prop where
  shorter : ∀ {s s' : Source} {x : α}, r.run s = some (x, s') → s'.rest.length < s.rest.length

namespace Consumes

instance failure : Consumes (failure : Reader α) where
  shorter hrun := by cases hrun

instance bind_first [Consumes r] [∀ x, IsForward (f x)] : Consumes (r >>= f) where
  shorter hrun := by
    obtain ⟨x, t, hr, hf⟩ := run_bind_eq_some_iff.mp hrun
    exact (IsForward.suffix hf).length_le.trans_lt (shorter hr)

instance bind_second [IsForward r] [∀ x, Consumes (f x)] : Consumes (r >>= f) where
  shorter hrun := by
    obtain ⟨x, t, hr, hf⟩ := run_bind_eq_some_iff.mp hrun
    exact (shorter hf).trans_le (IsForward.suffix hr).length_le

instance ite {c : Prop} [Decidable c] [Consumes r] [Consumes r'] :
    Consumes (if c then r else r') := by
  split_ifs <;> infer_instance

instance char (c : Char) : Consumes (char c) where
  shorter {s s' x} hrun := by
    have hsees : (Reader.sees c).run s = some (s.rest.head? == some c, s) := rfl
    rw [Reader.char, run_bind_eq_some_iff] at hrun
    obtain ⟨b, t, hif, hend⟩ := hrun
    rw [Reader.charIf, run_bind_eq_some_iff] at hif
    obtain ⟨b', t', hb', hif⟩ := hif
    obtain ⟨rfl, rfl⟩ := Prod.mk.inj (Option.some.inj (hsees.symm.trans hb'))
    split_ifs at hif with hhead
    · cases hif
      cases hend
      cases hs : s.rest with
      | nil => simp [hs] at hhead
      | cons d rest => simp
    · cases hif
      cases hend

end Consumes

end Reader

open Reader

/-! ### Words -/

/-- The place to which a comment that does not end goes back is a tail of `base`. -/
def BlankState.Within (base : List Char) : BlankState → Prop
  | .between => True
  | .opening start | .inside start | .line start => start.rest <:+ base

/-- Blanks and comments are taken from the front, and a comment that is not closed is given back. -/
theorem takeBlanks_within {lines : Bool} {base : List Char} {state : BlankState}
    {written cs : List Char} (hstate : state.Within base) (hcs : cs <:+ base) :
    (takeBlanks lines state written cs).rest <:+ base := by
  have tail {c : Char} {rest : List Char} (h : (c :: rest) <:+ base) : rest <:+ base :=
    (List.suffix_cons c rest).trans h
  fun_induction takeBlanks lines state written cs with
  -- nothing is left, or no blank comes next
  | case1 | case4 | case15 => exact hcs
  -- a comment does not end
  | case2 | case3 | case6 | case10 => exact hstate
  -- inside a comment
  | case5 _ _ _ _ ih | case8 _ _ _ _ _ ih | case11 _ _ _ _ _ _ ih => exact ih hstate (tail hcs)
  -- after a comment or a blank
  | case7 _ _ _ _ _ _ ih => exact ih trivial (tail (tail hcs))
  | case9 _ _ _ _ _ ih | case12 _ _ _ _ ih => exact ih trivial (tail hcs)
  -- a comment begins
  | case13 _ _ _ _ _ ih | case14 _ _ _ _ _ _ ih => exact ih hcs (tail hcs)

instance isForward_blanks (lines : Bool) : IsForward (blanks lines) :=
  .of_modify fun _ => takeBlanks_within trivial List.suffix_rfl

instance isForward_seesLineComment : IsForward seesLineComment := by
  rw [seesLineComment]
  infer_instance

instance isForward_lineComment : IsForward lineComment := by
  rw [lineComment]
  infer_instance

instance isForward_lineBreak : IsForward lineBreak := by
  rw [lineBreak]
  infer_instance

instance isForward_lineEnd : IsForward lineEnd := by
  rw [lineEnd]
  infer_instance

instance isForward_seesIdentifier : IsForward seesIdentifier := by
  rw [seesIdentifier]
  infer_instance

instance isForward_identifier : IsForward identifier := by
  rw [identifier]
  infer_instance

instance isForward_numeral : IsForward numeral := by
  rw [numeral]
  refine .step fun whole => .step fun cs => .step fun _ => .choice inferInstance ?_
  split <;> infer_instance

instance isForward_legacyIndex : IsForward legacyIndex := by
  rw [legacyIndex]
  infer_instance

theorem suffix_of_escapedMarker? {cs marker left : List Char}
    (h : escapedMarker? cs = some (marker, left)) : left <:+ cs := by
  unfold escapedMarker? at h
  split at h
  · cases h
    exact List.suffix_append ['$', '$', '\x7b'] _
  · cases h
    exact List.suffix_append ['%', '%', '\x7b'] _
  · cases h

theorem suffix_of_escape? {cs left : List Char} {c : Char} (h : escape? cs = some (c, left)) :
    left <:+ cs := by
  have drop (d : Char) (rest : List Char) (n : Nat) : rest.drop n <:+ d :: rest :=
    (List.drop_suffix n rest).trans (List.suffix_cons d rest)
  unfold escape? at h
  split at h
  · obtain ⟨_, -, heq⟩ := Option.map_eq_some_iff.mp h
    cases heq
    exact drop _ _ 4
  · obtain ⟨_, -, heq⟩ := Option.map_eq_some_iff.mp h
    cases heq
    exact drop _ _ 8
  · obtain ⟨_, -, heq⟩ := Option.map_eq_some_iff.mp h
    cases heq
    exact drop _ _ 0
  · cases h

/-- The literal part of a text is taken from the front. -/
theorem literalText_suffix (q : Quoting) (begun : Bool) (fuel : Nat) (cs : List Char) :
    (literalText q begun fuel cs).2 <:+ cs := by
  fun_induction literalText q begun fuel cs with
  | case1 | case2 | case3 | case7 => exact List.suffix_rfl
  | case4 begun fuel c rest after hends marker left hmarker ih =>
    exact (ih left).trans (suffix_of_escapedMarker? hmarker)
  | case5 begun fuel rest after hq escaped left hescape hends hmarker ih =>
    exact ((ih left).trans (suffix_of_escape? hescape)).trans (List.suffix_cons _ _)
  | case6 => exact (List.drop_suffix _ _).trans (List.suffix_cons _ _)
  | case8 begun fuel c rest after hends hmarker hq ih =>
    exact (ih rest).trans (List.suffix_cons _ _)

instance isForward_literal (bound : Nat) (q : Quoting) (n : Nesting) :
    IsForward (literal bound q n) := by
  rw [literal]
  refine .of_rest fun cs => .bind (.moveTo ?_) fun _ => .of_isForward
  exact literalText_suffix q false bound cs

instance isForward_openDirective (word : String) : IsForward (openDirective word) := by
  rw [openDirective]
  infer_instance

instance isForward_seesDirective (word : String) : IsForward (seesDirective word) := by
  rw [seesDirective]
  infer_instance

instance isForward_closeMarker : IsForward closeMarker := by
  rw [closeMarker]
  infer_instance

instance isForward_bareDirective (word : String) : IsForward (bareDirective word) := by
  rw [bareDirective]
  infer_instance

instance isForward_seesFor : IsForward seesFor := by
  rw [seesFor]
  refine .step fun cs => ?_
  split <;> infer_instance

/-! ### Expressions -/

-- An instance grows with the reader that it is about, and some of the readers are long.
set_option synthInstance.maxSize 2000

/-- With a bound, the grammar of expressions goes forward. -/
class ReadsForward (fuel : Nat) : Prop where
  expr : ∀ s, IsForward (Hcl.expr fuel s)
  trailers : ∀ choice s root steps, IsForward (Hcl.trailers fuel choice s root steps)
  step : ∀ n, IsForward (Hcl.step fuel n)
  term : ∀ s, IsForward (Hcl.term fuel s)
  wordOrCall : ∀ s, IsForward (Hcl.wordOrCall fuel s)
  call : ∀ s name, IsForward (Hcl.call fuel s name)
  arguments : ∀ s, IsForward (Hcl.arguments fuel s)
  comprehensionStart : ∀ n, IsForward (Hcl.comprehensionStart fuel n)
  comprehensionTest : ∀ s, IsForward (Hcl.comprehensionTest fuel s)
  listExpr : ∀ s, IsForward (Hcl.listExpr fuel s)
  listItems : ∀ s, IsForward (Hcl.listItems fuel s)
  objectExpr : ∀ s, IsForward (Hcl.objectExpr fuel s)
  objectItems : ∀ n entries, IsForward (Hcl.objectItems fuel n entries)
  objectKey : ∀ n, IsForward (Hcl.objectKey fuel n)
  objectValue : ∀ n, IsForward (Hcl.objectValue fuel n)
  quotedExpr : ∀ n, IsForward (Hcl.quotedExpr fuel n)
  quoted : ∀ n, IsForward (Hcl.quoted fuel n)
  heredocExpr : ∀ n, IsForward (Hcl.heredocExpr fuel n)
  templateParts : ∀ q n, IsForward (Hcl.templateParts fuel q n)
  conditionDirective : ∀ n, IsForward (Hcl.conditionDirective fuel n)
  loopDirective : ∀ n, IsForward (Hcl.loopDirective fuel n)

namespace ReadsForward

attribute [instance] expr trailers step term wordOrCall call arguments comprehensionStart
  comprehensionTest listExpr listItems objectExpr objectItems objectKey objectValue quotedExpr
  quoted heredocExpr templateParts conditionDirective loopDirective

variable {fuel : Nat} [ReadsForward fuel]

/-- Where two dots follow, reading goes back before the blanks in front of them. -/
theorem trailers_succ (choice : Bool) (s : Setting) (root : Expr) (steps : List Step) :
    IsForward (Hcl.trailers (fuel + 1) choice s root steps) := by
  rw [Hcl.trailers]
  refine .of_get fun before => .step fun _ => .step fun cs => ?_
  refine .choice ?_ (.choice ?_ (.choice ?_ ?_))
  · exact .back inferInstance
  · exact .of_isForward
  · exact .of_isForward
  · split
    · exact .of_isForward
    · exact .back inferInstance

/-- Terms are tried by what they begin with. -/
theorem term_succ (s : Setting) : IsForward (Hcl.term (fuel + 1) s) := by
  rw [Hcl.term]
  refine .step fun c => ?_
  cases c with
  | none => infer_instance
  | some c => infer_instance

theorem wordOrCall_succ (s : Setting) : IsForward (Hcl.wordOrCall (fuel + 1) s) := by
  rw [Hcl.wordOrCall]
  refine .step fun name => .of_get fun before => .step fun _ => .step fun _ => .step fun _ => ?_
  exact .choice .of_isForward (.back inferInstance)

theorem comprehensionStart_succ (n : Nesting) :
    IsForward (Hcl.comprehensionStart (fuel + 1) n) := by
  rw [Hcl.comprehensionStart]
  refine .step fun _ => .step fun _ => .step fun _ => .step fun _ => .step fun _ => ?_
  exact .choice inferInstance inferInstance

/-- Where no comprehension begins, reading goes back behind the brace. -/
theorem objectExpr_succ (s : Setting) : IsForward (Hcl.objectExpr (fuel + 1) s) := by
  rw [Hcl.objectExpr]
  refine .step fun _ => .of_get fun before => .step fun _ => .step fun _ => ?_
  exact .choice .of_isForward (.back inferInstance)

theorem quotedExpr_succ (n : Nesting) : IsForward (Hcl.quotedExpr (fuel + 1) n) := by
  rw [Hcl.quotedExpr]
  refine .step fun result => ?_
  dsimp only
  split <;> infer_instance

theorem heredocExpr_succ (n : Nesting) : IsForward (Hcl.heredocExpr (fuel + 1) n) := by
  rw [Hcl.heredocExpr]
  refine .step fun _ => .step fun indented => .step fun delimiter => .step fun _ => ?_
  refine .of_get fun before => .step fun result => .bind ?_ fun _ => .of_isForward
  refine .step fun _ => .choice (.step fun _ => ?_) (.back inferInstance)
  dsimp only
  split <;> exact .of_isForward

theorem loopDirective_succ (n : Nesting) : IsForward (Hcl.loopDirective (fuel + 1) n) := by
  rw [Hcl.loopDirective]
  refine .step fun _ => .step fun _ => .step fun _ => .step fun _ => ?_
  exact .choice inferInstance inferInstance

end ReadsForward

open ReadsForward in
/-- **The grammar of expressions goes forward.** -/
instance readsForward (fuel : Nat) : ReadsForward fuel := by
  induction fuel with
  | zero => constructor <;> intros <;> exact IsForward.failure
  | succ fuel ih =>
    exact {
      expr := fun _ => by rw [Hcl.expr]; infer_instance
      trailers := trailers_succ
      step := fun _ => by rw [Hcl.step]; infer_instance
      term := term_succ
      wordOrCall := wordOrCall_succ
      call := fun _ _ => by rw [Hcl.call]; infer_instance
      arguments := fun _ => by rw [Hcl.arguments]; infer_instance
      comprehensionStart := comprehensionStart_succ
      comprehensionTest := fun _ => by rw [Hcl.comprehensionTest]; infer_instance
      listExpr := fun _ => by rw [Hcl.listExpr]; infer_instance
      listItems := fun _ => by rw [Hcl.listItems]; infer_instance
      objectExpr := objectExpr_succ
      objectItems := fun _ _ => by rw [Hcl.objectItems]; infer_instance
      objectKey := fun _ => by rw [Hcl.objectKey]; infer_instance
      objectValue := fun _ => by rw [Hcl.objectValue]; infer_instance
      quotedExpr := quotedExpr_succ
      quoted := fun _ => by rw [Hcl.quoted]; infer_instance
      heredocExpr := heredocExpr_succ
      templateParts := fun _ _ => by rw [Hcl.templateParts]; infer_instance
      conditionDirective := fun _ => by rw [Hcl.conditionDirective]; infer_instance
      loopDirective := loopDirective_succ }

/-! ### Bodies -/

instance isForward_attrValue (fuel : Nat) : IsForward (attrValue fuel) := by
  rw [attrValue]
  infer_instance

instance consumes_attrValue (fuel : Nat) : Consumes (attrValue fuel) := by
  rw [attrValue]
  infer_instance

instance isForward_blockLabels (bound fuel : Nat) : IsForward (blockLabels bound fuel) := by
  induction fuel with
  | zero => exact IsForward.failure
  | succ fuel ih =>
    rw [blockLabels]
    refine .step fun _ => .step fun _ => .choice inferInstance ?_
    refine .step fun _ => .choice ?_ inferInstance
    refine .step fun result => ?_
    split <;> infer_instance

/-- With a bound, the grammar of bodies goes forward. -/
class ReadsItemsForward (fuel : Nat) : Prop where
  bodyItems : ∀ seen, IsForward (Hcl.bodyItems fuel seen)
  bodyItem : ∀ seen, IsForward (Hcl.bodyItem fuel seen)
  blockBody : IsForward (Hcl.blockBody fuel)

attribute [instance] ReadsItemsForward.bodyItems ReadsItemsForward.bodyItem
  ReadsItemsForward.blockBody

instance readsItemsForward (fuel : Nat) : ReadsItemsForward fuel := by
  induction fuel with
  | zero => constructor <;> intros <;> exact IsForward.failure
  | succ fuel ih =>
    exact {
      bodyItems := fun _ => by rw [Hcl.bodyItems]; infer_instance
      bodyItem := fun _ => by rw [Hcl.bodyItem]; infer_instance
      blockBody := by rw [Hcl.blockBody]; infer_instance }

instance consumes_blockBody (fuel : Nat) : Consumes (blockBody fuel) := by
  cases fuel with
  | zero => exact Consumes.failure
  | succ fuel =>
    rw [blockBody]
    infer_instance

/-- An item takes its sign of equality or its brace, if nothing else. -/
instance consumes_bodyItem (fuel : Nat) (seen : List String) : Consumes (bodyItem fuel seen) := by
  cases fuel with
  | zero => exact Consumes.failure
  | succ fuel =>
    rw [bodyItem]
    infer_instance

/-- Items are read one after another, each from where it begins, and behind it the others. -/
theorem bodyItems_cases {fuel : Nat} {seen : List String} {s s' : Source}
    {items : List (List Char × Item)} (h : (bodyItems (fuel + 1) seen).run s = some (items, s')) :
    items = [] ∨ ∃ t item u v seen' rest, t.rest <:+ s.rest ∧
      (bodyItem fuel seen).run t = some (item, u) ∧ v.rest <:+ u.rest ∧
      (bodyItems fuel seen').run v = some (rest, s') ∧ items = (t.rest, item) :: rest := by
  rw [bodyItems, run_bind_eq_some_iff] at h
  obtain ⟨_, t, hblanks, h⟩ := h
  rw [run_bind_eq_some_iff] at h
  obtain ⟨b, t', hsees, h⟩ := h
  split_ifs at h
  · simp only [run_bind_eq_some_iff] at h
    obtain ⟨start, t'', hstart, item, u, hitem, _, v, hend, rest, w, hrest, h⟩ := h
    cases hstart
    cases h
    refine .inr ⟨t', item, u, v, _, rest, ?_, hitem, IsForward.suffix hend, hrest, rfl⟩
    exact (IsForward.suffix hsees).trans (IsForward.suffix hblanks)
  · cases h
    exact .inl rfl

/-- **Items begin one behind the other.** All of them begin in the text that was given. -/
theorem starts_of_bodyItems {fuel : Nat} {seen : List String} {s s' : Source}
    {items : List (List Char × Item)} (h : (bodyItems fuel seen).run s = some (items, s')) :
    (∀ p ∈ items, p.1 <:+ s.rest) ∧
      items.Pairwise fun p q => q.1 <:+ p.1 ∧ q.1.length < p.1.length := by
  induction fuel generalizing seen s items with
  | zero => cases h
  | succ fuel ih =>
    obtain rfl | ⟨t, item, u, v, seen', rest, ht, hitem, hv, hrest, rfl⟩ := bodyItems_cases h
    · exact ⟨List.forall_mem_nil _, .nil⟩
    · obtain ⟨hmem, hpairwise⟩ := ih hrest
      have hvt : v.rest <:+ t.rest := hv.trans (IsForward.suffix hitem)
      have hlt : v.rest.length < t.rest.length := hv.length_le.trans_lt (Consumes.shorter hitem)
      refine ⟨List.forall_mem_cons.mpr ⟨ht, ?_⟩, List.pairwise_cons.mpr ⟨?_, hpairwise⟩⟩
      · exact fun p hp => ((hmem p hp).trans hvt).trans ht
      · exact fun p hp => ⟨(hmem p hp).trans hvt, (hmem p hp).length_le.trans_lt hlt⟩

end InfraPolicy.Hcl
