import InfraPolicy.Module.Document
import InfraPolicy.Proofs.Alike
import InfraPolicy.Proofs.ForwardReading

/-!
# Numbers that can be written

The floats in what was read are regular: no zero and no NaN among them. A whole number in range is
read as an integer, whatever it looks like, and what is too great for a float is not read at all.

The grammar is followed with a simple logic of readers, `Hcl.Reader.Yields`: what a reader may
return, whatever it is given. Every function of the grammar takes a bound, and all of them are shown
together by induction on it, `Hcl.ReadsRegular`.
-/

namespace InfraPolicy

/-! ### Rounding -/

namespace Binary64

/-- The sign does not touch the magnitude. -/
theorem magnitude_ofMagnitude {m : Nat} (negative : Bool) (h : m ≤ infiniteMagnitude) :
    (ofMagnitude negative m).magnitude = m := by
  have htwo : Number.twoTo 63 = 2 ^ 63 := rfl
  have hinfinite : infiniteMagnitude < 2 ^ 63 := by decide
  rw [ofMagnitude, magnitude, UInt64.toNat_ofNat', htwo]
  cases negative <;> simp <;> omega

/-- What is neither zero nor beyond infinity is regular. -/
theorem isRegular_ofMagnitude {m : Nat} (negative : Bool) (hpos : m ≠ 0)
    (h : m ≤ infiniteMagnitude) : (ofMagnitude negative m).IsRegular := by
  rw [IsRegular, isNaN, magnitude_ofMagnitude negative h]
  exact ⟨hpos, by simpa using h⟩

/-- A positive integer is rounded to the magnitude of a normal number, or to infinity. -/
theorem roundRatio_one {n : Nat} (h : n ≠ 0) :
    roundRatio n 1 ≠ 0 ∧ roundRatio n 1 ≤ infiniteMagnitude := by
  have hlog : -1 ≤ floorLog2 n 1 := by
    have hone : Nat.log2 1 = 0 := by decide
    rw [floorLog2]
    split_ifs <;> omega
  have hinfinite : 0 < infiniteMagnitude := by decide
  have htwo : 0 < Number.twoTo 52 := by decide
  -- the exponent alone makes the sum positive
  have hexponent : 0 < (max (floorLog2 n 1 - 52) (-1074) + 1074).toNat := by omega
  have hproduct := Nat.mul_pos hexponent htwo
  rw [roundRatio, if_neg h]
  refine ⟨Nat.ne_of_gt (Nat.lt_min.mpr ⟨?_, hinfinite⟩), Nat.min_le_right _ _⟩
  exact Nat.add_pos_left hproduct _

theorem isRegular_ofInt {n : Int} (h : n ≠ 0) : (ofInt n).IsRegular := by
  obtain ⟨hpos, hle⟩ := roundRatio_one (Int.natAbs_ne_zero.mpr h)
  exact isRegular_ofMagnitude _ hpos hle

/-- A zero is an integer, whatever its sign. -/
theorem toInt?_of_magnitude_eq_zero {x : Binary64} (h : x.magnitude = 0) : x.toInt? = some 0 := by
  have hfinite : x.isFinite = true := by
    rw [isFinite, h]
    decide
  have hsignificand : x.significand = 0 := by
    rw [significand, h]
    decide
  simp [toInt?, hfinite, hsignificand]

end Binary64

namespace Hcl

/-! ### Numerals -/

/-- The float of a numeral, if it is one, is regular. -/
def Numeral.IsRegular : Numeral → Prop
  | .whole _ => True
  | .float x => x.IsRegular

/-- A finite number is regular as a numeral, since a zero counts as a whole number. -/
theorem Numeral.isRegular_ofFloat {x : Binary64} (h : x.isFinite = true) :
    (Numeral.ofFloat x).IsRegular := by
  have hnan : x.isNaN = false := by
    simp only [Binary64.isFinite, Binary64.isNaN, decide_eq_true_eq, decide_eq_false_iff_not] at h ⊢
    omega
  have hfloat : x.magnitude ≠ 0 → (Numeral.float x).IsRegular := fun hpos => ⟨hpos, hnan⟩
  rw [ofFloat]
  by_cases hzero : x.magnitude = 0
  · rw [Binary64.toInt?_of_magnitude_eq_zero hzero]
    exact trivial
  · cases x.toInt? with
    | none => exact hfloat hzero
    | some n =>
      dsimp only
      split_ifs
      · trivial
      · exact hfloat hzero

/-! ### Regular expressions -/

/-- The numbers among leaves are regular. -/
def RegularLeaves (leaves : List Leaf) : Prop :=
  ∀ x, .number x ∈ leaves → x.IsRegular

theorem RegularLeaves.nil : RegularLeaves [] :=
  fun _ hx => absurd hx List.not_mem_nil

/-- All numbers in the expression are regular. -/
def Expr.IsRegular (e : Expr) : Prop :=
  RegularLeaves e.leaves

/-- All numbers in the step are regular. -/
def Step.IsRegular (step : Step) : Prop :=
  RegularLeaves step.leaves

/-- All numbers in the part of a text are regular. -/
def Part.IsRegular : Part → Prop
  | .interpolation e => e.IsRegular
  | _ => True

/-- All numbers in the key and the value of an entry are regular. -/
def ObjectEntry.IsRegular (entry : ObjectEntry) : Prop :=
  entry.key.IsRegular ∧ entry.value.IsRegular

theorem Expr.mem_leavesOf {l : Leaf} {items : List Expr} :
    l ∈ Expr.leavesOf items ↔ ∃ e ∈ items, l ∈ e.leaves := by
  induction items with
  | nil => simp [Expr.leavesOf]
  | cons e rest ih => simp [Expr.leavesOf, ih]

theorem Expr.mem_leavesOfItems {l : Leaf} {items : List (Expr × Expr)} :
    l ∈ Expr.leavesOfItems items ↔ ∃ p ∈ items, l ∈ p.1.leaves ∨ l ∈ p.2.leaves := by
  induction items with
  | nil => simp [Expr.leavesOfItems]
  | cons p rest ih => simp [Expr.leavesOfItems, ih, or_assoc]

theorem Step.mem_leavesOf {l : Leaf} {steps : List Step} :
    l ∈ Step.leavesOf steps ↔ ∃ step ∈ steps, l ∈ step.leaves := by
  induction steps with
  | nil => simp [Step.leavesOf]
  | cons step rest ih => simp [Step.leavesOf, ih]

namespace Expr

/-- A list is regular if its items are. -/
theorem IsRegular.list {items : List Expr} (h : ∀ e ∈ items, e.IsRegular) :
    (Expr.list items).IsRegular := by
  intro x hx
  obtain ⟨e, he, hx⟩ := mem_leavesOf.mp hx
  exact h e he x hx

/-- An object is regular if its entries are. -/
theorem IsRegular.object {entries : List ObjectEntry} (h : ∀ entry ∈ entries, entry.IsRegular) :
    (Expr.object (entries.map fun e => (e.key, e.value))).IsRegular := by
  intro x hx
  obtain ⟨p, hp, hx⟩ := mem_leavesOfItems.mp hx
  obtain ⟨entry, hentry, rfl⟩ := List.mem_map.mp hp
  exact hx.elim ((h entry hentry).1 x) ((h entry hentry).2 x)

/-- Of templates only those that are a single interpolation have leaves. -/
theorem IsRegular.template {parts : List Part} (h : ∀ part ∈ parts, part.IsRegular) :
    (Expr.template parts).IsRegular := by
  match parts with
  | [.interpolation e] => exact h _ List.mem_cons_self
  | [] | .text _ :: _ | .directive _ _ :: _ | .interpolation _ :: _ :: _ =>
    exact RegularLeaves.nil

/-- A reference is regular if its steps are, whatever it begins with. -/
theorem IsRegular.traversal (root : Expr) {steps : List Step}
    (h : ∀ step ∈ steps, step.IsRegular) : (Expr.traversal root steps).IsRegular := by
  cases root with
  | «variable» root =>
    match steps with
    | .attr _ :: rest =>
      intro x hx
      rcases List.mem_cons.mp hx with hx | hx
      · cases hx
      · obtain ⟨step, hstep, hx⟩ := Step.mem_leavesOf.mp hx
        exact h step (List.mem_cons_of_mem _ hstep) x hx
    | [] | .index _ :: _ | .legacyIndex _ :: _ | .splat :: _ => exact RegularLeaves.nil
  | _ => exact RegularLeaves.nil

/-- Steps behind an expression keep it regular. -/
theorem IsRegular.closeSteps {root : Expr} {steps : List Step} (hroot : root.IsRegular)
    (hsteps : ∀ step ∈ steps, step.IsRegular) : (Hcl.closeSteps root steps).IsRegular := by
  cases steps with
  | nil => exact hroot
  | cons step rest =>
    exact IsRegular.traversal root fun step hstep => hsteps step (List.mem_reverse.mp hstep)

theorem isRegular_wordExpr (name : String) : (wordExpr name).IsRegular := by
  unfold wordExpr
  split <;> exact RegularLeaves.nil

theorem isRegular_float {x : Binary64} (h : x.IsRegular) : (Expr.float x).IsRegular := by
  intro y hy
  cases List.mem_singleton.mp hy
  exact h

end Expr

theorem Numeral.IsRegular.expr {n : Numeral} (h : n.IsRegular) : n.expr.IsRegular := by
  cases n with
  | whole n =>
    rw [Numeral.expr]
    split_ifs with hn
    · exact RegularLeaves.nil
    · have hpos : (n : Int) ≠ 0 := by
        have htwo : 0 < Number.twoTo 63 := by decide
        omega
      exact Expr.isRegular_float (Binary64.isRegular_ofInt hpos)
  | float x => exact Expr.isRegular_float h

/-- A sign in front of a number keeps it regular. -/
theorem Numeral.IsRegular.negated {n : Numeral} (h : n.IsRegular) : n.negated.IsRegular := by
  cases n with
  | whole n =>
    rw [Numeral.negated]
    split_ifs with hn
    · exact RegularLeaves.nil
    · have hneg : -(n : Int) ≠ 0 := by omega
      exact Expr.isRegular_float (Binary64.isRegular_ofInt hneg)
  | float x =>
    have hle : x.magnitude ≤ Binary64.infiniteMagnitude := by simpa [Binary64.isNaN] using h.2
    exact Expr.isRegular_float (Binary64.isRegular_ofMagnitude _ h.1 hle)

/-! ### What readers yield -/

namespace Reader

/-- Whatever a reader returns has a property. -/
def Yields {α : Type} (p : α → Prop) (r : Reader α) : Prop :=
  ∀ s a s', r.run s = some (a, s') → p a

variable {α β : Type} {p : α → Prop} {q : β → Prop} {r : Reader α} {f : α → Reader β}

theorem Yields.pure {a : α} (h : p a) : Yields p (pure a) := by
  intro s b s' hrun
  cases hrun
  exact h

theorem Yields.failure : Yields p failure := by
  intro s a s' hrun
  cases hrun

/-- One reader after another: what the first one yields is handed on. -/
theorem Yields.bind (hr : Yields p r) (hf : ∀ a, p a → Yields q (f a)) : Yields q (r >>= f) := by
  intro s b s' hrun
  obtain ⟨a, t, ha, hb⟩ := run_bind_eq_some_iff.mp hrun
  exact hf a (hr s a t ha) t b s' hb

/-- After a step of which nothing needs to be known. -/
theorem Yields.step (hf : ∀ a, Yields q (f a)) : Yields q (r >>= f) :=
  Yields.bind (p := fun _ => True) (fun _ _ _ _ => trivial) fun a _ => hf a

/-- What is read from a whole text is what the reader yields. -/
theorem Yields.of_whole? (hr : Yields p r) {cs : List Char} {a : α} (h : whole? r cs = some a) :
    p a := by
  obtain ⟨s, hrun⟩ := exists_run_of_whole? h
  exact hr _ a s hrun

theorem Yields.captured (hr : Yields p r) : Yields (fun result => p result.1) (captured r) :=
  .step fun _ => .step fun _ => .bind hr fun _ ha => .step fun _ => .step fun _ => .pure ha

theorem Yields.ite {c : Prop} [Decidable c] {r r' : Reader α} (h : Yields p r) (h' : Yields p r') :
    Yields p (if c then r else r') := by
  split_ifs
  · exact h
  · exact h'

/-- A step that is taken or not before the same rest. -/
theorem Yields.join {c : Prop} [Decidable c] {r : Reader Unit} {f : Unit → Reader β}
    (hf : Yields q (f ())) : Yields q (if c then r >>= f else f ()) :=
  .ite (.step fun _ => hf) hf

end Reader

open Reader

/-- Numbers are read as regular ones. -/
theorem numeral_yields : Yields Numeral.IsRegular numeral := by
  rw [numeral]
  refine .step fun whole => .step fun cs => .step fun _ => .ite ?_ ?_
  · exact .ite (.pure trivial) .failure
  · split
    · split_ifs with hfinite
      · exact .pure (Numeral.isRegular_ofFloat hfinite)
      · exact .failure
    · exact .failure

theorem legacyIndex_yields : Yields Step.IsRegular legacyIndex := by
  rw [legacyIndex]
  exact .step fun _ => .ite (.pure RegularLeaves.nil) .failure

/-- An entry that replaces another one keeps all of them regular. -/
theorem ObjectEntry.IsRegular.put {entry : ObjectEntry} (h : entry.IsRegular)
    {entries : List ObjectEntry} (hentries : ∀ e ∈ entries, e.IsRegular) :
    ∀ e ∈ entry.put entries, e.IsRegular := by
  induction entries with
  | nil => simpa [ObjectEntry.put] using h
  | cons e rest ih =>
    obtain ⟨he, hrest⟩ := List.forall_mem_cons.mp hentries
    rw [ObjectEntry.put]
    split_ifs
    · exact List.forall_mem_cons.mpr ⟨⟨he.1, h.2⟩, hrest⟩
    · exact List.forall_mem_cons.mpr ⟨he, ih hrest⟩

theorem conditionDirective_yields (fuel : Nat) (n : Nesting) :
    Yields Part.IsRegular (conditionDirective fuel n) := by
  cases fuel with
  | zero => exact .failure
  | succ fuel =>
    rw [conditionDirective]
    refine .step fun _ => .step fun _ => .step fun _ => .step fun _ => .step fun _ => .ite ?_ ?_
    · exact .step fun _ => .step fun _ => .step fun _ => .pure trivial
    · exact .step fun _ => .pure trivial

theorem loopDirective_yields (fuel : Nat) (n : Nesting) :
    Yields Part.IsRegular (loopDirective fuel n) := by
  cases fuel with
  | zero => exact .failure
  | succ fuel =>
    rw [loopDirective]
    refine .step fun _ => .step fun _ => .step fun _ => .step fun _ => .ite ?_ ?_
    all_goals
      repeat refine .step fun _ => ?_
      exact .pure trivial

/-- With a bound, the grammar reads regular expressions only. -/
structure ReadsRegular (fuel : Nat) : Prop where
  expr : ∀ s, Yields Expr.IsRegular (Hcl.expr fuel s)
  trailers : ∀ choice s {root steps}, root.IsRegular → (∀ step ∈ steps, step.IsRegular) →
    Yields Expr.IsRegular (Hcl.trailers fuel choice s root steps)
  step : ∀ n, Yields Step.IsRegular (Hcl.step fuel n)
  term : ∀ s, Yields (fun result => result.1.IsRegular) (Hcl.term fuel s)
  wordOrCall : ∀ s, Yields (fun result => result.1.IsRegular) (Hcl.wordOrCall fuel s)
  call : ∀ s name, Yields Expr.IsRegular (Hcl.call fuel s name)
  listExpr : ∀ s, Yields Expr.IsRegular (Hcl.listExpr fuel s)
  listItems : ∀ s, Yields (fun items => ∀ e ∈ items, e.IsRegular) (Hcl.listItems fuel s)
  objectExpr : ∀ s, Yields Expr.IsRegular (Hcl.objectExpr fuel s)
  objectItems : ∀ n {entries}, (∀ entry ∈ entries, entry.IsRegular) →
    Yields (fun entries => ∀ entry ∈ entries, entry.IsRegular) (Hcl.objectItems fuel n entries)
  objectKey : ∀ n, Yields Expr.IsRegular (Hcl.objectKey fuel n)
  objectValue : ∀ n, Yields Expr.IsRegular (Hcl.objectValue fuel n)
  quotedExpr : ∀ n, Yields Expr.IsRegular (Hcl.quotedExpr fuel n)
  quoted : ∀ n, Yields (fun result => ∀ part ∈ result.1, part.IsRegular) (Hcl.quoted fuel n)
  heredocExpr : ∀ n, Yields Expr.IsRegular (Hcl.heredocExpr fuel n)
  reread : ∀ content, (Hcl.reread fuel content).IsRegular
  templateParts : ∀ q n,
    Yields (fun parts => ∀ part ∈ parts, part.IsRegular) (Hcl.templateParts fuel q n)

namespace ReadsRegular

variable {fuel : Nat} (h : ReadsRegular fuel)

include h

/-- An expression is a term and what follows it. -/
theorem expr_succ (s : Setting) : Yields Expr.IsRegular (Hcl.expr (fuel + 1) s) := by
  rw [Hcl.expr]
  exact .bind (h.term s) fun _ hroot => h.trailers _ _ hroot (List.forall_mem_nil _)

/-- Steps are read one by one and closed in the end, so the invariant is about those read so far. -/
theorem trailers_succ (choice : Bool) (s : Setting) {root : Expr} {steps : List Step}
    (hroot : root.IsRegular) (hsteps : ∀ step ∈ steps, step.IsRegular) :
    Yields Expr.IsRegular (Hcl.trailers (fuel + 1) choice s root steps) := by
  have hclosed := hroot.closeSteps hsteps
  rw [Hcl.trailers]
  refine .step fun before => .step fun _ => .step fun cs => .ite ?_ (.ite ?_ (.ite ?_ ?_))
  · exact .step fun _ => .pure hclosed
  · refine .bind (h.step _) fun next hnext => h.trailers _ _ hroot ?_
    exact List.forall_mem_cons.mpr ⟨hnext, hsteps⟩
  · refine .step fun _ => .step fun _ => .step fun yes => .step fun _ => .step fun _ => ?_
    exact .step fun _ => .step fun no => .pure (RegularLeaves.nil)
  · split
    · refine .step fun _ => .step fun _ => .step fun right => ?_
      exact h.trailers _ _ RegularLeaves.nil (List.forall_mem_nil _)
    · exact .step fun _ => .pure hclosed

theorem step_succ (n : Nesting) : Yields Step.IsRegular (Hcl.step (fuel + 1) n) := by
  rw [Hcl.step]
  refine .step fun _ => .ite (.step fun _ => .step fun _ => .ite ?_ (.step fun _ => .ite ?_ ?_))
    (.step fun _ => .step fun _ => .step fun _ => .ite ?_ ?_)
  · exact .pure RegularLeaves.nil
  · exact legacyIndex_yields
  · exact .step fun _ => .pure RegularLeaves.nil
  · exact .step fun _ => .step fun _ => .pure RegularLeaves.nil
  · exact .bind (h.expr _) fun e he => .step fun _ => .step fun _ => .pure he

/-- A term is of one of the kinds that its first character tells. -/
theorem term_succ (s : Setting) :
    Yields (fun result => result.1.IsRegular) (Hcl.term (fuel + 1) s) := by
  rw [Hcl.term]
  refine .step fun c => ?_
  cases c with
  | none => exact .failure
  | some c =>
    refine .ite ?_ (.ite ?_ (.ite ?_ (.ite ?_ (.ite ?_ (.ite ?_ (.ite ?_ (h.wordOrCall s)))))))
    · exact .bind (h.quotedExpr _) fun _ he => .pure he
    · exact .bind (h.listExpr _) fun _ he => .pure he
    · exact .bind (h.objectExpr _) fun _ he => .pure he
    · exact .bind numeral_yields fun _ hn => .pure hn.expr
    · exact .bind (h.heredocExpr _) fun _ he => .pure he
    · refine .step fun _ => .step fun _ => .step fun _ => .ite ?_ ?_
      · exact .bind numeral_yields fun _ hn => .pure hn.negated
      · exact .step fun _ => .pure RegularLeaves.nil
    · exact .step fun _ => .step fun _ => .bind (h.expr _) fun _ he => .step fun _ => .step fun _ =>
        .pure he

theorem wordOrCall_succ (s : Setting) :
    Yields (fun result => result.1.IsRegular) (Hcl.wordOrCall (fuel + 1) s) := by
  rw [Hcl.wordOrCall]
  refine .step fun name => .step fun before => .step fun _ => .step fun _ => ?_
  refine .step fun _ => .ite ?_ ?_
  · exact .bind (h.call _ _) fun _ he => .pure he
  · exact .step fun _ => .pure (Expr.isRegular_wordExpr name)

theorem call_succ (s : Setting) (name : String) :
    Yields Expr.IsRegular (Hcl.call (fuel + 1) s name) := by
  rw [Hcl.call]
  refine .step fun _ => .ite ?_ ?_
  · exact .step fun _ => .step fun _ => .step fun _ => h.call s _
  · exact .step fun _ => .step fun _ => .step fun _ => .pure RegularLeaves.nil

theorem listExpr_succ (s : Setting) : Yields Expr.IsRegular (Hcl.listExpr (fuel + 1) s) := by
  rw [Hcl.listExpr]
  refine .step fun _ => .step fun _ => .step fun _ => .ite ?_ ?_
  · exact .step fun _ => .step fun _ => .step fun _ => .step fun _ => .pure RegularLeaves.nil
  · exact .bind (h.listItems s) fun _ hitems => .pure (.list hitems)

theorem listItems_succ (s : Setting) :
    Yields (fun items => ∀ e ∈ items, e.IsRegular) (Hcl.listItems (fuel + 1) s) := by
  rw [Hcl.listItems]
  refine .step fun _ => .ite (.pure (List.forall_mem_nil _)) (.bind (h.expr s) fun e he => ?_)
  refine .step fun _ => .step fun _ => .ite ?_ ?_
  · refine .step fun _ => .bind (h.listItems s) fun _ hitems => .pure ?_
    exact List.forall_mem_cons.mpr ⟨he, hitems⟩
  · exact .step fun _ => .pure (by simpa using he)

theorem objectExpr_succ (s : Setting) : Yields Expr.IsRegular (Hcl.objectExpr (fuel + 1) s) := by
  rw [Hcl.objectExpr]
  refine .step fun _ => .step fun _ => .step fun _ => .step fun _ => .ite ?_ ?_
  · exact .step fun _ => .step fun _ => .step fun _ => .step fun _ => .step fun _ => .step fun _ =>
      .step fun _ => .step fun _ => .step fun _ => .step fun _ => .pure RegularLeaves.nil
  · refine .step fun _ => .bind (h.objectItems _ (List.forall_mem_nil _)) fun _ hentries => ?_
    exact .pure (.object hentries)

/-- Entries are added to those read before. -/
theorem objectItems_succ (n : Nesting) {entries : List ObjectEntry}
    (hentries : ∀ entry ∈ entries, entry.IsRegular) :
    Yields (fun entries => ∀ entry ∈ entries, entry.IsRegular)
      (Hcl.objectItems (fuel + 1) n entries) := by
  rw [Hcl.objectItems]
  refine .step fun _ => .step fun _ => .ite ?_ ?_
  · exact .step fun _ => .step fun _ => .pure hentries
  · refine .bind (.captured (h.objectKey n)) fun _ hkey => ?_
    refine .bind (.captured (h.objectValue n)) fun _ hvalue => h.objectItems n ?_
    exact ObjectEntry.IsRegular.put ⟨hkey, hvalue⟩ hentries

theorem objectKey_succ (n : Nesting) : Yields Expr.IsRegular (Hcl.objectKey (fuel + 1) n) := by
  rw [Hcl.objectKey]
  exact .bind (h.expr _) fun _ he => .step fun _ => .pure he

theorem objectValue_succ (n : Nesting) : Yields Expr.IsRegular (Hcl.objectValue (fuel + 1) n) := by
  rw [Hcl.objectValue]
  refine .step fun _ => .join (.step fun _ => .bind (h.expr _) fun _ he => ?_)
  refine .step fun _ => .step fun _ => .ite (.pure he) (.step fun _ => .ite (.pure he) ?_)
  exact .step fun _ => .step fun _ => .pure he

/-- A template, put together and read again or not. -/
theorem isRegular_reread_or (n : Nesting) (content : List Char) {parts : List Part}
    (hparts : ∀ part ∈ parts, part.IsRegular) :
    (if n == .outside then Hcl.reread fuel content else .template parts).IsRegular := by
  split_ifs
  · exact h.reread content
  · exact .template hparts

theorem quotedExpr_succ (n : Nesting) : Yields Expr.IsRegular (Hcl.quotedExpr (fuel + 1) n) := by
  rw [Hcl.quotedExpr]
  refine .bind (h.quoted n) fun result hparts => ?_
  obtain ⟨parts, content⟩ := result
  dsimp only
  cases plainText? parts with
  | some s => exact .pure RegularLeaves.nil
  | none => exact .pure (h.isRegular_reread_or n content hparts)

/-- The parts of a text in quotes. -/
theorem quoted_succ (n : Nesting) :
    Yields (fun result => ∀ part ∈ result.1, part.IsRegular) (Hcl.quoted (fuel + 1) n) := by
  rw [Hcl.quoted]
  refine .step fun _ => .bind (.captured (h.templateParts _ _)) fun _ hparts => ?_
  exact .step fun _ => .step fun _ => .pure hparts

theorem heredocExpr_succ (n : Nesting) : Yields Expr.IsRegular (Hcl.heredocExpr (fuel + 1) n) := by
  rw [Hcl.heredocExpr]
  refine .step fun _ => .step fun _ => .step fun _ => .step fun _ => .step fun _ => ?_
  refine .bind (.captured (h.templateParts _ _)) fun result hparts => ?_
  obtain ⟨parts, content⟩ := result
  refine .bind (p := fun result => ∀ part ∈ result.1, part.IsRegular)
    (.step fun _ => .ite (.step fun ending => ?_) (.step fun _ => .pure (List.forall_mem_nil _)))
    fun _ hparts => .step fun _ => .step fun _ => .step fun _ =>
      .pure (h.isRegular_reread_or n _ hparts)
  -- the last line break belongs to the text
  have hending : ∀ s, ∀ part ∈ [Part.text s], part.IsRegular := by
    simp [Part.IsRegular]
  cases plainText? parts with
  | some s => exact .pure (hending _)
  | none => exact .pure (List.forall_mem_append.mpr ⟨hparts, hending _⟩)

/-- What is put together from parts is a template with regular parts, or none at all. -/
theorem reread_succ (content : List Char) : (Hcl.reread (fuel + 1) content).IsRegular := by
  rw [Hcl.reread]
  cases hparts : whole? (Hcl.templateParts fuel .bare .outside) content with
  | none => exact RegularLeaves.nil
  | some parts => exact .template ((h.templateParts _ _).of_whole? hparts)

/-- The parts of a template, one after another. -/
theorem templateParts_succ (q : Quoting) (n : Nesting) :
    Yields (fun parts => ∀ part ∈ parts, part.IsRegular) (Hcl.templateParts (fuel + 1) q n) := by
  have hcons : ∀ {part : Part}, part.IsRegular →
      Yields (fun parts => ∀ part ∈ parts, part.IsRegular)
        (do return part :: (← Hcl.templateParts fuel q n)) := fun hpart =>
    .bind (h.templateParts q n) fun _ hparts => .pure (List.forall_mem_cons.mpr ⟨hpart, hparts⟩)
  rw [Hcl.templateParts]
  refine .step fun _ => .ite (hcons trivial) (.step fun _ => .ite ?_ (.step fun _ => .ite ?_
    (.step fun _ => .ite ?_ (.pure (List.forall_mem_nil _)))))
  · exact .step fun _ => .step fun _ => .bind (h.expr _) fun _ he => .step fun _ => hcons he
  · exact .bind (conditionDirective_yields fuel n) fun _ hpart => hcons hpart
  · exact .bind (loopDirective_yields fuel n) fun _ hpart => hcons hpart

end ReadsRegular

/-- **The grammar reads regular expressions only.** -/
theorem readsRegular (fuel : Nat) : ReadsRegular fuel := by
  induction fuel with
  | zero =>
    exact {
      expr := fun _ => .failure
      trailers := fun _ _ _ _ _ _ => .failure
      step := fun _ => .failure
      term := fun _ => .failure
      wordOrCall := fun _ => .failure
      call := fun _ _ => .failure
      listExpr := fun _ => .failure
      listItems := fun _ => .failure
      objectExpr := fun _ => .failure
      objectItems := fun _ _ _ => .failure
      objectKey := fun _ => .failure
      objectValue := fun _ => .failure
      quotedExpr := fun _ => .failure
      quoted := fun _ => .failure
      heredocExpr := fun _ => .failure
      reread := fun _ => RegularLeaves.nil
      templateParts := fun _ _ => .failure }
  | succ fuel h =>
    exact {
      expr := h.expr_succ
      trailers := h.trailers_succ
      step := h.step_succ
      term := h.term_succ
      wordOrCall := h.wordOrCall_succ
      call := h.call_succ
      listExpr := h.listExpr_succ
      listItems := h.listItems_succ
      objectExpr := h.objectExpr_succ
      objectItems := h.objectItems_succ
      objectKey := h.objectKey_succ
      objectValue := h.objectValue_succ
      quotedExpr := h.quotedExpr_succ
      quoted := h.quoted_succ
      heredocExpr := h.heredocExpr_succ
      reread := h.reread_succ
      templateParts := h.templateParts_succ }

/-! ### Bodies -/

/-- All expressions of an item are regular, also those in the blocks inside it. -/
def Item.IsRegular (item : Item) : Prop :=
  ∀ e ∈ item.exprs, e.IsRegular

theorem Item.mem_exprsOf {e : Expr} {body : List Item} :
    e ∈ Item.exprsOf body ↔ ∃ item ∈ body, e ∈ item.exprs := by
  induction body with
  | nil => simp [Item.exprsOf]
  | cons item rest ih => simp [Item.exprsOf, ih]

theorem attrValue_yields (fuel : Nat) : Yields Expr.IsRegular (attrValue fuel) := by
  rw [attrValue]
  exact .step fun _ => .step fun _ => (readsRegular fuel).expr _

/-- With a bound, bodies are read with regular items only. -/
structure ReadsRegularItems (fuel : Nat) : Prop where
  bodyItems : ∀ seen,
    Yields (fun items => ∀ p ∈ items, p.2.IsRegular) (Hcl.bodyItems fuel seen)
  bodyItem : ∀ seen, Yields Item.IsRegular (Hcl.bodyItem fuel seen)
  blockBody : Yields (fun items => ∀ item ∈ items, item.IsRegular) (Hcl.blockBody fuel)

theorem Item.isRegular_attr {name : String} {e : Expr} (h : e.IsRegular) :
    (Item.attr name e).IsRegular := by
  simpa [Item.IsRegular, Item.exprs] using h

/-- A block is regular if the items inside it are. -/
theorem Item.isRegular_block {name : String} {labels : List String} {body : List Item}
    (h : ∀ item ∈ body, item.IsRegular) : (Item.block name labels body).IsRegular := by
  intro e he
  obtain ⟨item, hitem, he⟩ := Item.mem_exprsOf.mp he
  exact h item hitem e he

/-- Items are regular, by induction on the depth to which they are read. -/
theorem readsRegularItems (fuel : Nat) : ReadsRegularItems fuel := by
  induction fuel with
  | zero => exact ⟨fun _ => .failure, fun _ => .failure, .failure⟩
  | succ fuel h =>
    refine ⟨fun seen => ?_, fun seen => ?_, ?_⟩
    · rw [Hcl.bodyItems]
      refine .step fun _ => .step fun _ => .ite ?_ (.pure (List.forall_mem_nil _))
      refine .step fun _ => .bind (h.bodyItem seen) fun item hitem => .step fun _ => ?_
      refine .bind (h.bodyItems _) fun _ hitems => .pure ?_
      exact List.forall_mem_cons.mpr ⟨hitem, hitems⟩
    · rw [Hcl.bodyItem]
      refine .step fun name => .step fun _ => .step fun _ => .ite ?_ ?_
      · refine .ite .failure (.bind (attrValue_yields fuel) fun _ he => ?_)
        exact .pure (Item.isRegular_attr he)
      · refine .step fun _ => .bind h.blockBody fun _ hitems => .pure ?_
        exact Item.isRegular_block hitems
    · rw [Hcl.blockBody]
      refine .step fun _ => .step fun _ => .step fun _ => .ite (.pure (List.forall_mem_nil _)) ?_
      refine .step fun _ => .ite ?_ ?_
      · refine .step fun name => .step fun _ => .bind (attrValue_yields fuel) fun e he => ?_
        refine .step fun _ => .step fun _ => .pure ?_
        simpa using Item.isRegular_attr he
      · refine .step fun _ => .step fun _ => .bind (h.bodyItems _) fun items hitems => ?_
        exact .step fun _ => .pure (List.forall_mem_map.mpr hitems)

/-- **All that a source file holds is regular.** -/
theorem isRegular_of_parseItems? {cs : List Char} {items : List (Nat × Item)}
    (h : parseItems? cs = some items) : ∀ p ∈ items, p.2.IsRegular := by
  rw [parseItems?] at h
  obtain ⟨read, hread, hitems⟩ := Option.bind_eq_some_iff.mp h
  obtain rfl := Option.some.inj hitems
  exact List.forall_mem_map.mpr (((readsRegularItems _).bodyItems []).of_whole? hread)

/-- All that a body holds is regular. -/
theorem isRegular_of_parseBody? {text : String} {body : List Item}
    (h : parseBody? text = some body) : ∀ item ∈ body, item.IsRegular := by
  obtain ⟨items, hitems, rfl⟩ := Option.map_eq_some_iff.mp h
  exact List.forall_mem_map.mpr (isRegular_of_parseItems? hitems)

end Hcl

/-- All expressions of a document are regular. -/
def Document.IsRegular (d : Document) : Prop :=
  ∀ p ∈ d.blocks, ∀ item ∈ p.2.body, item.IsRegular

/-- **What is read from a file is regular.** -/
theorem Document.isRegular_of_parse {file content : String} {d : Document}
    (h : Document.parse file content = .ok d) : d.IsRegular := by
  obtain ⟨items, hitems, rfl⟩ := Document.exists_items_of_parse h
  intro p hp item hitem
  obtain ⟨q, hq, -, hbody⟩ := Document.exists_of_mem_blocksOf hp
  have hblock := Hcl.isRegular_of_parseItems? hitems q hq
  rw [hbody] at hblock
  exact fun e he => hblock e (Hcl.Item.mem_exprsOf.mpr ⟨item, hitem, he⟩)

end InfraPolicy
