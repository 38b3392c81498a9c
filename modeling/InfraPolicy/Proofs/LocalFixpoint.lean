import InfraPolicy.Proofs.Alike
import InfraPolicy.Proofs.Locals
import Mathlib.Data.List.Chain
import Mathlib.Logic.Relation

/-!
# The values that locals settle on

Locals that do not refer to each other in a circle have values that do not hang on the order of
their declarations. A local is **settled** when its value is like what its expression means in the
scope. A pass settles every local that refers to settled ones only, and leaves settled ones like
what they were (`Hcl.Scope.settledAt_pass`). So the passes settle all locals, the depth of the
references being less than the number of declarations (`Hcl.Acyclic.shallow`), and settled scopes
with like variables are alike (`Hcl.Scope.value_unique`).

The values are compared by a likeness, not by equality: a local keeps the value that it has if it is
identical to the new one, so two runs may end with fields in different orders.
-/

namespace InfraPolicy.Hcl

/-! ### References among locals -/

/-- A declaration of the one local refers to the other. -/
def RefersTo (defs : List (String × Expr)) (name other : String) : Prop :=
  ∃ e, (name, e) ∈ defs ∧ .reference "local" other ∈ e.leaves

/-- No local refers to itself, directly or through others. -/
def Acyclic (defs : List (String × Expr)) : Prop :=
  ∀ name, ¬ Relation.TransGen (RefersTo defs) name name

/-- References from a local lead to names that are not declared within a number of steps. -/
def Shallow (defs : List (String × Expr)) : Nat → String → Prop
  | 0, name => name ∉ defs.map Prod.fst
  | n + 1, name => ∀ other, RefersTo defs name other → Shallow defs n other

variable {defs : List (String × Expr)} {n : Nat} {name : String}

theorem RefersTo.mem_names {other : String} (h : RefersTo defs name other) :
    name ∈ defs.map Prod.fst := by
  obtain ⟨e, hmem, -⟩ := h
  exact List.mem_map_of_mem hmem

/-- Locals do not refer to each other in circles if every reference to a declared one goes down in
some rank. -/
theorem Acyclic.of_rank (rank : String → Nat)
    (h : ∀ d ∈ defs, ∀ other ∈ defs.map Prod.fst, .reference "local" other ∈ d.2.leaves →
      rank other < rank d.1) : Acyclic defs := by
  have hdown : ∀ {name other}, Relation.TransGen (RefersTo defs) name other →
      other ∈ defs.map Prod.fst → rank other < rank name := by
    intro name other hpath
    induction hpath with
    | single hstep =>
      intro hother
      obtain ⟨e, hd, hleaf⟩ := hstep
      exact h _ hd _ hother hleaf
    | tail _ hstep ih =>
      intro hother
      have hmiddle := ih hstep.mem_names
      obtain ⟨e, hd, hleaf⟩ := hstep
      exact (h _ hd _ hother hleaf).trans hmiddle
  intro name hcycle
  -- A name on a circle refers to something, so it is declared.
  obtain ⟨other, hstep, -⟩ := Relation.TransGen.head'_iff.mp hcycle
  exact (hdown hcycle hstep.mem_names).false

theorem Shallow.succ (h : Shallow defs n name) : Shallow defs (n + 1) name := by
  induction n generalizing name with
  | zero => exact fun other hrefers => absurd hrefers.mem_names h
  | succ n ih => exact fun other hrefers => ih (h other hrefers)

/-- A local that is not shallow begins a chain of references among declared locals. -/
theorem exists_chain_of_not_shallow (h : ¬ Shallow defs n name) :
    ∃ chain : List String, chain.length = n ∧ (name :: chain).IsChain (RefersTo defs) ∧
      name :: chain ⊆ defs.map Prod.fst := by
  induction n generalizing name with
  | zero => exact ⟨[], rfl, .singleton name, by simpa [Shallow] using h⟩
  | succ n ih =>
    obtain ⟨other, h⟩ := not_forall.mp h
    obtain ⟨hrefers, hother⟩ := Classical.not_imp.mp h
    obtain ⟨chain, hlength, hchain, hsubset⟩ := ih hother
    refine ⟨other :: chain, by rw [List.length_cons, hlength], .cons_cons hrefers hchain, ?_⟩
    exact List.cons_subset.mpr ⟨hrefers.mem_names, hsubset⟩

/-- Without circles no chain of references is longer than the list of declarations. -/
theorem Acyclic.shallow (h : Acyclic defs) (name : String) : Shallow defs defs.length name := by
  by_contra hname
  obtain ⟨chain, hlength, hchain, hsubset⟩ := exists_chain_of_not_shallow hname
  have hpairwise : (name :: chain).Pairwise (Relation.TransGen (RefersTo defs)) :=
    List.isChain_iff_pairwise.mp (hchain.imp fun _ _ => .single)
  have hnodup : (name :: chain).Nodup := by
    refine hpairwise.imp fun {a b} hab heq => ?_
    subst heq
    exact h a hab
  have hle := (List.subperm_of_subset hnodup hsubset).length_le
  rw [List.length_cons, hlength, List.length_map] at hle
  exact absurd hle (Nat.not_succ_le_self _)

/-! ### Sound scopes -/

/-- The numbers that are written in an expression are like themselves. -/
def Expr.Sound (R : Value → Value → Prop) (e : Expr) : Prop :=
  ∀ x, .number x ∈ e.leaves → R (.float x) (.float x)

/-- The locals that an expression refers to belong to a part of the names. -/
def Expr.Within (P : String → Prop) (e : Expr) : Prop :=
  ∀ name, .reference "local" name ∈ e.leaves → P name

/-- Declarations that determine the values of their locals. -/
structure Determined (R : Value → Value → Prop) (defs : List (String × Expr)) : Prop where
  names : (defs.map Prod.fst).Nodup
  acyclic : Acyclic defs
  sound : ∀ d ∈ defs, d.2.Sound R

namespace Scope

/-! ### Scopes that are alike -/

/-- The value of a variable, unknown if it has none. -/
def varValue (s : Scope) (name : String) : Value :=
  (s.vars.get? name).getD .unknown

/-- The value of a local, unknown if it has none. -/
def localValue (s : Scope) (name : String) : Value :=
  (s.locals.get? name).getD .unknown

/-- Scopes with like variables, and like locals as far as they belong to a part of the names. -/
structure LikeOn (R : Value → Value → Prop) (P : String → Prop) (s s' : Scope) : Prop where
  vars : ∀ name, R (s.varValue name) (s'.varValue name)
  locals : ∀ name, P name → R (s.localValue name) (s'.localValue name)

variable {R : Value → Value → Prop} {s s' : Scope} {P : String → Prop} {d : String × Expr}

/-- An expression has like values if all the locals that it refers to do. -/
theorem LikeOn.eval (hR : Value.Congruence R) (h : LikeOn R P s s') {e : Expr} (he : e.Sound R)
    (hwithin : e.Within P) : R (s.eval e) (s'.eval e) := by
  refine eval_rel hR e fun leaf hleaf => ?_
  cases leaf with
  | number x => exact he x hleaf
  | reference root name =>
    rw [Leaf.value, Leaf.value, table?, table?]
    by_cases hvar : root = "var"
    · simp only [if_pos hvar]
      exact h.vars name
    · by_cases hlocal : root = "local"
      · subst hlocal
        exact h.locals name (hwithin name hleaf)
      · simp only [if_neg hvar, if_neg hlocal]
        exact hR.atom _ rfl

/-- All values are like themselves, and only locals that are declared have one. -/
structure Sound (R : Value → Value → Prop) (defs : List (String × Expr)) (s : Scope) : Prop where
  values : LikeOn R (fun _ => True) s s
  declared : ∀ name, name ∉ defs.map Prod.fst → s.locals.get? name = none

/-- In a sound scope a sound expression has a value that is like itself. -/
theorem Sound.eval (hR : Value.Congruence R) (h : Sound R defs s) {e : Expr} (he : e.Sound R) :
    R (s.eval e) (s.eval e) :=
  h.values.eval hR he fun _ _ => trivial

/-- Setting a local changes its value only. -/
theorem localValue_setLocal (s : Scope) (name other : String) (v : Value) :
    (s.setLocal name v).localValue other = if name = other then v else s.localValue other := by
  rw [localValue, locals_setLocal, Fields.get?_insert]
  split_ifs <;> rfl

theorem Sound.setLocal (h : Sound R defs s) (hd : d ∈ defs) {v : Value} (hv : R v v) :
    Sound R defs (s.setLocal d.1 v) := by
  refine ⟨⟨h.values.vars, fun name _ => ?_⟩, fun name hname => ?_⟩
  · rw [localValue_setLocal]
    split_ifs
    · exact hv
    · exact h.values.locals name trivial
  · have hne : d.1 ≠ name := by
      rintro rfl
      exact hname (List.mem_map_of_mem hd)
    rw [locals_setLocal, Fields.get?_insert, if_neg hne]
    exact h.declared name hname

/-- The value of a local is like what its expression means. -/
def SettledAt (R : Value → Value → Prop) (s : Scope) (d : String × Expr) : Prop :=
  R (s.localValue d.1) (s.eval d.2)

/-! ### What a step does -/

section Steps

variable (hR : Value.Likeness R) (hdefs : Determined R defs)

include hR hdefs

/-- Evaluating a local once more keeps the scope sound. -/
theorem Sound.revisit (h : Sound R defs s) (hd : d ∈ defs) : Sound R defs (s.revisit d) := by
  rw [revisit_eq]
  split_ifs
  · exact h
  · exact h.setLocal hd (h.eval hR.toCongruence (hdefs.sound d hd))

/-- A local that is evaluated again gets a value like what its expression meant before. -/
theorem Sound.localValue_revisit (h : Sound R defs s) (hd : d ∈ defs) :
    R ((s.revisit d).localValue d.1) (s.eval d.2) := by
  have hnew := h.eval hR.toCongruence (hdefs.sound d hd)
  rw [revisit_eq]
  split_ifs with hkeep
  · obtain ⟨old, hold, hsame⟩ := (Option.any_eq_true _ _).mp hkeep
    have hvalue : s.localValue d.1 = old := by rw [localValue, hold, Option.getD_some]
    have hself := h.values.locals d.1 trivial
    rw [hvalue] at hself ⊢
    exact hR.of_identical hself hnew hsame
  · rw [localValue_setLocal, if_pos rfl]
    exact hnew

/-- **A step changes no settled local**, up to likeness. -/
theorem Sound.likeOn_revisit (h : Sound R defs s) (hd : d ∈ defs)
    (hsettled : ∀ e ∈ defs, P e.1 → SettledAt R s e) : LikeOn R P s (s.revisit d) := by
  refine ⟨fun name => ?_, fun name hname => ?_⟩
  · rw [varValue, varValue, vars_revisit]
    exact h.values.vars name
  · by_cases hne : name = d.1
    · subst hne
      exact hR.trans (hsettled d hd hname) (hR.symm (h.localValue_revisit hR hdefs hd))
    · rw [localValue, localValue, get?_locals_revisit_of_ne s hne]
      exact h.values.locals name trivial

/-- A step settles its local if that refers to settled locals only, and keeps others settled that do
so too. -/
theorem Sound.settledAt_revisit (h : Sound R defs s) (hd : d ∈ defs)
    (hsettled : ∀ e ∈ defs, P e.1 → SettledAt R s e) {e : String × Expr} (he : e ∈ defs)
    (hwithin : e.2.Within P) (hor : e = d ∨ SettledAt R s e) : SettledAt R (s.revisit d) e := by
  have hlike := (h.likeOn_revisit hR hdefs hd hsettled).eval hR.toCongruence (hdefs.sound e he)
    hwithin
  by_cases hname : e.1 = d.1
  · obtain rfl : e = d := List.inj_on_of_nodup_map hdefs.names he hd hname
    exact hR.trans (h.localValue_revisit hR hdefs he) hlike
  · have hold : SettledAt R s e := hor.resolve_left fun heq => hname (congrArg Prod.fst heq)
    rw [SettledAt, localValue, get?_locals_revisit_of_ne s hname]
    exact hR.trans hold hlike

/-! ### What passes do -/

theorem Sound.pass (h : Sound R defs s) : Sound R defs (Scope.pass defs s) :=
  List.foldlRecOn defs _ h fun _ h _ hd => h.revisit hR hdefs hd

theorem Sound.firstPass (h : Sound R defs s) : Sound R defs (Scope.firstPass defs s) :=
  List.foldlRecOn defs _ h fun _ h _ hd =>
    h.setLocal hd (h.eval hR.toCongruence (hdefs.sound _ hd))

/-- **A pass settles what refers to settled locals only.** -/
theorem Sound.settledAt_pass (h : Sound R defs s) (hclosed : ∀ e ∈ defs, P e.1 → e.2.Within P)
    (hsettled : ∀ e ∈ defs, P e.1 → SettledAt R s e) {e : String × Expr} (he : e ∈ defs)
    (hwithin : e.2.Within P) : SettledAt R (Scope.pass defs s) e := by
  -- by induction over the part of the pass that is left; what it does not meet is settled already
  suffices hpart : ∀ part ⊆ defs, ∀ {s}, Sound R defs s →
      (∀ e ∈ defs, P e.1 → SettledAt R s e) → e ∈ part ∨ SettledAt R s e →
        SettledAt R (Scope.pass part s) e from
    hpart defs (List.Subset.refl defs) h hsettled (.inl he)
  intro part
  induction part with
  | nil => exact fun _ _ _ _ hor => hor.resolve_left List.not_mem_nil
  | cons d rest ih =>
    intro hpart s h hsettled hor
    obtain ⟨hd, hrest⟩ := List.cons_subset.mp hpart
    have hkept : ∀ e ∈ defs, P e.1 → SettledAt R (s.revisit d) e := fun e he hname =>
      h.settledAt_revisit hR hdefs hd hsettled he (hclosed e he hname) (.inr (hsettled e he hname))
    refine ih hrest (h.revisit hR hdefs hd) hkept ?_
    rcases hor with hmem | hold
    · rcases List.mem_cons.mp hmem with heq | hmem
      · exact .inr (h.settledAt_revisit hR hdefs hd hsettled he hwithin (.inl heq))
      · exact .inl hmem
    · exact .inr (h.settledAt_revisit hR hdefs hd hsettled he hwithin (.inr hold))

/-- As many passes as there are steps in the references from a local settle it. -/
theorem Sound.settledAt_iterate (h : Sound R defs s) (n : Nat) :
    Sound R defs ((Scope.pass defs)^[n] s) ∧
      ∀ e ∈ defs, Shallow defs n e.1 → SettledAt R ((Scope.pass defs)^[n] s) e := by
  induction n with
  | zero => exact ⟨h, fun e he hname => absurd (List.mem_map_of_mem he) hname⟩
  | succ n ih =>
    obtain ⟨hsound, hsettled⟩ := ih
    rw [Function.iterate_succ_apply']
    have hwithin : ∀ e ∈ defs, Shallow defs (n + 1) e.1 → e.2.Within (Shallow defs n) :=
      fun e he hname other hother => hname other ⟨e.2, he, hother⟩
    refine ⟨hsound.pass hR hdefs, fun e he hname => ?_⟩
    exact hsound.settledAt_pass hR hdefs (fun e he hname => hwithin e he hname.succ) hsettled he
      (hwithin e he hname)

/-- **Locals settle.** At the end of the passes every local is like what its expression means. -/
theorem Sound.resolveLocals (h : Sound R defs s) :
    Sound R defs (Scope.resolveLocals defs s) ∧
      ∀ d ∈ defs, SettledAt R (Scope.resolveLocals defs s) d := by
  rw [Scope.resolveLocals, settle_eq_iterate]
  obtain ⟨hsound, hsettled⟩ := (h.firstPass hR hdefs).settledAt_iterate hR hdefs defs.length
  exact ⟨hsound, fun d hd => hsettled d hd (hdefs.acyclic.shallow d.1)⟩

/-! ### Uniqueness -/

/-- **Settled scopes are alike** if their variables are. -/
theorem Sound.likeOn_of_settled (h : Sound R defs s) (h' : Sound R defs s')
    (hsettled : ∀ d ∈ defs, SettledAt R s d) (hsettled' : ∀ d ∈ defs, SettledAt R s' d)
    (hvars : ∀ name, R (s.varValue name) (s'.varValue name)) :
    LikeOn R (fun _ => True) s s' := by
  have hundeclared : ∀ name, name ∉ defs.map Prod.fst →
      R (s.localValue name) (s'.localValue name) := by
    intro name hname
    rw [localValue, localValue, h.declared name hname, h'.declared name hname]
    exact hR.atom _ rfl
  suffices hshallow : ∀ n, LikeOn R (Shallow defs n) s s' from
    ⟨hvars, fun name _ => (hshallow _).locals name (hdefs.acyclic.shallow name)⟩
  intro n
  induction n with
  | zero => exact ⟨hvars, hundeclared⟩
  | succ n ih =>
    refine ⟨hvars, fun name hname => ?_⟩
    by_cases hmem : name ∈ defs.map Prod.fst
    · obtain ⟨d, hd, rfl⟩ := List.mem_map.mp hmem
      have heval : R (s.eval d.2) (s'.eval d.2) :=
        ih.eval hR.toCongruence (hdefs.sound d hd) fun other hother => hname other ⟨d.2, hd, hother⟩
      exact hR.trans (hsettled d hd) (hR.trans heval (hR.symm (hsettled' d hd)))
    · exact hundeclared name hmem

end Steps

/-! ### Declarations in another order -/

theorem vars_resolveLocals (defs : List (String × Expr)) (s : Scope) :
    (resolveLocals defs s).vars = s.vars := by
  refine @resolveLocals_rel (fun t _ => t.vars = s.vars) defs (fun _ _ _ _ h => h) ?_ s s rfl
  intro d _ t _ h
  rw [vars_revisit]
  exact h

end Scope

/-- Whether declarations determine their locals does not hang on their order. -/
theorem Determined.perm {R : Value → Value → Prop} {defs' : List (String × Expr)}
    (h : Determined R defs) (hperm : defs.Perm defs') : Determined R defs' := by
  have hrefers : RefersTo defs' = RefersTo defs := by
    funext name other
    simp only [RefersTo, hperm.mem_iff]
  refine ⟨(hperm.map _).nodup_iff.mp h.names, ?_, fun d hd => h.sound d (hperm.mem_iff.mpr hd)⟩
  rw [Acyclic, hrefers]
  exact h.acyclic

/-- **The order of declarations does not matter.** The passes end with like values in every order,
from scopes with like variables. -/
theorem Scope.resolveLocals_perm {R : Value → Value → Prop} (hR : Value.Likeness R)
    {defs' : List (String × Expr)} (hdefs : Determined R defs) (hperm : defs.Perm defs')
    {s s' : Scope} (h : Sound R defs s) (h' : Sound R defs s')
    (hvars : ∀ name, R (s.varValue name) (s'.varValue name)) :
    LikeOn R (fun _ => True) (resolveLocals defs s) (resolveLocals defs' s') := by
  have hnames : ∀ name, name ∈ defs.map Prod.fst ↔ name ∈ defs'.map Prod.fst :=
    fun name => (hperm.map Prod.fst).mem_iff
  have hstart : Sound R defs' s' :=
    ⟨h'.values, fun name hname => h'.declared name (by rwa [hnames])⟩
  obtain ⟨hsound, hsettled⟩ := h.resolveLocals hR hdefs
  obtain ⟨hsound', hsettled'⟩ := hstart.resolveLocals hR (hdefs.perm hperm)
  have hend : Sound R defs (resolveLocals defs' s') :=
    ⟨hsound'.values, fun name hname => hsound'.declared name (by rwa [← hnames])⟩
  refine hsound.likeOn_of_settled hR hdefs hend hsettled
    (fun d hd => hsettled' d (hperm.mem_iff.mp hd)) fun name => ?_
  rw [varValue, varValue, vars_resolveLocals, vars_resolveLocals]
  exact hvars name

end InfraPolicy.Hcl
