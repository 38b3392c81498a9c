import InfraPolicy.Proofs.LocalFixpoint

/-!
# The one solution of locals

Declarations of locals are a system of equations: a table of values **solves** them if it has a
value for every declared local and for no other name, and each value equals what the expression of
its local means in the table (`Hcl.Solves`). If no local refers to itself, directly or through
others, there is one solution, and the passes end with it, in every order of the declarations
(`Hcl.Resolved`). The bound on the passes is no loss: any number of passes beyond it, without a
comparison and without an early end, leads to the same table.

All of this rests on two facts: settled scopes are solutions and the other way round, and two
solutions agree (`Hcl.Solves.agree`). An order of the declarations and a number of passes are then
only ways to find a solution.

The equality of values is `Value.identical`. It is an equality of values without NaNs only, a NaN
being different from itself. `Value.Same` is the same relation but for this, and it is an equality
of all values; the results are stated for both.
-/

namespace InfraPolicy

/-! ### Equalities of numbers -/

namespace Binary64

theorem eqv_trans {x y z : Binary64} (hxy : x.eqv y = true) (hyz : y.eqv z = true) :
    x.eqv z = true := by
  simp only [eqv, Bool.and_eq_true, beq_iff_eq] at hxy hyz ⊢
  exact ⟨⟨hxy.1.1, hyz.1.2⟩, hxy.2.trans hyz.2⟩

theorem likeness_eqv : Likeness fun x y => x.eqv y = true where
  symm h := (eqv_symm _ _).trans h
  trans := eqv_trans
  of_eqv _ _ h := h

/-- Numeric equality, and a NaN is the same as itself. -/
def Same (x y : Binary64) : Prop :=
  x = y ∨ x.eqv y = true

theorem likeness_same : Likeness Same where
  symm h := h.imp Eq.symm (eqv_symm _ _).trans
  trans := by
    rintro x y z (rfl | hxy) (rfl | hyz)
    · exact .inl rfl
    · exact .inr hyz
    · exact .inr hxy
    · exact .inr (eqv_trans hxy hyz)
  of_eqv _ _ h := .inr h

end Binary64

/-! ### Equalities of values -/

/-- Values are the same if they differ in the order of the fields of objects at most. -/
def Value.Same : Value → Value → Prop :=
  Value.Alike Binary64.Same

/-- **Every value is the same as itself**, NaNs or not. -/
theorem Value.KeyedOnce.same (v : Value) (h : v.KeyedOnce) : v.Same v :=
  .of_keyedOnce (fun _ => .inl rfl) h

namespace Value

/-- Alike values that are identical have numerically equal floats. -/
theorem Alike.eqv_of_identical {F : Binary64 → Binary64 → Prop} {v w : Value} (h : Alike F v w)
    (hid : v.identical w = true) : Alike (fun x y => x.eqv y = true) v w := by
  induction h with
  | atom h => exact .atom h
  | float _ => exact .float hid
  | list length _ ih =>
    rw [Value.identical, identicalItems_iff, List.forall₂_iff_get] at hid
    exact .list length fun n h h' => ih n h h' (hid.2 n h h')
  | object nodup keys _ ih =>
    rw [Value.identical, Bool.and_eq_true, identicalFields_iff] at hid
    refine .object nodup keys fun key v w hv hw => ih key v w hv hw ?_
    obtain ⟨u, hu, hvu⟩ := hid.2 _ (Fields.mem_of_get? hv)
    obtain rfl : w = u := Option.some.inj (hw.symm.trans hu)
    exact hvu

/-- Identity by structure, of values in which every object holds each key once. -/
theorem alike_of_identical {v w : Value} (hv : v.KeyedOnce) (hw : w.KeyedOnce)
    (h : v.identical w = true) : Alike (fun x y => x.eqv y = true) v w :=
  Alike.eqv_of_identical (.of_identical Binary64.likeness_same (hv.same v) (hw.same w) h) h

end Value

namespace Hcl

/-! ### Tables of locals -/

variable {E E' : Value → Value → Prop} {vars table : Fields} {defs : List (String × Expr)}

/-- A table that solves declarations, by an equality of values. -/
structure Solves (E : Value → Value → Prop) (vars : Fields) (defs : List (String × Expr))
    (table : Fields) : Prop where
  declared : ∀ name, (table.get? name).isSome = true ↔ name ∈ defs.map Prod.fst
  values : ∀ d ∈ defs, ∀ v, table.get? d.1 = some v →
    E v (Scope.eval { vars, locals := table } d.2)

/-- Tables with the same names and equal values. -/
def TablesAgree (E : Value → Value → Prop) (table table' : Fields) : Prop :=
  ∀ name, Option.Rel E (table.get? name) (table'.get? name)

/-- The passes over declarations end with their one solution. -/
structure Resolved (E : Value → Value → Prop) (vars : Fields) (defs : List (String × Expr)) :
    Prop where
  solves : Solves E vars defs (Scope.resolveLocals defs { vars }).locals
  unique : ∀ table : Fields, table.KeyedOnce → Solves E vars defs table →
    TablesAgree E table (Scope.resolveLocals defs { vars }).locals
  order : ∀ defs', defs.Perm defs' → TablesAgree E (Scope.resolveLocals defs' { vars }).locals
    (Scope.resolveLocals defs { vars }).locals
  /-- The first pass and as many more as there are declarations, or any number beyond. -/
  passes : ∀ n, defs.length ≤ n → TablesAgree E ((Scope.firstPass defs)^[n + 1] { vars }).locals
    (Scope.resolveLocals defs { vars }).locals

theorem TablesAgree.mono {table' : Fields} (h : TablesAgree E table table')
    (hE : ∀ v w, E v w → E' v w) : TablesAgree E' table table' := by
  intro name
  have hname := h name
  generalize table.get? name = a, table'.get? name = b at hname ⊢
  cases hname with
  | none => exact .none
  | some hvw => exact .some (hE _ _ hvw)

/-- The order of equations does not matter. -/
theorem Solves.perm {defs' : List (String × Expr)} (h : Solves E vars defs table)
    (hperm : defs.Perm defs') : Solves E vars defs' table :=
  ⟨fun name => (h.declared name).trans (hperm.map Prod.fst).mem_iff,
    fun d hd => h.values d (hperm.mem_iff.mpr hd)⟩

/-! ### Settled scopes are solutions -/

namespace Scope

variable {R : Value → Value → Prop} {s s' : Scope} {name : String}

/-- A scope with variables only. -/
theorem sound_vars (hR : Value.Likeness R) (defs : List (String × Expr))
    (hvars : ∀ name v, vars.get? name = some v → R v v) : Sound R defs { vars } := by
  refine ⟨⟨fun name => ?_, fun name _ => hR.atom _ rfl⟩, fun name _ => rfl⟩
  rw [varValue]
  cases hv : vars.get? name with
  | none => exact hR.atom _ rfl
  | some v => exact hvars name v hv

/-- Where every declaration is settled and every local has a value, the table is a solution. -/
theorem Sound.solves (h : Sound R defs s) (hsettled : ∀ d ∈ defs, SettledAt R s d)
    (hvalued : ∀ name ∈ defs.map Prod.fst, (s.locals.get? name).isSome = true) :
    Solves R s.vars defs s.locals := by
  refine ⟨fun name => ⟨fun hsome => ?_, hvalued name⟩, fun d hd v hv => ?_⟩
  · by_contra hname
    rw [h.declared name hname] at hsome
    exact absurd hsome (by decide)
  · have hd' := hsettled d hd
    rwa [SettledAt, localValue, hv] at hd'

end Scope

open Scope

theorem Solves.settledAt (h : Solves E vars defs table) {d : String × Expr} (hd : d ∈ defs) :
    SettledAt E { vars, locals := table } d := by
  have hsome := (h.declared d.1).mpr (List.mem_map_of_mem hd)
  obtain ⟨v, hv⟩ := Option.isSome_iff_exists.mp hsome
  rw [SettledAt, localValue, hv]
  exact h.values d hd v hv

section Likeness

variable {R : Value → Value → Prop} (hR : Value.Likeness R)

include hR

/-- The scope of a solution is sound. -/
theorem Solves.sound (h : Solves R vars defs table)
    (hvars : ∀ name v, vars.get? name = some v → R v v) :
    Sound R defs { vars, locals := table } := by
  have hnone : ∀ name, name ∉ defs.map Prod.fst → table.get? name = none := by
    intro name hname
    rw [← h.declared name] at hname
    exact Option.not_isSome_iff_eq_none.mp hname
  refine ⟨⟨(sound_vars hR defs hvars).values.vars, fun name _ => ?_⟩, hnone⟩
  by_cases hname : name ∈ defs.map Prod.fst
  · -- what is like something is like itself
    obtain ⟨d, hd, rfl⟩ := List.mem_map.mp hname
    have hsettled := h.settledAt hd
    exact hR.trans hsettled (hR.symm hsettled)
  · rw [localValue, hnone name hname]
    exact hR.atom _ rfl

variable (hdefs : Determined R defs)

include hdefs

/-- **There is one solution at most.** -/
theorem Solves.agree {table' : Fields} (h : Solves R vars defs table)
    (h' : Solves R vars defs table') (hvars : ∀ name v, vars.get? name = some v → R v v) :
    TablesAgree R table table' := by
  have hstart := sound_vars hR defs hvars
  have hlike := (h.sound hR hvars).likeOn_of_settled hR hdefs (h'.sound hR hvars)
    (fun _ => h.settledAt) (fun _ => h'.settledAt) hstart.values.vars
  intro name
  have hsome : (table.get? name).isSome = true ↔ (table'.get? name).isSome = true :=
    (h.declared name).trans (h'.declared name).symm
  have hvalue := hlike.locals name trivial
  rw [localValue, localValue] at hvalue
  generalize table.get? name = a, table'.get? name = b at hsome hvalue ⊢
  cases a <;> cases b
  · exact .none
  · simp at hsome
  · simp at hsome
  · exact .some hvalue

end Likeness

namespace Scope

variable {R : Value → Value → Prop} {s s' : Scope} {name : String}

/-! ### Names with values -/

theorem isSome_get?_setLocal (other : String) (v : Value)
    (h : name = other ∨ (s.locals.get? name).isSome = true) :
    ((s.setLocal other v).locals.get? name).isSome = true := by
  rw [locals_setLocal, Fields.get?_insert]
  split_ifs with hname
  · rfl
  · exact h.resolve_left (Ne.symm hname)

/-- A first pass gives a value to every local, and takes none away. -/
theorem isSome_get?_firstPass
    (h : name ∈ defs.map Prod.fst ∨ (s.locals.get? name).isSome = true) :
    ((firstPass defs s).locals.get? name).isSome = true := by
  induction defs generalizing s with
  | nil => exact h.resolve_left List.not_mem_nil
  | cons d rest ih =>
    refine ih ?_
    rcases h with hmem | hsome
    · rcases List.mem_cons.mp hmem with hname | hmem
      · exact .inr (isSome_get?_setLocal _ _ (.inl hname))
      · exact .inl hmem
    · exact .inr (isSome_get?_setLocal _ _ (.inr hsome))

theorem isSome_get?_iterate_pass (n : Nat) (h : (s.locals.get? name).isSome = true) :
    (((pass defs)^[n] s).locals.get? name).isSome = true := by
  have hrevisit : ∀ (s : Scope) d, (s.locals.get? name).isSome = true →
      ((s.revisit d).locals.get? name).isSome = true := by
    intro s d h
    rw [revisit_eq]
    split_ifs
    · exact h
    · exact isSome_get?_setLocal _ _ (.inr h)
  have hpass : ∀ part (s : Scope), (s.locals.get? name).isSome = true →
      ((pass part s).locals.get? name).isSome = true := by
    intro part
    induction part with
    | nil => exact fun _ h => h
    | cons d rest ih => exact fun s h => ih _ (hrevisit s d h)
  exact Function.Iterate.rec (fun s : Scope => (s.locals.get? name).isSome = true) h (hpass defs) n

/-- A pass leaves the variables alone. -/
theorem vars_firstPass (defs : List (String × Expr)) (s : Scope) :
    (firstPass defs s).vars = s.vars := by
  induction defs generalizing s with
  | nil => rfl
  | cons d rest ih => exact ih (s.setLocal d.1 (s.eval d.2))

/-! ### Passes without a comparison -/

section Passes

variable (hR : Value.Likeness R) (hdefs : Determined R defs)

include hR hdefs

/-- A step that compares and one that does not end with like values. -/
theorem LikeOn.revisit_setLocal {d : String × Expr} (h : LikeOn R (fun _ => True) s s')
    (hs : Sound R defs s) (hd : d ∈ defs) :
    LikeOn R (fun _ => True) (s.revisit d) (s'.setLocal d.1 (s'.eval d.2)) := by
  refine ⟨fun name => ?_, fun name _ => ?_⟩
  · rw [varValue, vars_revisit]
    exact h.vars name
  · rw [localValue_setLocal]
    split_ifs with hname
    · subst hname
      exact hR.trans (hs.localValue_revisit hR hdefs hd)
        (h.eval hR.toCongruence (hdefs.sound d hd) fun _ _ => trivial)
    · rw [localValue, get?_locals_revisit_of_ne s (Ne.symm hname)]
      exact h.locals name trivial

theorem LikeOn.pass_firstPass (h : LikeOn R (fun _ => True) s s') (hs : Sound R defs s) :
    LikeOn R (fun _ => True) (Scope.pass defs s) (Scope.firstPass defs s') := by
  suffices hpart : ∀ part ⊆ defs, ∀ {s s'}, LikeOn R (fun _ => True) s s' → Sound R defs s →
      LikeOn R (fun _ => True) (Scope.pass part s) (Scope.firstPass part s') from
    hpart defs (List.Subset.refl defs) h hs
  intro part
  induction part with
  | nil => exact fun _ _ _ h _ => h
  | cons d rest ih =>
    intro hpart s s' h hs
    obtain ⟨hd, hrest⟩ := List.cons_subset.mp hpart
    exact ih hrest (h.revisit_setLocal hR hdefs hs hd) (hs.revisit hR hdefs hd)

theorem Sound.likeOn_iterate (hs : Sound R defs s) (n : Nat) :
    LikeOn R (fun _ => True) ((Scope.pass defs)^[n] s) ((Scope.firstPass defs)^[n] s) := by
  induction n with
  | zero => exact hs.values
  | succ n ih =>
    rw [Function.iterate_succ_apply', Function.iterate_succ_apply']
    exact ih.pass_firstPass hR hdefs (hs.settledAt_iterate hR hdefs n).1

theorem LikeOn.settledAt {d : String × Expr} (h : LikeOn R (fun _ => True) s s') (hd : d ∈ defs)
    (hsettled : SettledAt R s d) : SettledAt R s' d :=
  hR.trans (hR.symm (h.locals d.1 trivial)) (hR.trans hsettled
    (h.eval hR.toCongruence (hdefs.sound d hd) fun _ _ => trivial))

end Passes

end Scope

/-! ### The one solution -/

theorem Shallow.mono {m n : Nat} {name : String} (h : Shallow defs m name) (hle : m ≤ n) :
    Shallow defs n name :=
  Nat.le_induction h (fun _ _ => Shallow.succ) n hle

section Resolved

variable {R : Value → Value → Prop} (hR : Value.Likeness R) (hdefs : Determined R defs)
  (hvars : ∀ name v, vars.get? name = some v → R v v)

include hR hdefs hvars

/-- **Locals are given a solution.** -/
theorem Determined.solves_resolveLocals :
    Solves R vars defs (Scope.resolveLocals defs { vars }).locals := by
  have hvalued : ∀ name ∈ defs.map Prod.fst,
      ((Scope.resolveLocals defs { vars }).locals.get? name).isSome = true := by
    intro name hname
    rw [Scope.resolveLocals, settle_eq_iterate]
    exact isSome_get?_iterate_pass _ (isSome_get?_firstPass (.inl hname))
  obtain ⟨hsound, hsettled⟩ := (sound_vars hR defs hvars).resolveLocals hR hdefs
  have hsolves := hsound.solves hsettled hvalued
  rwa [vars_resolveLocals] at hsolves

/-- Passes that do not compare find a solution too, if there are as many as declarations after the
first one. -/
theorem Determined.solves_iterate_firstPass {n : Nat} (hn : defs.length ≤ n) :
    Solves R vars defs ((Scope.firstPass defs)^[n + 1] { vars }).locals := by
  -- Passes that compare settle everything, and those that do not end with like values.
  have hfirst := (sound_vars hR defs hvars).firstPass hR hdefs
  obtain ⟨-, hsettled⟩ := hfirst.settledAt_iterate hR hdefs n
  have hlike := hfirst.likeOn_iterate hR hdefs n
  rw [← Function.iterate_succ_apply] at hlike
  have hsound : Sound R defs ((Scope.firstPass defs)^[n + 1] { vars }) :=
    Function.Iterate.rec (Sound R defs) (sound_vars hR defs hvars)
      (fun _ h => h.firstPass hR hdefs) _
  have hsolves := hsound.solves
    (fun d hd => hlike.settledAt hR hdefs hd
      (hsettled d hd ((hdefs.acyclic.shallow d.1).mono hn)))
    fun name hname => by
      rw [Function.iterate_succ_apply']
      exact isSome_get?_firstPass (.inl hname)
  have hsame : ((Scope.firstPass defs)^[n + 1] { vars }).vars = vars :=
    Function.Iterate.rec (fun s : Scope => s.vars = vars) rfl
      (fun s h => (vars_firstPass defs s).trans h) _
  rwa [hsame] at hsolves

/-- **Declarations that determine their locals are resolved**, in any order and by any sufficient
number of passes. -/
theorem Determined.resolved : Resolved R vars defs := by
  have hsolves := hdefs.solves_resolveLocals hR hvars
  refine ⟨hsolves, fun table _ htable => ?_, fun defs' hperm => ?_, fun n hn => ?_⟩
  · exact htable.agree hR hdefs hsolves hvars
  · have hsolves' := (hdefs.perm hperm).solves_resolveLocals hR hvars
    exact (hsolves'.perm hperm.symm).agree hR hdefs hsolves hvars
  · exact (hdefs.solves_iterate_firstPass hR hvars hn).agree hR hdefs hsolves hvars

end Resolved

/-- A solution by structure is one by identity, and conversely if no object holds a key twice. -/
theorem Resolved.identical (hvars : vars.KeyedOnce)
    (h : Resolved (Value.Alike fun x y => x.eqv y = true) vars defs) :
    Resolved (fun v w => v.identical w = true) vars defs := by
  have hid : ∀ v w : Value, Value.Alike (fun x y => x.eqv y = true) v w → v.identical w = true :=
    fun v w hvw => hvw.identical id
  refine ⟨⟨h.solves.declared, fun d hd v hv => hid _ _ (h.solves.values d hd v hv)⟩,
    fun table htable hsolves => ?_, fun defs' hperm => (h.order defs' hperm).mono hid,
    fun n hn => (h.passes n hn).mono hid⟩
  have hkeyed : Scope.KeyedOnce { vars, locals := table } := ⟨hvars, htable⟩
  refine (h.unique table htable ⟨hsolves.declared, fun d hd v hv => ?_⟩).mono hid
  exact Value.alike_of_identical (htable.get? hv) (eval_keyedOnce hkeyed d.2)
    (hsolves.values d hd v hv)

/-- **Passes over locals end with the one solution of their declarations.** No local is declared
twice, and none refers to itself, directly or through others; the order of the declarations and the
lengths of the chains of references are free. Then the table in which the passes end solves the
declarations, every other solution agrees with it, and so does the table in every other order and
after any greater number of passes. Values are compared up to the order of fields; if no NaN is
among the variables and the numbers in the expressions, this is the equality of values. -/
theorem locals_settle_on_the_one_solution (hvars : vars.KeyedOnce)
    (hnames : (defs.map Prod.fst).Nodup) (hacyclic : Acyclic defs) :
    Resolved Value.Same vars defs ∧
    ((∀ name v, vars.get? name = some v → v.identical v = true) →
      (∀ d ∈ defs, ∀ x, .number x ∈ d.2.leaves → x.isNaN = false) →
      Resolved (fun v w => v.identical w = true) vars defs) := by
  refine ⟨?_, fun hself hnumbers => ?_⟩
  · refine Determined.resolved (Value.Alike.likeness Binary64.likeness_same)
      ⟨hnames, hacyclic, fun d _ x _ => .float (.inl rfl)⟩ fun name v hv => ?_
    exact (hvars.get? hv).same v
  · refine .identical hvars (Determined.resolved (Value.Alike.likeness Binary64.likeness_eqv)
      ⟨hnames, hacyclic, fun d hd x hx => .float (Binary64.eqv_self (hnumbers d hd x hx))⟩
      fun name v hv => ?_)
    exact Value.alike_of_identical (hvars.get? hv) (hvars.get? hv) (hself name v hv)

/-- A chain in which every reference goes forward: through an index that is a variable, a list and
an interpolation, an object and a parenthesis, to a field of a variable. -/
theorem locals_settle_on_the_one_solution_example :
    let half : Binary64 := .ofDecimal false 5 (-1)
    let vars : Fields :=
      [("pick", .int 1), ("team", .object [("name", .string "ops"), ("share", .float half)])]
    let var (steps : List Step) : Expr := .traversal (.variable "var") steps
    let loc (steps : List Step) : Expr := .traversal (.variable "local") steps
    let defs : List (String × Expr) :=
      [("first", loc [.attr "second", .index (var [.attr "pick"])]),
        ("second", .list [.float half, .template [.interpolation (loc [.attr "third"])]]),
        ("third", .object [(.variable "owner", .paren (loc [.attr "fourth"]))]),
        ("fourth", var [.attr "team", .attr "name"])]
    vars.KeyedOnce ∧ (defs.map Prod.fst).Nodup ∧ Acyclic defs ∧
    Resolved Value.Same vars defs ∧ Resolved (fun v w => v.identical w = true) vars defs ∧
    ((Scope.resolveLocals defs { vars }).locals.get? "first").any
      (fun v => v.identical (.object [("owner", .string "ops")])) = true := by
  intro half vars var loc defs
  -- How many references lead on from a local.
  let rank (name : String) : Nat :=
    match name with
    | "first" => 3
    | "second" => 2
    | "third" => 1
    | _ => 0
  obtain ⟨hnames, hrank, hself, hhalf, hvalue⟩ :
      (defs.map Prod.fst).Nodup ∧
      (∀ d ∈ defs, ∀ other ∈ defs.map Prod.fst, .reference "local" other ∈ d.2.leaves →
        rank other < rank d.1) ∧
      (∀ p ∈ vars, p.2.identical p.2 = true) ∧
      half.isNaN = false ∧
      ((Scope.resolveLocals defs { vars }).locals.get? "first").any
        (fun v => v.identical (.object [("owner", .string "ops")])) = true := by
    decide +kernel
  have hvars : vars.KeyedOnce := by
    simp [vars, Fields.KeyedOnce, Value.KeyedOnce, Fields.keys]
  have hnumbers : ∀ d ∈ defs, ∀ x, .number x ∈ d.2.leaves → x.isNaN = false := by
    simp [defs, loc, var, Expr.leaves, Expr.leavesOf, Expr.leavesOfItems, Step.leaves,
      Step.leavesOf, hhalf]
  have hacyclic : Acyclic defs := .of_rank rank hrank
  obtain ⟨hsame, hidentical⟩ := locals_settle_on_the_one_solution hvars hnames hacyclic
  exact ⟨hvars, hnames, hacyclic, hsame,
    hidentical (fun name v hv => hself _ (Fields.mem_of_get? hv)) hnumbers, hvalue⟩

end Hcl

end InfraPolicy
