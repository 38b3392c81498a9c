import InfraPolicy.Module.Scope
import InfraPolicy.Proofs.Evaluation
import Mathlib.Data.List.Nodup
import Mathlib.Logic.Function.Iterate

/-!
# Passes over locals

Locals are given values in passes: a first one, then one after another until nothing changes. A pass
that changes nothing leaves the scope as it is, so the early end makes no difference
(`Hcl.Scope.settle_eq_iterate`): the passes are always as many as there are declarations. This lets
two runs be compared pass by pass, and step by step within a pass, whatever the number of passes
that each of them really takes.

Two facts carry the comparison. Within a run a local only ever **rises**: its value is refined by
what its expression means in the present scope. And of two runs that start from scopes of which the
one refines the other, the one stays refined by the other at every step, `Hcl.Scope.Abreast`. No
local is declared twice; cycles among locals do no harm, their members rise until the passes are
over.
-/

namespace InfraPolicy.Hcl.Scope

/-! ### The passes of a run -/

/-- Evaluate a local again and keep its value if the new one is the same. -/
def revisit (scope : Scope) (d : String × Expr) : Scope :=
  (update (scope, false) d).1

theorem revisit_eq (scope : Scope) (d : String × Expr) :
    scope.revisit d =
      if (scope.locals.get? d.1).any fun old => old.identical (scope.eval d.2) then scope
      else scope.setLocal d.1 (scope.eval d.2) := by
  rw [revisit, update]
  split_ifs <;> rfl

theorem vars_revisit (scope : Scope) (d : String × Expr) : (scope.revisit d).vars = scope.vars := by
  rw [revisit_eq]
  split_ifs <;> rfl

/-- A local that is evaluated again leaves the others alone. -/
theorem get?_locals_revisit_of_ne (scope : Scope) {d : String × Expr} {name : String}
    (h : name ≠ d.1) : (scope.revisit d).locals.get? name = scope.locals.get? name := by
  rw [revisit_eq]
  split_ifs
  · rfl
  · exact (Fields.get?_insert _ _ _ _).trans (if_neg (Ne.symm h))

/-- The flag of a state tells whether a value changed; it has no influence on the values. -/
theorem update_fst (state : Scope × Bool) (d : String × Expr) :
    (update state d).1 = state.1.revisit d := by
  rw [revisit_eq, update]
  split_ifs <;> rfl

/-- A step that raises no flag changes nothing. -/
theorem fst_eq_of_update {state : Scope × Bool} {d : String × Expr}
    (h : (update state d).2 = false) : state.2 = false ∧ state.1.revisit d = state.1 := by
  rw [revisit_eq]
  rw [update] at h
  split_ifs at h ⊢ with hsame
  · exact ⟨h, rfl⟩

/-- All locals again, in order. -/
def pass (defs : List (String × Expr)) (scope : Scope) : Scope :=
  defs.foldl revisit scope

theorem foldl_update_fst (defs : List (String × Expr)) (state : Scope × Bool) :
    (defs.foldl update state).1 = pass defs state.1 := by
  induction defs generalizing state with
  | nil => rfl
  | cons d rest ih => rw [List.foldl_cons, ih, update_fst, pass, pass, List.foldl_cons]

/-- A pass that raises no flag changes nothing. -/
theorem pass_eq_of_foldl_update {defs : List (String × Expr)} {state : Scope × Bool}
    (h : (defs.foldl update state).2 = false) : state.2 = false ∧ pass defs state.1 = state.1 := by
  induction defs generalizing state with
  | nil => exact ⟨h, rfl⟩
  | cons d rest ih =>
    obtain ⟨hflag, hrest⟩ := ih h
    obtain ⟨hstate, hd⟩ := fst_eq_of_update hflag
    rw [update_fst, hd] at hrest
    exact ⟨hstate, by rw [pass, List.foldl_cons, hd]; exact hrest⟩

/-- **The early end of the passes makes no difference.** -/
theorem settle_eq_iterate (defs : List (String × Expr)) (passes : Nat) (scope : Scope) :
    settle defs passes scope = (pass defs)^[passes] scope := by
  induction passes generalizing scope with
  | zero => rfl
  | succ n ih =>
    have hpass : (nextPass defs scope).1 = pass defs scope := foldl_update_fst defs (scope, false)
    rw [settle, Function.iterate_succ_apply]
    split
    · next scope' heq =>
      rw [heq] at hpass
      rw [ih]
      exact congrArg _ hpass
    · next scope' heq =>
      rw [heq] at hpass
      have hflag : (defs.foldl update (scope, false)).2 = false := by rw [← nextPass, heq]
      have hfixed : pass defs scope = scope := (pass_eq_of_foldl_update hflag).2
      rw [hfixed, Function.iterate_fixed hfixed]
      exact hpass.trans hfixed

/-- **Two runs over the same declarations** stay related if every step of the passes keeps them
related, although each of them ends its passes by itself. -/
theorem resolveLocals_rel {T : Scope → Scope → Prop} {defs : List (String × Expr)}
    (hset : ∀ d ∈ defs, ∀ {s s'}, T s s' →
      T (s.setLocal d.1 (s.eval d.2)) (s'.setLocal d.1 (s'.eval d.2)))
    (hrevisit : ∀ d ∈ defs, ∀ {s s'}, T s s' → T (s.revisit d) (s'.revisit d))
    {s s' : Scope} (h : T s s') : T (resolveLocals defs s) (resolveLocals defs s') := by
  have hfirst : ∀ part ⊆ defs, ∀ {s s'}, T s s' → T (firstPass part s) (firstPass part s') := by
    intro part hpart
    induction part with
    | nil => exact id
    | cons d rest ih =>
      rw [List.cons_subset] at hpart
      exact fun h => ih hpart.2 (hset d hpart.1 h)
  have hpass : ∀ part ⊆ defs, ∀ {s s'}, T s s' → T (pass part s) (pass part s') := by
    intro part hpart
    induction part with
    | nil => exact id
    | cons d rest ih =>
      rw [List.cons_subset] at hpart
      exact fun h => ih hpart.2 (hrevisit d hpart.1 h)
  rw [resolveLocals, resolveLocals, settle_eq_iterate, settle_eq_iterate]
  induction defs.length with
  | zero => exact hfirst defs (List.Subset.refl defs) h
  | succ n ih =>
    rw [Function.iterate_succ_apply', Function.iterate_succ_apply']
    exact hpass defs (List.Subset.refl defs) ih

/-! ### Rising locals -/

theorem locals_setLocal (scope : Scope) (name : String) (v : Value) :
    (scope.setLocal name v).locals = scope.locals.insert name v := rfl

/-- Setting a local to refined values on both sides. -/
theorem RefinedBy.setLocal {s s' : Scope} (h : s.RefinedBy s') (name : String) {v w : Value}
    (hvw : v.RefinedBy w) : (s.setLocal name v).RefinedBy (s'.setLocal name w) :=
  ⟨h.vars, h.locals.insert name hvw⟩

theorem KeyedOnce.setLocal {s : Scope} (h : s.KeyedOnce) (name : String) {v : Value}
    (hv : v.KeyedOnce) : (s.setLocal name v).KeyedOnce :=
  ⟨h.vars, h.locals.insert name hv⟩

/-- The value of every local is refined by what its expression means in the scope. -/
def Rising (defs : List (String × Expr)) (scope : Scope) : Prop :=
  ∀ d ∈ defs, ∀ v, scope.locals.get? d.1 = some v → v.RefinedBy (scope.eval d.2)

section Runs

variable {defs : List (String × Expr)} {s s' : Scope} {d : String × Expr}

/-- Declarations in which no name is repeated and all keys of objects are plain. -/
structure WellDeclared (defs : List (String × Expr)) : Prop where
  names : (defs.map Prod.fst).Nodup
  keys : ∀ d ∈ defs, d.2.plainKeys = true

/-- Giving a rising local its present value refines the scope. -/
theorem Rising.refinedBy_setLocal (h : Rising defs s) (hd : d ∈ defs) :
    s.RefinedBy (s.setLocal d.1 (s.eval d.2)) := by
  refine ⟨.refl s.vars, fun name v hv => ?_⟩
  rw [locals_setLocal, Fields.get?_insert]
  split_ifs with hname
  · subst hname
    exact ⟨_, rfl, h d hd v hv⟩
  · exact ⟨v, hv, .refl v⟩

/-- **Locals keep rising** when one of them is given its present value. -/
theorem Rising.setLocal (hdefs : WellDeclared defs) (h : Rising defs s) (hd : d ∈ defs) :
    Rising defs (s.setLocal d.1 (s.eval d.2)) := by
  have hrefined := h.refinedBy_setLocal hd
  intro e he v hv
  have hmono : (s.eval e.2).RefinedBy ((s.setLocal d.1 (s.eval d.2)).eval e.2) :=
    eval_refine hrefined e.2 (hdefs.keys e he)
  rw [locals_setLocal, Fields.get?_insert] at hv
  split_ifs at hv with hname
  · obtain rfl : d = e := List.inj_on_of_nodup_map hdefs.names hd he hname
    exact Option.some.inj hv ▸ hmono
  · exact (h e he v hv).trans hmono

/-- Two runs of which the one stays behind the other: its scope is refined by the other's, and in
both of them the locals rise. -/
structure Abreast (defs : List (String × Expr)) (s s' : Scope) : Prop where
  refined : s.RefinedBy s'
  rising : Rising defs s
  rising' : Rising defs s'
  keyed' : s'.KeyedOnce

/-- One step of the first pass. -/
theorem Abreast.setLocal (hdefs : WellDeclared defs) (h : Abreast defs s s') (hd : d ∈ defs) :
    Abreast defs (s.setLocal d.1 (s.eval d.2)) (s'.setLocal d.1 (s'.eval d.2)) where
  refined := h.refined.setLocal d.1 (eval_refine h.refined d.2 (hdefs.keys d hd))
  rising := h.rising.setLocal hdefs hd
  rising' := h.rising'.setLocal hdefs hd
  keyed' := h.keyed'.setLocal d.1 (eval_keyedOnce h.keyed' d.2)

/-- One step of a later pass, in which each of the runs may keep a value for itself. -/
theorem Abreast.revisit (hdefs : WellDeclared defs) (h : Abreast defs s s') (hd : d ∈ defs) :
    Abreast defs (s.revisit d) (s'.revisit d) := by
  have hset := h.setLocal hdefs hd
  rw [revisit_eq, revisit_eq]
  split_ifs with hkeep hkeep' hkeep'
  · exact h
  · -- only the run behind keeps its value, which has risen to the new one of the other
    have hrefined := (h.rising.refinedBy_setLocal hd).trans hset.refined
    exact ⟨hrefined, h.rising, hset.rising', hset.keyed'⟩
  · -- only the run ahead keeps its value, which is the new one
    obtain ⟨old, hold, hsame⟩ := (Option.any_eq_true _ _).mp hkeep'
    have hnew : old = s'.eval d.2 :=
      (h.rising' d hd old hold).eq_of_identical (eval_keyedOnce h.keyed' d.2) hsame
    refine ⟨⟨h.refined.vars, fun name v hv => ?_⟩, hset.rising, h.rising', h.keyed'⟩
    rw [locals_setLocal, Fields.get?_insert] at hv
    split_ifs at hv with hname
    · subst hname
      rw [← Option.some.inj hv]
      exact ⟨old, hold, hnew ▸ eval_refine h.refined d.2 (hdefs.keys d hd)⟩
    · exact h.refined.locals name v hv
  · exact hset

/-- **Resolving locals is monotone.** Runs that start abreast end abreast. -/
theorem Abreast.resolveLocals (hdefs : WellDeclared defs) (h : Abreast defs s s') :
    Abreast defs (Scope.resolveLocals defs s) (Scope.resolveLocals defs s') :=
  resolveLocals_rel (fun _ hd _ _ hrun => hrun.setLocal hdefs hd)
    (fun _ hd _ _ hrun => hrun.revisit hdefs hd) h

end Runs

end InfraPolicy.Hcl.Scope
