import Mathlib.Data.List.Forall2

/-!
# Outcomes of runs that may fail

A run gives a result or stops at its first error. `Agree` relates two runs that stop at the same
error or both give results, and lifts a relation between results: through one run after another
(`Agree.bind`) and through one run for each item of a list (`Agree.mapM`).

The outcome of a list of runs is the list of their results (`mapM_eq_ok_iff`) or the error of the
first of them that fails (`mapM_eq_error_iff`).
-/

namespace InfraPolicy

universe u v

variable {α α' : Type u} {β β' : Type v} {ε : Type*}

/-- Both runs stop at the same error, or both give results that are related. -/
def Agree {α β : Type*} (R : α → β → Prop) : Except ε α → Except ε β → Prop
  | .ok a, .ok b => R a b
  | .error e, .error e' => e = e'
  | _, _ => False

namespace Agree

variable {R : α → β → Prop} {S : α' → β' → Prop}

theorem refl {γ : Type*} {Q : γ → γ → Prop} (h : ∀ a, Q a a) (x : Except ε γ) : Agree Q x x := by
  cases x with
  | ok a => exact h a
  | error e => rfl

theorem imp {R' : α → β → Prop} {x : Except ε α} {y : Except ε β} (h : Agree R x y)
    (himp : ∀ a b, R a b → R' a b) : Agree R' x y := by
  cases x <;> cases y
  case ok.ok a b => exact himp a b h
  all_goals exact h

/-- Runs that agree fail with the same error. -/
theorem eq_error_iff {x : Except ε α} {y : Except ε β} (h : Agree R x y) {e : ε} :
    x = .error e ↔ y = .error e := by
  cases x <;> cases y
  case ok.ok a b => exact ⟨nofun, nofun⟩
  case error.error e₁ e₂ => cases h; simp
  all_goals exact h.elim

/-- If one of two runs that agree succeeds, so does the other one. -/
theorem exists_of_ok {x : Except ε α} {y : Except ε β} (h : Agree R x y) {a : α} (ha : x = .ok a) :
    ∃ b, y = .ok b ∧ R a b := by
  subst ha
  cases y with
  | ok b => exact ⟨b, rfl, h⟩
  | error e => exact h.elim

theorem exists_of_ok_right {x : Except ε α} {y : Except ε β} (h : Agree R x y) {b : β}
    (hb : y = .ok b) : ∃ a, x = .ok a ∧ R a b := by
  subst hb
  cases x with
  | ok a => exact ⟨a, rfl, h⟩
  | error e => exact h.elim

theorem exists_ok_iff {x : Except ε α} {y : Except ε β} (h : Agree R x y) :
    (∃ a, x = .ok a) ↔ ∃ b, y = .ok b := by
  constructor
  · rintro ⟨a, ha⟩
    obtain ⟨b, hb, -⟩ := h.exists_of_ok ha
    exact ⟨b, hb⟩
  · rintro ⟨b, hb⟩
    obtain ⟨a, ha, -⟩ := h.exists_of_ok_right hb
    exact ⟨a, ha⟩

/-- One run after another. -/
theorem bind {x : Except ε α} {y : Except ε β} {f : α → Except ε α'} {g : β → Except ε β'}
    (h : Agree R x y) (hfg : ∀ a b, R a b → Agree S (f a) (g b)) : Agree S (x >>= f) (y >>= g) := by
  cases x <;> cases y
  case ok.ok a b => exact hfg a b h
  case error.error e e' => exact h
  case ok.error a e => exact h.elim
  case error.ok e b => exact h.elim

/-- A result made out of that of the first run. -/
theorem map_left {S : α' → β → Prop} {x : Except ε α} {y : Except ε β} {f : α → α'}
    (h : Agree R x y) (hf : ∀ a b, R a b → S (f a) b) :
    Agree S (x >>= fun a => pure (f a)) y := by
  rw [← bind_pure y]
  exact h.bind hf

/-- One run for each item. -/
theorem mapM {ι : Type*} {f : ι → Except ε α} {g : ι → Except ε β} {items : List ι}
    (h : ∀ i ∈ items, Agree R (f i) (g i)) :
    Agree (List.Forall₂ R) (items.mapM f) (items.mapM g) := by
  induction items with
  | nil => exact .nil
  | cons i rest ih =>
    rw [List.mapM_cons, List.mapM_cons]
    have hrest := ih fun j hj => h j (List.mem_cons_of_mem i hj)
    refine (h i List.mem_cons_self).bind fun a b hab => hrest.bind fun as bs habs => ?_
    exact .cons hab habs

end Agree

/-! ### One run for each item of a list -/

/-- Results that are related have the same views, one by one. -/
theorem map_eq_map_of_forall₂ {γ : Type*} {R : α → β → Prop} {f : α → γ} {g : β → γ} {as : List α}
    {bs : List β} (h : List.Forall₂ R as bs) (hfg : ∀ a b, R a b → f a = g b) :
    as.map f = bs.map g := by
  induction h with
  | nil => rfl
  | cons hhead _ ih => rw [List.map_cons, List.map_cons, hfg _ _ hhead, ih]

section Items

variable {ι : Type*} {f : ι → Except ε α} {items : List ι}

theorem mapM_congr {g : ι → Except ε α} (h : ∀ i ∈ items, f i = g i) :
    items.mapM f = items.mapM g := by
  induction items with
  | nil => rfl
  | cons i rest ih =>
    obtain ⟨hi, hrest⟩ := List.forall_mem_cons.mp h
    rw [List.mapM_cons, List.mapM_cons, hi, ih hrest]

/-- All runs succeed, with these results. -/
theorem mapM_eq_ok_iff {results : List α} :
    items.mapM f = .ok results ↔ List.Forall₂ (fun i a => f i = .ok a) items results := by
  induction items generalizing results with
  | nil =>
    rw [List.mapM_nil, List.forall₂_nil_left_iff]
    exact ⟨fun h => (Except.ok.inj h).symm, fun h => by rw [h]; rfl⟩
  | cons i rest ih =>
    rw [List.mapM_cons, List.forall₂_cons_left_iff]
    constructor
    · intro h
      cases hi : f i with
      | error e => rw [hi] at h; cases h
      | ok a =>
        cases hrest : rest.mapM f with
        | error e => rw [hi, hrest] at h; cases h
        | ok as =>
          rw [hi, hrest] at h
          exact ⟨a, as, rfl, ih.mp hrest, (Except.ok.inj h).symm⟩
    · rintro ⟨a, as, hi, hrest, rfl⟩
      rw [hi, ih.mpr hrest]
      rfl

/-- The error of a list of runs is that of the first run that fails. -/
theorem mapM_eq_error_iff {e : ε} :
    items.mapM f = .error e ↔
      ∃ before i after, items = before ++ i :: after ∧ (∀ j ∈ before, ∃ a, f j = .ok a) ∧
        f i = .error e := by
  constructor
  · intro h
    induction items with
    | nil => cases h
    | cons i rest ih =>
      rw [List.mapM_cons] at h
      cases hi : f i with
      | error e' =>
        rw [hi] at h
        cases h
        exact ⟨[], i, rest, rfl, fun j hj => absurd hj List.not_mem_nil, hi⟩
      | ok a =>
        cases hrest : rest.mapM f with
        | ok as => rw [hi, hrest] at h; cases h
        | error e' =>
          rw [hi, hrest] at h
          cases h
          obtain ⟨before, j, after, rfl, hbefore, hj⟩ := ih hrest
          exact ⟨i :: before, j, after, rfl, List.forall_mem_cons.mpr ⟨⟨a, hi⟩, hbefore⟩, hj⟩
  · rintro ⟨before, i, after, rfl, hbefore, hi⟩
    induction before with
    | nil => rw [List.nil_append, List.mapM_cons, hi]; rfl
    | cons j before ih =>
      obtain ⟨⟨a, hj⟩, hbefore⟩ := List.forall_mem_cons.mp hbefore
      rw [List.cons_append, List.mapM_cons, hj, ih hbefore]
      rfl

/-- A list of runs succeeds exactly if each of them does. -/
theorem exists_mapM_eq_ok_iff :
    (∃ results, items.mapM f = .ok results) ↔ ∀ i ∈ items, ∃ a, f i = .ok a := by
  constructor
  · rintro ⟨results, h⟩
    have hitems := mapM_eq_ok_iff.mp h
    clear h
    induction hitems with
    | nil => exact fun i hi => absurd hi List.not_mem_nil
    | cons hi _ ih => exact List.forall_mem_cons.mpr ⟨⟨_, hi⟩, ih⟩
  · intro h
    cases hitems : items.mapM f with
    | ok results => exact ⟨results, rfl⟩
    | error e =>
      obtain ⟨before, i, after, rfl, -, hi⟩ := mapM_eq_error_iff.mp hitems
      obtain ⟨a, ha⟩ := h i (List.mem_append_right before List.mem_cons_self)
      rw [hi] at ha
      cases ha

end Items

/-- What a run that succeeds gives. -/
theorem eq_ok_getD_of_isSome {γ : Type*} [Inhabited γ] {x : Except ε γ}
    (h : x.toOption.isSome = true) : x = .ok (x.toOption.getD default) := by
  cases x with
  | error e => cases h
  | ok a => rfl

end InfraPolicy
