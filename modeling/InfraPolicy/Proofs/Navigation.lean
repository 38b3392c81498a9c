import InfraPolicy.Hcl.Scope
import InfraPolicy.Hcl.Token
import InfraPolicy.Proofs.Lookup

/-!
# Two ways into a value

A reference in a document takes steps into the value of a name; a path in a rule takes segments into
the attributes of a resource. Both look for the same things by different means. `Scope.navigate`
takes one step after another and goes on with an unknown value when a step leads nowhere, and its
positions are signed words; `Path.resolve?` gives up instead, and its positions are naturals.

Steps that are written out, `Hcl.FixedStep`, have a segment each. Along them both find the same
(`Hcl.Scope.navigate_eq`), step by step (`Hcl.Scope.stepInto_eq`). A position beyond the signed
range leads nowhere in a reference, so lists must not be longer than that, as those in a machine
are.
-/

namespace InfraPolicy

/-! ### The size of lists -/

mutual

/-- No list in the value, at any depth, has more items than the bound. -/
def Value.listsWithin (bound : Nat) : Value → Bool
  | .list items => items.length ≤ bound && Value.itemsWithin bound items
  | .object fields => Fields.listsWithin bound fields
  | _ => true

/-- No list in the items is longer than the bound. -/
def Value.itemsWithin (bound : Nat) : List Value → Bool
  | [] => true
  | v :: rest => v.listsWithin bound && Value.itemsWithin bound rest

/-- No list under the keys is longer than the bound. -/
def Fields.listsWithin (bound : Nat) : Fields → Bool
  | [] => true
  | (_, v) :: rest => v.listsWithin bound && Fields.listsWithin bound rest

end

variable {bound : Nat}

theorem Value.listsWithin_of_getElem? {items : List Value} {n : Nat} {v : Value}
    (h : Value.itemsWithin bound items = true) (hv : items[n]? = some v) :
    v.listsWithin bound = true := by
  induction items generalizing n with
  | nil => simp at hv
  | cons u rest ih =>
    rw [Value.itemsWithin, Bool.and_eq_true] at h
    cases n with
    | zero => exact Option.some.inj hv ▸ h.1
    | succ n => exact ih h.2 (by simpa using hv)

theorem Fields.listsWithin_of_get? {fields : Fields} {key : String} {v : Value}
    (h : fields.listsWithin bound = true) (hv : fields.get? key = some v) :
    v.listsWithin bound = true := by
  induction fields with
  | nil => simp at hv
  | cons p rest ih =>
    rw [Fields.listsWithin, Bool.and_eq_true] at h
    rw [Fields.get?_cons] at hv
    split_ifs at hv
    · exact Option.some.inj hv ▸ h.1
    · exact ih h.2 hv

/-- Known, and without an inside. -/
def Value.isScalar : Value → Bool
  | .null | .bool _ | .int _ | .float _ | .string _ => true
  | .list _ | .object _ | .unknown | .computed => false

namespace Path

theorem resolve?_singleton_key (name : String) (fields : Fields) :
    resolve? [.key name] (.object fields) = fields.get? name :=
  Option.bind_fun_some _

theorem resolve?_singleton_index (n : Nat) (items : List Value) :
    resolve? [.index n] (.list items) = items[n]? :=
  Option.bind_fun_some _

/-- No step leads out of a scalar. -/
theorem resolve?_of_isScalar {v : Value} (h : v.isScalar = true) (segment : Segment)
    (rest : Path) : resolve? (segment :: rest) v = none := by
  cases v with
  | list | object | unknown | computed => simp [Value.isScalar] at h
  | _ => cases segment <;> rfl

/-- What a single step finds has no longer lists than where it was found. -/
theorem listsWithin_of_step {segment : Segment} (hsegment : segment ≠ .wildcard) {v u : Value}
    (hv : v.listsWithin bound = true) (h : resolve? [segment] v = some u) :
    u.listsWithin bound = true := by
  rcases resolve?_cons_cases h with ⟨-, rfl⟩ | ⟨name, fields, w, rfl, rfl, hw, hu⟩ |
    ⟨n, items, w, rfl, rfl, hw, hu⟩ | ⟨items, rfl, -, -⟩
  · exact hv
  · exact Option.some.inj hu ▸ Fields.listsWithin_of_get? hv hw
  · rw [Value.listsWithin, Bool.and_eq_true] at hv
    exact Option.some.inj hu ▸ Value.listsWithin_of_getElem? hv.2 hw
  · exact absurd rfl hsegment

end Path

namespace Hcl

/-! ### Steps that are written out -/

/-- A step of a reference whose name or position is written out, and so is the same in every
scope. -/
inductive FixedStep where
  /-- `.name` -/
  | attr (name : String)
  /-- `["name"]` -/
  | key (name : String)
  /-- `[n]` -/
  | index (n : Nat)
  /-- `.n` -/
  | legacyIndex (n : Nat)
deriving DecidableEq, Repr

namespace FixedStep

/-- The step as the syntax has it. -/
def step : FixedStep → Step
  | .attr name => .attr name
  | .key name => .index (.text name)
  | .index n => .index (Numeral.whole n).expr
  | .legacyIndex n => .legacyIndex n

/-- The step that a path takes to the same place. -/
def segment : FixedStep → Segment
  | .attr name | .key name => .key name
  | .index n | .legacyIndex n => .index n

theorem segment_ne_wildcard (step : FixedStep) : step.segment ≠ .wildcard := by
  cases step <;> exact nofun

theorem wildcard_notMem_map_segment (steps : List FixedStep) :
    .wildcard ∉ steps.map FixedStep.segment := by
  intro h
  obtain ⟨step, -, hstep⟩ := List.mem_map.mp h
  exact step.segment_ne_wildcard hstep

end FixedStep

/-! ### One step -/

/-- A step to a field is that of a path, where nothing is unknown instead. -/
theorem fieldOf_eq {v : Value} (h : v.isIndeterminate = false) (name : String) :
    fieldOf v name = (Path.resolve? [.key name] v).getD .unknown := by
  cases v with
  | object fields => rw [fieldOf, Path.resolve?_singleton_key]
  | unknown | computed => simp [Value.isIndeterminate] at h
  | _ => rfl

/-- A position beyond the signed range is past the end of every list. -/
theorem legacyItemOf_eq {v : Value} (hsize : v.listsWithin (Number.twoTo 63) = true)
    (h : v.isIndeterminate = false) (n : Nat) :
    legacyItemOf v n = (Path.resolve? [.index n] v).getD .unknown := by
  cases v with
  | list items =>
    rw [Value.listsWithin, Bool.and_eq_true, decide_eq_true_eq] at hsize
    rw [legacyItemOf, Path.resolve?_singleton_index]
    split_ifs with hn
    · rw [itemOf, if_pos (Int.natCast_nonneg n), Int.toNat_natCast]
    · rw [List.getElem?_eq_none (by omega), Option.getD_none]
  | unknown | computed => simp [Value.isIndeterminate] at h
  | _ =>
    rw [legacyItemOf]
    split_ifs <;> rfl

/-- The two ways to write a position mean the same. Where it does not fit a signed word the one in
brackets is a float, which selects nothing. -/
theorem selected_whole (scope : Scope) (v : Value) (n : Nat) :
    selected v (scope.eval (Numeral.whole n).expr) = legacyItemOf v n := by
  rw [Numeral.expr, legacyItemOf]
  split_ifs with hn
  · rw [Scope.eval, selected, Int64.toInt_ofNat_of_lt hn]
  · rw [Scope.eval]
    rfl

namespace Scope

variable (scope : Scope) {v : Value}

/-- A step into a known value finds what the segment finds. -/
theorem stepInto_eq (hsize : v.listsWithin (Number.twoTo 63) = true)
    (h : v.isIndeterminate = false) (step : FixedStep) :
    scope.stepInto v step.step = (Path.resolve? [step.segment] v).getD .unknown := by
  cases step with
  | attr name => exact fieldOf_eq h name
  | key name => exact fieldOf_eq h name
  | index n =>
    rw [FixedStep.step, stepInto, selected_whole]
    exact legacyItemOf_eq hsize h n
  | legacyIndex n => exact legacyItemOf_eq hsize h n

/-- **Steps and segments lead to the same place**, or nowhere. -/
theorem navigate_eq (hsize : v.listsWithin (Number.twoTo 63) = true) (steps : List FixedStep) :
    scope.navigate v (steps.map FixedStep.step) =
      (Path.resolve? (steps.map FixedStep.segment) v).getD .unknown := by
  induction steps generalizing v with
  | nil => rfl
  | cons step rest ih =>
    cases hopen : v.isIndeterminate with
    | true =>
      rw [scope.navigate_of_isIndeterminate hopen, Path.resolve?_of_isIndeterminate hopen]
      rfl
    | false =>
      have hsegment : .wildcard ∉ [step.segment] := by simpa using step.segment_ne_wildcard.symm
      have hsplit : Path.resolve? (step.segment :: rest.map FixedStep.segment) v =
          (Path.resolve? [step.segment] v).bind (Path.resolve? (rest.map FixedStep.segment)) :=
        Path.resolve?_append hsegment _ v
      rw [List.map_cons, List.map_cons, navigate, hopen, if_neg Bool.false_ne_true,
        scope.stepInto_eq hsize hopen, hsplit]
      -- where the segment leads nowhere the reference goes on, but with a value that no step
      -- changes
      cases hstep : Path.resolve? [step.segment] v with
      | none => exact scope.navigate_of_isIndeterminate rfl _
      | some u => exact ih (Path.listsWithin_of_step step.segment_ne_wildcard hsize hstep)

end Scope

/-- **References and paths read the same data.** Along steps that are written out a reference finds
what the path of the same steps finds, or an unknown value where the path leads nowhere. Both stop
at the first indeterminate value on the way, and neither goes on from a scalar. The lists of the
value have at most `2 ^ 63` items, as every list in a machine has. -/
theorem references_and_paths_find_the_same (scope : Scope) {v : Value}
    (hsize : v.listsWithin (Number.twoTo 63) = true) (steps : List FixedStep) :
    scope.navigate v (steps.map FixedStep.step) =
      (Path.resolve? (steps.map FixedStep.segment) v).getD .unknown ∧
    ∀ (before after : List FixedStep) (u : Value), steps = before ++ after →
      Path.resolve? (before.map FixedStep.segment) v = some u →
      (u.isIndeterminate = true →
        scope.navigate v (steps.map FixedStep.step) = u ∧
          Path.resolve? (steps.map FixedStep.segment) v = some u) ∧
      (u.isScalar = true → after ≠ [] →
        scope.navigate v (steps.map FixedStep.step) = .unknown ∧
          Path.resolve? (steps.map FixedStep.segment) v = none) := by
  refine ⟨scope.navigate_eq hsize steps, ?_⟩
  rintro before after u rfl hu
  have hsplit : Path.resolve? ((before ++ after).map FixedStep.segment) v =
      Path.resolve? (after.map FixedStep.segment) u := by
    rw [List.map_append, Path.resolve?_append (FixedStep.wildcard_notMem_map_segment before), hu,
      Option.bind_some]
  rw [scope.navigate_eq hsize, hsplit]
  constructor
  · intro hopen
    rw [Path.resolve?_of_isIndeterminate hopen]
    exact ⟨rfl, rfl⟩
  · intro hscalar hafter
    obtain ⟨step, rest, rfl⟩ := List.exists_cons_of_ne_nil hafter
    rw [List.map_cons, Path.resolve?_of_isScalar hscalar]
    exact ⟨rfl, rfl⟩

/-- Into a list and an object, past an open item, past a number, and to positions that no signed
word holds. -/
theorem references_and_paths_find_the_same_example :
    let scope : Scope := {}
    let v : Value := .object [("hosts", .list [.object [("port", .int 22)], .computed])]
    let port : List FixedStep := [.attr "hosts", .index 0, .key "port"]
    let behindOpen : List FixedStep := [.key "hosts", .legacyIndex 1, .attr "port"]
    let behindScalar : List FixedStep := port ++ [.attr "protocol"]
    let far : List FixedStep := [.attr "hosts", .index (Number.twoTo 63)]
    v.listsWithin (Number.twoTo 63) = true ∧
      scope.navigate v (port.map FixedStep.step) = .int 22 ∧
      scope.navigate v (behindOpen.map FixedStep.step) = .computed ∧
      scope.navigate v (behindScalar.map FixedStep.step) = .unknown ∧
      scope.navigate v (far.map FixedStep.step) = .unknown := by
  intro scope v port behindOpen behindScalar far
  have hsize : v.listsWithin (Number.twoTo 63) = true := by decide +kernel
  have hfinds := references_and_paths_find_the_same scope hsize
  refine ⟨hsize, ?_, ?_, ?_, ?_⟩
  · rw [(hfinds port).1]
    rfl
  · exact (((hfinds behindOpen).2 [.key "hosts", .legacyIndex 1] [.attr "port"] .computed rfl
      rfl).1 rfl).1
  · exact (((hfinds behindScalar).2 port [.attr "protocol"] (.int 22) rfl rfl).2 rfl
      (List.cons_ne_nil _ _)).1
  · rw [(hfinds far).1]
    rfl

end Hcl

end InfraPolicy
