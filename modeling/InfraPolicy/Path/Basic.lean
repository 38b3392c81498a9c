import InfraPolicy.Value.Basic

/-!
# Attribute paths

A path leads from the attributes of a resource to a value inside them: `tags.Name`,
`rules[0].cidr`, `ingress[*].from_port`. A wildcard carries the rest of the path to every item
of a list and keeps the items where it leads somewhere.

What cannot be known is known nowhere inside: an unknown or computed value met on the way is the
answer, whatever the rest of the path.
-/

namespace InfraPolicy

/-- One step of a path. -/
inductive Segment where
  /-- Into the field of an object. -/
  | key (name : String)
  /-- Into the item of a list. -/
  | index (n : Nat)
  /-- Into every item of a list. -/
  | wildcard
deriving DecidableEq, Repr, Inhabited

/-- The steps of a path, the first one into the attributes. -/
abbrev Path := List Segment

namespace Path

/-- Follow steps from a value; nothing when a step leads nowhere. -/
def resolve? : Path → Value → Option Value
  | [], v => some v
  | segment :: rest, v =>
    if v.isIndeterminate then some v
    else
      match segment, v with
      | .key name, .object fields => (Fields.get? fields name).bind (resolve? rest)
      | .index n, .list items => items[n]?.bind (resolve? rest)
      | .wildcard, .list items =>
        match items.filterMap (resolve? rest) with
        | [] => none
        | found => some (.list found)
      | _, _ => none

/-- Follow a path from the attributes of a resource. The first step must be a key. -/
def lookup? (path : Path) (attributes : Fields) : Option Value :=
  match path with
  | .key name :: rest => (attributes.get? name).bind (resolve? rest)
  | _ => none

@[simp] theorem resolve?_nil (v : Value) : resolve? [] v = some v := rfl

theorem resolve?_key (name : String) (rest : Path) (fields : Fields) :
    resolve? (.key name :: rest) (.object fields) = (fields.get? name).bind (resolve? rest) :=
  rfl

theorem resolve?_index (n : Nat) (rest : Path) (items : List Value) :
    resolve? (.index n :: rest) (.list items) = items[n]?.bind (resolve? rest) :=
  rfl

/-- An indeterminate value is where every path that reaches it ends. -/
theorem resolve?_of_isIndeterminate {v : Value} (h : v.isIndeterminate = true) (path : Path) :
    resolve? path v = some v := by
  cases path <;> simp [resolve?, h]

/-- Steps other than wildcards lead to a single value, and further steps lead on from there. -/
theorem resolve?_append {front : Path} (h : .wildcard ∉ front) (back : Path) (v : Value) :
    resolve? (front ++ back) v = (resolve? front v).bind (resolve? back) := by
  induction front generalizing v with
  | nil => rfl
  | cons segment rest ih =>
    obtain ⟨hsegment, hrest⟩ := not_or.mp (mt List.mem_cons.mpr h)
    cases hopen : v.isIndeterminate with
    | true => simp only [resolve?_of_isIndeterminate hopen, Option.bind_some]
    | false =>
      have hstep : ∀ a : Option Value,
          a.bind (resolve? (rest ++ back)) = (a.bind (resolve? rest)).bind (resolve? back) := by
        intro a
        cases a with
        | none => rfl
        | some u => exact ih hrest u
      rw [List.cons_append]
      cases segment with
      | wildcard => exact absurd rfl hsegment
      | key name =>
        cases v with
        | object fields => exact hstep (Fields.get? fields name)
        | unknown | computed => simp [Value.isIndeterminate] at hopen
        | _ => rfl
      | index n =>
        cases v with
        | list items => exact hstep items[n]?
        | unknown | computed => simp [Value.isIndeterminate] at hopen
        | _ => rfl

end Path

end InfraPolicy
