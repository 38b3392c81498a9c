import InfraPolicy.Number.Layout
import InfraPolicy.Number.Reading
import InfraPolicy.Text.Blank

/-!
# Attribute values

The value of an attribute of a resource: the shapes of JSON, and two marks for what a static
reading cannot know. `unknown` stands for a variable or local without a value, `computed` for
what only exists once the configuration is applied. Neither is an error, and neither is the
same as an attribute that is absent.

The fields of an object keep the order in which they were first inserted. Fields are a plain
list of pairs with look-up `Fields.get?` and insertion `Fields.insert`; the values that the
library builds hold each key once (`Fields.ofList`).
-/

namespace InfraPolicy

/-- The value of an attribute. A value is unknown where a name has none, and computed where only a
real run could tell it. -/
inductive Value where
  | null
  | bool (b : Bool)
  | int (n : Int64)
  | float (x : Binary64)
  | string (s : String)
  | list (items : List Value)
  | object (fields : List (String × Value))
  | unknown
  | computed
deriving Inhabited, Repr

/-- Named values in order of first insertion: the fields of an object, the attributes of a
resource, the variables of a module. -/
abbrev Fields := List (String × Value)

namespace Fields

/-- The value under a key: that of the first pair with it. -/
def get? : Fields → String → Option Value
  | [], _ => none
  | (k, v) :: rest, key => if k = key then some v else get? rest key

/-- Put a value under a key. A key that is present keeps its place. -/
def insert : Fields → String → Value → Fields
  | [], key, value => [(key, value)]
  | (k, v) :: rest, key, value =>
    if k = key then (k, value) :: rest else (k, v) :: insert rest key value

/-- Is there a value under the key? -/
def contains (fields : Fields) (key : String) : Bool :=
  (fields.get? key).isSome

/-- The keys in order. -/
def keys (fields : Fields) : List String :=
  fields.map Prod.fst

/-- Insert pairs one after another: a repeated key keeps its first place and its last value. -/
def insertAll (fields : Fields) (pairs : List (String × Value)) : Fields :=
  pairs.foldl (fun acc p => acc.insert p.1 p.2) fields

/-- Fields from pairs, each key once. -/
def ofList (pairs : List (String × Value)) : Fields :=
  insertAll [] pairs

@[simp] theorem get?_nil (key : String) : get? [] key = none := rfl

theorem get?_cons (k : String) (v : Value) (rest : Fields) (key : String) :
    get? ((k, v) :: rest) key = if k = key then some v else get? rest key := rfl

theorem get?_insert (fields : Fields) (key other : String) (value : Value) :
    (fields.insert key value).get? other =
      if key = other then some value else fields.get? other := by
  induction fields with
  | nil => rfl
  | cons p rest ih =>
    obtain ⟨k, v⟩ := p
    by_cases hk : k = key
    · subst hk
      by_cases ho : k = other <;> simp [insert, get?_cons, ho]
    · by_cases ho : key = other
      · subst ho
        simp only [insert, hk, if_false, get?_cons, ih, if_true]
      · simp only [insert, hk, if_false, get?_cons, ih, ho]

theorem get?_eq_none_iff (fields : Fields) (key : String) :
    fields.get? key = none ↔ key ∉ fields.keys := by
  induction fields with
  | nil => simp [keys]
  | cons p rest ih =>
    obtain ⟨k, v⟩ := p
    by_cases hk : k = key
    · subst hk; simp [get?_cons, keys]
    · simp only [get?_cons, if_neg hk, ih]
      simp [keys, Ne.symm hk]

/-- Insertion adds a new key at the end and leaves the keys alone otherwise. -/
theorem keys_insert (fields : Fields) (key : String) (value : Value) :
    (fields.insert key value).keys =
      if key ∈ fields.keys then fields.keys else fields.keys ++ [key] := by
  induction fields with
  | nil => rfl
  | cons p rest ih =>
    obtain ⟨k, v⟩ := p
    have hcons : ∀ (w : Value) (l : Fields), keys ((k, w) :: l) = k :: keys l := fun _ _ => rfl
    by_cases hk : k = key
    · simp [insert, hk, keys]
    · rw [insert, if_neg hk, hcons, hcons, ih]
      by_cases hr : key ∈ keys rest <;> simp [hr, Ne.symm hk]

end Fields

namespace Value

/-- Unknown or computed. -/
def isIndeterminate : Value → Bool
  | .unknown | .computed => true
  | _ => false

mutual

/-- Is something unknown or computed anywhere inside the value? -/
def hasIndeterminate : Value → Bool
  | .unknown | .computed => true
  | .list items => anyIndeterminate items
  | .object fields => anyFieldIndeterminate fields
  | _ => false

/-- Is something indeterminate in one of the items? -/
def anyIndeterminate : List Value → Bool
  | [] => false
  | v :: rest => hasIndeterminate v || anyIndeterminate rest

/-- Is something indeterminate under one of the keys? -/
def anyFieldIndeterminate : List (String × Value) → Bool
  | [] => false
  | (_, v) :: rest => hasIndeterminate v || anyFieldIndeterminate rest

end

/-- Is it the null value? -/
def isNull : Value → Bool
  | .null => true
  | _ => false

/-- The text of a string value. -/
def text? : Value → Option String
  | .string s => some s
  | _ => none

/-- The number a value stands for. A string counts when, trimmed, it reads as a number. -/
def number? : Value → Option Binary64
  | .int n => some (.ofInt n.toInt)
  | .float x => some x
  | .string s => Number.readDecimal? (Text.trimChars s.toList)
  | _ => none

/-- The text of a scalar. Containers, null and indeterminate values have none. -/
def scalarText? : Value → Option String
  | .bool b => some (if b then "true" else "false")
  | .int n => some (toString n.toInt)
  | .float x => some x.plainText
  | .string s => some s
  | _ => none

/-- The name of a value's type in messages. -/
def typeName : Value → String
  | .null => "null"
  | .bool _ => "bool"
  | .int _ | .float _ => "number"
  | .string _ => "string"
  | .list _ => "list"
  | .object _ => "object"
  | .unknown => "unknown"
  | .computed => "computed"

theorem hasIndeterminate_of_isIndeterminate {v : Value} (h : v.isIndeterminate = true) :
    v.hasIndeterminate = true := by
  cases v <;> simp_all [isIndeterminate, hasIndeterminate]

theorem anyIndeterminate_eq_any (items : List Value) :
    anyIndeterminate items = items.any hasIndeterminate := by
  induction items with
  | nil => rfl
  | cons v rest ih => simp [anyIndeterminate, ih]

theorem anyFieldIndeterminate_eq_any (fields : Fields) :
    anyFieldIndeterminate fields = fields.any fun p => p.2.hasIndeterminate := by
  induction fields with
  | nil => rfl
  | cons p rest ih => simp [anyFieldIndeterminate, ih]

end Value

end InfraPolicy
