import InfraPolicy.Number.Binary64

/-!
# JSON documents

The tree of a JSON document. Integers are kept apart from numbers with a fraction or an
exponent, and the members of an object keep their order.
-/

namespace InfraPolicy

/-- A JSON value. Integers are unbounded, and numbers with a point or an exponent are doubles. -/
inductive Json where
  | null
  | bool (b : Bool)
  | int (n : Int)
  | float (x : Binary64)
  | string (s : String)
  | array (items : List Json)
  | object (members : List (String × Json))
deriving Inhabited, Repr

namespace Json

/-- The last member with a name among members; a later one overrides an earlier one. -/
def lookup : List (String × Json) → String → Option Json
  | [], _ => none
  | (k, v) :: rest, name =>
    match lookup rest name with
    | some w => some w
    | none => if k = name then some v else none

/-- The member of an object with a name. -/
def member? : Json → String → Option Json
  | .object members, name => lookup members name
  | _, _ => none

/-- The text of a string. -/
def string? : Json → Option String
  | .string s => some s
  | _ => none

/-- The truth value, if it is one. -/
def bool? : Json → Option Bool
  | .bool b => some b
  | _ => none

/-- The integer, if it is one. -/
def int? : Json → Option Int
  | .int n => some n
  | _ => none

/-- A natural number. -/
def nat? : Json → Option Nat
  | .int n => if 0 ≤ n then some n.toNat else none
  | _ => none

/-- The items of an array. -/
def array? : Json → Option (List Json)
  | .array items => some items
  | _ => none

end Json

end InfraPolicy
