import InfraPolicy.Value.Basic

/-!
# Two equalities on values

`Value.identical` is equality of values as such: same shape, same content, fields of objects in
any order. `Value.looseEq` is the equality that rules use. It is coarser: an integer equals the
float of the same value, and a Boolean equals the text of it.
-/

namespace InfraPolicy

namespace Value

/-! ### Identity -/

mutual

/-- Equality of values. Floats compare as numbers, so a NaN differs from itself; objects are
equal when they have equally many fields and each field of the one is in the other. -/
def identical : Value → Value → Bool
  | .null, .null => true
  | .bool a, .bool b => a == b
  | .int a, .int b => a == b
  | .float a, .float b => a.eqv b
  | .string a, .string b => a == b
  | .list as, .list bs => identicalItems as bs
  | .object as, .object bs => as.length == bs.length && identicalFields as bs
  | .unknown, .unknown => true
  | .computed, .computed => true
  | _, _ => false

/-- Pointwise equality of lists. -/
def identicalItems : List Value → List Value → Bool
  | [], [] => true
  | a :: as, b :: bs => identical a b && identicalItems as bs
  | _, _ => false

/-- Every field of the first list is in the second. -/
def identicalFields : List (String × Value) → List (String × Value) → Bool
  | [], _ => true
  | (k, a) :: as, bs =>
    (match Fields.get? bs k with
      | some b => identical a b
      | none => false) && identicalFields as bs

end

/-! ### The equality of rules -/

/-- Does the text, trimmed, spell the Boolean? -/
def spellsBool (s : String) (b : Bool) : Bool :=
  Text.trim s == (if b then "true" else "false")

mutual

/-- The equality that rules use: numbers by value, Booleans also by their text, lists pointwise
and objects by key. -/
def looseEq : Value → Value → Bool
  | .int a, .int b => a == b
  | .int a, .float b => (Binary64.ofInt a.toInt).eqv b
  | .float a, .int b => a.eqv (Binary64.ofInt b.toInt)
  | .float a, .float b => a.eqv b
  | .bool a, .string b => spellsBool b a
  | .string a, .bool b => spellsBool a b
  | .list as, .list bs => looseEqItems as bs
  | .object as, .object bs => as.length == bs.length && looseEqFields as bs
  | .null, .null => true
  | .bool a, .bool b => a == b
  | .string a, .string b => a == b
  | .unknown, .unknown => true
  | .computed, .computed => true
  | _, _ => false

/-- Pointwise `looseEq`. -/
def looseEqItems : List Value → List Value → Bool
  | [], [] => true
  | a :: as, b :: bs => looseEq a b && looseEqItems as bs
  | _, _ => false

/-- Every field of the first list is in the second, up to `looseEq`. -/
def looseEqFields : List (String × Value) → List (String × Value) → Bool
  | [], _ => true
  | (k, a) :: as, bs =>
    (match Fields.get? bs k with
      | some b => looseEq a b
      | none => false) && looseEqFields as bs

end

end Value

end InfraPolicy
