import InfraPolicy.Text.Blank
import InfraPolicy.Unicode.CaseMapping

/-!
# Operators of checks

The ten ways to test one attribute. Each has a name, under which rule files use it, in any case
and with blanks around it.
-/

namespace InfraPolicy

/-- What a check asks of the value of an attribute. -/
inductive Operator where
  | exists
  | notExists
  | equals
  | notEquals
  | contains
  | notContains
  | matches
  | greaterThan
  | lessThan
  | oneOf
deriving DecidableEq, Repr, Inhabited

namespace Operator

/-- All operators, in the order in which they are documented. -/
def all : List Operator :=
  [.exists, .notExists, .equals, .notEquals, .contains, .notContains, .matches, .greaterThan,
    .lessThan, .oneOf]

/-- The name of an operator as a rule file spells it. -/
def name : Operator → String
  | .exists => "exists"
  | .notExists => "not_exists"
  | .equals => "equals"
  | .notEquals => "not_equals"
  | .contains => "contains"
  | .notContains => "not_contains"
  | .matches => "matches"
  | .greaterThan => "greater_than"
  | .lessThan => "less_than"
  | .oneOf => "one_of"

/-- The spelling of a name that counts: without blanks around it, in lower case. -/
def normalForm (text : String) : String :=
  Unicode.lower (Text.trim text)

/-- The operator with the given name. -/
def ofName? (text : String) : Option Operator :=
  all.find? fun op => op.name == normalForm text

/-- Only existence can be checked without a value to compare with. -/
def needsValue : Operator → Bool
  | .exists | .notExists => false
  | _ => true

/-- The negative operators hold for an attribute that is absent. -/
def holdsWhenAbsent : Operator → Bool
  | .notExists | .notEquals | .notContains => true
  | _ => false

end Operator

end InfraPolicy
