import InfraPolicy.Pattern.Basic
import InfraPolicy.Text.Search
import InfraPolicy.Value.Equality

/-!
# Comparing attribute values

The tests that rules apply to a value that was found, apart from existence.
-/

namespace InfraPolicy

namespace Value

/-- A part of a text, an item of a list, or a key of an object. -/
def contains : Value → Value → Bool
  | .string s, needle =>
    match needle.scalarText? with
    | some t => Text.hasInfix s.toList t.toList
    | none => false
  | .list items, needle => items.any fun item => item.looseEq needle
  | .object fields, needle =>
    match needle.scalarText? with
    | some key => Fields.contains fields key
    | none => false
  | _, _ => false

/-- Both are numbers and the first is greater. -/
def greaterThan (value bound : Value) : Bool :=
  match value.number?, bound.number? with
  | some x, some y => y.less x
  | _, _ => false

/-- Both are numbers and the first is less. -/
def lessThan (value bound : Value) : Bool :=
  match value.number?, bound.number? with
  | some x, some y => x.less y
  | _, _ => false

/-- Equal to one of the candidates; a candidate that is not a list stands alone. -/
def oneOf (value : Value) : Value → Bool
  | .list items => items.any fun item => value.looseEq item
  | single => value.looseEq single

/-- The pattern matches part of the text of a scalar. -/
def hasMatch (value : Value) (p : Pattern) : Bool :=
  value.scalarText?.any p.isMatch

end Value

end InfraPolicy
