import InfraPolicy.Toml.Value

/-!
# Records

How the fields of a record are found in a value. A field may have several names, of which a table
uses at most one; other keys of the table do not count. An array gives the fields by position, and
items beyond the last field do not count. A moment is a table without any of the fields.
-/

namespace InfraPolicy.Toml

namespace Value

/-- The one value that a table has under names of a field, if any. -/
def field? (names : List String) (pairs : List (String × Value)) : Option (Option Value) :=
  match pairs.filter fun (k, _) => names.contains k with
  | [] => some none
  | [(_, v)] => some (some v)
  | _ => none

/-- The fields of a record, each by its names, in their order. -/
def record? (fields : List (List String)) : Value → Option (List (Option Value))
  | .table pairs => fields.mapM fun names => field? names pairs
  | .array items => some ((List.range fields.length).map (items[·]?))
  | .moment _ => some (fields.map fun _ => none)
  | _ => none

end Value

/-- The text of a field; empty if it is missing. -/
def textOr : Option Value → Option String
  | none => some ""
  | some (.string s) => some s
  | some _ => none

/-- The text of a field that may be missing. -/
def text? : Option Value → Option (Option String)
  | none => some none
  | some (.string s) => some (some s)
  | some _ => none

/-- A switch, which is off if it is missing. -/
def switch? : Option Value → Option Bool
  | none => some false
  | some (.bool b) => some b
  | some _ => none

/-- The items of a field, none if it is missing. -/
def items? : Option Value → Option (List Value)
  | none => some []
  | some (.array items) => some items
  | some _ => none

/-- Texts in a list. -/
def texts? (field : Option Value) : Option (List String) := do
  (← items? field).mapM fun v => textOr (some v)

end InfraPolicy.Toml
