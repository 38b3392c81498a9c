import InfraPolicy.Json.Writer
import InfraPolicy.Value.Basic

/-!
# Values and JSON

A value is written as the JSON of its shape; what is indeterminate is written as a text that
says so, and a number that JSON cannot hold as `null`. `Value.viaJson` is what comes back when a
value is carried through a JSON document whose objects are sorted by name: the values that rules
compare with have all taken this way.
-/

namespace InfraPolicy

namespace Value

mutual

/-- The JSON of a value. -/
def toJson : Value → Json
  | .null => .null
  | .bool b => .bool b
  | .int n => .int n.toInt
  | .float x => if x.isFinite then .float x else .null
  | .string s => .string s
  | .list items => .array (itemsToJson items)
  | .object fields => .object (fieldsToJson fields)
  | .unknown => .string "(unknown)"
  | .computed => .string "(computed)"

/-- The items of a list as JSON. -/
def itemsToJson : List Value → List Json
  | [] => []
  | v :: rest => toJson v :: itemsToJson rest

/-- The fields of an object as JSON, in order. -/
def fieldsToJson : List (String × Value) → List (String × Json)
  | [] => []
  | (k, v) :: rest => (k, toJson v) :: fieldsToJson rest

end

/-- The text of a value as a JSON document on one line. -/
def jsonText (v : Value) : String :=
  v.toJson.text

end Value

namespace Fields

/-- Put a value under a key among fields sorted by key; a key that is present gets the new
value. -/
def insertSorted : Fields → String → Value → Fields
  | [], key, value => [(key, value)]
  | (k, v) :: rest, key, value =>
    if key < k then (key, value) :: (k, v) :: rest
    else if k = key then (key, value) :: rest
    else (k, v) :: insertSorted rest key value

/-- Fields sorted by key; of a repeated key the last value stays. -/
def sorted (fields : Fields) : Fields :=
  fields.foldl (fun acc p => insertSorted acc p.1 p.2) []

end Fields

namespace Value

mutual

/-- Read a value back from JSON. An integer beyond 64 bits becomes the nearest float, and the
fields of objects come in the order of their names. -/
def ofJson : Json → Value
  | .null => .null
  | .bool b => .bool b
  | .int n =>
    if -(Number.twoTo 63 : Int) ≤ n && n < Number.twoTo 63 then .int (Int64.ofInt n)
    else .float (.ofInt n)
  | .float x => .float x
  | .string s => .string s
  | .array items => .list (ofJsonItems items)
  | .object members => .object (Fields.sorted (ofJsonMembers members))

/-- The values of items. -/
def ofJsonItems : List Json → List Value
  | [] => []
  | j :: rest => ofJson j :: ofJsonItems rest

/-- The values of members, in the order of the document. -/
def ofJsonMembers : List (String × Json) → List (String × Value)
  | [] => []
  | (k, j) :: rest => (k, ofJson j) :: ofJsonMembers rest

end

/-- A value carried through a JSON document. -/
def viaJson (v : Value) : Value :=
  ofJson v.toJson

end Value

end InfraPolicy
