import InfraPolicy.Calendar.Date
import InfraPolicy.Calendar.TimeOfDay
import InfraPolicy.Json.Basic

/-!
# TOML values

The tree of a TOML document. A table has each key once, and the order of its keys does not count.
-/

namespace InfraPolicy.Toml

/-- The distance from universal time. -/
inductive Offset where
  /-- Universal time by its letter. -/
  | zulu
  | minutes (n : Int)
deriving DecidableEq, Repr, Inhabited

namespace Offset

/-- An offset as it is written. -/
def text : Offset → String
  | .zulu => "Z"
  | .minutes n =>
    let sign := if n < 0 then "-" else "+"
    s!"{sign}{Number.padded 2 (n.natAbs / 60)}:{Number.padded 2 (n.natAbs % 60)}"

end Offset

/-- A date, a time, or both, perhaps with an offset. -/
structure Moment where
  date : Option Date := none
  time : Option TimeOfDay := none
  offset : Option Offset := none
deriving DecidableEq, Repr, Inhabited

/-- A fraction of a second with as few digits as it needs; nothing for a whole second. -/
def fractionText (nanosecond : Nat) : String :=
  if nanosecond == 0 then ""
  else
    let digits := (Number.padded 9 nanosecond).toList
    "." ++ String.ofList (digits.reverse.dropWhile (· == '0')).reverse

namespace Moment

/-- A moment as it is written, with a letter between date and time. -/
def text (m : Moment) : String :=
  let date := (m.date.map Date.text).getD ""
  let time := (m.time.map fun t => t.clockText ++ fractionText t.nanosecond).getD ""
  let mark := if m.date.isSome && m.time.isSome then "T" else ""
  date ++ mark ++ time ++ (m.offset.map Offset.text).getD ""

end Moment

/-- A TOML value. -/
inductive Value where
  | string (s : String)
  | int (n : Int)
  | float (x : Binary64)
  | bool (b : Bool)
  | moment (m : Moment)
  | array (items : List Value)
  | table (pairs : List (String × Value))
deriving Inhabited, Repr

/-- The one key of the table that a moment counts as. -/
def momentKey : String := "$__toml_private_datetime"

namespace Value

mutual

/-- How many containers lie inside each other. -/
def depth : Value → Nat
  | .array items => depthItems items + 1
  | .table pairs => depthPairs pairs + 1
  | _ => 0

/-- The greatest depth among items. -/
def depthItems : List Value → Nat
  | [] => 0
  | v :: rest => max v.depth (depthItems rest)

/-- The greatest depth among the values of a table. -/
def depthPairs : List (String × Value) → Nat
  | [] => 0
  | (_, v) :: rest => max v.depth (depthPairs rest)

end

mutual

/-- The value as JSON, which has no infinities, no NaN and no moments. -/
def toJson : Value → Json
  | .string s => .string s
  | .int n => .int n
  | .float x => if x.isFinite then .float x else .null
  | .bool b => .bool b
  | .moment m => .object [(momentKey, .string m.text)]
  | .array items => .array (itemsToJson items)
  | .table pairs => .object (pairsToJson pairs)

def itemsToJson : List Value → List Json
  | [] => []
  | v :: rest => v.toJson :: itemsToJson rest

def pairsToJson : List (String × Value) → List (String × Json)
  | [] => []
  | (k, v) :: rest => (k, v.toJson) :: pairsToJson rest

end

end Value

end InfraPolicy.Toml
