import InfraPolicy.Json.Basic
import InfraPolicy.Number.Reading

/-!
# What plain scalars mean

Plain text may stand for null, a Boolean or a number. Digits after a leading zero are text.
-/

namespace InfraPolicy.Yaml

/-- The spellings of null. -/
def isNullText (s : String) : Bool :=
  s == "null" || s == "Null" || s == "NULL" || s == "~"

/-- The spellings of the truth values. -/
def boolText? (s : String) : Option Bool :=
  if s == "true" || s == "True" || s == "TRUE" then some true
  else if s == "false" || s == "False" || s == "FALSE" then some false
  else none

/-- The text without a sign at its front. -/
def dropSign : List Char → List Char
  | '+' :: rest => rest
  | '-' :: rest => rest
  | cs => cs

/-- Digits with a leading zero, which are no number. -/
def hasLeadingZero (cs : List Char) : Bool :=
  let ds := dropSign cs
  1 < ds.length && ds.head? == some '0' && ds.all Number.isDigit

/-- A natural in the base that its first two characters give, or in decimal. -/
def naturalText? (cs : List Char) : Option Nat :=
  let read (base : Nat) (ds : List Char) : Option Nat :=
    if ds.isEmpty || !ds.all (Number.isDigitOf base) then none else some (Number.ofDigits base ds)
  match cs with
  | '0' :: 'x' :: ds => read 16 ds
  | '0' :: 'o' :: ds => read 8 ds
  | '0' :: 'b' :: ds => read 2 ds
  | ds => if hasLeadingZero ds then none else read 10 ds

/-- An integer with an optional sign. -/
def intText? (s : String) : Option Int :=
  match s.toList with
  | '-' :: ds => (naturalText? ds).map fun n => -(n : Int)
  | '+' :: ds => (naturalText? ds).map fun n => (n : Int)
  | ds => (naturalText? ds).map fun n => (n : Int)

/-- A float: the special names begin with a dot, and what is read must be finite. -/
def floatText? (s : String) : Option Binary64 :=
  let cs := s.toList
  let unsigned := if cs.head? == some '+' then cs.drop 1 else cs
  let word := String.ofList unsigned
  if cs.head? == some '+' && unsigned.head?.any fun c => c == '+' || c == '-' then none
  else if word == ".inf" || word == ".Inf" || word == ".INF" then some (.infinity false)
  else if s == "-.inf" || s == "-.Inf" || s == "-.INF" then some (.infinity true)
  else if s == ".nan" || s == ".NaN" || s == ".NAN" then some .nan
  else (Number.readDecimal? unsigned).filter Binary64.isFinite

/-- Integers have 64 bits, with or without a sign. -/
def intJson? (n : Int) : Option Json :=
  if -(Number.twoTo 63 : Int) ≤ n && n < Number.twoTo 64 then some (.int n) else none

/-- Beyond 128 bits digits do not count as an integer any more. -/
def isCountable (n : Int) : Bool :=
  -(Number.twoTo 127 : Int) ≤ n && n < Number.twoTo 128

/-- JSON has no infinities and no NaN. -/
def floatJson (x : Binary64) : Json :=
  if x.isFinite then .float x else .null

/-- What a plain scalar means. There is no answer for integers between 64 and 128 bits. -/
def plainJson? (s : String) : Option Json :=
  if s.isEmpty || isNullText s then some .null
  else
    match boolText? s, (intText? s).filter isCountable with
    | some b, _ => some (.bool b)
    | none, some n => intJson? n
    | none, none =>
      match if hasLeadingZero s.toList then none else floatText? s with
      | some x => some (floatJson x)
      | none => some (.string s)

end InfraPolicy.Yaml
