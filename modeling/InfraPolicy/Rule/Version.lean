import InfraPolicy.Number.Reading

/-!
# Versions of rule files

A version is `major.minor.patch`, then perhaps a pre-release after a hyphen and build data after a
plus sign, both made of identifiers with dots between them. Numbers have no leading zeros; in build
data, which has no order, they may.
-/

namespace InfraPolicy

/-- A semantic version. -/
structure Version where
  major : Nat
  minor : Nat
  patch : Nat
  /-- Identifiers of the pre-release; none for a release. -/
  preRelease : List String := []
  build : List String := []
deriving DecidableEq, Repr, Inhabited

namespace Version

/-- Numbers of a version are below this bound. -/
def bound : Nat := Number.twoTo 64

/-- A number in decimal digits without a leading zero. -/
def number? (cs : List Char) : Option Nat :=
  if cs.length > 1 && cs.head? == some '0' then none
  else do
    let n ← Number.readNat? cs
    if n < bound then some n else none

/-- The characters of identifiers. -/
def isIdentifierChar (c : Char) : Bool :=
  c.isAlphanum || c == '-'

/-- Identifiers with dots between them, none of them empty. -/
def identifiers? (numeric : List Char → Bool) (cs : List Char) : Option (List String) :=
  let parts := cs.splitOn '.'
  if parts.all fun p => !p.isEmpty && p.all isIdentifierChar && numeric p then
    some (parts.map String.ofList)
  else none

/-- A number among the identifiers of a pre-release has no leading zero. -/
def hasNoLeadingZero (p : List Char) : Bool :=
  !(p.length > 1 && p.head? == some '0' && p.all Number.isDigit)

/-- What a sign introduces, if the sign is there. -/
def tagged? (sign : Char) (numeric : List Char → Bool) (cs : List Char) : Option (List String) :=
  match cs with
  | [] => some []
  | c :: rest => if c == sign then identifiers? numeric rest else none

/-- Read a version. -/
def parse? (text : String) : Option Version :=
  let cs := text.toList
  let core := cs.takeWhile fun c => c != '-' && c != '+'
  let rest := cs.drop core.length
  match core.splitOn '.' with
  | [a, b, c] => do
    let major ← number? a
    let minor ← number? b
    let patch ← number? c
    let preRelease ← tagged? '-' hasNoLeadingZero (rest.takeWhile (· != '+'))
    let build ← tagged? '+' (fun _ => true) (rest.dropWhile (· != '+'))
    some { major, minor, patch, preRelease, build }
  | _ => none

/-- The text of a version. -/
def text (v : Version) : String :=
  let core := s!"{v.major}.{v.minor}.{v.patch}"
  let pre := if v.preRelease.isEmpty then "" else "-" ++ ".".intercalate v.preRelease
  let build := if v.build.isEmpty then "" else "+" ++ ".".intercalate v.build
  core ++ pre ++ build

end Version

end InfraPolicy
