import InfraPolicy.Number.Reading

/-!
# Sets of code points

A set of code points is a list of ranges, in increasing order and with a gap between any two.
`CodeSet.ofRanges` brings any ranges into this form; the Boolean operations keep it. The tables of
this folder are written as text, ranges in hexadecimal separated by commas, and read by `ofTable`.
-/

namespace InfraPolicy

/-- Ranges of code points, both ends included, in increasing order with gaps between them. -/
structure CodeSet where
  ranges : List (Nat × Nat)
deriving Repr, Inhabited

/-- Sets that are one object in memory are equal; only others are compared range by range. -/
instance : DecidableEq CodeSet := fun s t =>
  withPtrEqDecEq s t fun _ =>
    if h : s.ranges = t.ranges then isTrue (by cases s; cases t; cases h; rfl)
    else isFalse fun e => h (congrArg CodeSet.ranges e)

namespace CodeSet

/-- The greatest code point. -/
def greatest : Nat := 0x10FFFF

/-- Membership among increasing ranges: the search stops at the first range beyond. -/
def inRanges (n : Nat) : List (Nat × Nat) → Bool
  | [] => false
  | (lo, hi) :: rest => if n < lo then false else n ≤ hi || inRanges n rest

/-- Is a character in the set? -/
def contains (s : CodeSet) (c : Char) : Bool :=
  inRanges c.toNat s.ranges

/-- Join ranges that touch, given in order of their lower ends. -/
def joinAfter (lo hi : Nat) : List (Nat × Nat) → List (Nat × Nat)
  | [] => [(lo, hi)]
  | (a, b) :: rest =>
    if a ≤ hi + 1 then joinAfter lo (max hi b) rest else (lo, hi) :: joinAfter a b rest

/-- The same ranges without overlaps, given in order of their lower ends. -/
def join : List (Nat × Nat) → List (Nat × Nat)
  | [] => []
  | (lo, hi) :: rest => joinAfter lo hi rest

/-- No character. -/
def empty : CodeSet := ⟨[]⟩

/-- Every character. -/
def all : CodeSet := ⟨[(0, greatest)]⟩

/-- The set that ranges in any order cover. -/
def ofRanges (ranges : List (Nat × Nat)) : CodeSet :=
  ⟨join (ranges.mergeSort fun a b => a.1 ≤ b.1)⟩

/-- One character. -/
def single (c : Char) : CodeSet := ⟨[(c.toNat, c.toNat)]⟩

/-- In one of the two, or in both. -/
def union (s t : CodeSet) : CodeSet :=
  ⟨join (s.ranges.merge t.ranges fun a b => a.1 ≤ b.1)⟩

/-- The gaps from `start` on. -/
def gaps (start : Nat) : List (Nat × Nat) → List (Nat × Nat)
  | [] => if start ≤ greatest then [(start, greatest)] else []
  | (lo, hi) :: rest =>
    if start < lo then (start, lo - 1) :: gaps (hi + 1) rest else gaps (hi + 1) rest

/-- All that is not in the set. -/
def complement (s : CodeSet) : CodeSet :=
  ⟨gaps 0 s.ranges⟩

/-- In both. -/
def inter (s t : CodeSet) : CodeSet :=
  (s.complement.union t.complement).complement

/-- In the first but not in the second. -/
def diff (s t : CodeSet) : CodeSet :=
  (s.complement.union t).complement

/-- In exactly one of the two. -/
def symmDiff (s t : CodeSet) : CodeSet :=
  (s.diff t).union (t.diff s)

/-- Only code points below 128? -/
def isAscii (s : CodeSet) : Bool :=
  s.ranges.all fun r => r.2 < 128

/-! ### Tables -/

/-- The parts of a table between commas. Blanks and line breaks do not count. -/
def entries (table : String) : List (List Char) :=
  ((table.toList.filter fun c => !c.isWhitespace).splitOn ',').filter fun entry =>
    !entry.isEmpty

/-- A range `lo-hi`, or a single code point. -/
def rangeOfEntry (entry : List Char) : Nat × Nat :=
  let lo := entry.takeWhile (· != '-')
  let hi := (entry.dropWhile (· != '-')).drop 1
  (Number.ofDigits 16 lo, Number.ofDigits 16 (if hi.isEmpty then lo else hi))

/-- The ranges of an entry: one range, or for `lo~hi` every second code point. -/
def rangesOfEntry (entry : List Char) : List (Nat × Nat) :=
  let lo := Number.ofDigits 16 (entry.takeWhile (· != '~'))
  match entry.dropWhile (· != '~') with
  | _ :: hi =>
    (List.range ((Number.ofDigits 16 hi - lo) / 2 + 1)).map fun i => (lo + 2 * i, lo + 2 * i)
  | [] => [rangeOfEntry entry]

/-- The set that a table of ranges describes. -/
def ofTable (table : String) : CodeSet :=
  ofRanges ((entries table).flatMap rangesOfEntry)

/-- A table that cuts the code points into runs, each with the name of its class: the code point
where a run begins, then the name, which does not begin with a digit in lower case. -/
def runsOfTable (table : String) : List (Nat × String) :=
  let isLowerHex (c : Char) : Bool := Number.isDigit c || ('a' ≤ c && c ≤ 'f')
  (entries table).map fun entry =>
    (Number.ofDigits 16 (entry.takeWhile isLowerHex), String.ofList (entry.dropWhile isLowerHex))

/-- The ranges of the runs whose class is chosen. -/
def chosenRuns (choose : String → Bool) : List (Nat × String) → List (Nat × Nat)
  | [] => []
  | [(lo, name)] => if choose name then [(lo, greatest)] else []
  | (lo, name) :: (next, name') :: rest =>
    let others := chosenRuns choose ((next, name') :: rest)
    if choose name then (lo, next - 1) :: others else others

/-- The set of the code points whose class is chosen. -/
def ofRuns (choose : String → Bool) (runs : List (Nat × String)) : CodeSet :=
  ⟨join (chosenRuns choose runs)⟩

end CodeSet

end InfraPolicy
