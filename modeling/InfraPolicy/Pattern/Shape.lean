import InfraPolicy.Pattern.Basic
import InfraPolicy.Unicode.ByteRange

/-!
# The shape of a pattern

How a pattern is put together, in simplest terms: neighbouring characters form one literal,
sequences and alternatives do not nest directly, alternatives of single characters are a set, and a
common beginning of all alternatives stands before them. A shape keeps what decides the size of a
machine for the pattern, such as its groups, which do not matter for what it matches.
-/

namespace InfraPolicy.Pattern

/-- The shape of a pattern. -/
inductive Shape where
  /-- The empty text. -/
  | empty
  /-- These code points one after another; there is at least one. -/
  | literal (codes : List Nat)
  /-- One character of a set. -/
  | set (s : CodeSet)
  | anchor (a : Anchor)
  /-- Repetition, with longer matches preferred or shorter ones. -/
  | rep (least : Nat) (most : Option Nat) (greedy : Bool) (s : Shape)
  /-- A group whose place in the text would be reported. -/
  | group (s : Shape)
  | seq (parts : List Shape)
  | alt (branches : List Shape)

instance : Inhabited Shape := ⟨.empty⟩

namespace Shape

mutual

/-- Are two shapes alike? No group is like another. -/
def same : Shape → Shape → Bool
  | .empty, .empty => true
  | .literal a, .literal b => a == b
  | .set s, .set t => s == t
  | .anchor a, .anchor b => a == b
  | .rep least most greedy s, .rep least' most' greedy' t =>
    least == least' && most == most' && greedy == greedy' && same s t
  | .seq a, .seq b => sameAll a b
  | .alt a, .alt b => sameAll a b
  | _, _ => false

/-- Are the shapes of two lists the same, one by one? -/
def sameAll : List Shape → List Shape → Bool
  | [], [] => true
  | s :: a, t :: b => same s t && sameAll a b
  | _, _ => false

end

mutual

/-- Does it match the empty text only? -/
def zeroWidth : Shape → Bool
  | .empty => true
  | .literal codes => codes.isEmpty
  | .set _ => false
  | .anchor _ => true
  | .rep _ most _ s => most.isSome && zeroWidth s
  | .group s => zeroWidth s
  | .seq parts => zeroWidthAll parts
  | .alt branches => zeroWidthAll branches

/-- Do all of them match the empty text only? -/
def zeroWidthAll : List Shape → Bool
  | [] => true
  | s :: rest => zeroWidth s && zeroWidthAll rest

end

mutual

/-- The least number of characters that it matches; nothing if it never matches. -/
def leastLength : Shape → Option Nat
  | .empty => some 0
  | .literal codes => some codes.length
  | .set s => if s.ranges.isEmpty then none else some 1
  | .anchor _ => some 0
  | .rep least _ _ s => (leastLength s).map (least * ·)
  | .group s => leastLength s
  | .seq parts => leastLengthSeq parts
  | .alt branches => leastLengthAlt branches

/-- In a row their lengths add up. -/
def leastLengthSeq : List Shape → Option Nat
  | [] => some 0
  | s :: rest => do return (← leastLength s) + (← leastLengthSeq rest)

/-- If one alternative never matches, nothing is known. -/
def leastLengthAlt : List Shape → Option Nat
  | [] => none
  | [s] => leastLength s
  | s :: rest => do return min (← leastLength s) (← leastLengthAlt rest)

end

/-- Does every match have a character? -/
def consumes (s : Shape) : Bool :=
  s.leastLength.any (0 < ·)

mutual

/-- Does every match begin at the start of the text, as far as the shape shows? -/
def atStart : Shape → Bool
  | .anchor a => a == .textStart
  | .rep least _ _ s => 0 < least && atStart s
  | .group s => atStart s
  | .seq parts => atStartSeq parts
  | .alt branches => atStartAll branches
  | _ => false

/-- An anchor counts if all before it matches the empty text only. -/
def atStartSeq : List Shape → Bool
  | [] => false
  | s :: rest => atStart s || (zeroWidth s && atStartSeq rest)

/-- Every alternative has to be anchored. -/
def atStartAll : List Shape → Bool
  | [] => true
  | s :: rest => atStart s && atStartAll rest

end

mutual

/-- Does every match end at the end of the text, as far as the shape shows? -/
def atEnd : Shape → Bool
  | .anchor a => a == .textEnd
  | .rep least _ _ s => 0 < least && atEnd s
  | .group s => atEnd s
  | .seq parts => atEndSeq parts
  | .alt branches => atEndAll branches
  | _ => false

/-- An anchor counts if all after it matches the empty text only. -/
def atEndSeq : List Shape → Bool
  | [] => false
  | s :: rest => (atEnd s && zeroWidthAll rest) || atEndSeq rest

/-- Every alternative has to be anchored. -/
def atEndAll : List Shape → Bool
  | [] => true
  | s :: rest => atEnd s && atEndAll rest

end

/-! ### Building shapes -/

/-- One character of a set; a set of one character is a literal. -/
def ofSet (s : CodeSet) : Shape :=
  let t := s.diff Unicode.surrogates
  match t.ranges with
  | [(lo, hi)] => if lo == hi then .literal [lo] else .set t
  | _ => .set t

/-- Join literals that follow one another. -/
def joinLiterals : List Shape → List Shape
  | [] => []
  | .literal a :: rest =>
    match joinLiterals rest with
    | .literal b :: others => .literal (a ++ b) :: others
    | others => .literal a :: others
  | s :: rest => s :: joinLiterals rest

/-- The parts that a shape adds to a sequence. -/
def parts : Shape → List Shape
  | .empty => []
  | .seq ps => ps
  | s => [s]

/-- Shapes one after another. -/
def sequence (shapes : List Shape) : Shape :=
  match joinLiterals (shapes.flatMap parts) with
  | [] => .empty
  | [s] => s
  | ps => .seq ps

/-- The branches that a shape adds to alternatives. -/
def branches : Shape → List Shape
  | .alt bs => bs
  | s => [s]

/-- The character of a literal that has one. -/
def singleCode? : Shape → Option Nat
  | .literal [n] => some n
  | _ => none

/-- The set, if the shape is one. -/
def set? : Shape → Option CodeSet
  | .set s => some s
  | _ => none

/-- How many parts two sequences have in common at the beginning. -/
def commonLength : List Shape → List Shape → Nat
  | s :: a, t :: b => if same s t then commonLength a b + 1 else 0
  | _, _ => 0

/-- The parts of a shape that is a sequence. -/
def seqParts? : Shape → Option (List Shape)
  | .seq ps => some ps
  | _ => none

/-- Alternatives. Each round takes a common beginning out, so that the bound is their length. -/
def alternatives : Nat → List Shape → Shape
  | 0, shapes => .alt (shapes.flatMap branches)
  | fuel + 1, shapes =>
    let bs := shapes.flatMap branches
    match bs with
    | [] => .set .empty
    | [s] => s
    | _ =>
      match bs.mapM singleCode?, bs.mapM set?, bs.mapM seqParts? with
      | some codes, _, _ => ofSet (.ofRanges (codes.map fun n => (n, n)))
      | none, some sets, _ => ofSet (sets.foldl CodeSet.union .empty)
      | none, none, some (first :: others) =>
        let common := others.foldl (fun n ps => min n (commonLength first ps)) first.length
        if common == 0 then .alt bs
        else
          let rests := (first :: others).map fun ps => sequence (ps.drop common)
          sequence (first.take common ++ [alternatives fuel rests])
      | _, _, _ => .alt bs

/-- Repetition. What matches the empty text only is repeated once at most. -/
def repeated (least : Nat) (most : Option Nat) (greedy : Bool) (s : Shape) : Shape :=
  let least := if s.zeroWidth then min least 1 else least
  let most := if s.zeroWidth then some (min (most.getD 1) 1) else most
  if most == some 0 then .empty
  else if least == 1 && most == some 1 then s
  else .rep least most greedy s

end Shape

end InfraPolicy.Pattern
