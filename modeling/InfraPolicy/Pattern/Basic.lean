import InfraPolicy.Unicode.Property
import Std.Data.HashSet

/-!
# Patterns and matching

A pattern is a regular expression over characters with anchors, which match the empty text at
certain places. Flags are no part of it: what they mean for classes and anchors is settled when
the pattern is read.

Matching is by partial derivatives. A pattern with what has to follow it is a stack of patterns;
`Pattern.step` gives the stacks that remain once a character is consumed. Counted repetition is
not unrolled: its bounds go down by one. Since anchors look at both neighbours of a place, whether
a pattern matches the empty text is asked at a `Gap` between two characters.
-/

namespace InfraPolicy

/-- Which characters make up words. -/
inductive WordKind where
  | ascii
  | unicode
deriving DecidableEq, Repr, Inhabited

/-- Places where the empty text may match. -/
inductive Anchor where
  | textStart
  | textEnd
  /-- After a line feed, or at the start. -/
  | lineStart
  /-- Before a line feed, or at the end. -/
  | lineEnd
  /-- After a line break, which may be a carriage return, a line feed or both in a row. -/
  | crlfLineStart
  /-- Before such a line break. -/
  | crlfLineEnd
  | wordBoundary (kind : WordKind)
  | notWordBoundary (kind : WordKind)
  | wordStart (kind : WordKind)
  | wordEnd (kind : WordKind)
  /-- No word character before. -/
  | wordStartHalf (kind : WordKind)
  /-- No word character after. -/
  | wordEndHalf (kind : WordKind)
deriving DecidableEq, Repr, Inhabited

/-- A place in a text: its neighbours, which are missing at the ends. -/
structure Gap where
  before : Option Char
  after : Option Char
deriving DecidableEq, Repr, Inhabited

/-- A regular expression. -/
inductive Pattern where
  /-- The empty text. -/
  | empty
  /-- One character of a set. -/
  | chars (set : CodeSet)
  /-- The empty text at certain places. -/
  | anchor (a : Anchor)
  | seq (p q : Pattern)
  | alt (p q : Pattern)
  /-- At least `least` times, and at most `most` times if that is given. -/
  | rep (least : Nat) (most : Option Nat) (p : Pattern)
deriving DecidableEq, Repr, Inhabited

namespace WordKind

/-- The characters that words are made of. -/
def contains : WordKind → Char → Bool
  | .ascii, c => Number.isDigit c || ('a' ≤ c && c ≤ 'z') || ('A' ≤ c && c ≤ 'Z') || c == '_'
  | .unicode, c => Unicode.wordCharacters.contains c

end WordKind

namespace Anchor

/-- Does the anchor match at this place? -/
def holds : Anchor → Gap → Bool
  | .textStart, g => g.before.isNone
  | .textEnd, g => g.after.isNone
  | .lineStart, g => g.before.isNone || g.before == some '\n'
  | .lineEnd, g => g.after.isNone || g.after == some '\n'
  | .crlfLineStart, g =>
    g.before.isNone || g.before == some '\n' || (g.before == some '\r' && g.after != some '\n')
  | .crlfLineEnd, g =>
    g.after.isNone || g.after == some '\r' || (g.after == some '\n' && g.before != some '\r')
  | .wordBoundary k, g => g.before.any k.contains != g.after.any k.contains
  | .notWordBoundary k, g => g.before.any k.contains == g.after.any k.contains
  | .wordStart k, g => !g.before.any k.contains && g.after.any k.contains
  | .wordEnd k, g => g.before.any k.contains && !g.after.any k.contains
  | .wordStartHalf k, g => !g.before.any k.contains
  | .wordEndHalf k, g => !g.after.any k.contains

end Anchor

namespace Pattern

/-- Does the pattern match the empty text at this place? -/
def nullable (g : Gap) : Pattern → Bool
  | .empty => true
  | .chars _ => false
  | .anchor a => a.holds g
  | .seq p q => p.nullable g && q.nullable g
  | .alt p q => p.nullable g || q.nullable g
  | .rep least _ p => least == 0 || p.nullable g

/-- What follows once a repetition has taken one turn. -/
def repeatAfter (least : Nat) (most : Option Nat) (p : Pattern) (stack : List Pattern) :
    List Pattern :=
  match most with
  | some 1 => stack
  | _ => .rep least (most.map (· - 1)) p :: stack

/-- The stacks that remain when the pattern consumes the character after the place, and `stack`
comes next. If the repeated pattern matches the empty text here, turns that are still owed can be
taken here. -/
def step (g : Gap) (c : Char) : Pattern → List Pattern → List (List Pattern)
  | .empty, _ => []
  | .chars set, stack => if set.contains c then [stack] else []
  | .anchor _, _ => []
  | .seq p q, stack =>
    p.step g c (q :: stack) ++ if p.nullable g then q.step g c stack else []
  | .alt p q, stack => p.step g c stack ++ q.step g c stack
  | .rep least most p, stack =>
    if most = some 0 then []
    else p.step g c (repeatAfter (if p.nullable g then 0 else least - 1) most p stack)

/-- The stacks that remain when one of the patterns of a stack consumes the character, those
before it matching the empty text. -/
def stepStack (g : Gap) (c : Char) : List Pattern → List (List Pattern)
  | [] => []
  | p :: stack => p.step g c stack ++ if p.nullable g then stepStack g c stack else []

/-- A number by which patterns are found again. It tells counts apart, but not the sets, which are
long. -/
def fingerprint : Pattern → UInt64
  | .empty => 3
  | .chars _ => 5
  | .anchor _ => 7
  | .seq p q => mixHash 11 (mixHash p.fingerprint q.fingerprint)
  | .alt p q => mixHash 13 (mixHash p.fingerprint q.fingerprint)
  | .rep least most p => mixHash (hash least) (mixHash (hash most) p.fingerprint)

instance : Hashable Pattern := ⟨fingerprint⟩

/-- The stacks without repetitions, in some order. -/
def distinct (states : List (List Pattern)) : List (List Pattern) :=
  (Std.HashSet.ofList states).toList

/-- Does some stack end a match at this place? -/
def accepts (g : Gap) (states : List (List Pattern)) : Bool :=
  states.any fun stack => stack.all (nullable g)

/-- Search the text for a match: at every place a new match may begin, beside those that are
under way. -/
def searchFrom (p : Pattern) (before : Option Char) (states : List (List Pattern)) :
    List Char → Bool
  | [] => accepts ⟨before, none⟩ ([p] :: states)
  | c :: rest =>
    let g : Gap := ⟨before, some c⟩
    let here := [p] :: states
    accepts g here || searchFrom p (some c) (distinct (here.flatMap (stepStack g c))) rest

/-- Does the pattern match some part of the text? -/
def isMatch (p : Pattern) (text : String) : Bool :=
  searchFrom p none [] text.toList

end Pattern

end InfraPolicy
