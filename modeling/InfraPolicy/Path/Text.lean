import InfraPolicy.Number.Power
import InfraPolicy.Path.Basic

/-!
# The text of a path

Dots separate the parts of a path. A part is a key, then any number of bracketed steps: an index,
a key in quotes, or a star. The key may be missing when a bracket follows. Blanks count only at
the two ends of the text and just inside the brackets.
-/

namespace InfraPolicy

namespace Segment

/-- A key in quotes: a quote at both ends, which may not be the same character. -/
def quoted? : List Char → Option (List Char)
  | '"' :: cs =>
    match cs.reverse with
    | '"' :: inner => some inner.reverse
    | _ => none
  | _ => none

/-- An index: decimal digits after an optional plus, below `2 ^ 64`. -/
def index? (cs : List Char) : Option Nat :=
  let digits :=
    match cs with
    | '+' :: r => r
    | r => r
  match Number.readNat? digits with
  | some n => if n < Number.twoTo 64 then some n else none
  | none => none

/-- The step between two brackets. -/
def parseBracket? (inner : List Char) : Option Segment :=
  let inner := Text.trimChars inner
  if inner = ['*'] then some .wildcard
  else
    match quoted? inner with
    | some name => some (.key (String.ofList name))
    | none => (index? inner).map .index

end Segment

namespace Path

mutual

/-- Bracketed steps up to the end of a part. -/
def parseBrackets? : List Char → Option Path
  | [] => some []
  | c :: cs => if c = '[' then parseInside? [] cs else none

/-- The rest of a step after its bracket was opened; `acc` holds its characters so far, the last
one first. -/
def parseInside? (acc : List Char) : List Char → Option Path
  | [] => none
  | c :: cs =>
    if c = ']' then do
      let segment ← Segment.parseBracket? acc.reverse
      let rest ← parseBrackets? cs
      some (segment :: rest)
    else parseInside? (c :: acc) cs

end

/-- One part between dots. -/
def parsePart? (part : List Char) : Option Path :=
  let name := part.takeWhile (· != '[')
  let brackets := part.dropWhile (· != '[')
  if name.isEmpty then
    if brackets.isEmpty then none else parseBrackets? brackets
  else (parseBrackets? brackets).map (.key (String.ofList name) :: ·)

/-- All parts, or nothing if one of them is malformed. -/
def parseParts? : List (List Char) → Option Path
  | [] => some []
  | part :: parts => do
    let segments ← parsePart? part
    let rest ← parseParts? parts
    some (segments ++ rest)

/-- Read a path. -/
def parse? (text : String) : Option Path :=
  parseParts? ((Text.trimChars text.toList).splitOn '.')

/-- Follow the path that a text spells from the attributes of a resource. -/
def find? (attributes : Fields) (text : String) : Option Value :=
  (parse? text).bind (lookup? · attributes)

end Path

end InfraPolicy
