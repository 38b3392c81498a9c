/-!
# Places in source files

A place in a file: its line and column, both counted from 1, the column in characters. Readers of
source text know places as offsets in bytes of UTF-8; `Location.ofOffset` counts them out.
-/

namespace InfraPolicy

/-- A place in a source file. Lines and columns count from one. -/
structure Location where
  file : String
  line : Nat
  column : Nat
deriving DecidableEq, Repr, Inhabited

namespace Location

/-- The characters that the first `offset` bytes spell. There is no answer inside a character;
beyond the end it is the whole text. -/
def charsBefore? : Nat → List Char → Option (List Char)
  | 0, _ => some []
  | _ + 1, [] => some []
  | offset + 1, c :: rest =>
    if c.utf8Size ≤ offset + 1 then (charsBefore? (offset + 1 - c.utf8Size) rest).map (c :: ·)
    else none

/-- The place right after the given characters. -/
def after (file : String) (cs : List Char) : Location :=
  { file
    line := cs.count '\n' + 1
    column := (cs.reverse.takeWhile (· != '\n')).length + 1 }

/-- The place of an offset in bytes. Inside a character it is the end of the text. -/
def ofOffset (file : String) (content : List Char) (offset : Nat) : Location :=
  after file ((charsBefore? offset content).getD content)

/-- The place as `file:line:column`. -/
def text (l : Location) : String :=
  s!"{l.file}:{l.line}:{l.column}"

end Location

end InfraPolicy
