import InfraPolicy.Number.Reading
import InfraPolicy.Yaml.Cursor

/-!
# Scalars of YAML

The text of a scalar in each of the four ways to write one: plain, in single or double quotes, and
as a block. Line breaks inside plain and quoted text fold: one becomes a space, of several the first
is dropped.
-/

namespace InfraPolicy.Yaml

/-! ### Folding -/

/-- Blanks and breaks between two words: blanks on the line, the first break, the breaks after
it. -/
structure Gap where
  blanks : List Char := []
  /-- Has there been a break, so that blanks do not count? -/
  broken : Bool := false
  first : List Char := []
  others : List Char := []
deriving Inhabited

namespace Gap

/-- What a gap contributes to the text. -/
def fold (g : Gap) : List Char :=
  if !g.broken then g.blanks
  else if g.first.head? == some '\n' then if g.others.isEmpty then [' '] else g.others
  else g.first ++ g.others

/-- Pass blanks and breaks. In a plain scalar a tab may not stand before the column `indent` of a
new line. -/
def read (indent : Option Int) : Nat → Gap → Reader Gap
  | 0, _ => failure
  | fuel + 1, g => do
    match ← peek with
    | some c =>
      if isBlank c then do
        let column := (← get).column
        if g.broken && c == '\t' && indent.any (fun i => (column : Int) < i) then failure
        else do
          bump
          read indent fuel (if g.broken then g else { g with blanks := g.blanks ++ [c] })
      else if isBreak c then do
        let b ← takeBreak
        if g.broken then read indent fuel { g with others := g.others ++ b }
        else read indent fuel { g with blanks := [], broken := true, first := b }
      else return g
    | none => return g

end Gap

/-! ### Plain scalars -/

/-- Does a plain scalar end before the next character? -/
def endsPlain (inFlow : Bool) (c : Char) (after : Option Char) : Bool :=
  (c == ':' && isBlankOrEnd after) || (inFlow && [',', '[', ']', '{', '}'].contains c)

/-- A colon before an indicator of the flow context is refused. -/
def isStrayColon (inFlow : Bool) (c : Char) (after : Option Char) : Bool :=
  inFlow && c == ':' && after.any fun d => [',', '?', '[', ']', '{', '}'].contains d

/-- A run of characters of a plain scalar without blanks. -/
def plainWord (inFlow : Bool) : Nat → Reader (List Char)
  | 0 => failure
  | fuel + 1 => do
    match ← peek with
    | none => return []
    | some c => do
      let after ← peekAt 1
      if isBlank c || isBreak c then return []
      else if isStrayColon inFlow c after then failure
      else if endsPlain inFlow c after then return []
      else do
        bump
        return c :: (← plainWord inFlow fuel)

/-- The rest of a plain scalar after a gap, and whether the scalar ends with line breaks. The next
line must be indented at least by `indent`, unless brackets are open. -/
def plainText (inFlow : Bool) (indent : Int) : Nat → Gap → Reader (List Char × Bool)
  | 0, _ => failure
  | fuel + 1, gap => do
    if (← seesDocumentMarker) || (← sees '#') then return ([], gap.broken)
    else do
      let word ← plainWord inFlow fuel
      let joined := if word.isEmpty then [] else gap.fold ++ word
      let gap := if word.isEmpty then gap else {}
      if (← peek).any fun c => isBlank c || isBreak c then do
        let gap ← Gap.read (some indent) fuel gap
        if !inFlow && ((← get).column : Int) < indent then return (joined, gap.broken)
        else do
          let (text, broken) ← plainText inFlow indent fuel gap
          return (joined ++ text, broken)
      else return (joined, gap.broken)

/-! ### Quoted scalars -/

/-- The character that a letter after a backslash stands for. -/
def escapedChar? (c : Char) : Option Char :=
  match c with
  | '0' => some (Char.ofNat 0)
  | 'a' => some (Char.ofNat 7)
  | 'b' => some (Char.ofNat 8)
  | 't' | '\t' => some '\t'
  | 'n' => some '\n'
  | 'v' => some (Char.ofNat 11)
  | 'f' => some (Char.ofNat 12)
  | 'r' => some '\r'
  | 'e' => some (Char.ofNat 27)
  | ' ' | '"' | '/' | '\\' => some c
  | 'N' => some (Char.ofNat 0x85)
  | '_' => some (Char.ofNat 0xA0)
  | 'L' => some (Char.ofNat 0x2028)
  | 'P' => some (Char.ofNat 0x2029)
  | _ => none

/-- How many hexadecimal digits follow a letter after a backslash. -/
def hexLength? (c : Char) : Option Nat :=
  match c with
  | 'x' => some 2
  | 'u' => some 4
  | 'U' => some 8
  | _ => none

/-- A character by a number of hexadecimal digits. -/
def hexChar (count : Nat) : Reader Char := do
  let ds := (← get).rest.take count
  let n := Number.ofDigits 16 ds
  if ds.length < count || !ds.all (Number.isDigitOf 16) then failure
  else if (0xD800 ≤ n && n ≤ 0xDFFF) || 0x10FFFF < n then failure
  else do
    modify fun s =>
      { s with
        rest := s.rest.drop count, index := s.index + count, column := s.column + count }
    return Char.ofNat n

/-- An escape in double quotes, from its backslash on. -/
def escape : Reader Char := do
  bump
  let c ← take
  match hexLength? c, escapedChar? c with
  | some count, _ => hexChar count
  | none, some d => return d
  | none, none => failure

/-- A run of characters between quotes without blanks, and whether it ends with a line break that a
backslash takes away. -/
def quotedWord (single : Bool) : Nat → Reader (List Char × Bool)
  | 0 => failure
  | fuel + 1 => do
    match ← peek with
    | none => return ([], false)
    | some c => do
      let after ← peekAt 1
      if isBlank c || isBreak c then return ([], false)
      else if single && c == '\'' then
        if after == some '\'' then do
          bump
          bump
          let (text, broken) ← quotedWord single fuel
          return ('\'' :: text, broken)
        else return ([], false)
      else if !single && c == '"' then return ([], false)
      else if !single && c == '\\' then
        if after.any isBreak then do
          bump
          let _ ← takeBreak
          return ([], true)
        else do
          let d ← escape
          let (text, broken) ← quotedWord single fuel
          return (d :: text, broken)
      else do
        bump
        let (text, broken) ← quotedWord single fuel
        return (c :: text, broken)

/-- The text between quotes, up to the closing quote, which is taken. -/
def quotedText (single : Bool) : Nat → Reader (List Char)
  | 0 => failure
  | fuel + 1 => do
    if ← seesDocumentMarker then failure
    else do
      let (word, broken) ← quotedWord single fuel
      let c ← peek
      if c == some (if single then '\'' else '"') then do
        bump
        return word
      else if c.isNone then failure
      else do
        let gap ← Gap.read none fuel { broken }
        return word ++ gap.fold ++ (← quotedText single fuel)

/-! ### Block scalars -/

/-- What becomes of the line breaks at the end of a block. -/
inductive Chomping where
  | strip
  | clip
  | keep
deriving DecidableEq, Inhabited

/-- An optional sign for the line breaks at the end. -/
def chomping? : Reader (Option Chomping) := do
  if ← sees '+' then do
    bump
    return some .keep
  else if ← sees '-' then do
    bump
    return some .strip
  else return none

/-- An optional indentation, from 1 to 9. -/
def increment? : Reader (Option Nat) := do
  match ← peek with
  | some c =>
    if !Number.isDigit c then return none
    else if c == '0' then failure
    else do
      bump
      return some (Number.digitValue c)
  | none => return none

/-- The header of a block after its first sign, up to the end of the line. -/
def blockHeader : Reader (Chomping × Option Nat) := do
  let before ← chomping?
  let increment ← increment?
  let chomping ← (if before.isSome then pure before else chomping?)
  skipWhile isBlank
  if ← sees '#' then skipWhile fun c => !isBreak c
  if isBreakOrEnd (← peek) then do
    let _ ← takeBreak
    return (chomping.getD .clip, increment)
  else failure

/-- Empty lines at the place where a line of a block may begin: their breaks, and the greatest
indentation seen. An indentation of zero is not yet known. -/
def blockBreaks (indent : Nat) : Nat → Nat → Reader (List Char × Nat)
  | 0, _ => failure
  | fuel + 1, greatest => do
    let s ← get
    let spaces := (s.rest.takeWhile (· == ' ')).length
    let taken := if indent == 0 then spaces else min spaces (indent - s.column)
    set { s with
      rest := s.rest.drop taken, index := s.index + taken, column := s.column + taken }
    let column := s.column + taken
    let greatest := max greatest column
    if (indent == 0 || column < indent) && (← sees '\t') then failure
    else if (← peek).any isBreak then do
      let b ← takeBreak
      let (breaks, greatest) ← blockBreaks indent fuel greatest
      return (b ++ breaks, greatest)
    else return ([], greatest)

/-- The lines of a block, given the break before and the empty lines before. The result ends with
the break of the last line and the empty lines after it. -/
def blockLines (literal : Bool) (indent : Nat) :
    Nat → Bool → List Char → List Char → Reader (List Char × List Char × List Char)
  | 0, _, _, _ => failure
  | fuel + 1, blankBefore, leading, trailing => do
    let s ← get
    if s.column != indent || s.rest.isEmpty then return ([], leading, trailing)
    else do
      let blankHere := s.rest.head?.any isBlank
      let joint :=
        if !literal && leading.head? == some '\n' && !blankBefore && !blankHere then
          if trailing.isEmpty then [' '] else []
        else leading
      let line ← takeWhile fun c => !isBreak c
      let b ← takeBreak
      let (breaks, _) ← blockBreaks indent fuel 0
      let (text, leading, last) ← blockLines literal indent fuel blankHere b breaks
      return (joint ++ trailing ++ line ++ text, leading, last)

/-- A block scalar after its first sign; `parent` is the indentation of what it stands in. -/
def blockText (literal : Bool) (parent : Int) (fuel : Nat) : Reader (List Char) := do
  let (chomping, increment) ← blockHeader
  let given := increment.map fun n => if 0 ≤ parent then parent.toNat + n else n
  let (breaks, greatest) ← blockBreaks (given.getD 0) fuel 0
  let indent := given.getD (max (max greatest (parent + 1).toNat) 1)
  let (text, leading, trailing) ← blockLines literal indent fuel false [] breaks
  return match chomping with
    | .strip => text
    | .clip => text ++ leading
    | .keep => text ++ leading ++ trailing

end InfraPolicy.Yaml
