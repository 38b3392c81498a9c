/-!
# Places in a YAML text

YAML is sensitive to columns and lines, so reading keeps track of both. Line breaks are those of
Unicode; a carriage return and a line feed in a row are one break.
-/

namespace InfraPolicy.Yaml

/-- What is left of a text and where in the text that is. -/
structure Cursor where
  rest : List Char
  /-- Characters before. -/
  index : Nat := 0
  line : Nat := 0
  column : Nat := 0
deriving Inhabited

/-- A step of reading. -/
abbrev Reader := StateT Cursor Option

/-- The characters that end a line. -/
def isBreak (c : Char) : Bool :=
  c == '\n' || c == '\r' || c.toNat == 0x85 || c.toNat == 0x2028 || c.toNat == 0x2029

/-- The blanks within a line. -/
def isBlank (c : Char) : Bool :=
  c == ' ' || c == '\t'

/-- A blank, a break, or the end of the text. -/
def isBlankOrEnd : Option Char → Bool
  | none => true
  | some c => isBlank c || isBreak c

/-- A break or the end of the text. -/
def isBreakOrEnd : Option Char → Bool
  | none => true
  | some c => isBreak c

/-- May the character stand in a YAML text at all? -/
def isAllowed (c : Char) : Bool :=
  let n := c.toNat
  n == 0x09 || n == 0x0A || n == 0x0D || (0x20 ≤ n && n ≤ 0x7E) || n == 0x85 ||
    (0xA0 ≤ n && n ≤ 0xD7FF) || (0xE000 ≤ n && n ≤ 0xFFFD && n != 0xFEFF) || 0x10000 ≤ n

/-- Characters of names of anchors and handles of tags. -/
def isWordChar (c : Char) : Bool :=
  c.isAlphanum || c == '_' || c == '-'

/-- The character at a distance, which stays. -/
def peekAt (distance : Nat) : Reader (Option Char) := do
  return (← get).rest[distance]?

/-- The next character, which stays. -/
def peek : Reader (Option Char) := do
  return (← get).rest.head?

/-- Is this the next character? -/
def sees (c : Char) : Reader Bool := do
  return (← peek) == some c

/-- Pass a character that is no line break. -/
def bump : Reader Unit :=
  modify fun s => { s with rest := s.rest.drop 1, index := s.index + 1, column := s.column + 1 }

/-- Pass a character that is no line break, and give it. -/
def take : Reader Char := do
  match ← peek with
  | some c => do
    bump
    return c
  | none => failure

/-- Pass a line break, if one comes next, and give the characters it stands for in a text. -/
def takeBreak : Reader (List Char) := do
  let s ← get
  match s.rest with
  | '\r' :: '\n' :: rest => do
    set { s with rest, index := s.index + 2, line := s.line + 1, column := 0 }
    return ['\n']
  | c :: rest =>
    if isBreak c then do
      set { s with rest, index := s.index + 1, line := s.line + 1, column := 0 }
      return [if c.toNat == 0x2028 || c.toNat == 0x2029 then c else '\n']
    else return []
  | [] => return []

/-- Pass characters of a class that holds no line break. -/
def skipWhile (p : Char → Bool) : Reader Unit :=
  modify fun s =>
    let taken := (s.rest.takeWhile p).length
    { s with
      rest := s.rest.drop taken, index := s.index + taken, column := s.column + taken }

/-- Pass characters of a class that holds no line break, and give them. -/
def takeWhile (p : Char → Bool) : Reader (List Char) := do
  let taken := (← get).rest.takeWhile p
  skipWhile p
  return taken

/-- Does a line begin here with three of the given characters, with a blank after them? -/
def seesMarkerOf (c : Char) : Reader Bool := do
  let s ← get
  return s.column == 0 && [c, c, c].isPrefixOf s.rest && isBlankOrEnd (s.rest.drop 3).head?

/-- Does a line begin here that starts or ends a document? -/
def seesDocumentMarker : Reader Bool := do
  return (← seesMarkerOf '-') || (← seesMarkerOf '.')

end InfraPolicy.Yaml
