import InfraPolicy.Pattern.CharClass
import InfraPolicy.Pattern.Machine
import InfraPolicy.Text.Blank
import InfraPolicy.Text.Search

/-!
# Reading patterns

The syntax of patterns: literals, classes in brackets with set operations, escapes, anchors,
groups with or without a name, alternatives, repetition, and flags that hold to the end of their
group. There is no look-around and no reference back to a group.

Reading keeps track of three things beside the pattern: whether the last piece can be repeated,
how deeply pieces are nested, and the shape of the pattern. Patterns that are nested too deeply, or
whose shape asks for too large a machine, are refused.
-/

namespace InfraPolicy.Pattern

/-- The flags in force at a place of the text of a pattern. -/
structure Flags where
  /-- Letters match in either case. -/
  caseless : Bool := false
  /-- The line anchors match at every line. -/
  multiline : Bool := false
  /-- A dot also matches a line feed. -/
  dotAll : Bool := false
  /-- A carriage return ends a line too. -/
  crlf : Bool := false
  /-- Blanks and comments in the pattern do not count. -/
  spaced : Bool := false
  /-- Classes reach beyond ASCII. -/
  unicode : Bool := true
  /-- Repetitions prefer shorter matches unless a question mark follows. -/
  swapped : Bool := false
deriving Repr, Inhabited

/-- What is left to read, and what was seen before it. -/
structure Cursor where
  rest : List Char
  flags : Flags
  /-- The names of groups so far, which may not repeat. -/
  names : List String
deriving Inhabited

/-- A step of reading; it fails without a reason. -/
abbrev Reader := StateT Cursor Option

/-- A piece of a pattern. -/
structure Piece where
  pattern : Pattern
  /-- Flags stand alone and cannot be repeated. -/
  repeatable : Bool := true
  /-- How deeply the piece is nested. -/
  depth : Nat := 0
  shape : Shape
deriving Inhabited

/-- Pieces may not be nested deeper. -/
def depthLimit : Nat := 250

/-! ### Characters -/

/-- The next character. -/
def peek : Reader (Option Char) := do
  return (← get).rest.head?

/-- The character after the next. -/
def peekSecond : Reader (Option Char) := do
  return ((← get).rest.drop 1).head?

/-- Go past the next character. -/
def bump : Reader Unit :=
  modify fun s => { s with rest := s.rest.drop 1 }

/-- The next character, which must exist. -/
def current : Reader Char := do
  match ← peek with
  | some c => return c
  | none => failure

/-- Take the given characters if they come next. -/
def bumpIf (expected : String) : Reader Bool := do
  match Text.strip? (← get).rest expected.toList with
  | some rest => do
    modify fun s => { s with rest }
    return true
  | none => return false

/-- Drop blanks and comments. A comment runs from a number sign to the end of its line. -/
def dropSpace : Bool → List Char → List Char
  | _, [] => []
  | true, c :: rest => dropSpace (c != '\n') rest
  | false, c :: rest =>
    if Text.isBlank c then dropSpace false rest
    else if c == '#' then dropSpace true rest
    else c :: rest

/-- Drop blanks and comments where they do not count. -/
def skipSpace : Reader Unit :=
  modify fun s => if s.flags.spaced then { s with rest := dropSpace false s.rest } else s

/-- Move on past space; a character must be left. -/
def advance : Reader Unit := do
  bump
  skipSpace
  let _ ← current

/-! ### Numbers -/

/-- Digits with space between them. -/
def digits (isDigit : Char → Bool) : Nat → Reader (List Char)
  | 0 => return []
  | fuel + 1 => do
    match ← peek with
    | some c =>
      if isDigit c then do
        bump
        skipSpace
        return c :: (← digits isDigit fuel)
      else return []
    | none => return []

/-- Go past blanks. -/
def skipBlanks : Reader Unit :=
  modify fun s => { s with rest := s.rest.dropWhile Text.isBlank }

/-- A decimal number below `2 ^ 32`, with blanks around it. -/
def decimal : Reader Nat := do
  skipBlanks
  let ds ← digits Number.isDigit (← get).rest.length
  skipBlanks
  skipSpace
  match Number.readNat? ds with
  | some n => if n < Number.twoTo 32 then return n else failure
  | none => failure

/-- A character by the hexadecimal digits of its code point. -/
def charOfHex (ds : List Char) : Reader Char := do
  let n := Number.ofDigits 16 ds
  if ds.isEmpty || 0x10FFFF < n || (0xD800 ≤ n && n ≤ 0xDFFF) then failure
  else return Char.ofNat n

/-! ### Escapes -/

/-- What a backslash and the characters after it stand for. -/
inductive Escape where
  | literal (c : Char)
  | set (s : CodeSet)
  | anchor (a : Anchor)

/-- Apply the case flag and a negation. Without Unicode a negated class would match parts of
characters, which is refused. -/
def closeClass (negated : Bool) (s : CodeSet) : Reader CodeSet := do
  let flags := (← get).flags
  let ascii := CodeSet.ofRanges [(0, 127)]
  let folded :=
    if !flags.caseless then s
    else if flags.unicode then Unicode.closeUnderCase s
    else (Unicode.closeUnderCase s).inter ascii
  if flags.unicode then return if negated then folded.complement else folded
  else if negated || !folded.isAscii then failure
  else return folded

/-- Exactly `count` hexadecimal digits. -/
def fixedHex : Nat → Reader (List Char)
  | 0 => return []
  | count + 1 => do
    let c ← current
    if !Number.isDigitOf 16 c then failure
    else do
      bump
      skipSpace
      return c :: (← fixedHex count)

/-- A character by its code point: in braces, or with a fixed number of digits that the letter
decides. Two digits mean a byte where Unicode is off. -/
def hexEscape (letter : Char) : Reader Char := do
  advance
  if (← current) == '{' then do
    bump
    skipSpace
    let ds ← digits (Number.isDigitOf 16) (← get).rest.length
    if (← current) != '}' then failure
    else do
      bump
      skipSpace
      charOfHex ds
  else do
    let ds ← fixedHex (if letter == 'x' then 2 else if letter == 'u' then 4 else 8)
    let c ← charOfHex ds
    if letter == 'x' && !(← get).flags.unicode && 127 < c.toNat then failure else return c

/-- The characters up to a closing brace. -/
def bracedName : Nat → Reader (List Char)
  | 0 => failure
  | fuel + 1 => do
    let c ← current
    if c == '}' then return []
    else do
      bump
      skipSpace
      return c :: (← bracedName fuel)

/-- The class of a property by its text: a name, or a name and a value with a sign between. The flag
tells whether the sign denies the value. -/
def propertyClass (text : List Char) : Reader (Bool × CodeSet) := do
  let whole := String.ofList text
  let cut (sign : String) : Option (String × String) :=
    match whole.splitOn sign with
    | name :: rest@(_ :: _) => some (name, sign.intercalate rest)
    | _ => none
  let found :=
    match cut "!=", cut ":", cut "=" with
    | some (name, value), _, _ => (CharClass.propertyValue? name value).map (true, ·)
    | none, some (name, value), _ => (CharClass.propertyValue? name value).map (false, ·)
    | none, none, some (name, value) => (CharClass.propertyValue? name value).map (false, ·)
    | none, none, none => (CharClass.property? whole).map (false, ·)
  match found with
  | some found => return found
  | none => failure

/-- A property after `\p` or `\P`: one letter, or a text in braces. A capital denies it. -/
def propertyEscape (negated : Bool) : Reader CodeSet := do
  advance
  let c ← current
  if !(← get).flags.unicode || c == '\\' then failure
  else do
    bump
    skipSpace
    let (denied, s) ← (do
      if c == '{' then do
        let text ← bracedName ((← get).rest.length + 1)
        bump
        propertyClass text
      else propertyClass [c])
    closeClass (negated != denied) s

/-- Characters with a meaning of their own, which a backslash takes away. -/
def isMeta (c : Char) : Bool :=
  "\\.+*?()|[]\x7b\x7d^$#&-~".toList.contains c

/-- A backslash may also stand before any other ASCII character that is no letter, no digit and
no angle. -/
def isEscapable (c : Char) : Bool :=
  isMeta c || (c.toNat < 128 && !c.isAlphanum && c != '<' && c != '>')

/-- The kind of words that anchors look for. -/
def wordKind : Reader WordKind := do
  return if (← get).flags.unicode then .unicode else .ascii

/-- A word boundary, perhaps with the name of a special one in braces. Braces that hold something
else are left for a repetition. -/
def wordBoundary : Reader Anchor := do
  let kind ← wordKind
  let before ← get
  if before.rest.head? != some '{' then return .wordBoundary kind
  else do
    advance
    let isNameChar (c : Char) : Bool := c.isAlpha || c == '-'
    if !isNameChar (← current) then do
      set before
      return .wordBoundary kind
    else do
      let name ← digits isNameChar (← get).rest.length
      if (← current) != '}' then failure
      else do
        bump
        match String.ofList name with
        | "start" => return .wordStart kind
        | "end" => return .wordEnd kind
        | "start-half" => return .wordStartHalf kind
        | "end-half" => return .wordEndHalf kind
        | _ => failure

/-- What a backslash begins; the backslash is the current character. -/
def escape : Reader Escape := do
  bump
  let c ← current
  if Number.isDigit c then failure
  else if c == 'x' || c == 'u' || c == 'U' then return .literal (← hexEscape c)
  else if c == 'p' || c == 'P' then return .set (← propertyEscape (c == 'P'))
  else
    match CharClass.letterClass? (← get).flags.unicode (Number.lowerAscii c) with
    | some s => do
      bump
      if !c.isUpper then return .set s
      else if (← get).flags.unicode then return .set s.complement
      else failure
    | none => do
      bump
      if isEscapable c then return .literal c
      else
        match c with
        | 'a' => return .literal (Char.ofNat 7)
        | 'f' => return .literal (Char.ofNat 12)
        | 't' => return .literal '\t'
        | 'n' => return .literal '\n'
        | 'r' => return .literal '\r'
        | 'v' => return .literal (Char.ofNat 11)
        | 'A' => return .anchor .textStart
        | 'z' => return .anchor .textEnd
        | 'b' => return .anchor (← wordBoundary)
        | 'B' => return .anchor (.notWordBoundary (← wordKind))
        | '<' => return .anchor (.wordStart (← wordKind))
        | '>' => return .anchor (.wordEnd (← wordKind))
        | _ => failure

/-! ### Classes in brackets -/

/-- Operations between the parts of a class, all of one rank and grouped to the left. -/
inductive SetOp where
  | inter
  | diff
  | symmDiff

/-- A class under construction: its characters, and how deeply it is nested. -/
structure ClassPart where
  set : CodeSet := .empty
  items : Nat := 0
  depth : Nat := 0

namespace ClassPart

/-- Add an item to a class. -/
def add (part : ClassPart) (s : CodeSet) (depth : Nat) : ClassPart :=
  ⟨part.set.union s, part.items + 1, max part.depth depth⟩

/-- Several items make a union, which counts as one level. -/
def level (part : ClassPart) : Nat :=
  if 2 ≤ part.items then part.depth + 1 else part.depth

end ClassPart

/-- Join what stands before an operation with what comes after it. -/
def combine (left : Option (SetOp × CodeSet × Nat)) (part : ClassPart) :
    Reader (CodeSet × Nat) := do
  match left with
  | none => return (part.set, part.level)
  | some (op, s, depth) =>
    let s ← closeClass false s
    let t ← closeClass false part.set
    let joined :=
      match op with
      | .inter => s.inter t
      | .diff => s.diff t
      | .symmDiff => s.symmDiff t
    return (joined, max depth part.level + 1)

/-- A bracketed name of ASCII characters, if one stands here. -/
def asciiClass : Reader (Option CodeSet) := do
  let before ← get
  match before.rest with
  | '[' :: ':' :: rest => do
    let negated := rest.head? == some '^'
    let body := if negated then rest.drop 1 else rest
    let name := body.takeWhile (· != ':')
    match body.dropWhile (· != ':'), CharClass.asciiClass? (String.ofList name) with
    | ':' :: ']' :: rest, some s => do
      set { before with rest }
      return some (← closeClass negated s)
    | _, _ => return none
  | _ => return none

/-- One end of a range, or a whole item. -/
def classItem : Reader Escape := do
  if (← current) == '\\' then escape
  else do
    let c ← current
    bump
    return .literal c

/-- A single character in a class; without Unicode only ASCII. -/
def classLiteral (c : Char) : Reader Nat := do
  if (← get).flags.unicode || c.toNat < 128 then return c.toNat else failure

/-- An item of a class: a character, a range, or a class named by an escape. A hyphen before the
closing bracket or before another hyphen is no range. -/
def classRange : Reader CodeSet := do
  let first ← classItem
  skipSpace
  let c ← current
  let saved ← get
  bump
  skipSpace
  let next ← peek
  if c != '-' || next == some ']' || next == some '-' then do
    set saved
    match first with
    | .literal c => do
      let n ← classLiteral c
      return .ofRanges [(n, n)]
    | .set s => return s
    | .anchor _ => failure
  else do
    let _ ← current
    match first, ← classItem with
    | .literal lo, .literal hi => do
      let lo ← classLiteral lo
      let hi ← classLiteral hi
      if lo ≤ hi then return .ofRanges [(lo, hi)] else failure
    | _, _ => failure

/-- Hyphens at the start of a class stand for themselves. -/
def leadingHyphens (part : ClassPart) : Nat → Reader ClassPart
  | 0 => return part
  | fuel + 1 => do
    if (← current) == '-' then do
      advance
      leadingHyphens (part.add (.single '-') 0) fuel
    else return part

mutual

/-- A class from its opening bracket on, with its depth. -/
def bracketed : Nat → Reader (CodeSet × Nat)
  | 0 => failure
  | fuel + 1 => do
    advance
    let negated := (← current) == '^'
    if negated then advance
    let hyphens ← leadingHyphens {} fuel
    let start ← (do
      if hyphens.items == 0 && (← current) == ']' then do
        advance
        return ClassPart.add {} (.single ']') 0
      else return hyphens)
    let (s, depth) ← classItems fuel none start
    return (← closeClass negated s, depth + 1)

/-- The items of a class up to and with its closing bracket. -/
def classItems : Nat → Option (SetOp × CodeSet × Nat) → ClassPart → Reader (CodeSet × Nat)
  | 0, _, _ => failure
  | fuel + 1, left, part => do
    skipSpace
    let c ← current
    let operator :=
      match c, ← peekSecond with
      | '&', some '&' => some SetOp.inter
      | '-', some '-' => some SetOp.diff
      | '~', some '~' => some SetOp.symmDiff
      | _, _ => none
    if c == ']' then do
      bump
      combine left part
    else if c == '[' then do
      match ← asciiClass with
      | some s => classItems fuel left (part.add s 0)
      | none => do
        let (s, depth) ← bracketed fuel
        classItems fuel left (part.add s depth)
    else
      match operator with
      | some op => do
        bump
        bump
        let (s, depth) ← combine left part
        classItems fuel (some (op, s, depth)) {}
      | none => do
        let s ← classRange
        classItems fuel left (part.add s 0)

end

/-! ### Pieces -/

/-- One character of a set. -/
def setPiece (s : CodeSet) : Piece :=
  { pattern := .chars s, shape := .ofSet s }

/-- An anchor, which takes no character. -/
def anchorPiece (a : Anchor) : Piece :=
  { pattern := .anchor a, shape := .anchor a }

/-- A character that stands for itself. -/
def literalPiece (c : Char) : Reader Piece := do
  let flags := (← get).flags
  let s := CodeSet.single c
  if !flags.caseless then return setPiece s
  else if flags.unicode then return setPiece (Unicode.closeUnderCase s)
  else if c.toNat < 128 then return setPiece (← closeClass false s)
  else return setPiece s

/-- Any character, without line breaks unless a flag adds them. -/
def dotPiece : Reader Piece := do
  let flags := (← get).flags
  if !flags.unicode then failure
  else if flags.dotAll then return setPiece .all
  else if flags.crlf then return setPiece (CodeSet.ofRanges [(10, 10), (13, 13)]).complement
  else return setPiece (CodeSet.ofRanges [(10, 10)]).complement

/-- A piece that is neither a group, a class in brackets nor a repetition. -/
def primitive : Reader Piece := do
  let c ← current
  let flags := (← get).flags
  match c with
  | '\\' =>
    match ← escape with
    | .literal c => literalPiece c
    | .set s => return setPiece s
    | .anchor a => return anchorPiece a
  | '.' => do
    bump
    dotPiece
  | '^' => do
    bump
    return anchorPiece (if !flags.multiline then .textStart
      else if flags.crlf then .crlfLineStart else .lineStart)
  | '$' => do
    bump
    return anchorPiece (if !flags.multiline then .textEnd
      else if flags.crlf then .crlfLineEnd else .lineEnd)
  | c => do
    bump
    literalPiece c

/-- Repeat a piece. A piece that matches only the empty text is repeated once at most. -/
def repeatPiece (least : Nat) (most : Option Nat) (greedy : Bool) (p : Piece) : Piece :=
  let least := if p.shape.zeroWidth then min least 1 else least
  let most := if p.shape.zeroWidth then some (min (most.getD 1) 1) else most
  { pattern := .rep least most p.pattern
    depth := p.depth + 1
    shape := .repeated least most greedy p.shape }

/-- The last piece, which must be one that can be repeated; `pieces` holds the last one first. -/
def popRepeatable (pieces : List Piece) : Reader (Piece × List Piece) := do
  match pieces with
  | p :: rest => if p.repeatable then return (p, rest) else failure
  | [] => failure

/-- The end of a repetition: a question mark there changes which match is preferred. -/
def isGreedy : Reader Bool := do
  let marked := (← peek) == some '?'
  if marked then bump
  return marked == (← get).flags.swapped

/-- A repetition by one of three signs. -/
def signRepetition (sign : Char) (pieces : List Piece) : Reader (List Piece) := do
  let (p, rest) ← popRepeatable pieces
  bump
  let greedy ← isGreedy
  let (least, most) :=
    match sign with
    | '?' => (0, some 1)
    | '*' => (0, none)
    | _ => (1, none)
  return repeatPiece least most greedy p :: rest

/-- A repetition by numbers in braces. The second number may be missing, the first may not. -/
def countRepetition (pieces : List Piece) : Reader (List Piece) := do
  let (p, rest) ← popRepeatable pieces
  advance
  let least ← decimal
  let most ← (do
    if (← current) == ',' then do
      advance
      if (← current) == '}' then return none else return some (← decimal)
    else return some least)
  if (← current) != '}' then failure
  else do
    bump
    skipSpace
    let greedy ← isGreedy
    if most.any (· < least) then failure else return repeatPiece least most greedy p :: rest

/-- One level deeper than the deepest piece. -/
def depthAbove (pieces : List Piece) : Nat :=
  (pieces.map Piece.depth).foldl max 0 + 1

/-- Pieces one after another, the last one given first. -/
def sequence (pieces : List Piece) : Piece :=
  match pieces with
  | [] => { pattern := .empty, shape := .empty }
  | [p] => p
  | last :: rest =>
    { pattern := rest.foldl (fun acc p => Pattern.seq p.pattern acc) last.pattern
      depth := depthAbove pieces
      shape := .sequence (pieces.reverse.map Piece.shape) }

/-- Alternatives, the last one given first. -/
def alternatives (branches : List Piece) : Piece :=
  match branches with
  | [] => sequence []
  | [p] => p
  | last :: rest =>
    let shapes := branches.reverse.map Piece.shape
    let bound := shapes.foldl (fun n s => n + s.parts.length) 1
    { pattern := rest.foldl (fun acc p => Pattern.alt p.pattern acc) last.pattern
      depth := depthAbove branches
      shape := .alternatives bound shapes }

/-! ### Groups -/

/-- The name of a group up to its closing angle, at the beginning of the name or not. -/
def groupName (start : Bool) : Nat → Reader (List Char)
  | 0 => failure
  | fuel + 1 => do
    let c ← current
    let isLetter := Unicode.alphabetic.contains c || Unicode.recentLetters.contains c ||
      Unicode.recentLetterMarks.contains c
    let isNumber := (Unicode.categories ["Nd", "Nl", "No"]).contains c ||
      Unicode.recentNumbers.contains c
    if c == '>' then do
      bump
      return []
    else if c == '_' || isLetter ||
        (!start && (c == '.' || c == '[' || c == ']' || isNumber)) then do
      bump
      return c :: (← groupName false fuel)
    else failure

/-- Set the flag of a letter. -/
def setFlag (letter : Char) (on : Bool) (flags : Flags) : Option Flags :=
  match letter with
  | 'i' => some { flags with caseless := on }
  | 'm' => some { flags with multiline := on }
  | 's' => some { flags with dotAll := on }
  | 'R' => some { flags with crlf := on }
  | 'x' => some { flags with spaced := on }
  | 'u' => some { flags with unicode := on }
  | 'U' => some { flags with swapped := on }
  | _ => none

/-- Letters of flags up to a colon or a closing parenthesis, which is left. A letter and the minus
may each occur once, and the minus may not be last. -/
def flagLetters (seen : List Char) (flags : Flags) :
    List Char → Option (List Char × Flags × List Char)
  | [] => none
  | c :: rest =>
    if c == ':' || c == ')' then
      if seen.head? == some '-' then none else some (seen, flags, c :: rest)
    else if seen.contains c then none
    else if c == '-' then flagLetters (c :: seen) flags rest
    else do flagLetters (c :: seen) (← setFlag c (!seen.contains '-') flags) rest

/-- How a group begins. -/
inductive GroupStart where
  /-- Flags that hold from here on. -/
  | flags (f : Flags)
  /-- A group whose content is read under the flags, and whether its place would be reported. -/
  | open (f : Flags) (reported : Bool)

/-- The beginning of a group, after its parenthesis. -/
def groupStart : Reader GroupStart := do
  let s ← get
  let lookAround := ["?=", "?!", "?<=", "?<!"].any fun t => t.toList.isPrefixOf s.rest
  if lookAround then failure
  else do
    let named ← if ← bumpIf "?P<" then pure true else bumpIf "?<"
    if named then do
      let name := String.ofList (← groupName true (s.rest.length + 1))
      if name.isEmpty || s.names.contains name then failure
      else do
        modify fun s => { s with names := name :: s.names }
        return .open s.flags true
    else if ← bumpIf "?" then do
      match flagLetters [] s.flags (← get).rest with
      | some (seen, flags, c :: rest) => do
        modify fun s => { s with rest }
        if c == ':' then return .open flags false
        else if seen.isEmpty then failure
        else return .flags flags
      | _ => failure
    else return .open s.flags true

mutual

/-- Alternatives up to the end of the group or of the text; `branches` holds those before. -/
def branches : Nat → List Piece → Reader Piece
  | 0, _ => failure
  | fuel + 1, before => do
    let branch := sequence (← pieces fuel [])
    if (← peek) == some '|' then do
      bump
      branches fuel (branch :: before)
    else return alternatives (branch :: before)

/-- Pieces up to a bar, a closing parenthesis or the end; `before` holds the last one first. -/
def pieces : Nat → List Piece → Reader (List Piece)
  | 0, _ => failure
  | fuel + 1, before => do
    skipSpace
    match ← peek with
    | none => return before
    | some c =>
      if c == '|' || c == ')' then return before
      else if c == '(' then do
        let p ← group fuel
        pieces fuel (p :: before)
      else if c == '[' then do
        let (s, depth) ← bracketed fuel
        pieces fuel ({ setPiece s with depth } :: before)
      else if c == '?' || c == '*' || c == '+' then do
        pieces fuel (← signRepetition c before)
      else if c == '{' then do
        pieces fuel (← countRepetition before)
      else do
        let p ← primitive
        pieces fuel (p :: before)

/-- A group from its opening parenthesis on. Flags set inside end with it. -/
def group : Nat → Reader Piece
  | 0 => failure
  | fuel + 1 => do
    bump
    skipSpace
    let outer := (← get).flags
    match ← groupStart with
    | .flags f => do
      modify fun s => { s with flags := f }
      return { pattern := .empty, repeatable := false, shape := .empty }
    | .open f reported => do
      modify fun s => { s with flags := f }
      let inner ← branches fuel []
      if (← current) != ')' then failure
      else do
        bump
        modify fun s => { s with flags := outer }
        return { inner with
          repeatable := true
          depth := inner.depth + 1
          shape := if reported then .group inner.shape else inner.shape }

end

/-- Read a pattern; nothing if it is malformed, nested too deeply or too large. -/
def parse? (text : String) : Option Pattern :=
  let cs := text.toList
  match (branches (4 * cs.length + 4) []).run ⟨cs, {}, []⟩ with
  | some (piece, rest) =>
    if rest.rest.isEmpty && piece.depth ≤ depthLimit && Machine.fits piece.shape then
      some piece.pattern
    else none
  | none => none

end InfraPolicy.Pattern
