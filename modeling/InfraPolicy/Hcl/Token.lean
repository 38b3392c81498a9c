import InfraPolicy.Hcl.Reader
import InfraPolicy.Hcl.Syntax
import InfraPolicy.Text.Blank
import InfraPolicy.Unicode.Recent

/-!
# The words of HCL

Blanks and comments, identifiers, numbers, and the text between the quotes of a template.

Blanks come in two kinds: those within a line, which are spaces, tabs and comments in slashes and
stars, and those that also run over lines.
-/

namespace InfraPolicy.Hcl

/-! ### Blanks and comments -/

/-- Where the reading of blanks stands: between comments, at the star that opens a comment, inside
such a comment, or inside a comment that ends with its line. A comment remembers where it began,
since a comment that does not end is none. -/
inductive BlankState where
  | between
  | opening (start : Source)
  | inside (start : Source)
  | line (start : Source)

/-- Take blanks and comments, over lines if `lines` is set; `written` is what was recorded
before. -/
def takeBlanks (lines : Bool) : BlankState → List Char → List Char → Source
  | .between, written, [] => ⟨[], written⟩
  | .opening start, _, [] => start
  | .inside start, _, [] => start
  | .line _, written, [] => ⟨[], written⟩
  | .opening start, written, c :: rest => takeBlanks lines (.inside start) (c :: written) rest
  | .inside start, written, c :: rest =>
    if c == '*' && rest.head? == some '/' then
      match rest with
      | [] => start
      | d :: after => takeBlanks lines .between (d :: c :: written) after
    else takeBlanks lines (.inside start) (c :: written) rest
  | .line start, written, c :: rest =>
    if c == '\n' then takeBlanks lines .between (c :: written) rest
    else if c == '\r' && rest.head? != some '\n' then start
    else takeBlanks lines (.line start) (c :: written) rest
  | .between, written, c :: rest =>
    if c == ' ' || c == '\t' || (lines && (c == '\n' || c == '\r')) then
      takeBlanks lines .between (c :: written) rest
    else if c == '/' && rest.head? == some '*' then
      takeBlanks lines (.opening ⟨c :: rest, written⟩) (c :: written) rest
    else if lines && (c == '#' || (c == '/' && rest.head? == some '/')) then
      takeBlanks lines (.line ⟨c :: rest, written⟩) (c :: written) rest
    else ⟨c :: rest, written⟩

/-- Blanks and comments within a line, or over lines. -/
def blanks (lines : Bool) : Reader Unit :=
  modify fun s => takeBlanks lines .between s.written s.rest

/-- Does a comment begin here that ends with its line? -/
def seesLineComment : Reader Bool := do
  return (← Reader.sees '#') || (← Reader.seesText "//")

/-- The rest of a line without its break, if that is a comment. -/
def lineComment : Reader Unit := do
  if ← seesLineComment then
    let _ ← Reader.takeWhile fun c => c != '\n' && c != '\r'

/-- A line break. -/
def lineBreak : Reader (List Char) := do
  if ← Reader.charIf '\n' then return ['\n']
  else do
    Reader.text "\r\n"
    return ['\r', '\n']

/-- The end of a line of a body, perhaps with a comment before it, or the end of the text. -/
def lineEnd : Reader Unit := do
  blanks false
  lineComment
  if ← Reader.atEnd then return ()
  else do
    let _ ← lineBreak

/-! ### Identifiers -/

/-- What an identifier may begin with. Below 128 these are letters and the underscore, and no table
is searched. -/
def isIdStart (c : Char) : Bool :=
  if c.toNat < 128 then c.isAlpha || c == '_'
  else Unicode.xidStart.contains c || Unicode.recentLetters.contains c

/-- What an identifier may go on with: below 128 also digits and the hyphen. -/
def isIdContinue (c : Char) : Bool :=
  if c.toNat < 128 then c.isAlphanum || c == '_' || c == '-'
  else
    Unicode.xidContinue.contains c || Unicode.recentLetters.contains c ||
      Unicode.recentContinue.contains c

/-- Does an identifier come next? -/
def seesIdentifier : Reader Bool := do
  return (← Reader.peek).any isIdStart

/-- An identifier, as long as it goes on. -/
def identifier : Reader String := do
  if ← seesIdentifier then return String.ofList (← Reader.takeWhile isIdContinue)
  else failure

/-! ### Numbers -/

/-- A number without a sign. -/
inductive Numeral where
  /-- Below `2 ^ 64`. -/
  | whole (n : Nat)
  | float (x : Binary64)
deriving Inhabited

namespace Numeral

/-- A float that is a whole number in range counts as one. -/
def ofFloat (x : Binary64) : Numeral :=
  match x.toInt? with
  | some n => if n < Number.twoTo 64 then .whole n.toNat else .float x
  | none => .float x

/-- Whole numbers beyond the signed range become floats. -/
def expr : Numeral → Expr
  | .whole n => if n < Number.twoTo 63 then .int (Int64.ofNat n) else .float (.ofInt n)
  | .float x => .float x

/-- A number after a minus sign. Whole numbers below the signed range become floats. -/
def negated : Numeral → Expr
  | .whole n => if n ≤ Number.twoTo 63 then .int (Int64.ofInt (-n)) else .float (.ofInt (-n))
  | .float x => .float (.ofMagnitude (!x.isNegative) x.magnitude)

end Numeral

/-- An exponent: its mark, an optional sign, digits. -/
def takeExponent (cs : List Char) : Option (List Char × List Char) :=
  match cs with
  | mark :: rest =>
    if mark == 'e' || mark == 'E' then
      let sign := (rest.take 1).filter fun c => c == '+' || c == '-'
      let digits := (rest.drop sign.length).takeWhile Number.isDigit
      if digits.isEmpty then none
      else some (mark :: sign ++ digits, (rest.drop sign.length).dropWhile Number.isDigit)
    else none
  | [] => none

/-- A number: digits, with a fraction, an exponent, or both. -/
def numeral : Reader Numeral := do
  let whole ← Reader.takeSome Number.isDigit
  let cs ← Reader.rest
  let fraction :=
    match cs with
    | '.' :: rest => '.' :: rest.takeWhile Number.isDigit
    | _ => []
  let fraction := if fraction.length ≤ 1 then [] else fraction
  let exponent := ((takeExponent (cs.drop fraction.length)).map Prod.fst).getD []
  let _ ← Reader.take (fraction ++ exponent).length
  if fraction.isEmpty && exponent.isEmpty then
    let n := Number.ofDigits 10 whole
    if n < Number.twoTo 64 then return .whole n else failure
  else
    match Number.readUnsigned? false (whole ++ fraction ++ exponent) with
    | some x => if x.isFinite then return .ofFloat x else failure
    | none => failure

/-! ### Text of templates -/

/-- Does an interpolation or a directive begin here? -/
def startsMarker : List Char → Bool
  | '$' :: '{' :: _ => true
  | '%' :: '{' :: _ => true
  | _ => false

/-- A doubled mark stands for the two characters that would begin an interpolation or a
directive. -/
def escapedMarker? : List Char → Option (List Char × List Char)
  | '$' :: '$' :: '{' :: rest => some (['$', '{'], rest)
  | '%' :: '%' :: '{' :: rest => some (['%', '{'], rest)
  | _ => none

/-- The character that a letter after a backslash stands for. -/
def escapedChar? (c : Char) : Option Char :=
  match c with
  | 'n' => some '\n'
  | 'r' => some '\r'
  | 't' => some '\t'
  | 'b' => some (Char.ofNat 8)
  | 'f' => some (Char.ofNat 12)
  | '\\' | '"' | '/' => some c
  | _ => none

/-- A character by hexadecimal digits. -/
def charOfHex? (count : Nat) (cs : List Char) : Option Char :=
  let ds := cs.take count
  let n := Number.ofDigits 16 ds
  if ds.length == count && ds.all (Number.isDigitOf 16) && n ≤ 0x10FFFF &&
      !(0xD800 ≤ n && n ≤ 0xDFFF) then
    some (Char.ofNat n)
  else none

/-- What a backslash begins, after the backslash. -/
def escape? : List Char → Option (Char × List Char)
  | 'u' :: rest => (charOfHex? 4 rest).map (·, rest.drop 4)
  | 'U' :: rest => (charOfHex? 8 rest).map (·, rest.drop 8)
  | c :: rest => (escapedChar? c).map (·, rest)
  | [] => none

/-- What literal text stands between. -/
inductive Quoting where
  /-- Double quotes. -/
  | quoted
  /-- Lines up to one with the delimiter. -/
  | heredoc (delimiter : List Char)
  /-- Nothing: the text runs to the next marker or to the end. -/
  | bare
deriving Inhabited

/-- Does a here-document end here: a line break, then the delimiter, perhaps indented? -/
def endsHeredoc (delimiter : List Char) (cs : List Char) : Bool :=
  let closes (rest : List Char) : Bool :=
    delimiter.isPrefixOf (rest.dropWhile fun c => c == ' ' || c == '\t')
  match cs with
  | '\n' :: rest => closes rest
  | '\r' :: '\n' :: rest => closes rest
  | _ => false

/-- Does literal text end here? -/
def endsLiteral (q : Quoting) (cs : List Char) : Bool :=
  startsMarker cs ||
    match q with
    | .quoted => cs.head? == some '"'
    | .heredoc delimiter => endsHeredoc delimiter cs
    | .bare => false

/-- Literal text, and what is left after it; `begun` tells whether some text came before. Only
quoted text has escapes. An escape that means nothing ends the text: it is passed over, with the
character after the backslash, unless the text would be empty. -/
def literalText (q : Quoting) (begun : Bool) : Nat → List Char → List Char × List Char
  | 0, cs => ([], cs)
  | _ + 1, [] => ([], [])
  | fuel + 1, c :: rest =>
    let after (text left : List Char) : List Char × List Char :=
      let (more, left) := literalText q true fuel left
      (text ++ more, left)
    if endsLiteral q (c :: rest) then ([], c :: rest)
    else
      match escapedMarker? (c :: rest) with
      | some (marker, left) => after marker left
      | none =>
        match q, c with
        | .quoted, '\\' =>
          match escape? rest with
          | some (escaped, left) => after [escaped] left
          | none => if begun then ([], rest.drop 1) else ([], c :: rest)
        | _, _ => after [c] rest

/-! ### Writing literal text -/

/-- Text from the first marker on: a mark before an opening brace is doubled. The character after
a mark is passed over, so a mark that follows another is never doubled. -/
def doubleMarks : List Char → List Char
  | [] => []
  | [c] => [c]
  | c :: d :: rest =>
    if c == '$' || c == '%' then
      if d == '{' then c :: c :: d :: doubleMarks rest else c :: d :: doubleMarks rest
    else c :: doubleMarks (d :: rest)

/-- Literal text as it is written outside of quotes. -/
def writeBare : List Char → List Char
  | [] => []
  | c :: rest => if startsMarker (c :: rest) then doubleMarks (c :: rest) else c :: writeBare rest

/-- A character as it is written in quotes. -/
def writeQuotedChar (c : Char) : List Char :=
  match c with
  | '\n' => ['\\', 'n']
  | '\r' => ['\\', 'r']
  | '\t' => ['\\', 't']
  | '"' => ['\\', '"']
  | '\\' => ['\\', '\\']
  | _ => [c]

/-- Literal text as it is written in quotes. -/
def writeQuoted (cs : List Char) : List Char :=
  (writeBare cs).flatMap writeQuotedChar

/-! ### Indentation -/

/-- The lines of a text without their breaks. -/
def linesOf (cs : List Char) : List (List Char) :=
  let parts := cs.splitOn '\n'
  let parts := if parts.getLast? == some [] then parts.dropLast else parts
  parts.map fun line => if line.getLast? == some '\r' then line.dropLast else line

/-- The least indentation of lines that are not empty. -/
def leastIndent (lines : List (List Char)) : Nat :=
  let indents := (lines.filter fun line => !line.isEmpty).map fun line =>
    (line.takeWhile Text.isBlank).length
  match indents with
  | [] => 0
  | n :: rest => rest.foldl min n

/-- Remove the indentation that all lines share. -/
def dedent (cs : List Char) : List Char :=
  let lines := linesOf cs
  let indent := leastIndent lines
  if indent == 0 then cs
  else
    let joined := List.intercalate ['\n'] (lines.map fun line => line.drop indent)
    if cs.getLast? == some '\n' then joined ++ ['\n'] else joined

end InfraPolicy.Hcl
