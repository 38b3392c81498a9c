import InfraPolicy.Yaml.Scalar

/-!
# Tokens of YAML

`Token.scan` cuts a text into tokens. Indentation becomes tokens too: where a line is indented more
than what it stands in, a block begins, and where it is indented less, blocks end.

That a text is a key shows only at the colon after it. The reader therefore remembers, for every
open bracket, the last place where a key may have begun; at the colon the token that opens the key,
and perhaps one that opens a mapping, are put in there.
-/

namespace InfraPolicy.Yaml

/-- How a scalar is written; only plain text may mean something else than text. -/
inductive Style where
  | plain
  | quoted
deriving DecidableEq, Repr, Inhabited

/-- The tokens of a document. Those of blocks stand for indentation. -/
inductive Token where
  /-- A directive that gives the version of the language. -/
  | version (major minor : Nat)
  /-- A directive that declares a handle for tags. -/
  | handle (name expansion : String)
  | documentStart
  | documentEnd
  | blockSequence
  | blockMapping
  /-- The end of a block. -/
  | blockEnd
  | flowSequence
  | flowSequenceEnd
  | flowMapping
  | flowMappingEnd
  /-- The sign of an item of a block sequence. -/
  | item
  /-- What parts the items between brackets. -/
  | comma
  | key
  | value
  | alias (name : String)
  | anchor (name : String)
  | tag (handle suffix : String)
  | scalar (style : Style) (text : String)
deriving DecidableEq, Repr, Inhabited

/-- A place where a key may have begun. -/
structure KeyPlace where
  /-- The number of tokens before. -/
  tokens : Nat
  index : Nat
  line : Nat
  column : Nat
  /-- Nothing but a key can stand here. -/
  required : Bool
deriving Inhabited

/-- What the reader of tokens knows. -/
structure LexState where
  /-- The tokens so far, the last one first. -/
  tokens : List Token := []
  /-- Their number. -/
  count : Nat := 0
  /-- The columns of the open blocks, the innermost first. -/
  indents : List Nat := []
  /-- The last place for a key: of the innermost bracket first, of no bracket last. -/
  keys : List (Option KeyPlace) := [none]
  /-- May a key begin here? -/
  keyAllowed : Bool := true
deriving Inhabited

/-- A step of reading tokens. -/
abbrev Lexer := StateT LexState Reader

namespace Lexer

/-- Add a token. -/
def emit (t : Token) : Lexer Unit :=
  modify fun s => { s with tokens := t :: s.tokens, count := s.count + 1 }

/-- Put a token before those that came after the first `place` ones. -/
def emitAt (place : Nat) (t : Token) : Lexer Unit :=
  modify fun s =>
    let later := s.count - place
    { s with
      tokens := s.tokens.take later ++ t :: s.tokens.drop later, count := s.count + 1 }

/-- Is a bracket open? -/
def inFlow : Lexer Bool := do
  return 1 < (← get).keys.length

/-- The column of the innermost block; -1 outside of all. -/
def indent : Lexer Int := do
  return match (← get).indents with
    | [] => -1
    | n :: _ => n

/-- Say whether a key may begin here. -/
def allowKey (allowed : Bool) : Lexer Unit :=
  modify fun s => { s with keyAllowed := allowed }

/-- Forget the place for a key. Where a key is required that is an error. -/
def dropKey : Lexer Unit := do
  let s ← get
  match s.keys with
  | some place :: rest =>
    if place.required then failure else set { s with keys := none :: rest }
  | _ => return ()

/-- Remember this place for a key, if one may begin here. -/
def saveKey : Lexer Unit := do
  if (← get).keyAllowed then do
    let c ← getThe Cursor
    let required := !(← inFlow) && (← indent) == c.column
    dropKey
    modify fun s =>
      { s with
        keys := some ⟨s.count, c.index, c.line, c.column, required⟩ :: s.keys.drop 1 }

/-- A key ends on its line and within 1024 characters. -/
def dropStaleKeys : Lexer Unit := do
  let c ← getThe Cursor
  let isStale (p : KeyPlace) : Bool := p.line < c.line || p.index + 1024 < c.index
  let s ← get
  if s.keys.any fun k => k.any fun p => isStale p && p.required then failure
  else
    let fresh (k : Option KeyPlace) : Option KeyPlace := k.filter fun p => !isStale p
    set { s with keys := s.keys.map fresh }

/-- Open a block at a column that is deeper than the innermost block. The token goes to its place
among the tokens, or to the end. -/
def openBlock (column : Nat) (place : Option Nat) (t : Token) : Lexer Unit := do
  if !(← inFlow) && (← indent) < column then do
    modify fun s => { s with indents := column :: s.indents }
    match place with
    | some n => emitAt n t
    | none => emit t

/-- Close the blocks deeper than a column. -/
def closeBlocks (column : Int) : Lexer Unit := do
  if !(← inFlow) then
    modify fun s =>
      let closed := (s.indents.takeWhile fun (n : Nat) => column < (n : Int)).length
      { s with
        tokens := List.replicate closed .blockEnd ++ s.tokens
        count := s.count + closed
        indents := s.indents.drop closed }

/-! ### Single tokens -/

/-- A sign of one character. -/
def sign (t : Token) : Lexer Unit := do
  bump
  emit t

/-- The start or the end of a document. -/
def documentMarker (t : Token) : Lexer Unit := do
  closeBlocks (-1)
  dropKey
  allowKey false
  bump
  bump
  bump
  emit t

/-- An opening bracket or brace. -/
def openBracket (t : Token) : Lexer Unit := do
  saveKey
  modify fun s => { s with keys := none :: s.keys }
  allowKey true
  sign t

/-- A closing bracket or brace. -/
def closeBracket (t : Token) : Lexer Unit := do
  dropKey
  modify fun s => { s with keys := if s.keys.length ≤ 1 then s.keys else s.keys.drop 1 }
  allowKey false
  sign t

/-- A comma between brackets. -/
def commaSign : Lexer Unit := do
  dropKey
  allowKey true
  sign .comma

/-- A hyphen before an item, which may open a block. -/
def itemSign : Lexer Unit := do
  if !(← inFlow) then do
    if !(← get).keyAllowed then failure
    openBlock (← getThe Cursor).column none .blockSequence
  dropKey
  allowKey true
  sign .item

/-- A question mark before a key, which may open a block. -/
def keySign : Lexer Unit := do
  let flow ← inFlow
  if !flow then do
    if !(← get).keyAllowed then failure
    openBlock (← getThe Cursor).column none .blockMapping
  dropKey
  allowKey !flow
  sign .key

/-- A colon. If a key began before, its tokens are put in now. -/
def valueSign : Lexer Unit := do
  let flow ← inFlow
  match (← get).keys.head?.join with
  | some place => do
    emitAt place.tokens .key
    openBlock place.column (some place.tokens) .blockMapping
    modify fun s => { s with keys := none :: s.keys.drop 1 }
    allowKey false
  | none => do
    if !flow then do
      if !(← get).keyAllowed then failure
      openBlock (← getThe Cursor).column none .blockMapping
    allowKey !flow
  sign .value

/-- The name of an anchor or an alias, from its sign on. -/
def anchorName : Reader String := do
  bump
  let name ← takeWhile isWordChar
  let c ← peek
  let ends := isBlankOrEnd c || c.any fun d => ['?', ':', ',', ']', '}', '%', '@', '`'].contains d
  if name.isEmpty || !ends then failure else return String.ofList name

/-- Characters of the addresses that tags are. -/
def isUriChar (verbatim : Bool) (c : Char) : Bool :=
  isWordChar c || ";/?:@&=+$.!~*'()%".toList.contains c ||
    (verbatim && (c == ',' || c == '[' || c == ']'))

/-- One byte of a percent escape. -/
def percentByte : Reader Nat := do
  let ds := (← get).rest.take 3
  match ds with
  | ['%', a, b] =>
    if Number.isDigitOf 16 a && Number.isDigitOf 16 b then do
      bump
      bump
      bump
      return Number.ofDigits 16 [a, b]
    else failure
  | _ => failure

/-- A character spelled by percent escapes, one for each byte of UTF-8. -/
def percentChar : Reader Char := do
  let first ← percentByte
  let more (count low : Nat) : Reader Char := do
    let rec go : Nat → Nat → Reader Nat
      | 0, n => return n
      | k + 1, n => do
        let b ← percentByte
        if b / 64 == 2 then go k (n * 64 + b % 64) else failure
    return Char.ofNat (← go count low)
  if first < 0x80 then return Char.ofNat first
  else if first / 32 == 6 then more 1 (first % 32)
  else if first / 16 == 14 then more 2 (first % 16)
  else if first / 8 == 30 then more 3 (first % 8)
  else failure

/-- The characters of a tag after its handle. -/
def uriText (verbatim : Bool) : Nat → Reader (List Char)
  | 0 => failure
  | fuel + 1 => do
    match ← peek with
    | some c =>
      if c == '%' then do
        let d ← percentChar
        return d :: (← uriText verbatim fuel)
      else if isUriChar verbatim c then do
        bump
        return c :: (← uriText verbatim fuel)
      else return []
    | none => return []

/-- A tag: an address between angles, a handle with a suffix, or a suffix alone. -/
def tagToken (flow : Bool) (fuel : Nat) : Reader Token := do
  let t ← (do
    if (← peekAt 1) == some '<' then do
      bump
      bump
      let uri ← uriText true fuel
      if uri.isEmpty || !(← sees '>') then failure
      else do
        bump
        return Token.tag "" (String.ofList uri)
    else do
      bump
      let word ← takeWhile isWordChar
      if ← sees '!' then do
        bump
        let suffix ← uriText false fuel
        if suffix.isEmpty then failure
        else return .tag (String.ofList ('!' :: word ++ ['!'])) (String.ofList suffix)
      else do
        let suffix := word ++ (← uriText false fuel)
        if suffix.isEmpty then return .tag "" "!"
        else return .tag "!" (String.ofList suffix))
  if flow && (← sees ',') then return t
  else if isBlankOrEnd (← peek) then return t
  else failure

/-- A number in a directive. -/
def versionNumber : Reader Nat := do
  let ds ← takeWhile Number.isDigit
  if ds.isEmpty || 9 < ds.length then failure else return Number.ofDigits 10 ds

/-- The handle that a directive declares. -/
def declaredHandle : Reader (List Char) := do
  if (← take) != '!' then failure
  let word ← takeWhile isWordChar
  if ← sees '!' then do
    bump
    return '!' :: word ++ ['!']
  else if word.isEmpty then return ['!']
  else failure

/-- A directive, from its sign to the end of its line. -/
def directiveToken (fuel : Nat) : Reader Token := do
  bump
  let name ← takeWhile isWordChar
  if !isBlankOrEnd (← peek) then failure
  skipWhile isBlank
  let t ← (do
    if name == "YAML".toList then do
      let major ← versionNumber
      if (← take) != '.' then failure
      return Token.version major (← versionNumber)
    else if name == "TAG".toList then do
      let handle ← declaredHandle
      if !(← peek).any isBlank then failure
      skipWhile isBlank
      let expansion ← uriText true fuel
      if expansion.isEmpty || !isBlankOrEnd (← peek) then failure
      return .handle (String.ofList handle) (String.ofList expansion)
    else failure)
  skipWhile isBlank
  if ← sees '#' then skipWhile fun c => !isBreak c
  if !isBreakOrEnd (← peek) then failure
  let _ ← takeBreak
  return t

/-! ### All tokens -/

/-- Pass blanks, comments and line breaks. A tab may not indent a block. -/
def skipToToken : Nat → Lexer Unit
  | 0 => failure
  | fuel + 1 => do
    let tabs := (← inFlow) || !(← get).keyAllowed
    skipWhile fun c => c == ' ' || (tabs && c == '\t')
    if ← sees '#' then skipWhile fun c => !isBreak c
    if (← peek).any isBreak then do
      let _ ← takeBreak
      if !(← inFlow) then allowKey true
      skipToToken fuel

/-- May a plain scalar begin with the character? -/
def startsPlain (flow : Bool) (c : Char) (after : Option Char) : Bool :=
  !(isBlank c || isBreak c || "-?:,[]\x7b\x7d#&*!|>'\"%@`".toList.contains c) ||
    (c == '-' && !after.any isBlank) ||
    (!flow && (c == '?' || c == ':') && !isBlankOrEnd after)

/-- A scalar that may be a key. -/
def flowScalar (style : Style) (text : Reader (List Char)) : Lexer Unit := do
  saveKey
  allowKey false
  let cs ← (text : Lexer (List Char))
  emit (.scalar style (String.ofList cs))

/-- A scalar without quotes. If line breaks end it, a key may begin behind them. -/
def plainScalar (fuel : Nat) : Lexer Unit := do
  saveKey
  allowKey false
  let flow ← inFlow
  let least := (← indent) + 1
  let (cs, broken) ← (plainText flow least fuel {} : Lexer (List Char × Bool))
  if broken then allowKey true
  emit (.scalar .plain (String.ofList cs))

/-- A scalar over several lines after its sign. -/
def blockScalar (literal : Bool) (fuel : Nat) : Lexer Unit := do
  dropKey
  allowKey true
  bump
  let cs ← (blockText literal (← indent) fuel : Lexer (List Char))
  emit (.scalar .quoted (String.ofList cs))

/-- The token that begins with the given character. -/
def token (fuel : Nat) (c : Char) : Lexer Unit := do
  let flow ← inFlow
  let after ← peekAt 1
  if (← getThe Cursor).column == 0 && c == '%' then do
    closeBlocks (-1)
    dropKey
    allowKey false
    emit (← (directiveToken fuel : Lexer Token))
  else if ← seesMarkerOf '-' then documentMarker .documentStart
  else if ← seesMarkerOf '.' then documentMarker .documentEnd
  else if c == '[' then openBracket .flowSequence
  else if c == '{' then openBracket .flowMapping
  else if c == ']' then closeBracket .flowSequenceEnd
  else if c == '}' then closeBracket .flowMappingEnd
  else if c == ',' then commaSign
  else if c == '-' && isBlankOrEnd after then itemSign
  else if c == '?' && (flow || isBlankOrEnd after) then keySign
  else if c == ':' && (flow || isBlankOrEnd after) then valueSign
  else if c == '*' || c == '&' then do
    saveKey
    allowKey false
    let name ← (anchorName : Lexer String)
    emit (if c == '*' then .alias name else .anchor name)
  else if c == '!' then do
    saveKey
    allowKey false
    emit (← (tagToken flow fuel : Lexer Token))
  else if (c == '|' || c == '>') && !flow then blockScalar (c == '|') fuel
  else if c == '\'' then flowScalar .quoted (do bump; quotedText true fuel)
  else if c == '"' then flowScalar .quoted (do bump; quotedText false fuel)
  else if startsPlain flow c after then plainScalar fuel
  else failure

/-- All tokens up to the end of the text. -/
def tokens : Nat → Lexer Unit
  | 0 => failure
  | fuel + 1 => do
    skipToToken fuel
    dropStaleKeys
    closeBlocks (← getThe Cursor).column
    match ← peek with
    | some c => do
      token fuel c
      tokens fuel
    | none => do
      closeBlocks (-1)
      dropKey

end Lexer

/-- The tokens of a text. A mark of the byte order at its beginning does not count. -/
def Token.scan? (text : List Char) : Option (List Token) :=
  let cs := if text.head?.any fun c => c.toNat == 0xFEFF then text.drop 1 else text
  if !cs.all isAllowed then none
  else
    match ((Lexer.tokens (2 * cs.length + 4)).run {}).run { rest := cs } with
    | some ((_, s), _) => some s.tokens.reverse
    | none => none

end InfraPolicy.Yaml
