import InfraPolicy.Pattern.Basic

/-!
# Globs

Patterns for the names of files. A star stands for any text without a slash, a question mark for one
byte, two stars between slashes for any number of directories, brackets for one byte out of a set,
and braces for alternatives. A backslash takes the next character literally.

Globs match bytes: names are read as sequences of bytes of UTF-8, each taken as a character of its
own.
-/

namespace InfraPolicy.Ignore

/-- A piece of a glob. -/
inductive Token where
  | literal (c : Char)
  /-- One byte other than a slash. -/
  | any
  /-- Any bytes other than slashes. -/
  | star
  /-- Any directories, at the beginning. -/
  | deepStart
  /-- Anything below a directory, at the end. -/
  | deepEnd
  /-- Any directories between two others, or none. -/
  | deepBetween
  /-- A byte of a set, given by ranges of characters. -/
  | set (negated : Bool) (ranges : List (Char × Char))
  | choice (branches : List (List Token))
deriving Inhabited, Repr

/-! ### Reading -/

/-- What follows an opening bracket. -/
inductive SetReading where
  /-- A set and the text after its closing bracket. -/
  | closed (ranges : List (Char × Char)) (rest : List Char)
  /-- The closing bracket is missing. -/
  | unclosed
  /-- A range ends before it begins. -/
  | invalid

/-- Read ranges up to the closing bracket, which stands for itself at the beginning. The ranges so
far are given with the last one first; `within` tells that a hyphen has begun a range. -/
def readSet (ranges : List (Char × Char)) (first within : Bool) : List Char → SetReading
  | [] => .unclosed
  | c :: rest =>
    if c == ']' && !first then
      .closed ((if within then ('-', '-') :: ranges else ranges).reverse) rest
    else if c == '-' && !first && !within then readSet ranges false true rest
    else if within then
      match ranges with
      | (low, _) :: before =>
        if c < low then .invalid else readSet ((low, c) :: before) false false rest
      | [] => .invalid
    else readSet ((c, c) :: ranges) false false rest

/-- Where reading stands: the tokens so far, the last one first, the character before the rest, and
the rest. -/
structure Reading where
  tokens : List Token
  before : Option Char
  rest : List Char
deriving Inhabited

/-- Two stars that are no more than two stars. -/
def plainStars (tokens : List Token) (rest : List Char) : Reading :=
  ⟨.star :: .star :: tokens, some '*', rest⟩

/-- Two stars that stand for directories take the place of the slash before them. -/
def deepToken (atEnd : Bool) : List Token → List Token
  | .deepStart :: rest => .deepStart :: rest
  | .deepEnd :: rest => .deepEnd :: rest
  | _ :: rest => (if atEnd then .deepEnd else .deepBetween) :: rest
  | [] => []

/-- Read on after a star. `inner` tells whether braces are open, and `before` is the character
before the star. -/
def afterStar (inner : Bool) (tokens : List Token) (before : Option Char) (cs : List Char) :
    Reading :=
  match cs with
  | '*' :: rest =>
    if tokens.isEmpty then
      match rest with
      | [] => ⟨[.deepStart], some '*', []⟩
      | '/' :: rest => ⟨[.deepStart], some '/', rest⟩
      | _ => plainStars tokens rest
    else if before != some '/' && !(inner && (before == some ',' || before == some '{')) then
      plainStars tokens rest
    else
      match rest with
      | [] => ⟨deepToken true tokens, some '*', []⟩
      | '/' :: after => ⟨deepToken false tokens, some '/', after⟩
      | c :: _ =>
        if inner && (c == ',' || c == '}') then ⟨deepToken true tokens, some '*', rest⟩
        else plainStars tokens rest
  | _ => ⟨.star :: tokens, some '*', cs⟩

mutual

/-- Read tokens up to the end, or up to a comma or a closing brace if braces are open. -/
def readTokens : Nat → Bool → Reading → Option Reading
  | 0, _, _ => none
  | fuel + 1, inner, r =>
    match r.rest with
    | [] => if inner then none else some r
    | c :: rest =>
      let literal (l : Char) (rest : List Char) : Reading := ⟨.literal l :: r.tokens, some l, rest⟩
      match c with
      | '?' => readTokens fuel inner ⟨.any :: r.tokens, some c, rest⟩
      | '*' => readTokens fuel inner (afterStar inner r.tokens r.before rest)
      | '[' =>
        let negated := rest.head? == some '!' || rest.head? == some '^'
        match readSet [] true false (if negated then rest.drop 1 else rest) with
        | .closed ranges rest =>
          readTokens fuel inner ⟨.set negated ranges :: r.tokens, some ']', rest⟩
        | .unclosed => readTokens fuel inner (literal c rest)
        | .invalid => none
      | '{' => do
        let (branches, rest) ← readBranches fuel (some '{') rest
        readTokens fuel inner ⟨.choice branches :: r.tokens, some '}', rest⟩
      | '}' => if inner then some r else none
      | ',' => if inner then some r else readTokens fuel inner (literal c rest)
      | '\\' =>
        match rest with
        | [] => none
        | l :: rest => readTokens fuel inner (literal l rest)
      | _ => readTokens fuel inner (literal c rest)

/-- Read alternatives up to the closing brace. -/
def readBranches : Nat → Option Char → List Char → Option (List (List Token) × List Char)
  | 0, _, _ => none
  | fuel + 1, before, cs => do
    let r ← readTokens fuel true ⟨[], before, cs⟩
    match r.rest with
    | ',' :: rest => do
      let (branches, rest) ← readBranches fuel (some ',') rest
      return (r.tokens.reverse :: branches, rest)
    | '}' :: rest => return ([r.tokens.reverse], rest)
    | _ => none

end

/-- The tokens of a glob. -/
def tokens? (glob : List Char) : Option (List Token) :=
  (readTokens (2 * glob.length + 2) false ⟨[], none, glob⟩).map fun r => r.tokens.reverse

/-! ### Meaning -/

/-- The bytes of a text, each as a character of its own. -/
def byteChars (text : String) : List Char :=
  text.toUTF8.toList.map fun b => Char.ofNat b.toNat

def slash : Pattern := .chars (.single '/')

def notSlash : Pattern := .chars (CodeSet.single '/').complement

/-- Any text, across slashes. -/
def anyText : Pattern := .rep 0 none (.chars .all)

/-- One pattern after another, where the empty text adds nothing. -/
def followedBy (p q : Pattern) : Pattern :=
  if p = .empty then q else if q = .empty then p else .seq p q

/-- Patterns in a row. -/
def inARow (patterns : List Pattern) : Pattern :=
  patterns.foldr followedBy .empty

/-- The bytes of a character in a row. -/
def literalPattern (c : Char) : Pattern :=
  inARow ((byteChars (String.singleton c)).map fun b => .chars (.single b))

/-- The bytes that a range of characters covers: those of its ends, and all between the last byte of
the lower end and the first one of the upper end. -/
def byteRanges (range : Char × Char) : List (Nat × Nat) :=
  let bytes (c : Char) : List Nat := (byteChars (String.singleton c)).map Char.toNat
  let low := bytes range.1
  let high := bytes range.2
  let ends := (low ++ high).map fun b => (b, b)
  if range.1 == range.2 then ends else (low.getLastD 0, high.headD 0) :: ends

/-- One of several patterns; alternatives that are empty do not count. -/
def oneOf (patterns : List Pattern) : Pattern :=
  match patterns.filter (· ≠ .empty) with
  | [] => .empty
  | p :: rest => rest.foldl .alt p

mutual

/-- The pattern of one token. It matches bytes, not characters. -/
def Token.pattern : Token → Pattern
  | .literal c => literalPattern c
  | .any => notSlash
  | .star => .rep 0 none notSlash
  | .deepStart => .alt (.rep 0 (some 1) slash) (.seq anyText slash)
  | .deepEnd => .seq slash anyText
  | .deepBetween => .alt slash (.seq slash (.seq anyText slash))
  | .set negated ranges =>
    let s := CodeSet.ofRanges (ranges.flatMap byteRanges)
    .chars (if negated then s.complement else s)
  | .choice branches => oneOf (branchPatterns branches)

/-- The pattern of tokens in a row. -/
def tokensPattern : List Token → Pattern
  | [] => .empty
  | t :: rest => followedBy t.pattern (tokensPattern rest)

/-- The patterns of the alternatives between braces. -/
def branchPatterns : List (List Token) → List Pattern
  | [] => []
  | tokens :: rest => tokensPattern tokens :: branchPatterns rest

end

/-- The pattern of a glob, for whole names. Two stars alone match everything. -/
def wholePattern (tokens : List Token) : Pattern :=
  let body :=
    match tokens with
    | [.deepStart] => anyText
    | _ => tokensPattern tokens
  followedBy (.anchor .textStart) (followedBy body (.anchor .textEnd))

/-- The pattern of a glob, if it is one. -/
def glob? (text : List Char) : Option Pattern :=
  (tokens? text).map wholePattern

/-- Does a glob match the whole of a path? -/
def matchesPath (glob : Pattern) (path : String) : Bool :=
  glob.isMatch (String.ofList (byteChars path))

end InfraPolicy.Ignore
