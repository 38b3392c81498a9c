import InfraPolicy.Toml.Scalar
import InfraPolicy.Toml.Table

/-!
# Reading TOML

A document is a sequence of statements, each on a line of its own: pairs and headers. Containers
may be nested to a depth below `nestingLimit`, and a key has fewer parts than that.
-/

namespace InfraPolicy.Toml

/-- Arrays and tables are nested less deeply than this. -/
def nestingLimit : Nat := 80

/-- A line of a document that is not blank. -/
inductive Statement where
  | pair (p : Pair)
  | header (adds : Bool) (path : List String)
deriving Inhabited

/-! ### Blanks and comments -/

/-- Drop spaces and tabs. -/
def blanks : Scan Unit :=
  modify fun cs => cs.dropWhile isSpace

/-- Drop a comment, up to the end of its line. -/
def comment : Scan Unit :=
  modify fun cs =>
    match cs with
    | '#' :: rest => rest.dropWhile isTextChar
    | _ => cs

/-- Drop blanks, comments and line breaks. -/
def gap : Nat → Scan Unit
  | 0 => return ()
  | fuel + 1 => do
    blanks
    comment
    match lineBreak? (← get) with
    | some rest => do
      set rest
      gap fuel
    | none => return ()

/-- The rest of a line after a statement. -/
def endOfLine : Scan Unit := do
  blanks
  comment
  match ← get with
  | [] => return ()
  | cs =>
    match lineBreak? cs with
    | some rest => set rest
    | none => failure

/-! ### Keys and values -/

/-- The characters of a bare key. -/
def isKeyChar (c : Char) : Bool :=
  c.isAlphanum || c == '-' || c == '_'

/-- One part of a key. -/
def keyPart : Scan String := do
  if (← Scan.sees '"') || (← Scan.sees '\'') then lineString
  else return String.ofList (← Scan.takeSome isKeyChar)

/-- Parts of a key with dots and blanks between them. -/
def keyParts : Nat → Scan (List String)
  | 0 => failure
  | fuel + 1 => do
    blanks
    let part ← keyPart
    blanks
    if ← Scan.charIf '.' then return part :: (← keyParts fuel) else return [part]

/-- A key. It has fewer parts than the limit on nesting. -/
def key : Scan (List String) :=
  keyParts (nestingLimit - 1)

mutual

/-- A value; `depth` is how many containers may still be opened. -/
def value : Nat → Nat → Scan Value
  | 0, _ => failure
  | fuel + 1, depth => do
    match ← Scan.peek with
    | some '"' => return .string (← string)
    | some '\'' => return .string (← string)
    | some '[' =>
      if depth == 0 then failure
      else do
        Scan.drop 1
        return .array (← items fuel (depth - 1))
    | some '\x7b' =>
      if depth == 0 then failure
      else do
        Scan.drop 1
        blanks
        let found ← if ← Scan.charIf '\x7d' then pure [] else pairs fuel (depth - 1)
        match inlineTable? found with
        | some v => return v
        | none => failure
    | some 't' => do
      Scan.text "true"
      return .bool true
    | some 'f' => do
      Scan.text "false"
      return .bool false
    | _ => numberOrMoment

/-- The items of an array, up to its closing bracket. -/
def items : Nat → Nat → Scan (List Value)
  | 0, _ => failure
  | fuel + 1, depth => do
    gap (← get).length
    if ← Scan.charIf ']' then return []
    else do
      let v ← value fuel depth
      gap (← get).length
      if ← Scan.charIf ',' then return v :: (← items fuel depth)
      else do
        Scan.char ']'
        return [v]

/-- The pairs of an inline table, up to its closing brace. -/
def pairs : Nat → Nat → Scan (List Pair)
  | 0, _ => failure
  | fuel + 1, depth => do
    let path ← key
    Scan.char '='
    blanks
    let v ← value fuel depth
    blanks
    if ← Scan.charIf ',' then return (path, v) :: (← pairs fuel depth)
    else do
      Scan.char '\x7d'
      return [(path, v)]

end

/-! ### Documents -/

/-- A header in single or double brackets. -/
def header : Scan Statement := do
  Scan.char '['
  let adds ← Scan.charIf '['
  let path ← key
  Scan.char ']'
  if adds then Scan.char ']' else pure ()
  endOfLine
  return .header adds path

/-- A key and its value. -/
def pairStatement : Scan Statement := do
  let path ← key
  Scan.char '='
  blanks
  let v ← value ((← get).length + 1) (nestingLimit - 1)
  endOfLine
  return .pair (path, v)

/-- The statements of a document. -/
def statements : Nat → Scan (List Statement)
  | 0 => failure
  | fuel + 1 => do
    blanks
    match ← Scan.peek with
    | none => return []
    | some c =>
      if c == '#' || c == '\n' || c == '\r' then do
        endOfLine
        statements fuel
      else do
        let s ← if c == '[' then header else pairStatement
        return s :: (← statements fuel)

/-- The pairs before the first header, and the headers with the pairs below them. -/
def groups : List Statement → List Pair × List Section
  | [] => ([], [])
  | .pair p :: rest =>
    let (pairs, sections) := groups rest
    (p :: pairs, sections)
  | .header adds path :: rest =>
    let (pairs, sections) := groups rest
    ([], ⟨adds, path, pairs⟩ :: sections)

/-- Read a document; a byte order mark in front does not count. -/
def parse? (content : String) : Option Value := do
  let cs :=
    match content.toList with
    | '\uFEFF' :: rest => rest
    | cs => cs
  let found ← (statements (cs.length + 1)).whole? cs
  let (pairs, sections) := groups found
  document? pairs sections

end InfraPolicy.Toml
