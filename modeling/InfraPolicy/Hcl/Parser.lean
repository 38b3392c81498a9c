import InfraPolicy.Hcl.Token
import InfraPolicy.Text.Search

/-!
# Reading HCL

The grammar of expressions and bodies. Line breaks end an item of a body, so an expression stays on
its line unless brackets of some kind are open. Two kinds of brackets go further: once a list or the
arguments of a call have been read, the expression that they belong to may run over lines to its
end.

The two branches of a conditional, and what they hold, may be conditionals only if no operator
stands before them in the same expression. Parentheses, objects, indices and interpolations start
afresh.

Text with interpolations is read twice. Its parts are put together again, each literal text in its
written form, and the outcome is read as a template without quotes. Where literal texts meet, or
where one holds several marks, the second reading may find other parts than the first, or none.

Every function takes a bound on the steps it may take. `parseBody?` supplies one that is never
reached, since each step of the recursion consumes a character within a fixed number of calls.
-/

namespace InfraPolicy.Hcl

/-- How an expression stands to the templates around it. -/
inductive Nesting where
  /-- In none: its own templates are put together and read again. -/
  | outside
  /-- In a template that will be read again. -/
  | inside
  /-- In a quoted text inside such a template: literal text is written as in quotes. -/
  | quoted
deriving DecidableEq, Inhabited

/-- What an expression is read under. -/
structure Setting where
  /-- May it run over lines? -/
  lines : Bool
  /-- May it be a conditional, or may its parts? -/
  branches : Bool := true
  nesting : Nesting
deriving Inhabited

namespace Nesting

/-- The setting of an expression on one line. -/
def line (n : Nesting) : Setting := { lines := false, nesting := n }

/-- The setting of an expression in brackets. -/
def brackets (n : Nesting) : Setting := { lines := true, nesting := n }

/-- Where the parts of a quoted text stand. -/
def quote : Nesting → Nesting
  | .outside => .inside
  | .inside | .quoted => .quoted

/-- Where the parts of a here-document stand. -/
def heredoc : Nesting → Nesting
  | .outside => .inside
  | n => n

/-- Literal text as it is written here. -/
def literal : Nesting → List Char → List Char
  | .quoted => writeQuoted
  | .outside | .inside => writeBare

end Nesting

/-- Literal text of a template, up to a bound; it may be empty. -/
def literal (bound : Nat) (q : Quoting) (n : Nesting) : Reader String := do
  let (text, left) := literalText q false bound (← Reader.rest)
  Reader.moveTo left
  Reader.write (n.literal text)
  return String.ofList text

/-! ### Markers -/

/-- The beginning of a directive with its word. -/
def openDirective (word : String) : Reader Unit := do
  Reader.text "%\x7b"
  let _ ← Reader.charIf '~'
  blanks true
  Reader.text word
  blanks true

/-- Does a directive with this word begin here? Nothing need stand between the word and what comes
next. -/
def seesDirective (word : String) : Reader Bool := do
  return ((openDirective word).run (← get)).isSome

/-- The end of an interpolation or a directive. -/
def closeMarker : Reader Unit := do
  blanks true
  let _ ← Reader.charIf '~'
  Reader.char '}'

/-- A directive that has only its word. -/
def bareDirective (word : String) : Reader Unit := do
  openDirective word
  closeMarker

/-! ### Words and signs -/

/-- The operators between two expressions. -/
def binarySigns : List String :=
  ["==", "!=", "<=", ">=", "&&", "||", "<", ">", "+", "-", "*", "/", "%"]

/-- The operator that comes next, if one does. Two slashes are a comment. -/
def binarySign? (cs : List Char) : Option String :=
  if ['/', '/'].isPrefixOf cs then none
  else binarySigns.find? fun sign => sign.toList.isPrefixOf cs

/-- Does a comprehension begin here? -/
def seesFor : Reader Bool := do
  match Text.strip? (← Reader.rest) "for".toList with
  | some (c :: _) => return c == ' ' || c == '\t' || c == '\n' || c == '#' || c == '/'
  | _ => return false

/-- Close a root with the steps taken from it, the last one given first. -/
def closeSteps (root : Expr) : List Step → Expr
  | [] => root
  | steps => .traversal root steps.reverse

/-- A keyword or a variable. -/
def wordExpr (name : String) : Expr :=
  match name with
  | "null" => .null
  | "true" => .bool true
  | "false" => .bool false
  | _ => .variable name

/-- An index after a dot: a number without leading zeros. -/
def legacyIndex : Reader Step := do
  let ds ← (do
    if ← Reader.sees '0' then Reader.take 1 else Reader.takeWhile Number.isDigit)
  let n := Number.ofDigits 10 ds
  if n < Number.twoTo 64 then return .legacyIndex n else failure

/-! ### Parts -/

/-- A text is plain if it has one literal part, or none. -/
def plainText? : List Part → Option String
  | [] => some ""
  | [.text s] => some s
  | _ => none

/-- An item of an object, with what its key and its value are written as. The end of the item, which
may be a comma or a line break, belongs to the value. -/
structure ObjectEntry where
  key : Expr
  value : Expr
  keyText : List Char
  valueText : List Char

namespace ObjectEntry

/-- Add an item. If a key is written alike, the item keeps its place and takes the new value. -/
def put (entry : ObjectEntry) : List ObjectEntry → List ObjectEntry
  | [] => [entry]
  | e :: rest =>
    if e.key.same entry.key then { entry with key := e.key, keyText := e.keyText } :: rest
    else e :: put entry rest

/-- What an item is written as. -/
def text (entry : ObjectEntry) : List Char :=
  entry.keyText ++ entry.valueText

end ObjectEntry

mutual

/-- An expression. -/
def expr : Nat → Setting → Reader Expr
  | 0, _ => failure
  | fuel + 1, s => do
    let (root, lines) ← term fuel s
    trailers fuel s.branches { s with lines } root []

/-- What may follow an expression: steps into it, an operator, or the branches of a conditional if
`choice` allows them. -/
def trailers : Nat → Bool → Setting → Expr → List Step → Reader Expr
  | 0, _, _, _, _ => failure
  | fuel + 1, choice, s, root, steps => do
    let before ← get
    blanks s.lines
    let cs ← Reader.rest
    if ['.', '.'].isPrefixOf cs then do
      set before
      return closeSteps root steps
    else if cs.head? == some '.' || cs.head? == some '[' then do
      let next ← step fuel s.nesting
      trailers fuel choice s root (next :: steps)
    else if choice && cs.head? == some '?' then do
      Reader.char '?'
      blanks s.lines
      let yes ← expr fuel s
      blanks s.lines
      Reader.char ':'
      blanks s.lines
      let no ← expr fuel s
      return .conditional (closeSteps root steps) yes no
    else
      match binarySign? cs with
      | some sign => do
        Reader.text sign
        blanks s.lines
        let s := { s with branches := false }
        let right ← expr fuel s
        trailers fuel choice s (.operation sign [closeSteps root steps, right]) []
      | none => do
        set before
        return closeSteps root steps

/-- A step into a value, from its dot or bracket on. -/
def step : Nat → Nesting → Reader Step
  | 0, _ => failure
  | fuel + 1, n => do
    if ← Reader.charIf '.' then do
      blanks true
      if ← Reader.charIf '*' then return .splat
      else if (← Reader.peek).any Number.isDigit then legacyIndex
      else return .attr (← identifier)
    else do
      Reader.char '['
      blanks true
      if ← Reader.charIf '*' then do
        blanks true
        Reader.char ']'
        return .splat
      else do
        let e ← expr fuel n.brackets
        blanks true
        Reader.char ']'
        return .index e

/-- An expression without what follows it. The flag tells whether what follows may run over
lines. -/
def term : Nat → Setting → Reader (Expr × Bool)
  | 0, _ => failure
  | fuel + 1, s => do
    match ← Reader.peek with
    | none => failure
    | some c =>
      if c == '"' then return (← quotedExpr fuel s.nesting, s.lines)
      else if c == '[' then return (← listExpr fuel { s with lines := true }, true)
      else if c == '{' then return (← objectExpr fuel s, s.lines)
      else if Number.isDigit c then return ((← numeral).expr, s.lines)
      else if c == '<' then return (← heredocExpr fuel s.nesting, s.lines)
      else if c == '-' || c == '!' then do
        Reader.char c
        blanks false
        if c == '-' && (← Reader.peek).any Number.isDigit then
          return ((← numeral).negated, s.lines)
        else do
          let (operand, lines) ← term fuel s
          return (.operation (String.singleton c) [operand], lines)
      else if c == '(' then do
        Reader.char '('
        blanks true
        let inner ← expr fuel s.nesting.brackets
        blanks true
        Reader.char ')'
        return (.paren inner, s.lines)
      else wordOrCall fuel s

/-- A word, or a call if an argument list follows on the same line. -/
def wordOrCall : Nat → Setting → Reader (Expr × Bool)
  | 0, _ => failure
  | fuel + 1, s => do
    let name ← identifier
    let before ← get
    blanks false
    if (← Reader.sees '(') || (← Reader.seesText "::") then
      return (← call fuel { s with lines := true } name, true)
    else do
      set before
      return (wordExpr name, s.lines)

/-- A call from behind its name, or behind the parts of it so far. The parts of a qualified name are
joined by two colons. -/
def call : Nat → Setting → String → Reader Expr
  | 0, _, _ => failure
  | fuel + 1, s, name => do
    if ← Reader.textIf "::" then do
      blanks false
      let part ← identifier
      blanks false
      call fuel s (name ++ "::" ++ part)
    else do
      Reader.char '('
      blanks true
      return .call name (← arguments fuel s)

/-- Arguments up to and with the closing parenthesis. The last one may be expanded. -/
def arguments : Nat → Setting → Reader (List Expr)
  | 0, _ => failure
  | fuel + 1, s => do
    if ← Reader.charIf ')' then return []
    else do
      let e ← expr fuel s
      blanks true
      if ← Reader.charIf ',' then do
        blanks true
        return e :: (← arguments fuel s)
      else if ← Reader.textIf "..." then do
        blanks true
        Reader.char ')'
        return [e]
      else do
        Reader.char ')'
        return [e]

/-- The collection of a comprehension, with the names of its items before it. -/
def comprehensionStart : Nat → Nesting → Reader Expr
  | 0, _ => failure
  | fuel + 1, n => do
    Reader.text "for"
    blanks true
    let _ ← identifier
    blanks true
    if ← Reader.charIf ',' then do
      blanks true
      let _ ← identifier
      blanks true
    Reader.text "in"
    blanks true
    let collection ← expr fuel n.line
    blanks true
    Reader.char ':'
    blanks true
    return collection

/-- The condition at the end of a comprehension, if there is one. -/
def comprehensionTest : Nat → Setting → Reader (List Expr)
  | 0, _ => failure
  | fuel + 1, s => do
    blanks true
    if ← Reader.textIf "if" then do
      blanks true
      let test ← expr fuel s
      blanks true
      return [test]
    else return []

/-- A list from its opening bracket on. -/
def listExpr : Nat → Setting → Reader Expr
  | 0, _ => failure
  | fuel + 1, s => do
    Reader.char '['
    blanks true
    if ← seesFor then do
      let collection ← comprehensionStart fuel s.nesting
      let value ← expr fuel s
      let test ← comprehensionTest fuel s
      Reader.char ']'
      return .comprehension collection (value :: test)
    else return .list (← listItems fuel s)

/-- Items of a list up to and with the closing bracket. -/
def listItems : Nat → Setting → Reader (List Expr)
  | 0, _ => failure
  | fuel + 1, s => do
    if ← Reader.charIf ']' then return []
    else do
      let e ← expr fuel s
      blanks true
      if ← Reader.charIf ',' then do
        blanks true
        return e :: (← listItems fuel s)
      else do
        Reader.char ']'
        return [e]

/-- An object from its opening brace on. A comprehension is read under the setting of the object. -/
def objectExpr : Nat → Setting → Reader Expr
  | 0, _ => failure
  | fuel + 1, s => do
    Reader.char '{'
    let before ← get
    blanks true
    if ← seesFor then do
      let collection ← comprehensionStart fuel s.nesting
      let key ← expr fuel s
      blanks true
      Reader.text "=>"
      blanks true
      let value ← expr fuel s
      blanks true
      let _ ← Reader.textIf "..."
      let test ← comprehensionTest fuel s
      Reader.char '}'
      return .comprehension collection (key :: value :: test)
    else do
      set before
      let entries ← objectItems fuel s.nesting []
      return .object (entries.map fun e => (e.key, e.value))

/-- Items of an object up to and with the closing brace. -/
def objectItems : Nat → Nesting → List ObjectEntry → Reader (List ObjectEntry)
  | 0, _, _ => failure
  | fuel + 1, n, entries => do
    let (_, start) ← Reader.captured (blanks true)
    if ← Reader.sees '}' then do
      Reader.write (entries.flatMap ObjectEntry.text ++ start)
      Reader.char '}'
      return entries
    else do
      let (key, keyText) ← Reader.captured (objectKey fuel n)
      let (value, valueText) ← Reader.captured (objectValue fuel n)
      objectItems fuel n (ObjectEntry.put ⟨key, value, start ++ keyText, valueText⟩ entries)

/-- The key of an item. -/
def objectKey : Nat → Nesting → Reader Expr
  | 0, _ => failure
  | fuel + 1, n => do
    let key ← expr fuel n.line
    blanks false
    return key

/-- The value of an item, with the sign before it and the end of the item. An item ends with a
comma, with its line, or before the closing brace. -/
def objectValue : Nat → Nesting → Reader Expr
  | 0, _ => failure
  | fuel + 1, n => do
    if !(← Reader.charIf '=') then Reader.char ':'
    blanks false
    let value ← expr fuel n.line
    blanks false
    if ← Reader.sees '}' then return value
    else if ← Reader.charIf ',' then return value
    else do
      lineComment
      let _ ← lineBreak
      return value

/-- A text in double quotes. -/
def quotedExpr : Nat → Nesting → Reader Expr
  | 0, _ => failure
  | fuel + 1, n => do
    let (parts, content) ← quoted fuel n
    match plainText? parts with
    | some s => return .text s
    | none => return if n == .outside then reread fuel content else .template parts

/-- The parts of a text in double quotes, with what they are written as. -/
def quoted : Nat → Nesting → Reader (List Part × List Char)
  | 0, _ => failure
  | fuel + 1, n => do
    Reader.char '"'
    let (parts, content) ← Reader.captured (templateParts fuel .quoted n.quote)
    Reader.write content
    Reader.char '"'
    return (parts, content)

/-- A here-document. If no line of it is the delimiter, it ends before its first line. A minus asks
for common indentation to be removed from plain text. -/
def heredocExpr : Nat → Nesting → Reader Expr
  | 0, _ => failure
  | fuel + 1, n => do
    Reader.text "<<"
    let indented ← Reader.charIf '-'
    let delimiter ← identifier
    let _ ← lineBreak
    let before ← get
    let (parts, content) ←
      Reader.captured (templateParts fuel (.heredoc delimiter.toList) n.heredoc)
    let (parts, content) ← (do
      if endsHeredoc delimiter.toList (← Reader.rest) then do
        let (ending, _) ← Reader.captured lineBreak
        match plainText? parts with
        | some s => do
          let text := s.toList ++ ending
          let text := if indented then dedent text else text
          return ([Part.text (String.ofList text)], n.heredoc.literal text)
        | none =>
          return (parts ++ [Part.text (String.ofList ending)], content ++ n.heredoc.literal ending)
      else do
        set before
        return ([], []))
    Reader.write content
    let _ ← Reader.takeWhile fun c => c == ' ' || c == '\t'
    Reader.text delimiter
    return if n == .outside then reread fuel content else .template parts

/-- What the parts of a template mean when they are put together. -/
def reread : Nat → List Char → Expr
  | 0, _ => .unreadable
  | fuel + 1, content =>
    match Reader.whole? (templateParts fuel .bare .outside) content with
    | some parts => .template parts
    | none => .unreadable

/-- The parts of a template up to its end, or up to a directive that ends or divides another. -/
def templateParts : Nat → Quoting → Nesting → Reader (List Part)
  | 0, _, _ => failure
  | fuel + 1, q, n => do
    let text ← literal fuel q n
    if !text.isEmpty then return .text text :: (← templateParts fuel q n)
    else if ← Reader.textIf "$\x7b" then do
      let _ ← Reader.charIf '~'
      blanks true
      let e ← expr fuel n.brackets
      closeMarker
      return .interpolation e :: (← templateParts fuel q n)
    else if ← seesDirective "if" then do
      let d ← conditionDirective fuel n
      return d :: (← templateParts fuel q n)
    else if ← seesDirective "for" then do
      let d ← loopDirective fuel n
      return d :: (← templateParts fuel q n)
    else return []

/-- A condition with the parts that it governs, which stand between no quotes. -/
def conditionDirective : Nat → Nesting → Reader Part
  | 0, _ => failure
  | fuel + 1, n => do
    openDirective "if"
    let test ← expr fuel n.brackets
    closeMarker
    let yes ← templateParts fuel .bare n
    if ← seesDirective "else" then do
      bareDirective "else"
      let no ← templateParts fuel .bare n
      bareDirective "endif"
      return .directive [test] (yes ++ no)
    else do
      bareDirective "endif"
      return .directive [test] yes

/-- A loop with the parts that it governs, which stand between no quotes. -/
def loopDirective : Nat → Nesting → Reader Part
  | 0, _ => failure
  | fuel + 1, n => do
    openDirective "for"
    let _ ← identifier
    blanks true
    if ← Reader.charIf ',' then do
      blanks true
      let _ ← identifier
      blanks true
    Reader.text "in"
    blanks true
    let collection ← expr fuel n.brackets
    closeMarker
    let body ← templateParts fuel .bare n
    bareDirective "endfor"
    return .directive [collection] body

end

/-! ### Bodies -/

/-- The value of an attribute after its name. -/
def attrValue (fuel : Nat) : Reader Expr := do
  Reader.char '='
  blanks false
  expr fuel Nesting.outside.line

/-- Labels of a block up to its brace: identifiers, or quoted texts without interpolations. -/
def blockLabels (bound : Nat) : Nat → Reader (List String)
  | 0 => failure
  | fuel + 1 => do
    blanks false
    if ← Reader.sees '{' then return []
    else if ← Reader.sees '"' then do
      match plainText? (← quoted bound .outside).1 with
      | some s => return s :: (← blockLabels bound fuel)
      | none => failure
    else do
      let name ← identifier
      return name :: (← blockLabels bound fuel)

mutual

/-- The items of a body, each with the text from its beginning on. An attribute may not occur
twice. -/
def bodyItems : Nat → List String → Reader (List (List Char × Item))
  | 0, _ => failure
  | fuel + 1, seen => do
    blanks true
    if ← seesIdentifier then do
      let start ← Reader.rest
      let item ← bodyItem fuel seen
      lineEnd
      let seen :=
        match item with
        | .attr name _ => name :: seen
        | .block .. => seen
      return (start, item) :: (← bodyItems fuel seen)
    else return []

/-- An attribute or a block. -/
def bodyItem : Nat → List String → Reader Item
  | 0, _ => failure
  | fuel + 1, seen => do
    let name ← identifier
    blanks false
    if ← Reader.sees '=' then do
      if seen.contains name then failure
      else return .attr name (← attrValue fuel)
    else do
      let labels ← blockLabels fuel fuel
      return .block name labels (← blockBody fuel)

/-- The body of a block with its braces: several lines, or one line with at most one attribute. -/
def blockBody : Nat → Reader (List Item)
  | 0 => failure
  | fuel + 1 => do
    Reader.char '{'
    blanks false
    if ← Reader.charIf '}' then return []
    else if ← seesIdentifier then do
      let name ← identifier
      blanks false
      let value ← attrValue fuel
      blanks false
      Reader.char '}'
      return [.attr name value]
    else do
      lineComment
      let _ ← lineBreak
      let items ← bodyItems fuel []
      Reader.char '}'
      return items.map Prod.snd

end

/-- The items of a text, each with its offset in bytes. -/
def parseItems? (cs : List Char) : Option (List (Nat × Item)) := do
  let bytes (text : List Char) : Nat := text.foldl (fun n c => n + c.utf8Size) 0
  let total := bytes cs
  let items ← Reader.whole? (bodyItems (64 * cs.length + 64) []) cs
  some (items.map fun (start, item) => (total - bytes start, item))

/-- Read a body. -/
def parseBody? (text : String) : Option (List Item) :=
  (parseItems? text.toList).map fun items => items.map Prod.snd

end InfraPolicy.Hcl
