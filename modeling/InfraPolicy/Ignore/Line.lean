import InfraPolicy.Ignore.Glob
import InfraPolicy.Text.Blank

/-!
# Ignore files

An ignore file has a glob on each line. A line skips the entries that it matches, or keeps them if
it begins with an exclamation mark. A slash at the end restricts it to directories, and a slash
elsewhere ties it to the directory of the file. Of several lines that match, the last one decides.
-/

namespace InfraPolicy.Ignore

/-- What a line does to the entries that it matches. -/
inductive Effect where
  | skip
  | keep
deriving DecidableEq, Repr, Inhabited

/-- A line of an ignore file that is neither blank nor a comment. -/
structure Line where
  glob : Pattern
  effect : Effect
  onlyDirs : Bool
deriving Inhabited

/-- The text without the blanks at its end, unless the last one is escaped. -/
def trimEnd (cs : List Char) : List Char :=
  let reversed := cs.reverse
  if [' ', '\\'].isPrefixOf reversed then cs else (reversed.dropWhile Text.isBlank).reverse

/-- Take a slash off the end, and a backslash before it. -/
def stripDirMark (cs : List Char) : List Char × Bool :=
  match cs.reverse with
  | '/' :: '\\' :: rest => (rest.reverse, true)
  | '/' :: rest => (rest.reverse, true)
  | _ => (cs, false)

/-- Take the marks off the beginning of a line: its effect, whether it is tied to its directory, and
the rest. -/
def stripMarks : List Char → Effect × Bool × List Char
  | '\\' :: '!' :: rest => (.skip, false, '!' :: rest)
  | '\\' :: '#' :: rest => (.skip, false, '#' :: rest)
  | '!' :: '/' :: rest => (.keep, true, rest)
  | '!' :: rest => (.keep, false, rest)
  | '/' :: rest => (.skip, true, rest)
  | cs => (.skip, false, cs)

/-- The glob of a line for paths relative to its directory. A line without a slash speaks of names
in any directory below, and one that ends in two stars of all that is inside. -/
def fullGlob (tied : Bool) (cs : List Char) : List Char :=
  let glob := if tied || cs.contains '/' || cs == ['*', '*'] then cs else ['*', '*', '/'] ++ cs
  if ['*', '*', '/'].isPrefixOf glob.reverse then glob ++ ['/', '*'] else glob

/-- Read a line. Comments, empty lines and malformed globs say nothing. -/
def line? (text : List Char) : Option Line :=
  if text.head? == some '#' then none
  else
    let text := trimEnd text
    if text.isEmpty then none
    else
      let (effect, tied, rest) := stripMarks text
      let (rest, onlyDirs) := stripDirMark rest
      (glob? (fullGlob tied rest)).map fun glob => { glob, effect, onlyDirs }

/-- The bytes between line feeds. -/
def splitLines : List UInt8 → List (List UInt8)
  | [] => [[]]
  | b :: rest =>
    if b == 10 then [] :: splitLines rest
    else
      match splitLines rest with
      | l :: ls => (b :: l) :: ls
      | [] => [[b]]

/-- The text of a line, without a carriage return at its end. -/
def lineText? (bytes : List UInt8) : Option (List Char) :=
  let bytes := if bytes.getLast? == some 13 then bytes.dropLast else bytes
  (String.fromUTF8? bytes.toByteArray).map String.toList

/-- The texts of lines up to the first one that is not UTF-8. -/
def lineTexts : List (List UInt8) → List (List Char)
  | [] => []
  | l :: rest =>
    match lineText? l with
    | some text => text :: lineTexts rest
    | none => []

/-- The lines of an ignore file. -/
def parse (content : ByteArray) : List Line :=
  let texts :=
    match lineTexts (splitLines content.toList) with
    | first :: rest => first.dropWhile (· == '\ufeff') :: rest
    | [] => []
  texts.filterMap line?

/-- What the lines of a file say about a path relative to its directory. -/
def effect? (lines : List Line) (path : String) (isDir : Bool) : Option Effect :=
  (lines.reverse.find? fun l => (isDir || !l.onlyDirs) && matchesPath l.glob path).map Line.effect

end InfraPolicy.Ignore
