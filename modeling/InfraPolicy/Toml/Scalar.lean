import InfraPolicy.Number.Reading
import InfraPolicy.Text.Scan
import InfraPolicy.Toml.Value

/-!
# TOML scalars

Strings in their four kinds, numbers, and dates and times. A text may hold a tab and any character
that is not a control character of ASCII.
-/

namespace InfraPolicy.Toml

/-- May the character stand in a text or a comment? -/
def isTextChar (c : Char) : Bool :=
  c == '\t' || (' ' ≤ c && c != '\x7f')

/-- Take a line break: a line feed, perhaps with a carriage return before it. -/
def lineBreak? : List Char → Option (List Char)
  | '\n' :: rest => some rest
  | '\r' :: '\n' :: rest => some rest
  | _ => none

/-! ### Strings -/

/-- A character by its code in a fixed number of hexadecimal digits. -/
def codedChar? (count : Nat) (cs : List Char) : Option (Char × List Char) :=
  let digits := cs.take count
  let code := Number.ofDigits 16 digits
  if digits.length == count && digits.all (Number.isDigitOf 16) && code.isValidChar then
    some (Char.ofNat code, cs.drop count)
  else none

/-- What a backslash stands for, from what follows it. -/
def escaped? : List Char → Option (Char × List Char)
  | 'b' :: rest => some ('\x08', rest)
  | 't' :: rest => some ('\t', rest)
  | 'n' :: rest => some ('\n', rest)
  | 'f' :: rest => some ('\x0c', rest)
  | 'r' :: rest => some ('\r', rest)
  | '"' :: rest => some ('"', rest)
  | '\\' :: rest => some ('\\', rest)
  | 'u' :: rest => codedChar? 4 rest
  | 'U' :: rest => codedChar? 8 rest
  | _ => none

/-- The text up to a double quote on the same line. -/
def basicText : Nat → List Char → Option (List Char × List Char)
  | 0, _ => none
  | _, [] => none
  | _, '"' :: rest => some ([], rest)
  | fuel + 1, '\\' :: rest => do
    let (c, rest) ← escaped? rest
    let (text, rest) ← basicText fuel rest
    return (c :: text, rest)
  | fuel + 1, c :: rest =>
    if isTextChar c then do
      let (text, rest) ← basicText fuel rest
      return (c :: text, rest)
    else none

/-- The text up to a single quote on the same line. -/
def literalText : List Char → Option (List Char × List Char)
  | [] => none
  | '\'' :: rest => some ([], rest)
  | c :: rest =>
    if isTextChar c then (literalText rest).map fun (text, rest) => (c :: text, rest) else none

/-- Drop spaces, tabs and line breaks. -/
def dropLines : Nat → List Char → List Char
  | 0, cs => cs
  | fuel + 1, cs =>
    match cs with
    | ' ' :: rest => dropLines fuel rest
    | '\t' :: rest => dropLines fuel rest
    | _ =>
      match lineBreak? cs with
      | some rest => dropLines fuel rest
      | none => cs

/-- The blanks within a line. -/
def isSpace (c : Char) : Bool :=
  c == ' ' || c == '\t'

/-- Quotes at the end of a text over several lines: three close it, and up to two more before them
belong to it. Fewer than three close nothing. -/
def closingQuotes? (quote : Char) (cs : List Char) : Option (List Char × List Char) :=
  let count := (cs.takeWhile (· == quote)).length
  if count < 3 then none
  else
    let kept := min (count - 3) 2
    some (List.replicate kept quote, cs.drop (kept + 3))

/-- The text up to three double quotes. A backslash at the end of a line joins the line with the
next text there is. -/
def basicLines : Nat → List Char → Option (List Char × List Char)
  | 0, _ => none
  | fuel + 1, cs =>
    match closingQuotes? '"' cs, lineBreak? cs, cs with
    | some closed, _, _ => some closed
    | none, some rest, _ => do
      let (text, rest) ← basicLines fuel rest
      return ('\n' :: text, rest)
    | none, none, '\\' :: after =>
      match lineBreak? (after.dropWhile isSpace) with
      | some rest => basicLines fuel (dropLines rest.length rest)
      | none => do
        let (c, rest) ← escaped? after
        let (text, rest) ← basicLines fuel rest
        return (c :: text, rest)
    | none, none, c :: rest =>
      if isTextChar c then do
        let (text, rest) ← basicLines fuel rest
        return (c :: text, rest)
      else none
    | none, none, [] => none

/-- The text up to three single quotes. -/
def literalLines : Nat → List Char → Option (List Char × List Char)
  | 0, _ => none
  | fuel + 1, cs =>
    match closingQuotes? '\'' cs, lineBreak? cs, cs with
    | some closed, _, _ => some closed
    | none, some rest, _ => do
      let (text, rest) ← literalLines fuel rest
      return ('\n' :: text, rest)
    | none, none, c :: rest =>
      if isTextChar c then do
        let (text, rest) ← literalLines fuel rest
        return (c :: text, rest)
      else none
    | none, none, [] => none

/-- Continue with a function on what is left. -/
def readText (read : List Char → Option (List Char × List Char)) : Scan String := do
  match read (← get) with
  | some (text, rest) => do
    set rest
    return String.ofList text
  | none => failure

/-- Take a line break if there is one. -/
def skipLineBreak : Scan Unit :=
  modify fun cs => (lineBreak? cs).getD cs

/-- A string on one line in either kind of quotes. -/
def lineString : Scan String := do
  if ← Scan.charIf '"' then readText fun cs => basicText (cs.length + 1) cs
  else do
    Scan.char '\''
    readText literalText

/-- A string of any kind. A line break right after three opening quotes does not count. -/
def string : Scan String := do
  if ← Scan.textIf "\"\"\"" then do
    skipLineBreak
    readText fun cs => basicLines (cs.length + 1) cs
  else if ← Scan.textIf "'''" then do
    skipLineBreak
    readText fun cs => literalLines (cs.length + 1) cs
  else lineString

/-! ### Numbers -/

/-- A run of digits, where one underscore may stand between two of them. `after` tells whether a
digit comes before. -/
def digitRun (isDigit : Char → Bool) : Bool → List Char → List Char × List Char
  | _, [] => ([], [])
  | after, c :: rest =>
    if isDigit c then
      let (digits, left) := digitRun isDigit true rest
      (c :: digits, left)
    else if c == '_' && after && rest.head?.any isDigit then digitRun isDigit false rest
    else ([], c :: rest)

/-- A run of at least one digit of a base. -/
def digits (base : Nat) : Scan (List Char) := do
  let (found, rest) := digitRun (Number.isDigitOf base) false (← get)
  set rest
  if found.isEmpty then failure else return found

/-- An integer of 64 bits. -/
def integer (n : Int) : Scan Value :=
  if -(Number.twoTo 63 : Int) ≤ n && n < Number.twoTo 63 then return .int n else failure

/-- An integer in a base, after the mark of the base. -/
def basedInteger (base : Nat) : Scan Value := do
  Scan.drop 2
  integer (Number.ofDigits base (← digits base))

/-- The digits before the point: a zero alone, or digits that do not begin with one. -/
def wholeDigits : Scan (List Char) := do
  if ← Scan.charIf '0' then return ['0'] else digits 10

/-- The digits of a fraction, if there is one. -/
def fraction : Scan (Option (List Char)) := do
  if ← Scan.charIf '.' then return some (← digits 10) else return none

/-- An exponent, if there is one. -/
def exponent : Scan (Option Int) := do
  if ← Scan.charOf "eE" then do
    let negative ← Scan.charIf '-'
    let _ ← if negative then pure false else Scan.charIf '+'
    let n : Nat := Number.ofDigits 10 (← digits 10)
    return some (if negative then -(n : Int) else n)
  else return none

/-- A decimal number or the name of an infinity or of NaN, after its sign. A number that has a
fraction or an exponent is a float, and one that is too large for that is refused unless it is
negative. -/
def unsignedNumber (negative : Bool) : Scan Value := do
  if ← Scan.textIf "inf" then return .float (.infinity negative)
  else if ← Scan.textIf "nan" then return .float .nan
  else do
    let whole ← wholeDigits
    let fraction ← fraction
    let exponent ← exponent
    if fraction.isNone && exponent.isNone then
      let n : Nat := Number.ofDigits 10 whole
      integer (if negative then -(n : Int) else n)
    else do
      let places := fraction.getD []
      let x := Binary64.ofDecimal negative (Number.ofDigits 10 (whole ++ places))
        (exponent.getD 0 - places.length)
      if x.isFinite || negative then return .float x else failure

/-- A number. -/
def number : Scan Value := do
  if ← Scan.seesText "0x" then basedInteger 16
  else if ← Scan.seesText "0o" then basedInteger 8
  else if ← Scan.seesText "0b" then basedInteger 2
  else do
    let negative ← Scan.charIf '-'
    let _ ← if negative then pure false else Scan.charIf '+'
    unsignedNumber negative

/-! ### Dates and times -/

/-- A natural in a fixed number of digits, between bounds. -/
def fixedNat (count low high : Nat) : Scan Nat := do
  let digits := (← get).take count
  Scan.drop count
  let n := Number.ofDigits 10 digits
  if digits.length == count && digits.all Number.isDigit && low ≤ n && n ≤ high then return n
  else failure

/-- A date that the calendar has. -/
def date : Scan Date := do
  let year ← fixedNat 4 0 9999
  Scan.char '-'
  let month ← fixedNat 2 1 12
  Scan.char '-'
  let day ← fixedNat 2 1 31
  let d : Date := { year, month, day }
  if d.isValid then return d else failure

/-- The nanoseconds of a fraction of a second; digits beyond the ninth do not count. -/
def nanoseconds : Scan Nat := do
  match ← get with
  | '.' :: rest =>
    let digits := rest.takeWhile Number.isDigit
    if digits.isEmpty then return 0
    else do
      set (rest.dropWhile Number.isDigit)
      let kept := digits.take 9
      return Number.ofDigits 10 kept * Number.tenTo (9 - kept.length)
  | _ => return 0

/-- A time of day; the second may be a leap second. -/
def time : Scan TimeOfDay := do
  let hour ← fixedNat 2 0 23
  Scan.char ':'
  let minute ← fixedNat 2 0 59
  Scan.char ':'
  let second ← fixedNat 2 0 60
  return { hour, minute, second, nanosecond := ← nanoseconds }

/-- The distance from universal time, after its sign. -/
def offsetMinutes (negative : Bool) : Scan Offset := do
  let hours ← fixedNat 2 0 23
  Scan.char ':'
  let minutes ← fixedNat 2 0 59
  let n : Nat := hours * 60 + minutes
  return .minutes (if negative then -(n : Int) else n)

/-- The distance from universal time, if there is one. -/
def offset : Scan (Option Offset) := do
  if ← Scan.charOf "Zz" then return some .zulu
  else if ← Scan.charIf '+' then return some (← offsetMinutes false)
  else if ← Scan.charIf '-' then return some (← offsetMinutes true)
  else return none

/-- The time after a date, if there is one. -/
def timeAfterDate (d : Date) : Scan Value := do
  match ← get with
  | mark :: rest =>
    if mark == 'T' || mark == 't' || mark == ' ' then
      match time.run rest with
      | some (t, rest) => do
        set rest
        return .moment { date := some d, time := some t, offset := ← offset }
      | none => return .moment { date := some d }
    else return .moment { date := some d }
  | [] => return .moment { date := some d }

/-- A date, a time, or both. -/
def moment : Scan Value := fun cs =>
  match date.run cs with
  | some (d, rest) => timeAfterDate d rest
  | none => (time.run cs).map fun (t, rest) => (.moment { time := some t }, rest)

/-- A number, or a date or a time. -/
def numberOrMoment : Scan Value := fun cs =>
  match moment.run cs with
  | some found => some found
  | none => number.run cs

end InfraPolicy.Toml
