import InfraPolicy.Json.Basic
import InfraPolicy.Number.Reading

/-!
# Reading JSON

A recursive descent over the characters of a document. `parse?` takes a whole document, with
white space around it, and gives nothing on any fault. The readers take fuel; the length of the
text is enough, since every level of recursion has consumed a character.
-/

namespace InfraPolicy.Json

/-- The white space of JSON. -/
def isSpace (c : Char) : Bool :=
  c == ' ' || c == '\n' || c == '\r' || c == '\t'

/-- Go past white space. -/
def skipSpace (cs : List Char) : List Char :=
  cs.dropWhile isSpace

/-- Four hexadecimal digits. -/
def hex4? (a b c d : Char) : Option Nat :=
  if [a, b, c, d].all (Number.isDigitOf 16) then some (Number.ofDigits 16 [a, b, c, d]) else none

/-- A code point as a character; a surrogate is none. -/
def scalar? (n : Nat) : Option Char :=
  if n < 0xD800 || (0xDFFF < n && n < 0x110000) then some (Char.ofNat n) else none

/-- What stands for a backslash and a letter. -/
def shortEscape? (c : Char) : Option Char :=
  match c with
  | '"' => some '"'
  | '\\' => some '\\'
  | '/' => some '/'
  | 'b' => some (Char.ofNat 8)
  | 'f' => some (Char.ofNat 12)
  | 'n' => some '\n'
  | 'r' => some '\r'
  | 't' => some '\t'
  | _ => none

/-- The characters of a string up to its closing quote, and the rest. A code point above the
basic plane may be written as a pair of surrogates. -/
def readString : List Char → Option (List Char × List Char)
  | [] => none
  | '"' :: rest => some ([], rest)
  | '\\' :: 'u' :: a :: b :: c :: d :: '\\' :: 'u' :: e :: f :: g :: h :: rest => do
    let first ← hex4? a b c d
    if 0xD800 ≤ first && first < 0xDC00 then
      let second ← hex4? e f g h
      if 0xDC00 ≤ second && second < 0xE000 then
        let char ← scalar? (0x10000 + (first - 0xD800) * 0x400 + (second - 0xDC00))
        let (cs, rest) ← readString rest
        some (char :: cs, rest)
      else none
    else
      let char ← scalar? first
      let (cs, rest) ← readString ('\\' :: 'u' :: e :: f :: g :: h :: rest)
      some (char :: cs, rest)
  | '\\' :: 'u' :: a :: b :: c :: d :: rest => do
    let char ← scalar? (← hex4? a b c d)
    let (cs, rest) ← readString rest
    some (char :: cs, rest)
  | '\\' :: c :: rest => do
    let char ← shortEscape? c
    let (cs, rest) ← readString rest
    some (char :: cs, rest)
  | c :: rest => do
    if c == '\\' || c.toNat < 0x20 then none
    else
      let (cs, rest) ← readString rest
      some (c :: cs, rest)

/-- A low code point in four digits, whatever follows. -/
theorem readString_unicode {a b c d : Char} {n : Nat} (h : hex4? a b c d = some n) (hn : n < 0xD800)
    (rest : List Char) :
    readString ('\\' :: 'u' :: a :: b :: c :: d :: rest) =
      (readString rest).map fun p => (Char.ofNat n :: p.1, p.2) := by
  have hscalar : scalar? n = some (Char.ofNat n) := by simp [scalar?, hn]
  by_cases hrest : ∃ e f g h rest', rest = '\\' :: 'u' :: e :: f :: g :: h :: rest'
  · -- The digits might be the first half of a pair of surrogates, but they are too low.
    obtain ⟨e, f, g, i, rest', rfl⟩ := hrest
    rw [readString, h, Option.bind_eq_bind, Option.bind_some, if_neg (by simp; omega), hscalar]
    cases readString ('\\' :: 'u' :: e :: f :: g :: i :: rest') <;> rfl
  · rw [readString, h, Option.bind_eq_bind, Option.bind_some, hscalar]
    · cases readString rest <;> rfl
    · intro e f g i rest' heq
      exact hrest ⟨e, f, g, i, rest', heq⟩

theorem readString_short {letter c : Char} (h : shortEscape? letter = some c) (rest : List Char) :
    readString ('\\' :: letter :: rest) =
      (readString rest).map fun p => (c :: p.1, p.2) := by
  have hletter : letter ≠ 'u' := by
    rintro rfl
    simp [shortEscape?] at h
  rw [readString, h]
  · cases readString rest <;> rfl
  · exact fun _ _ _ _ _ _ _ _ _ hu => absurd hu hletter
  · exact fun _ _ _ _ _ hu => absurd hu hletter

theorem readString_plain {c : Char} (hquote : c ≠ '"') (hslash : c ≠ '\\')
    (hprintable : ¬ c.toNat < 0x20) (rest : List Char) :
    readString (c :: rest) = (readString rest).map fun p => (c :: p.1, p.2) := by
  rw [readString, if_neg (by simp [hslash, hprintable])]
  · cases readString rest <;> rfl
  · exact hquote
  · exact fun _ _ _ _ _ _ _ _ _ hu => absurd hu hslash
  · exact fun _ _ _ _ _ hu => absurd hu hslash
  · exact fun _ _ hu => absurd hu hslash

/-- The characters a number may be made of. -/
def isNumberChar (c : Char) : Bool :=
  Number.isDigit c || c == '-' || c == '+' || c == '.' || c == 'e' || c == 'E'

/-- A whole number has no leading zero. -/
def plainDigits (ds : List Char) : Bool :=
  !ds.isEmpty && ds.all Number.isDigit && (ds.head? != some '0' || ds.length == 1)

/-- The number that the characters of a token denote. -/
def readNumber? (token : List Char) : Option Json := do
  let (negative, body) :=
    match token with
    | '-' :: r => (true, r)
    | r => (false, r)
  let whole := body.takeWhile Number.isDigit
  let rest := body.dropWhile Number.isDigit
  if !plainDigits whole then none
  else if rest.isEmpty then
    let n : Int := Number.ofDigits 10 whole
    some (.int (if negative then -n else n))
  else
    let emptyFraction :=
      match rest with
      | '.' :: r => (r.takeWhile Number.isDigit).isEmpty
      | _ => false
    if emptyFraction then none else (Number.readUnsigned? negative body).map .float

mutual

/-- A value after optional white space, and the rest. -/
def readValue : Nat → List Char → Option (Json × List Char)
  | 0, _ => none
  | fuel + 1, cs =>
    match skipSpace cs with
    | 'n' :: 'u' :: 'l' :: 'l' :: rest => some (.null, rest)
    | 't' :: 'r' :: 'u' :: 'e' :: rest => some (.bool true, rest)
    | 'f' :: 'a' :: 'l' :: 's' :: 'e' :: rest => some (.bool false, rest)
    | '"' :: rest => do
      let (s, rest) ← readString rest
      some (.string (String.ofList s), rest)
    | '[' :: rest =>
      match skipSpace rest with
      | ']' :: rest => some (.array [], rest)
      | rest => do
        let (items, rest) ← readItems fuel rest
        some (.array items, rest)
    | '{' :: rest =>
      match skipSpace rest with
      | '}' :: rest => some (.object [], rest)
      | rest => do
        let (members, rest) ← readMembers fuel rest
        some (.object members, rest)
    | rest => do
      let number ← readNumber? (rest.takeWhile isNumberChar)
      some (number, rest.dropWhile isNumberChar)

/-- Items up to the closing bracket, at least one. -/
def readItems : Nat → List Char → Option (List Json × List Char)
  | 0, _ => none
  | fuel + 1, cs => do
    let (item, rest) ← readValue fuel cs
    match skipSpace rest with
    | ']' :: rest => some ([item], rest)
    | ',' :: rest =>
      let (items, rest) ← readItems fuel rest
      some (item :: items, rest)
    | _ => none

/-- Members up to the closing brace, at least one. -/
def readMembers : Nat → List Char → Option (List (String × Json) × List Char)
  | 0, _ => none
  | fuel + 1, cs =>
    match skipSpace cs with
    | '"' :: rest => do
      let (name, rest) ← readString rest
      match skipSpace rest with
      | ':' :: rest =>
        let (value, rest) ← readValue fuel rest
        match skipSpace rest with
        | '}' :: rest => some ([(String.ofList name, value)], rest)
        | ',' :: rest =>
          let (members, rest) ← readMembers fuel rest
          some ((String.ofList name, value) :: members, rest)
        | _ => none
      | _ => none
    | _ => none

end

/-- A whole document. -/
def parse? (text : String) : Option Json :=
  let cs := text.toList
  match readValue (cs.length + 1) cs with
  | some (value, rest) => if (skipSpace rest).isEmpty then some value else none
  | none => none

end InfraPolicy.Json
