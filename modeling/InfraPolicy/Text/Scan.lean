import InfraPolicy.Text.Search

/-!
# Scanning text

Steps of reading a text from left to right. A step takes characters from the front of what is
left, or fails; there is no reason for failure and no position in it.
-/

namespace InfraPolicy

/-- A step of reading: what is left goes in, a result and what is left then come out. -/
abbrev Scan := StateT (List Char) Option

namespace Scan

/-- The next character, which stays. -/
def peek : Scan (Option Char) := do
  return (← get).head?

/-- Is this the next character? -/
def sees (c : Char) : Scan Bool := do
  return (← get).head? == some c

/-- Do these characters come next? -/
def seesText (text : String) : Scan Bool := do
  return text.toList.isPrefixOf (← get)

/-- Take the next character, which must exist. -/
def next : Scan Char := do
  match ← get with
  | c :: rest => do
    set rest
    return c
  | [] => failure

/-- Drop characters. -/
def drop (count : Nat) : Scan Unit :=
  modify fun cs => cs.drop count

/-- Take this character. -/
def char (c : Char) : Scan Unit := do
  if (← next) == c then return () else failure

/-- Take this character if it is next, and tell whether it was. -/
def charIf (c : Char) : Scan Bool := do
  match ← get with
  | d :: rest =>
    if d == c then do
      set rest
      return true
    else return false
  | [] => return false

/-- Take the next character if it is one of these, and tell whether it was. -/
def charOf (choices : String) : Scan Bool := do
  match ← get with
  | d :: rest =>
    if choices.toList.contains d then do
      set rest
      return true
    else return false
  | [] => return false

/-- Take these characters. -/
def text (expected : String) : Scan Unit := do
  match Text.strip? (← get) expected.toList with
  | some rest => set rest
  | none => failure

/-- Take these characters if they come next, and tell whether they did. -/
def textIf (expected : String) : Scan Bool := do
  match Text.strip? (← get) expected.toList with
  | some rest => do
    set rest
    return true
  | none => return false

/-- Take the longest run of characters of a class. -/
def takeWhile (p : Char → Bool) : Scan (List Char) := do
  let cs ← get
  set (cs.dropWhile p)
  return cs.takeWhile p

/-- Take a run of characters of a class, at least one. -/
def takeSome (p : Char → Bool) : Scan (List Char) := do
  let taken ← takeWhile p
  if taken.isEmpty then failure else return taken

/-- Is nothing left? -/
def atEnd : Scan Bool := do
  return (← get).isEmpty

/-- The result of a step that reads a whole text. -/
def whole? {α : Type} (step : Scan α) (cs : List Char) : Option α :=
  match step.run cs with
  | some (a, []) => some a
  | _ => none

end Scan

end InfraPolicy
