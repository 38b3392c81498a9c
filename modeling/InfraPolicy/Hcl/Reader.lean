/-!
# Reading HCL character by character

A source is a text that is being read, together with what was read of it as it would be written
again. The two differ where a literal text has several spellings, or where an item of an object is
overwritten by a later one: there a reader records what it understood and not what it saw.

Reading has no reason for failure and no position in it, and there is no way back once a step has
failed.
-/

namespace InfraPolicy.Hcl

/-- What is left to read, and what was recorded so far, the last character first. -/
structure Source where
  rest : List Char
  written : List Char := []
deriving Inhabited

/-- A step of reading. -/
abbrev Reader := StateT Source Option

namespace Reader

/-- What is left to read. -/
def rest : Reader (List Char) := do
  return (← get).rest

/-- Is nothing left? -/
def atEnd : Reader Bool := do
  return (← rest).isEmpty

/-- The next character, which stays. -/
def peek : Reader (Option Char) := do
  return (← rest).head?

/-- Is this the next character? -/
def sees (c : Char) : Reader Bool := do
  return (← peek) == some c

/-- Do these characters come next? -/
def seesText (text : String) : Reader Bool := do
  return text.toList.isPrefixOf (← rest)

/-- Record characters. -/
def write (cs : List Char) : Reader Unit :=
  modify fun s => { s with written := cs.reverseAux s.written }

/-- Go on at a later place, and record nothing of what is passed over. -/
def moveTo (rest : List Char) : Reader Unit :=
  modify fun s => { s with rest }

/-- Take a number of characters, or all if there are fewer. -/
def take (count : Nat) : Reader (List Char) := do
  let cs ← rest
  let taken := cs.take count
  moveTo (cs.drop count)
  write taken
  return taken

/-- Take the longest run of characters of a class. -/
def takeWhile (p : Char → Bool) : Reader (List Char) := do
  let cs ← rest
  let taken := cs.takeWhile p
  moveTo (cs.dropWhile p)
  write taken
  return taken

/-- Take a run of characters of a class, at least one. -/
def takeSome (p : Char → Bool) : Reader (List Char) := do
  let taken ← takeWhile p
  if taken.isEmpty then failure else return taken

/-- Take these characters if they come next, and tell whether they did. -/
def textIf (expected : String) : Reader Bool := do
  if ← seesText expected then do
    let _ ← take expected.length
    return true
  else return false

/-- Take these characters. -/
def text (expected : String) : Reader Unit := do
  if ← textIf expected then return () else failure

/-- Take this character if it is next, and tell whether it was. -/
def charIf (c : Char) : Reader Bool := do
  if ← sees c then do
    let _ ← take 1
    return true
  else return false

/-- Take this character. -/
def char (c : Char) : Reader Unit := do
  if ← charIf c then return () else failure

/-- The result of a step with what it records, which is recorded for the caller only. -/
def captured {α : Type} (step : Reader α) : Reader (α × List Char) := do
  let outer := (← get).written
  modify fun s => { s with written := [] }
  let result ← step
  let inner := (← get).written
  modify fun s => { s with written := outer }
  return (result, inner.reverse)

/-- The result of a step that reads a whole text. -/
def whole? {α : Type} (step : Reader α) (cs : List Char) : Option α :=
  match step.run { rest := cs } with
  | some (a, s) => if s.rest.isEmpty then some a else none
  | none => none

end Reader

end InfraPolicy.Hcl
