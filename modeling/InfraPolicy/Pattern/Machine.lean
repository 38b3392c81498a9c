import InfraPolicy.Number.Power
import InfraPolicy.Pattern.Shape

/-!
# The size of a machine

A pattern stands for a machine that reads a text byte by byte. Machines may not be larger than a
limit, and a pattern is refused if the machine that reads forward or the one that reads backward
would be. No machine is built: a `Machine` counts its states and what they hold.

Numbered repetition copies what is repeated. A set beyond ASCII is a tree of bytes, in which
branches with equal ends are shared as far as they are remembered; memory is a table of fixed size
in which a later entry displaces an earlier one.
-/

namespace InfraPolicy.Pattern

/-- A machine by its size. -/
structure Machine where
  /-- How many states there are; a new state has this number. -/
  states : Nat := 0
  /-- How much the states hold beside themselves. -/
  held : Nat := 0
deriving Inhabited

/-- The way in which a machine reads. -/
inductive Direction where
  | forward
  | backward
deriving DecidableEq, Inhabited

namespace Machine

/-- The size of a state. -/
def stateSize : Nat := 32

/-- The size of a step from one state to another, where a state has several. -/
def stepSize : Nat := 8

/-- The size of a choice between states. -/
def choiceSize : Nat := 4

/-- Machines may not be larger. -/
def limit : Nat := 10 * Number.twoTo 20

/-- The memory that a machine takes. -/
def size (m : Machine) : Nat :=
  stateSize * m.states + m.held

/-- Is the machine beyond the limit? -/
def isTooLarge (m : Machine) : Bool :=
  limit < m.size

/-- Add a state that holds something. -/
def add (held : Nat) (m : Machine) : Machine :=
  ⟨m.states + 1, m.held + held⟩

/-- Add a state without anything to hold. -/
def addPlain (m : Machine) : Machine :=
  m.add 0

/-- Add a choice between a number of states. -/
def addChoice (count : Nat) (m : Machine) : Machine :=
  m.add (choiceSize * count)

/-- Do something a number of times; once the machine is too large, nothing more happens. -/
def times : Nat → (Machine → Machine) → Machine → Machine
  | 0, _, m => m
  | n + 1, f, m => if m.isTooLarge then m else times n f (f m)

/-! ### Memory -/

/-- The place of a key in a table. -/
def slot (capacity : Nat) (key : List Nat) : Nat :=
  let mixed := key.foldl (fun (h : UInt64) n => (h ^^^ UInt64.ofNat n) * 1099511628211)
    14695981039346656037
  mixed.toNat % capacity

/-- What is remembered: a state for each key, one key at a place. -/
structure Memory where
  entries : Array (Option (List Nat × Nat))

namespace Memory

/-- A memory with so many places, all of them empty. -/
def ofCapacity (capacity : Nat) : Memory :=
  ⟨Array.replicate capacity none⟩

/-- The state that is remembered for a key. -/
def known? (memory : Memory) (place : Nat) (key : List Nat) : Option Nat :=
  match memory.entries[place]? with
  | some (some (known, n)) => if known == key then some n else none
  | _ => none

/-- The state of a key: the one that is remembered, or else a new one. -/
def state (memory : Memory) (key : List Nat) (held : Nat) (m : Machine) : Nat × Memory × Machine :=
  let place := slot memory.entries.size key
  match memory.known? place key with
  | some n => (n, memory, m)
  | none =>
    (m.states, ⟨memory.entries.setIfInBounds place (some (key, m.states))⟩, m.add held)

end Memory

/-! ### Sets -/

/-- A step over a range of bytes to a state. -/
structure ByteStep where
  range : Nat × Nat
  next : Nat

/-- A node of the tree whose last branch is still growing: the steps so far, and the range of the
last step. -/
structure OpenNode where
  steps : List ByteStep
  last : Option (Nat × Nat)

namespace OpenNode

/-- The steps once the last one leads to a state. -/
def close (node : OpenNode) (next : Nat) : List ByteStep :=
  match node.last with
  | some range => node.steps ++ [⟨range, next⟩]
  | none => node.steps

end OpenNode

/-- A state with these steps. -/
def stepsState (memory : Memory) (steps : List ByteStep) (m : Machine) : Nat × Memory × Machine :=
  memory.state (steps.flatMap fun s => [s.range.1, s.range.2, s.next]) (stepSize * steps.length) m

/-- Close the nodes of a branch, the deepest first; the branch ends at the state `goal`. -/
def closeNodes (goal : Nat) : List OpenNode → Memory → Machine → Nat × Memory × Machine
  | [], memory, m => (goal, memory, m)
  | node :: rest, memory, m =>
    let (next, memory, m) := closeNodes goal rest memory m
    stepsState memory (node.close next) m

/-- Add a sequence of byte ranges to the tree, given the nodes of its last branch from the root on.
Sequences come in increasing order, so that a node which the new sequence leaves is complete. -/
def addSequence (goal : Nat) :
    List OpenNode → List (Nat × Nat) → Memory → Machine → List OpenNode × Memory × Machine
  | nodes, [], memory, m => (nodes, memory, m)
  | [], ranges, memory, m => (ranges.map fun range => ⟨[], some range⟩, memory, m)
  | node :: rest, range :: ranges, memory, m =>
    if node.last == some range then
      let (rest, memory, m) := addSequence goal rest ranges memory m
      (node :: rest, memory, m)
    else
      let (next, memory, m) := closeNodes goal rest memory m
      (⟨node.close next, some range⟩ :: ranges.map (fun range => ⟨[], some range⟩), memory, m)

/-- A set that is read forward: a tree from the first byte on. -/
def addTree (sequences : List (List (Nat × Nat))) (m : Machine) : Machine :=
  let goal := m.states
  let (nodes, memory, m) := sequences.foldl
    (fun (nodes, memory, m) ranges => addSequence goal nodes ranges memory m)
    ([(⟨[], none⟩ : OpenNode)], Memory.ofCapacity 10000, m.addPlain)
  (closeNodes goal nodes memory m).2.2

/-- A set that is read backward: a chain for each sequence, of which the part from the first byte on
may be shared. -/
def addChains (sequences : List (List (Nat × Nat))) (m : Machine) : Machine :=
  let goal := m.states + 1
  let chain (memory : Memory) (m : Machine) (ranges : List (Nat × Nat)) : Memory × Machine :=
    (ranges.foldl (fun (n, memory, m) range => Memory.state memory [n, range.1, range.2] 0 m)
      (goal, memory, m)).2
  (sequences.foldl (fun (memory, m) ranges => chain memory m ranges)
    (Memory.ofCapacity 1000, (m.addChoice sequences.length).addPlain)).2

/-- One character of a set. -/
def addSet (d : Direction) (s : CodeSet) (m : Machine) : Machine :=
  if s.isAscii then m.addPlain.add (stepSize * s.ranges.length)
  else
    match d with
    | .forward => addTree (Unicode.byteSequences s) m
    | .backward => addChains (Unicode.byteSequences s) m

/-! ### Alternatives of literals -/

/-- Literals that begin with the same byte, without it. -/
abbrev Sharing := List (Nat × List (List Nat))

/-- Put a literal to those with the same first byte. -/
def share (byte : Nat) (rest : List Nat) : Sharing → Sharing
  | [] => [(byte, [rest])]
  | (b, rests) :: others =>
    if b == byte then (b, rests ++ [rest]) :: others else (b, rests) :: share byte rest others

/-- Part literals by their first bytes. A literal that ends here closes what came before it, unless
it repeats an end. -/
def chunks : List Sharing → Sharing → List (List Nat) → List Sharing
  | closed, current, [] => closed ++ [current]
  | closed, current, [] :: others =>
    if current.isEmpty && closed.all List.isEmpty && !closed.isEmpty then
      chunks closed current others
    else chunks (closed ++ [current]) [] others
  | closed, current, (byte :: rest) :: others => chunks closed (share byte rest current) others

/-- Literals as a tree of bytes, up to a depth: a state for the steps of each part, and a choice
between the parts and the ends. -/
def addLiterals : Nat → List (List Nat) → Machine → Machine
  | 0, _, m => m
  | depth + 1, literals, m =>
    let parts := chunks [] [] literals
    let filled := parts.filter fun part => !part.isEmpty
    let deeper := parts.flatMap fun part => part.map Prod.snd
    let m := deeper.foldl (fun m rests =>
      if rests.all List.isEmpty then m else addLiterals depth rests m) m
    let m := filled.foldl (fun m part =>
      m.add (if part.length == 1 then 0 else stepSize * part.length)) m
    m.addChoice (filled.length + (parts.length - 1))

/-- The bytes of a literal in the order in which they are read. -/
def literalBytes (d : Direction) (codes : List Nat) : List Nat :=
  let bytes := codes.flatMap Unicode.utf8Bytes
  match d with
  | .forward => bytes
  | .backward => bytes.reverse

/-- The literals of branches that are all literals. -/
def literals? (d : Direction) (branches : List Shape) : Option (List (List Nat)) :=
  branches.mapM fun
    | .literal codes => some (literalBytes d codes)
    | _ => none

/-! ### Shapes -/

mutual

/-- Add what reads a shape. Every repetition without a bound ends in a choice, one side of which
leads back. -/
def addShape (d : Direction) : Shape → Machine → Machine
  | .empty, m => m.addPlain
  | .literal codes, m => ⟨m.states + (codes.flatMap Unicode.utf8Bytes).length, m.held⟩
  | .set s, m => addSet d s m
  | .anchor _, m => m.addPlain
  | .group s, m =>
    match d with
    | .forward => (addShape d s m.addPlain).addPlain
    | .backward => addShape d s m
  | .rep least most _ s, m =>
    match least, most with
    | 0, some 1 => (addShape d s (m.addChoice 2)).addPlain
    | 0, none =>
      if s.consumes then addShape d s (m.addChoice 2)
      else (((addShape d s m).addChoice 2).addChoice 2).addPlain
    | _, none => (times least (fun m => addShape d s m) m).addChoice 2
    | _, some most =>
      let m := if least == 0 then m.addPlain else times least (fun m => addShape d s m) m
      if least == most then m
      else times (most - least) (fun m => addShape d s (m.addChoice 2)) m.addPlain
  | .seq parts, m =>
    match d with
    | .forward => addInOrder d parts m
    | .backward => addReversed d parts m
  | .alt branches, m =>
    match literals? d branches with
    | some literals =>
      addLiterals (literals.foldl (fun n bytes => max n bytes.length) 0 + 1) literals m.addPlain
    | none => addBranches d 0 branches m

/-- Add parts in a row, the first one first. -/
def addInOrder (d : Direction) : List Shape → Machine → Machine
  | [], m => m
  | s :: rest, m => addInOrder d rest (addShape d s m)

/-- Add parts in a row, the last one first. -/
def addReversed (d : Direction) : List Shape → Machine → Machine
  | [], m => m
  | s :: rest, m => addShape d s (addReversed d rest m)

/-- Add branches; the choice between them and the state where they meet come after the second. -/
def addBranches (d : Direction) : Nat → List Shape → Machine → Machine
  | _, [], m => m
  | count, s :: rest, m =>
    let m := addShape d s m
    let m := if count == 1 then (m.addChoice 2).addPlain else m
    let m := if 2 ≤ count then { m with held := m.held + choiceSize } else m
    addBranches d (count + 1) rest m

end

/-- The machine for a whole pattern. Unless every match is bound to the end where reading begins, a
loop over any bytes comes first. The forward machine reports where the match is. -/
def ofShape (d : Direction) (s : Shape) : Machine :=
  let bound :=
    match d with
    | .forward => s.atStart
    | .backward => s.atEnd
  let start : Machine :=
    if bound then addPlain {} else ((addChoice 2 {}).addPlain).add stepSize
  (addShape d (.group s) start).addPlain

/-- Are both machines for a pattern within the limit? -/
def fits (s : Shape) : Bool :=
  !(ofShape .forward s).isTooLarge && !(ofShape .backward s).isTooLarge

end Machine

end InfraPolicy.Pattern
