/-!
# Arguments

Reading the arguments of a command. An option has a long name after two hyphens and sometimes a
letter after one. Its value follows as the next argument, after an equals sign, or directly after
the letter; letters of switches can be written together. After two hyphens alone, everything is
positional.

Most options may be given once. Where anything is wrong, there is no reading.
-/

namespace InfraPolicy.Cli

/-- What an option takes. -/
inductive OptionKind where
  /-- Nothing: it is given or not. -/
  | switch
  /-- Any text, also an empty one. -/
  | text
  /-- The name of a file, which is not empty. -/
  | file
  /-- The name of a file; the option may be repeated. -/
  | files
deriving DecidableEq, Repr, Inhabited

/-- An option that a command knows, by its long name and perhaps by a letter. -/
structure OptionSpec where
  name : String
  letter : Option Char := none
  kind : OptionKind
deriving DecidableEq, Repr, Inhabited

namespace OptionSpec

/-- Does the option stand alone, without a value? -/
def isSwitch (o : OptionSpec) : Bool :=
  o.kind = .switch

end OptionSpec

/-- What has been read. -/
structure Arguments where
  /-- The options that are given, in order, with their values; a switch has none. -/
  given : List (String × String) := []
  positional : List String := []
deriving DecidableEq, Repr, Inhabited

namespace Arguments

/-- Is an option given? -/
def has (a : Arguments) (name : String) : Bool :=
  a.given.any fun g => g.1 == name

/-- The value of an option that may be given once. -/
def value? (a : Arguments) (name : String) : Option String :=
  a.given.lookup name

/-- The values of an option that may be repeated. -/
def values (a : Arguments) (name : String) : List String :=
  a.given.filterMap fun g => if g.1 == name then some g.2 else none

/-- Record an option with its value. -/
def give? (a : Arguments) (o : OptionSpec) (value : String) : Option Arguments :=
  let emptyName := value.isEmpty && (o.kind = .file || o.kind = .files)
  if emptyName || (o.kind ≠ .files && a.has o.name) then none
  else some { a with given := a.given ++ [(o.name, value)] }

end Arguments

/-- Where reading stands. -/
structure Progress where
  arguments : Arguments := {}
  /-- An option that waits for its value. -/
  pending : Option OptionSpec := none
  /-- Two hyphens have been read. -/
  onlyPositional : Bool := false
deriving Inhabited

namespace Progress

def give? (p : Progress) (o : OptionSpec) (value : String) : Option Progress :=
  (p.arguments.give? o value).map fun arguments => { p with arguments, pending := none }

/-- Record an argument that belongs to no option. -/
def addPositional (p : Progress) (value : String) : Progress :=
  { p with arguments.positional := p.arguments.positional ++ [value] }

/-- Read an option by its long name, perhaps with an equals sign and a value. -/
def long? (specs : List OptionSpec) (p : Progress) (cs : List Char) : Option Progress := do
  let name := String.ofList (cs.takeWhile (· != '='))
  let attached := (cs.dropWhile (· != '=')).tail?
  let o ← specs.find? fun o => o.name == name
  match attached with
  | some value => if o.isSwitch then none else p.give? o (String.ofList value)
  | none => if o.isSwitch then p.give? o "" else some { p with pending := some o }

/-- Read letters. The first one of an option with a value ends them. -/
def letters? (specs : List OptionSpec) (p : Progress) : List Char → Option Progress
  | [] => some p
  | c :: rest => do
    let o ← specs.find? fun o => o.letter == some c
    if o.isSwitch then
      let p ← p.give? o ""
      letters? specs p rest
    else
      match rest with
      | [] => some { p with pending := some o }
      | '=' :: value => p.give? o (String.ofList value)
      | value => p.give? o (String.ofList value)

/-- Read an argument. An option that waits for its value takes no other option in its place. -/
def step? (specs : List OptionSpec) (p : Progress) (argument : String) : Option Progress :=
  let waiting := p.pending.isSome
  if p.onlyPositional then if waiting then none else some (p.addPositional argument)
  else
    match argument.toList with
    | ['-', '-'] => some { p with onlyPositional := true }
    | '-' :: '-' :: cs => if waiting then none else long? specs p cs
    | '-' :: c :: cs => if waiting then none else letters? specs p (c :: cs)
    | _ =>
      match p.pending with
      | some o => p.give? o argument
      | none => some (p.addPositional argument)

end Progress

/-- Read arguments, with at most the given number of positional ones. -/
def Arguments.read? (specs : List OptionSpec) (positional : Nat) (arguments : List String) :
    Option Arguments := do
  let p ← arguments.foldlM (Progress.step? specs) {}
  if p.pending.isSome || p.arguments.positional.length > positional then none
  else some p.arguments

end InfraPolicy.Cli
