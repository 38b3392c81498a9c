import InfraPolicy.Condition.Basic
import InfraPolicy.Text.Distance
import InfraPolicy.Value.Json

/-!
# Definitions of conditions

A condition as a rule file spells it, before anything is checked: an operator by name, perhaps an
attribute, a value, and conditions below. `ConditionDef.compile` turns a definition into a
condition or finds the first node that breaks a rule, in the order of the text, except that a
negation with several children is found after its children.
-/

namespace InfraPolicy

/-- A node of a condition as it is written. -/
structure ConditionDef where
  path : Option String := none
  operator : String := ""
  value : Option Json := none
  conditions : List ConditionDef := []
deriving Inhabited, Repr

/-- The operators that join conditions. -/
inductive Junction where
  | all
  | any
  | not
deriving DecidableEq, Repr, Inhabited

namespace Junction

/-- The name of a junction as a rule file spells it. -/
def name : Junction → String
  | .all => "all"
  | .any => "any"
  | .not => "not"

end Junction

/-- What is wrong with a node. -/
inductive ConditionFault where
  | noOperator
  | unknownOperator (name : String) (suggestion : Option String)
  | junctionAttribute (j : Junction)
  | noChildren (j : Junction)
  | severalChildren
  | checkChildren (operator : Operator)
  | check (fault : CheckFault)
deriving DecidableEq, Repr, Inhabited

/-- A fault and the address of its node: which child to take at each level from the root. -/
structure ConditionError where
  address : List Nat
  fault : ConditionFault
deriving DecidableEq, Repr, Inhabited

namespace ConditionFault

/-- What a fault says, without its place. -/
def message : ConditionFault → String
  | .noOperator => "missing `operator`"
  | .unknownOperator name none => s!"unknown operator `{name}`"
  | .unknownOperator name (some other) => s!"unknown operator `{name}` (did you mean `{other}`?)"
  | .junctionAttribute j => s!"`{j.name}` cannot have an attribute"
  | .noChildren j => s!"`{j.name}` needs at least one child condition"
  | .severalChildren => "`not` takes exactly one child condition"
  | .checkChildren op => s!"`{op.name}` check cannot have child conditions"
  | .check fault => fault.message

end ConditionFault

namespace ConditionError

/-- The fault of a child, seen from its parent. -/
def below (index : Nat) (e : ConditionError) : ConditionError :=
  { e with address := index :: e.address }

/-- An address below the text that names the root. -/
def addressText (root : String) (address : List Nat) : String :=
  address.foldl (fun text i => s!"{text}.conditions[{i}]") root

/-- What an error says: the place of the node below the root, and its fault. -/
def message (root : String) (e : ConditionError) : String :=
  s!"{addressText root e.address}: {e.fault.message}"

end ConditionError

/-- What an operator's name stands for. -/
inductive Head where
  | missing
  | junction (j : Junction)
  | check (op : Operator)
  | unknown (name : String)
deriving DecidableEq, Repr, Inhabited

namespace Head

/-- Read the name of an operator, in any case and with blanks around it. -/
def ofName (text : String) : Head :=
  let name := Operator.normalForm text
  if name = "" then .missing
  else if name = "all" then .junction .all
  else if name = "any" then .junction .any
  else if name = "not" then .junction .not
  else
    match Operator.ofName? name with
    | some op => .check op
    | none => .unknown name

end Head

/-- All names that an operator may have. -/
def operatorNames : List String :=
  Operator.all.map Operator.name ++ [Junction.all, .any, .not].map Junction.name

/-- The names within two edits, each with its distance. -/
def nearNames (name : String) : List (Nat × String) :=
  (operatorNames.map fun candidate =>
    (Text.distance name.toList candidate.toList, candidate)).filter fun p => p.1 ≤ 2

/-- The nearest known name within two edits; of several, the first in the alphabet. -/
def suggestion? (name : String) : Option String :=
  let closer (p q : Nat × String) : Bool := p.1 < q.1 || (p.1 == q.1 && p.2 < q.2)
  (nearNames name).foldl (fun best p =>
    match best with
    | some q => some (if closer p q then p else q)
    | none => some p) none |>.map Prod.snd

namespace ConditionDef

/-- Join the children of a junction, of which there is at least one. -/
def joinChildren (j : Junction) (children : List Condition) : Except ConditionError Condition :=
  match j, children with
  | .all, cs => .ok (.all cs)
  | .any, cs => .ok (.any cs)
  | .not, [c] => .ok (.not c)
  | .not, _ => .error ⟨[], .severalChildren⟩

mutual

/-- Turn a definition into a condition, or say which node is wrong and why. -/
def compile : ConditionDef → Except ConditionError Condition
  | ⟨path, operator, value, conditions⟩ =>
    match Head.ofName operator with
    | .missing => .error ⟨[], .noOperator⟩
    | .unknown name => .error ⟨[], .unknownOperator name (suggestion? name)⟩
    | .junction j =>
      if path.any fun a => !Text.isBlankText a then .error ⟨[], .junctionAttribute j⟩
      else if conditions.isEmpty then .error ⟨[], .noChildren j⟩
      else
        match compileFrom 0 conditions with
        | .ok children => joinChildren j children
        | .error e => .error e
    | .check op =>
      if !conditions.isEmpty then .error ⟨[], .checkChildren op⟩
      else
        match Check.make? (path.getD "") op (value.map Value.ofJson) with
        | .ok c => .ok (.check c)
        | .error fault => .error ⟨[], .check fault⟩

/-- Compile children, the first of which has the given index. -/
def compileFrom (index : Nat) : List ConditionDef → Except ConditionError (List Condition)
  | [] => .ok []
  | d :: rest =>
    match compile d with
    | .error e => .error (e.below index)
    | .ok c => (compileFrom (index + 1) rest).map (c :: ·)

end

end ConditionDef

end InfraPolicy
