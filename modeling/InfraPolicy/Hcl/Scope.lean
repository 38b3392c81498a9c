import InfraPolicy.Hcl.Syntax

/-!
# Evaluating expressions

A scope gives values to variables and locals. `Scope.eval` evaluates what can be known from it:
literals, lists, objects, and references to variables and locals with steps into their values. A
name without a value is unknown. Everything that needs a real run is computed: other references,
calls, operators, conditionals, comprehensions, and text put together from parts.
-/

namespace InfraPolicy.Hcl

/-- The names that expressions may refer to, with their values. -/
structure Scope where
  vars : Fields := []
  locals : Fields := []
deriving Inhabited

namespace Scope

/-- Give a value to an input variable. -/
def setVariable (scope : Scope) (name : String) (value : Value) : Scope :=
  { scope with vars := scope.vars.insert name value }

/-- Give a value to a local. -/
def setLocal (scope : Scope) (name : String) (value : Value) : Scope :=
  { scope with locals := scope.locals.insert name value }

/-- The names that a root makes available. -/
def table? (scope : Scope) (root : Expr) : Option Fields :=
  match root with
  | .variable name =>
    if name = "var" then some scope.vars
    else if name = "local" then some scope.locals
    else none
  | _ => none

end Scope

/-- The value under a key of an object. -/
def fieldOf (v : Value) (key : String) : Value :=
  match v with
  | .object fields => (Fields.get? fields key).getD .unknown
  | _ => .unknown

/-- The item of a list at a position. -/
def itemOf (v : Value) (index : Int) : Value :=
  match v with
  | .list items => if 0 ≤ index then (items[index.toNat]?).getD .unknown else .unknown
  | _ => .unknown

/-- Positions beyond the signed range hold nothing. -/
def legacyItemOf (v : Value) (n : Nat) : Value :=
  if n < Number.twoTo 63 then itemOf v n else .unknown

/-- What an index that was evaluated selects. -/
def selected (v index : Value) : Value :=
  match index with
  | .int n => itemOf v n.toInt
  | .string key => fieldOf v key
  | .computed => .computed
  | _ => .unknown

/-- The text of a template without interpolations. -/
def literalParts? : List Part → Option String
  | [] => some ""
  | .text s :: rest => (literalParts? rest).map (s ++ ·)
  | _ :: _ => none

namespace Scope

mutual

/-- The value of an expression. -/
def eval (scope : Scope) : Expr → Value
  | .null => .null
  | .bool b => .bool b
  | .int n => .int n
  | .float x => .float x
  | .text s => .string s
  | .list items => .list (evalItems scope items)
  | .object items => .object (evalFields scope [] items)
  | .template [.interpolation e] => eval scope e
  | .template parts =>
    match literalParts? parts with
    | some s => .string s
    | none => .computed
  | .traversal root (.attr name :: steps) =>
    match scope.table? root with
    | some table =>
      match Fields.get? table name with
      | some v => navigate scope v steps
      | none => .unknown
    | none => .computed
  | .paren inner => eval scope inner
  | _ => .computed

/-- The values of several expressions. -/
def evalItems (scope : Scope) : List Expr → List Value
  | [] => []
  | e :: rest => eval scope e :: evalItems scope rest

/-- Insert the fields of an object one after another. Keys that are no text are left out. -/
def evalFields (scope : Scope) (fields : Fields) : List (Expr × Expr) → Fields
  | [] => fields
  | (.variable name, e) :: rest =>
    evalFields scope (Fields.insert fields name (eval scope e)) rest
  | (key, e) :: rest =>
    match eval scope key with
    | .string k => evalFields scope (Fields.insert fields k (eval scope e)) rest
    | _ => evalFields scope fields rest

/-- Take steps into a value. They end at the first value that is not known. -/
def navigate (scope : Scope) (v : Value) : List Step → Value
  | [] => v
  | step :: rest => if v.isIndeterminate then v else navigate scope (stepInto scope v step) rest

/-- Take one step into a value. -/
def stepInto (scope : Scope) (v : Value) : Step → Value
  | .attr name => fieldOf v name
  | .index e => selected v (eval scope e)
  | .legacyIndex n => legacyItemOf v n
  | .splat => .computed

end

/-- No step leads out of what is not known. -/
theorem navigate_of_isIndeterminate (s : Scope) {v : Value} (h : v.isIndeterminate = true)
    (steps : List Step) : s.navigate v steps = v := by
  cases steps with
  | nil => rfl
  | cons step rest => rw [navigate, if_pos h]

end Scope

end InfraPolicy.Hcl
