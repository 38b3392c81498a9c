import InfraPolicy.Condition.Operator
import InfraPolicy.Pattern.Parser
import InfraPolicy.Value.Basic

/-!
# Conditions

A condition is a tree: checks of single attributes at the leaves, conjunction, disjunction and
negation above them. Checks come from `Check.make?`, which refuses those that cannot be carried
out, so that every check of a condition has what its operator needs.
-/

namespace InfraPolicy

/-- A test of one attribute, which a path names. -/
structure Check where
  path : String
  operator : Operator
  /-- What to compare with; there is none for existence. -/
  value : Option Value
  /-- The pattern that the value spells, for the operator that matches one. -/
  pattern : Option Pattern
deriving Inhabited

/-- What a rule demands of a resource. -/
inductive Condition where
  | check (c : Check)
  | all (children : List Condition)
  | any (children : List Condition)
  | not (child : Condition)
deriving Inhabited

/-- Why a check cannot be carried out. -/
inductive CheckFault where
  | noAttribute (operator : Operator)
  | noValue (operator : Operator) (path : String)
  | patternNotText (path : String) (typeName : String)
  | badPattern (path : String)
deriving DecidableEq, Repr, Inhabited

namespace CheckFault

/-- What a fault says. For a pattern that does not compile, the reason that the pattern library
gives is left out: the text ends after the path. -/
def message : CheckFault → String
  | .noAttribute op => s!"`{op.name}` check is missing an attribute"
  | .noValue op path => s!"`{op.name}` check on `{path}` requires a value"
  | .patternNotText path typeName =>
    s!"`matches` on `{path}` needs a string pattern, got {typeName}"
  | .badPattern path => s!"invalid pattern for `{path}`"

end CheckFault

namespace Check

/-- The pattern of a check: for the operator that matches one, the value must spell it. -/
def readPattern (path : String) (operator : Operator) (value : Option Value) :
    Except CheckFault (Option Pattern) :=
  match operator, value with
  | .matches, some (.string text) =>
    match Pattern.parse? text with
    | some p => .ok (some p)
    | none => .error (.badPattern path)
  | .matches, some other => .error (.patternNotText path other.typeName)
  | _, _ => .ok none

/-- A check of an attribute. A null value counts as none. -/
def make? (path : String) (operator : Operator) (value : Option Value) :
    Except CheckFault Check :=
  if Text.isBlankText path then .error (.noAttribute operator)
  else
    let value := value.filter fun v => !v.isNull
    if operator.needsValue && value.isNone then .error (.noValue operator path)
    else (readPattern path operator value).map fun p => ⟨path, operator, value, p⟩

end Check

namespace Condition

mutual

/-- The number of checks in a condition. -/
def checkCount : Condition → Nat
  | .check _ => 1
  | .all children => checkCounts children
  | .any children => checkCounts children
  | .not child => checkCount child

/-- The number of checks in several conditions. -/
def checkCounts : List Condition → Nat
  | [] => 0
  | c :: rest => checkCount c + checkCounts rest

end

end Condition

end InfraPolicy
