import InfraPolicy.Condition.Basic
import InfraPolicy.Path.Text
import InfraPolicy.Value.Compare

/-!
# Verdicts

Checking a condition against the attributes of a resource gives a verdict: whether the condition
passed, and whether the answer hangs on values that are not known. `Condition.verdict` is the
evaluation. An operator's answer hangs on unknown values when the attribute it finds holds one
anywhere, with two exceptions: existence, and the keys of an object, which are always known.
-/

namespace InfraPolicy

/-- The outcome of a condition. -/
structure Verdict where
  passed : Bool
  unknown : Bool
deriving DecidableEq, Repr, Inhabited

namespace Verdict

/-- Certainly passed. -/
def pass : Verdict := ⟨true, false⟩

/-- Certainly failed. -/
def fail : Verdict := ⟨false, false⟩

/-- A single check that cannot be decided counts as passed. -/
def undecided : Verdict := ⟨true, true⟩

/-- A verdict that is certain. -/
def certain (passed : Bool) : Verdict := ⟨passed, false⟩

/-- Failed, whatever the unknown values are. -/
def isCertainFailure (v : Verdict) : Bool := !v.passed && !v.unknown

end Verdict

namespace Operator

/-- Does the operator's answer hang on an unknown value inside what was found? -/
def hangsOnUnknown (op : Operator) (found : Value) : Bool :=
  match op, found with
  | .exists, _ | .notExists, _ => false
  | .contains, .object _ | .notContains, .object _ => false
  | _, _ => found.hasIndeterminate

end Operator

namespace Check

/-- The answer on an attribute that was found and on which it does not hang. -/
def holdsOn (check : Check) (found : Value) : Bool :=
  let expected := check.value.getD .null
  match check.operator with
  | .exists => !found.isNull
  | .notExists => found.isNull
  | .equals => found.looseEq expected
  | .notEquals => !found.looseEq expected
  | .contains => found.contains expected
  | .notContains => !found.contains expected
  | .matches => check.pattern.any found.hasMatch
  | .greaterThan => found.greaterThan expected
  | .lessThan => found.lessThan expected
  | .oneOf => found.oneOf expected

/-- The verdict on what the path of the attribute leads to. -/
def verdictOn (check : Check) : Option Value → Verdict
  | none => .certain check.operator.holdsWhenAbsent
  | some found =>
    if found.isIndeterminate || check.operator.hangsOnUnknown found then .undecided
    else .certain (check.holdsOn found)

/-- The verdict of a check on the attributes of a resource. -/
def verdict (attributes : Fields) (check : Check) : Verdict :=
  check.verdictOn (Path.find? attributes check.path)

end Check

namespace Condition

mutual

/-- The verdict of a condition on the attributes of a resource. -/
def verdict (attributes : Fields) : Condition → Verdict
  | .check c => c.verdict attributes
  | .all children => verdictAll attributes false children
  | .any children => verdictAny attributes false children
  | .not child =>
    let v := verdict attributes child
    ⟨!v.passed, v.unknown⟩

/-- The first child that does not pass decides; `unknown` tells whether a child before was
undecided. -/
def verdictAll (attributes : Fields) (unknown : Bool) : List Condition → Verdict
  | [] => ⟨true, unknown⟩
  | c :: rest =>
    let v := verdict attributes c
    if v.passed then verdictAll attributes (unknown || v.unknown) rest else v

/-- The first child that certainly passes decides; `unknown` tells whether a child before was
undecided. -/
def verdictAny (attributes : Fields) (unknown : Bool) : List Condition → Verdict
  | [] => ⟨false, unknown⟩
  | c :: rest =>
    let v := verdict attributes c
    if v = .pass then v else verdictAny attributes (unknown || v.unknown) rest

end

end Condition

end InfraPolicy
