import InfraPolicy.Condition.Basic
import InfraPolicy.Resource.Basic
import InfraPolicy.Rule.Severity

/-!
# Rules

A rule demands a condition of every resource of one kind. Rules come in layers; a rule of a later
layer takes the place of the one with the same identifier.
-/

namespace InfraPolicy

/-- A rule that is ready to be applied. -/
structure Rule where
  id : String
  name : String
  description : String
  severity : Severity
  /-- The kind of the resources that the rule is about. -/
  resourceKind : String
  condition : Condition
  /-- A template, see `Message.render`. -/
  message : String
  remediation : String
  /-- Sorted, without repetition. -/
  tags : List String
deriving Inhabited

namespace Rule

/-- Is the rule about resources of this kind? -/
def appliesTo (rule : Rule) (r : Resource) : Bool :=
  rule.resourceKind == r.kind

/-- Put a rule in the place of the first one with its identifier, or at the end. -/
def put (rule : Rule) : List Rule → List Rule
  | [] => [rule]
  | r :: rest => if r.id = rule.id then rule :: rest else r :: put rule rest

/-- Lay rules over others, one after another. -/
def merge (base overlay : List Rule) : List Rule :=
  overlay.foldl (fun rules rule => put rule rules) base

end Rule

end InfraPolicy
