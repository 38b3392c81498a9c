import InfraPolicy.Resource.Location
import InfraPolicy.Value.Basic

/-!
# Resources

A declared resource: its kind, its name, the attributes that could be evaluated, and where it
begins.
-/

namespace InfraPolicy

/-- A resource that a configuration declares, with its attributes evaluated. -/
structure Resource where
  kind : String
  name : String
  attributes : Fields
  location : Location
deriving Inhabited, Repr

namespace Resource

/-- The address by which configurations refer to the resource. -/
def address (r : Resource) : String :=
  s!"{r.kind}.{r.name}"

end Resource

end InfraPolicy
