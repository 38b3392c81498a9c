import InfraPolicy.Text.Blank
import InfraPolicy.Unicode.CaseMapping

/-!
# Output formats
-/

namespace InfraPolicy

/-- The formats in which a result can be written. -/
inductive OutputFormat where
  | console
  | json
deriving DecidableEq, Repr, Inhabited

namespace OutputFormat

/-- The name of a format. -/
def name : OutputFormat → String
  | .console => "console"
  | .json => "json"

/-- Read the name of a format, in any case and with blanks around it. -/
def ofName? (text : String) : Option OutputFormat :=
  match Unicode.lower (Text.trim text) with
  | "console" | "text" => some .console
  | "json" => some .json
  | _ => none

end OutputFormat

end InfraPolicy
