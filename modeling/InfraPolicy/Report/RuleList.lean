import InfraPolicy.Json.Writer
import InfraPolicy.Rule.Basic

/-!
# Lists of rules

Rules as a table, one a line, or as JSON. Both leave out what a rule demands.
-/

namespace InfraPolicy

namespace Rule

/-- What a rule says about itself. -/
def summaryJson (r : Rule) : Json :=
  .object [("id", .string r.id), ("name", .string r.name), ("description", .string r.description),
    ("severity", .string r.severity.name), ("resource_kind", .string r.resourceKind),
    ("tags", .array (r.tags.map .string))]

end Rule

namespace RuleList

/-- A text in a column of a given width; one that is too long stays as it is. -/
def column (width : Nat) (text : String) : String :=
  String.ofList (text.toList ++ List.replicate (width - text.length) ' ')

/-- A line of the table. -/
def row (id name severity kind tags : String) : String :=
  " ".intercalate [column 10 id, column 34 name, column 9 severity, column 22 kind, tags] ++ "\n"

/-- The names of the columns, and a line below them. -/
def tableHead : String :=
  row "ID" "NAME" "SEVERITY" "RESOURCE" "TAGS" ++ String.ofList (List.replicate 90 '-') ++ "\n"

/-- The line of a rule. -/
def ruleRow (r : Rule) : String :=
  row r.id r.name r.severity.name r.resourceKind (",".intercalate r.tags)

/-- Rules as a table. -/
def table (rules : List Rule) : String :=
  tableHead ++ String.join (rules.map ruleRow)

/-- Rules as JSON. -/
def json (rules : List Rule) : String :=
  (Json.array (rules.map Rule.summaryJson)).prettyText ++ "\n"

end RuleList

end InfraPolicy
