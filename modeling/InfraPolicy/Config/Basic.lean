import InfraPolicy.Error
import InfraPolicy.Report.Format
import InfraPolicy.Rule.Definition
import InfraPolicy.Rule.Policy

/-!
# Project configuration

What a project asks for in its configuration file: a policy, an output format and rules of its own.
A file that does not exist asks for nothing.
-/

namespace InfraPolicy

/-- What the configuration file of a project asks for. -/
structure Config where
  policy : Policy := {}
  /-- The name of an output format as it is written. -/
  format : Option String := none
  rules : List RuleDef := []
deriving Inhabited, Repr

namespace Config

/-- The name of the configuration file in the directory that is scanned. -/
def fileName : String := ".gatekeeper.toml"

/-- The output format that is asked for, if any. -/
def outputFormat (c : Config) : Except Error (Option OutputFormat) :=
  match c.format with
  | none => .ok none
  | some name =>
    match OutputFormat.ofName? name with
    | some f => .ok (some f)
    | none => .error (.unknownFormat name)

/-- What a new configuration file contains. -/
def starter : String :=
  "# tf-gatekeeper configuration

[policy]
# Least severe level still reported (error, warning, info).
min_severity = \"info\"

# Report checks that depend on unresolved values as violations.
strict = false

# Skip the built-in AWS rules.
# disable_builtin = true

# Rule IDs to ignore entirely.
# deny_rules = [\"SG_002\"]

# When set, only these rule IDs run.
# allow_rules = [\"S3_001\", \"S3_002\"]

[output]
# console or json
format = \"console\"

# Project rules. A rule with a built-in ID replaces it.
# [[rules]]
# id = \"ORG_001\"
# name = \"Buckets carry an owner tag\"
# severity = \"warning\"
# resource_type = \"aws_s3_bucket\"
# message = \"Bucket '\x7b\x7bresource_name\x7d\x7d' has no Owner tag\"
# [rules.condition]
# attribute = \"tags.Owner\"
# operator = \"exists\"
"

end Config

end InfraPolicy
