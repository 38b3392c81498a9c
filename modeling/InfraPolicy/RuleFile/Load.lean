import InfraPolicy.Module.Basic
import InfraPolicy.RuleFile.Hcl
import InfraPolicy.RuleFile.Yaml
import InfraPolicy.PathName
import InfraPolicy.Unicode.CaseMapping

/-!
# Rule files by name

The extension of a rule file tells its format. It is looked at before the file is.
-/

namespace InfraPolicy.RuleFile

/-- How rules are written. -/
inductive Format where
  | yaml
  | hcl
deriving DecidableEq, Repr, Inhabited

/-- The format of the rule files with an extension, whose case does not matter. -/
def Format.ofExtension? (text : String) : Option Format :=
  match Unicode.lower text with
  | "yaml" | "yml" => some .yaml
  | "hcl" => some .hcl
  | _ => none

/-- Read a rule file. -/
def load (read : FileReader) (path : String) : Except Error RuleSet := do
  match (PathName.extension? path).bind Format.ofExtension? with
  | some .yaml => loadYaml path (← read.text path)
  | some .hcl => loadHcl path (← read.text path)
  | none => .error (.load path .unsupportedExtension)

end InfraPolicy.RuleFile
