import InfraPolicy.Rule.Fault

/-!
# Errors

Everything that can go wrong between a command and its answer, by cause. Errors of syntax name the
file and nothing more.
-/

namespace InfraPolicy

/-- Why a file cannot be read. -/
inductive FileFault where
  | notFound
  | isDirectory
  /-- A name goes on after a file. -/
  | notDirectory
  | notUtf8
  /-- A target that is neither a file nor a directory. -/
  | noTarget (path : String)
deriving DecidableEq, Repr, Inhabited

namespace FileFault

/-- What a fault says, in the words of the operating system where it is the one that complains. -/
def message : FileFault → String
  | .notFound => "No such file or directory (os error 2)"
  | .isDirectory => "Is a directory (os error 21)"
  | .notDirectory => "Not a directory (os error 20)"
  | .notUtf8 => "stream did not contain valid UTF-8"
  | .noTarget path => s!"{path} is not a file or directory"

end FileFault

/-- Why a rule file as a whole cannot be used. -/
inductive LoadFault where
  | malformed
  | versionNotText (typeName : String)
  | unexpectedAttribute (name : String)
  | unexpectedBlock (name : String)
  | unsupportedExtension
  | invalidVersion (text : String)
deriving DecidableEq, Repr, Inhabited

namespace LoadFault

/-- What is said after the name of the source. The reasons that other libraries give are left out:
nothing is said where the syntax is wrong, and of an invalid version only its text is named. -/
def detail : LoadFault → String
  | .malformed => ""
  | .versionNotText typeName => s!": `version` must be a string, got {typeName}"
  | .unexpectedAttribute name => s!": unexpected top-level attribute `{name}`"
  | .unexpectedBlock name => s!": unexpected top-level block `{name}`"
  | .unsupportedExtension =>
    ": unsupported rule file extension (expected .yaml, .yml or .hcl)"
  | .invalidVersion text => s!": invalid version `{text}`"

end LoadFault

/-- Why a run of the program fails. -/
inductive Error where
  /-- A configuration file is malformed. -/
  | parse (file : String)
  | load (source : String) (fault : LoadFault)
  | rule (e : RuleError)
  /-- The project configuration asks for an output format that does not exist. -/
  | unknownFormat (name : String)
  | unreadable (fault : FileFault)
  /-- The project configuration is malformed. -/
  | toml
  | json
deriving DecidableEq, Repr, Inhabited

namespace Error

/-- What an error says. Where the syntax of a file is wrong, the reason is left out. -/
def message : Error → String
  | .parse file => s!"Parse error in {file}"
  | .load source fault => s!"Failed to load rules from {source}{fault.detail}"
  | .rule e => e.message
  | .unknownFormat name => s!"Configuration error: unknown output format `{name}`"
  | .unreadable fault => s!"IO error: {fault.message}"
  | .toml => "TOML parse error"
  | .json => "JSON error"

end Error

end InfraPolicy
