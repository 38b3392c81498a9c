import InfraPolicy.Cli.Arguments
import InfraPolicy.Project.Options

/-!
# Commands

The commands of the command line and the options that each takes.
-/

namespace InfraPolicy.Cli

/-- What the program is asked to do. -/
inductive Command where
  /-- Check the source files of a target. -/
  | scan (target : String) (options : Options) (minSeverity format output : Option String)
  /-- List the rules that are known. -/
  | listRules (options : Options) (format : String)
  /-- Write a configuration file. -/
  | init (force : Bool)
  | version
deriving Inhabited, Repr

/-- The options about rules, which two commands share. -/
def ruleSpecs : List OptionSpec :=
  [{ name := "config", letter := some 'c', kind := .file },
    { name := "rules", letter := some 'r', kind := .file },
    { name := "extra-rules", kind := .files },
    { name := "no-builtin", kind := .switch }]

/-- The options of a scan. -/
def scanSpecs : List OptionSpec :=
  ruleSpecs ++
    [{ name := "var-file", kind := .file },
      { name := "strict", kind := .switch },
      { name := "min-severity", kind := .text },
      { name := "recursive", letter := some 'R', kind := .switch },
      { name := "format", letter := some 'f', kind := .text },
      { name := "output", letter := some 'o', kind := .file }]

/-- The options of the list of rules. -/
def listSpecs : List OptionSpec :=
  ruleSpecs ++ [{ name := "format", letter := some 'f', kind := .text }]

/-- The options of writing a configuration file. -/
def initSpecs : List OptionSpec :=
  [{ name := "force", kind := .switch }]

/-- The options about rules that are given. -/
def ruleOptions (a : Arguments) : Options :=
  { config := a.value? "config"
    rules := a.value? "rules"
    extraRules := a.values "extra-rules"
    disableBuiltin := a.has "no-builtin" }

/-- The name of the environment variable that turns strict mode on. -/
def strictVariable : String := "GATEKEEPER_STRICT"

/-- Is strict mode on? The option wins over the environment, which says `true` or `false`. -/
def strict? (a : Arguments) (environment : Option String) : Option Bool :=
  if a.has "strict" then some true
  else
    match environment with
    | none | some "false" => some false
    | some "true" => some true
    | some _ => none

/-- Read the arguments of a scan. Without a target the current directory is scanned. -/
def scan? (environment : Option String) (arguments : List String) : Option Command := do
  let a ← Arguments.read? scanSpecs 1 arguments
  let strict ← strict? a environment
  let target := a.positional.headD "."
  if target.isEmpty then none
  else
    let options :=
      { ruleOptions a with
        valuesFile := a.value? "var-file"
        recursive := a.has "recursive"
        strict := if strict then some true else none }
    return .scan target options (a.value? "min-severity") (a.value? "format") (a.value? "output")

/-- The command of arguments, where `environment` is the value of `strictVariable`. There is none if
the arguments are wrong in any way. -/
def Command.parse? (environment : Option String) : List String → Option Command
  | "scan" :: rest => scan? environment rest
  | "list-rules" :: rest => do
    let a ← Arguments.read? listSpecs 0 rest
    return .listRules (ruleOptions a) ((a.value? "format").getD "table")
  | "init" :: rest => do
    let a ← Arguments.read? initSpecs 0 rest
    return .init (a.has "force")
  | "--version" :: _ => some .version
  | argument :: _ => if ['-', 'V'].isPrefixOf argument.toList then some .version else none
  | [] => none

/-- The files that a command may read by name. Those of a directory that is scanned are not among
them. -/
def Command.files : Command → List String
  | .scan target options _ _ _ =>
    [target, PathName.join target Config.fileName,
      PathName.join (PathName.parentText target) Config.fileName] ++ optionFiles options
  | .listRules options _ => Config.fileName :: optionFiles options
  | .init _ => [Config.fileName]
  | .version => []
where
  optionFiles (o : Options) : List String :=
    o.config.toList ++ o.rules.toList ++ o.extraRules ++ o.valuesFile.toList

end InfraPolicy.Cli
