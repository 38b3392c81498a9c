import InfraPolicy.Config.Toml
import InfraPolicy.FileTree.Sources
import InfraPolicy.Project.Checker

/-!
# Projects

A project is a target in a workspace, a file or a directory, together with its configuration file.
Options of a command win over the configuration.
-/

namespace InfraPolicy

/-- What a command asks for. -/
structure Options where
  /-- A configuration file other than the one of the target. -/
  config : Option String := none
  valuesFile : Option String := none
  /-- A rule file over the rules of the configuration. -/
  rules : Option String := none
  /-- Further rule files over that one. -/
  extraRules : List String := []
  /-- Look into directories below the target. -/
  recursive : Bool := false
  strict : Option Bool := none
  minSeverity : Option Severity := none
  disableBuiltin : Bool := false
deriving Inhabited, Repr

namespace Options

/-- The configuration file of a target: it is in the directory that is scanned. -/
def configPath (o : Options) (w : Workspace) (target : String) : String :=
  match o.config with
  | some path => path
  | none =>
    PathName.join (if w.isFile target then PathName.parentText target else target) Config.fileName

/-- What the options say about the policy wins. -/
def override (o : Options) (p : Policy) : Policy :=
  { p with
    strict := o.strict.getD p.strict
    minSeverity := o.minSeverity.getD p.minSeverity
    disableBuiltin := o.disableBuiltin || p.disableBuiltin }

/-- The configuration of a target. Where there is no file, nothing is configured. -/
def loadConfig (o : Options) (w : Workspace) (target : String) : Except Error Config := do
  let path := o.configPath w target
  let config ←
    if w.contains path then Config.parse (← FileReader.text w.read path) else .ok {}
  return { config with policy := o.override config.policy }

/-- The checker for a configuration. -/
def checker (o : Options) (w : Workspace) (config : Config) : Except Error Checker :=
  Checker.ofOptions w.read
    { policy := config.policy
      configRules := config.rules
      ruleFiles := o.rules.toList ++ o.extraRules
      valuesFile := o.valuesFile }

/-- Check the source files of a target. -/
def scan (o : Options) (w : Workspace) (target : String) : Except Error CheckResult := do
  let config ← o.loadConfig w target
  let checker ← o.checker w config
  let files ← w.sources target o.recursive
  checker.check w.read files

/-- The rules that are known in the working directory, applied or not. -/
def knownRules (o : Options) (w : Workspace) : Except Error (List Rule) := do
  let config ← o.loadConfig w "."
  let checker ← o.checker w config
  return checker.rules

/-- The output format for a target: an explicit choice, or that of the configuration, or the
console. -/
def outputFormat (o : Options) (w : Workspace) (target : String)
    (explicit : Option OutputFormat) : Except Error OutputFormat := do
  match explicit with
  | some f => return f
  | none =>
    let config ← o.loadConfig w target
    return (← config.outputFormat).getD .console

end Options

end InfraPolicy
