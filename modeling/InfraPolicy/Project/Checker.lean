import InfraPolicy.Report.Result
import InfraPolicy.Rule.Builtin
import InfraPolicy.Rule.Policy
import InfraPolicy.RuleFile.Load

/-!
# Checkers

A checker has the rules of all layers: the built-in ones, those of the project configuration, and
those of rule files. It checks source files directory by directory, each directory being a module of
its own, and applies the rules that the policy admits to every resource.
-/

namespace InfraPolicy

/-- Where rules come from and which of them are applied. -/
structure CheckerOptions where
  policy : Policy := {}
  /-- The rules of the project configuration. -/
  configRules : List RuleDef := []
  /-- Rule files, the later ones over the earlier ones. -/
  ruleFiles : List String := []
  /-- A file with values of variables. -/
  valuesFile : Option String := none
deriving Inhabited

namespace CheckerOptions

/-- The built-in rules, unless they are left out. -/
def builtinLayer (o : CheckerOptions) : List Rule :=
  if o.policy.disableBuiltin then [] else Builtin.rules

/-- The rules of the project configuration. -/
def configLayer (o : CheckerOptions) : Except Error (List Rule) :=
  (RuleDef.compileAll o.configRules).mapError .rule

/-- The layers of rules, in order. -/
def layers (o : CheckerOptions) (read : FileReader) : Except Error (List (List Rule)) := do
  let config ← o.configLayer
  let files ← o.ruleFiles.mapM (RuleFile.load read)
  return o.builtinLayer :: config :: files.map RuleSet.rules

end CheckerOptions

/-- What a check needs beside the files: rules, a policy, and perhaps a file with values of
variables. -/
structure Checker where
  /-- The rules of all layers. -/
  rules : List Rule
  policy : Policy
  valuesFile : Option String
deriving Inhabited

/-- What the check of one module finds. -/
structure Findings where
  resourcesFound : Nat
  violations : List Violation
deriving DecidableEq, Repr, Inhabited

namespace Checker

/-- The checker for options: the layers merged one after another. -/
def ofOptions (read : FileReader) (o : CheckerOptions) : Except Error Checker := do
  let layers ← o.layers read
  return { rules := layers.foldl Rule.merge [], policy := o.policy, valuesFile := o.valuesFile }

/-- The rules that are applied. -/
def activeRules (c : Checker) : List Rule :=
  c.policy.filter c.rules

/-- The violations of one resource, in the order of the rules. -/
def violationsOf (c : Checker) (r : Resource) : List Violation :=
  c.activeRules.filterMap fun rule => rule.violation? c.policy.strict r

/-- Add a file to the group of its directory, or to a new group at the end. -/
def addToGroups (groups : List (List PathName.Component × List String)) (file : String) :
    List (List PathName.Component × List String) :=
  match groups with
  | [] => [(PathName.parent file, [file])]
  | (dir, files) :: rest =>
    if dir = PathName.parent file then (dir, files ++ [file]) :: rest
    else (dir, files) :: addToGroups rest file

/-- The files of each directory, in the order in which the directories first appear. -/
def byDirectory (files : List String) : List (List PathName.Component × List String) :=
  files.foldl addToGroups []

/-- Check the files of one module. -/
def checkModule (c : Checker) (read : FileReader) (files : List String) :
    Except Error Findings := do
  let m ← Module.load read files c.valuesFile
  return ⟨m.resources.length, m.resources.flatMap c.violationsOf⟩

/-- Check files, directory by directory. -/
def check (c : Checker) (read : FileReader) (files : List String) : Except Error CheckResult := do
  let findings ← (byDirectory files).mapM fun group => c.checkModule read group.2
  return {
    violations := findings.flatMap Findings.violations
    filesScanned := files.length
    resourcesFound := (findings.map Findings.resourcesFound).foldr (· + ·) 0
    rulesEvaluated := c.activeRules.length }

end Checker

end InfraPolicy
