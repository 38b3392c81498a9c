import InfraPolicy.Calendar.Date
import InfraPolicy.Calendar.Instant
import InfraPolicy.Calendar.TimeOfDay
import InfraPolicy.Cli.Arguments
import InfraPolicy.Cli.Command
import InfraPolicy.Cli.Run
import InfraPolicy.Condition.Basic
import InfraPolicy.Condition.Definition
import InfraPolicy.Condition.Operator
import InfraPolicy.Condition.Verdict
import InfraPolicy.Config.Basic
import InfraPolicy.Config.Toml
import InfraPolicy.Error
import InfraPolicy.FileTree.Basic
import InfraPolicy.FileTree.Sources
import InfraPolicy.Hcl.Parser
import InfraPolicy.Hcl.Reader
import InfraPolicy.Hcl.Scope
import InfraPolicy.Hcl.Syntax
import InfraPolicy.Hcl.Token
import InfraPolicy.Ignore.Glob
import InfraPolicy.Ignore.Line
import InfraPolicy.Json.Basic
import InfraPolicy.Json.Reader
import InfraPolicy.Json.Writer
import InfraPolicy.Main
import InfraPolicy.Module.Attributes
import InfraPolicy.Module.Basic
import InfraPolicy.Module.Document
import InfraPolicy.Module.Scope
import InfraPolicy.Number.Binary64
import InfraPolicy.Number.Layout
import InfraPolicy.Number.Padded
import InfraPolicy.Number.Power
import InfraPolicy.Number.Reading
import InfraPolicy.Number.Shortest
import InfraPolicy.Path.Basic
import InfraPolicy.Path.Text
import InfraPolicy.PathName
import InfraPolicy.Pattern.Basic
import InfraPolicy.Pattern.CharClass
import InfraPolicy.Pattern.Machine
import InfraPolicy.Pattern.Parser
import InfraPolicy.Pattern.Shape
import InfraPolicy.Project.Checker
import InfraPolicy.Project.Options
import InfraPolicy.Proofs.Alike
import InfraPolicy.Proofs.AlikeVerdicts
import InfraPolicy.Proofs.BlockAttributes
import InfraPolicy.Proofs.ChildOrder
import InfraPolicy.Proofs.ClassicalTruth
import InfraPolicy.Proofs.ConditionNodes
import InfraPolicy.Proofs.ConditionRules
import InfraPolicy.Proofs.Confidence
import InfraPolicy.Proofs.ConsoleListing
import InfraPolicy.Proofs.Directories
import InfraPolicy.Proofs.Documents
import InfraPolicy.Proofs.Evaluation
import InfraPolicy.Proofs.Existence
import InfraPolicy.Proofs.FieldLookup
import InfraPolicy.Proofs.FileOrder
import InfraPolicy.Proofs.ForwardReading
import InfraPolicy.Proofs.Grouping
import InfraPolicy.Proofs.JsonText
import InfraPolicy.Proofs.Leaves
import InfraPolicy.Proofs.Literals
import InfraPolicy.Proofs.LocalFixpoint
import InfraPolicy.Proofs.LocalSolution
import InfraPolicy.Proofs.Locals
import InfraPolicy.Proofs.Lookup
import InfraPolicy.Proofs.LooseEquality
import InfraPolicy.Proofs.LowerCase
import InfraPolicy.Proofs.MessageTemplate
import InfraPolicy.Proofs.Navigation
import InfraPolicy.Proofs.Noninterference
import InfraPolicy.Proofs.NumberComparison
import InfraPolicy.Proofs.NumberOrder
import InfraPolicy.Proofs.OpenSsh
import InfraPolicy.Proofs.Outcomes
import InfraPolicy.Proofs.PathText
import InfraPolicy.Proofs.PolicyFiltering
import InfraPolicy.Proofs.QuotedKeys
import InfraPolicy.Proofs.Refinement
import InfraPolicy.Proofs.ReportRoundTrip
import InfraPolicy.Proofs.RuleBatch
import InfraPolicy.Proofs.RuleLayers
import InfraPolicy.Proofs.RuleNotations
import InfraPolicy.Proofs.SortedKeys
import InfraPolicy.Proofs.SourcePlaces
import InfraPolicy.Proofs.SuppliedValues
import InfraPolicy.Proofs.ThroughJson
import InfraPolicy.Proofs.WrittenPaths
import InfraPolicy.Report.Console
import InfraPolicy.Report.Format
import InfraPolicy.Report.Json
import InfraPolicy.Report.Render
import InfraPolicy.Report.Result
import InfraPolicy.Report.RuleList
import InfraPolicy.Resource.Basic
import InfraPolicy.Resource.Location
import InfraPolicy.Resource.Message
import InfraPolicy.Rule.Basic
import InfraPolicy.Rule.Builtin
import InfraPolicy.Rule.Definition
import InfraPolicy.Rule.Fault
import InfraPolicy.Rule.Policy
import InfraPolicy.Rule.RuleSet
import InfraPolicy.Rule.Severity
import InfraPolicy.Rule.Version
import InfraPolicy.Rule.Violation
import InfraPolicy.RuleFile.Hcl
import InfraPolicy.RuleFile.Load
import InfraPolicy.RuleFile.Source
import InfraPolicy.RuleFile.Yaml
import InfraPolicy.Text.Blank
import InfraPolicy.Text.Distance
import InfraPolicy.Text.Scan
import InfraPolicy.Text.Search
import InfraPolicy.Text.SortedSet
import InfraPolicy.Toml.Parser
import InfraPolicy.Toml.Record
import InfraPolicy.Toml.Scalar
import InfraPolicy.Toml.Table
import InfraPolicy.Toml.Value
import InfraPolicy.Unicode.Age
import InfraPolicy.Unicode.Break
import InfraPolicy.Unicode.ByteRange
import InfraPolicy.Unicode.CaseChange
import InfraPolicy.Unicode.CaseMapping
import InfraPolicy.Unicode.Category
import InfraPolicy.Unicode.CodeSet
import InfraPolicy.Unicode.Property
import InfraPolicy.Unicode.PropertyNames
import InfraPolicy.Unicode.Recent
import InfraPolicy.Unicode.Script
import InfraPolicy.Unicode.ScriptExtension
import InfraPolicy.Value.Basic
import InfraPolicy.Value.Compare
import InfraPolicy.Value.Equality
import InfraPolicy.Value.Json
import InfraPolicy.Yaml.Cursor
import InfraPolicy.Yaml.Decode
import InfraPolicy.Yaml.Node
import InfraPolicy.Yaml.Plain
import InfraPolicy.Yaml.Scalar
import InfraPolicy.Yaml.Token
