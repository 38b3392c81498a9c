import InfraPolicy.Module.Attributes
import InfraPolicy.Module.Scope
import InfraPolicy.Resource.Basic

/-!
# Modules

The source files of a directory form a module. Its resources are evaluated in the scope that its
files share.
-/

namespace InfraPolicy

/-- How the text of a file is obtained from its name. -/
abbrev FileReader := String → Except FileFault String

namespace FileReader

/-- Read a file; that it cannot be read is an error. -/
def text (read : FileReader) (path : String) : Except Error String :=
  (read path).mapError .unreadable

end FileReader

/-- The configuration of one directory: its resources, and the names that its expressions refer
to. -/
structure Module where
  resources : List Resource := []
  scope : Hcl.Scope := {}
  files : List String := []
deriving Inhabited

namespace Document

/-- Read a source file. -/
def load (read : FileReader) (path : String) : Except Error Document := do
  parse path (← read.text path)

/-- The resource that a block declares. Its labels are its kind and its name, and nothing else. -/
def resource? (scope : Hcl.Scope) (location : Location) (b : Hcl.Block) : Option Resource :=
  match b.labels with
  | [kind, name] =>
    if b.name == "resource" then
      some { kind, name, attributes := Hcl.attributes scope b.body, location }
    else none
  | _ => none

/-- The resources of a document, in order. -/
def resources (scope : Hcl.Scope) (d : Document) : List Resource :=
  d.blocks.filterMap fun (location, b) => resource? scope location b

end Document

/-- Read a values file. -/
def loadValues (read : FileReader) (path : String) : Except Error Fields := do
  parseValues path (← read.text path)

namespace Module

/-- The module of documents, with values for its variables. -/
def ofDocuments (documents : List Document) (values : Fields) : Module :=
  let scope := Hcl.Scope.ofDocuments documents values
  { resources := documents.flatMap (Document.resources scope)
    scope
    files := documents.map Document.file }

/-- Read the files of a module, and the values file if there is one. -/
def load (read : FileReader) (files : List String) (valuesFile : Option String) :
    Except Error Module := do
  let documents ← files.mapM (Document.load read)
  let values ←
    match valuesFile with
    | some path => loadValues read path
    | none => .ok []
  return ofDocuments documents values

end Module

end InfraPolicy
