import InfraPolicy.Module.Document
import InfraPolicy.Value.Equality

/-!
# The scope of a module

The documents of a module share their variables and locals. Locals may refer to locals declared
later, so they are evaluated in passes: once all of them, then again until nothing changes, but no
more often than there are declarations.
-/

namespace InfraPolicy.Hcl.Scope

/-- Evaluate every local once, each in the scope that the ones before it leave. -/
def firstPass (defs : List (String × Expr)) (scope : Scope) : Scope :=
  defs.foldl (fun s (name, e) => s.setLocal name (s.eval e)) scope

/-- Evaluate a local again and keep its value if the new one is the same. -/
def update (state : Scope × Bool) (d : String × Expr) : Scope × Bool :=
  let (scope, changed) := state
  let value := scope.eval d.2
  if (Fields.get? scope.locals d.1).any fun old => old.identical value then (scope, changed)
  else (scope.setLocal d.1 value, true)

/-- Evaluate every local again, and tell whether a value changed. -/
def nextPass (defs : List (String × Expr)) (scope : Scope) : Scope × Bool :=
  defs.foldl update (scope, false)

/-- Passes until nothing changes, at most as many as given. -/
def settle (defs : List (String × Expr)) : Nat → Scope → Scope
  | 0, scope => scope
  | passes + 1, scope =>
    match nextPass defs scope with
    | (scope, true) => settle defs passes scope
    | (scope, false) => scope

/-- Give values to locals. -/
def resolveLocals (defs : List (String × Expr)) (scope : Scope) : Scope :=
  settle defs defs.length (firstPass defs scope)

/-- Set variables one after another. -/
def setVariables (scope : Scope) (pairs : List (String × Value)) : Scope :=
  pairs.foldl (fun s (name, v) => s.setVariable name v) scope

/-- The scope of documents: the defaults of their variables, then the values that are given, and the
locals that follow from them. -/
def ofDocuments (documents : List Document) (values : Fields) : Scope :=
  let defaults := documents.flatMap Document.defaults
  let scope := (setVariables {} defaults).setVariables values
  resolveLocals (documents.flatMap Document.localDefs) scope

end InfraPolicy.Hcl.Scope
