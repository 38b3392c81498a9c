import InfraPolicy.Hcl.Scope

/-!
# Attributes of blocks

The body of a block as attributes. Blocks inside it are grouped by name: one block is an object,
several are a list of objects. A block that is generated when the configuration is applied makes the
attribute it is labelled with computed.
-/

namespace InfraPolicy.Hcl

/-- The name of the blocks that generate others. -/
def generatorName : String := "dynamic"

/-- The labels that generators in a body name, in order. -/
def generated : List Item → List String
  | [] => []
  | .attr .. :: rest => generated rest
  | .block name labels _ :: rest =>
    if name == generatorName then labels.head?.toList ++ generated rest else generated rest

/-- Add a value to the group of a name. A new group comes last. -/
def addToGroup (name : String) (v : Value) : List (String × List Value) → List (String × List Value)
  | [] => [(name, [v])]
  | (n, vs) :: rest =>
    if n = name then (n, vs ++ [v]) :: rest else (n, vs) :: addToGroup name v rest

/-- Group values by name, in the order in which the names first occur. -/
def groupByName (pairs : List (String × Value)) : List (String × List Value) :=
  pairs.foldl (fun groups (name, v) => addToGroup name v groups) []

/-- What a group of blocks amounts to. -/
def groupValue : List Value → Value
  | [v] => v
  | vs => .list vs

/-- Put attributes together: those that are written, then groups of blocks, then what is generated;
a name that is repeated keeps its place and takes the later value. -/
def assemble (attrs blocks : List (String × Value)) (generated : List String) : Fields :=
  let groups := (groupByName blocks).map fun (name, vs) => (name, groupValue vs)
  ((Fields.ofList attrs).insertAll groups).insertAll (generated.map fun name => (name, .computed))

/-- The attributes of a body with their values. -/
def attrValues (scope : Scope) (body : List Item) : List (String × Value) :=
  (Item.attrs body).map fun (name, e) => (name, scope.eval e)

mutual

/-- The object that an item is, if it is a block that generates nothing. -/
def blockValue? (scope : Scope) : Item → Option (String × Value)
  | .attr .. => none
  | .block name _ body =>
    if name == generatorName then none
    else
      some (name, .object
        (assemble (attrValues scope body) (blockValues scope body) (generated body)))

/-- The objects that the blocks of a body are, in order. -/
def blockValues (scope : Scope) : List Item → List (String × Value)
  | [] => []
  | item :: rest => (blockValue? scope item).toList ++ blockValues scope rest

end

/-- The attributes of a body. -/
def attributes (scope : Scope) (body : List Item) : Fields :=
  assemble (attrValues scope body) (blockValues scope body) (generated body)

end InfraPolicy.Hcl
