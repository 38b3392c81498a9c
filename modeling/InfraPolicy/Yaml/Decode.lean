import InfraPolicy.Yaml.Node
import InfraPolicy.Yaml.Plain

/-!
# Reading data out of YAML

Steps from nodes to data of a known shape. Text is taken as it is written, whatever it would mean as
a plain scalar. Following an alias costs one of a limited number of jumps, and containers may not be
nested too deeply, so that a small text cannot stand for a huge document.
-/

namespace InfraPolicy.Yaml

/-- A step of reading: the nodes with an anchor are at hand, and jumps are counted down. -/
abbrev Decoder := ReaderT (List (Nat × Node)) (StateT Nat Option)

namespace Node

mutual

/-- The number of events that a reader of the document meets. -/
def events : Node → Nat
  | .scalar .. => 1
  | .alias _ => 1
  | .sequence _ items => 2 + eventsOfItems items
  | .mapping _ pairs => 2 + eventsOfPairs pairs

/-- The events of items. -/
def eventsOfItems : List Node → Nat
  | [] => 0
  | n :: rest => events n + eventsOfItems rest

/-- The events of keys and values. -/
def eventsOfPairs : List (Node × Node) → Nat
  | [] => 0
  | (k, v) :: rest => events k + events v + eventsOfPairs rest

end

end Node

namespace Decoder

/-- Containers may not be nested deeper. -/
def depthLimit : Nat := 128

/-- Jumps that each event of a document pays for. -/
def jumpsPerEvent : Nat := 100

/-- The document does not fit. -/
def refuse {α : Type} : Decoder α :=
  failure

/-- Follow an alias. -/
def resolve (n : Node) : Decoder Node := do
  match n with
  | .alias number => do
    let left ← get
    if left == 0 then refuse
    else do
      set (left - 1)
      match (← read).lookup number with
      | some target => return target
      | none => refuse
  | other => return other

/-- The text of a scalar. -/
def text (n : Node) : Decoder String := do
  match ← resolve n with
  | .scalar _ _ s => return s
  | _ => refuse

/-- The tag of a scalar that has to be null. -/
def nullTag : String := "tag:yaml.org,2002:null"

/-- A node that may stand for nothing. -/
def optional (n : Node) : Decoder (Option Node) := do
  match ← resolve n with
  | .scalar tag .plain s =>
    match tag with
    | none => return if s.isEmpty || isNullText s then none else some (.scalar tag .plain s)
    | some t =>
      if t != nullTag then return some (.scalar tag .plain s)
      else if isNullText s then return none
      else refuse
  | other => return some other

/-- The items of a sequence; where nothing is written there are none. `depth` is how many containers
may still be entered. -/
def items (depth : Nat) (n : Node) : Decoder (List Node) := do
  match ← resolve n with
  | .sequence _ nodes => if depth == 0 then refuse else return nodes
  | .scalar _ .plain "" => return []
  | _ => refuse

/-- The pairs of a mapping with text as keys; where nothing is written there are none. -/
def fields (depth : Nat) (n : Node) : Decoder (List (String × Node)) := do
  match ← resolve n with
  | .mapping _ pairs =>
    if depth == 0 then refuse else pairs.mapM fun (k, v) => do return (← text k, v)
  | .scalar _ .plain "" => return []
  | _ => refuse

/-- The field with one of the given names, of which there may be only one. -/
def field (names : List String) (pairs : List (String × Node)) : Decoder (Option Node) := do
  match pairs.filter fun p => names.contains p.1 with
  | [] => return none
  | [(_, n)] => return some n
  | _ => refuse

/-- Is a local tag given, which has no meaning here? -/
def isLocal (tag : Option String) : Bool :=
  tag.any fun t => t.toList.head? == some '!'

/-- What a scalar means as JSON. A standard tag decides, whatever the style. -/
def scalarJson (n : Node) : Decoder Json := do
  let orRefuse (j : Option Json) : Decoder Json :=
    match j with
    | some j => return j
    | none => refuse
  match n with
  | .scalar tag style s =>
    if isLocal tag then refuse
    else
      match tag with
      | some "tag:yaml.org,2002:bool" => orRefuse ((boolText? s).map .bool)
      | some "tag:yaml.org,2002:int" => orRefuse ((intText? s).bind intJson?)
      | some "tag:yaml.org,2002:float" => orRefuse ((floatText? s).map floatJson)
      | some "tag:yaml.org,2002:null" => if isNullText s then return .null else refuse
      | some _ => return .string s
      | none => if style == .plain then orRefuse (plainJson? s) else return .string s
  | _ => refuse

/-- Any node as JSON, down to a depth. -/
def json : Nat → Node → Decoder Json
  | 0, n => do scalarJson (← resolve n)
  | depth + 1, n => do
    match ← resolve n with
    | .sequence tag nodes =>
      if isLocal tag then refuse else return .array (← nodes.mapM (json depth))
    | .mapping tag pairs =>
      if isLocal tag then refuse
      else return .object (← pairs.mapM fun (k, v) => do return (← text k, ← json depth v))
    | other => scalarJson other

end Decoder

/-- Read data out of a text that holds one document. -/
def decode? {α : Type} (step : Node → Decoder α) (content : String) : Option α := do
  let document ← Document.parse? content.toList
  let jumps := document.root.events * Decoder.jumpsPerEvent
  let (a, _) ← ((step document.root).run document.anchors).run jumps
  some a

end InfraPolicy.Yaml
