import InfraPolicy.Toml.Value

/-!
# Building tables

A document defines its tables piece by piece: by headers, by dotted keys, and by headers of tables
further down. What may still be added to a table hangs on how it came to be, so a table under
construction remembers its `Origin`.

No key is given twice, a header does not open a table that a header or a dotted key has defined,
and a dotted key does not reach into a table that a header has defined.
-/

namespace InfraPolicy.Toml

/-- How a table came to be. -/
inductive Origin where
  /-- By a header of its own. -/
  | header
  /-- As a table on the way to one with a header. -/
  | implied
  /-- As a table on the way to a dotted key. -/
  | dotted
deriving DecidableEq, Repr, Inhabited

/-- What a key holds while the document is read. -/
inductive Node where
  | value (v : Value)
  | table (origin : Origin) (entries : List (String × Node))
  /-- Tables that headers in double brackets have added one by one. -/
  | tables (items : List (List (String × Node)))
deriving Inhabited

/-- A table under construction. -/
abbrev Entries := List (String × Node)

/-- A key with its dots resolved, and its value. -/
abbrev Pair := List String × Value

/-- A header and the pairs below it. -/
structure Section where
  /-- Double brackets add a table to a list of tables. -/
  adds : Bool
  path : List String
  pairs : List Pair
deriving Inhabited

namespace Entries

/-- The node under a key. -/
def get? (entries : Entries) (key : String) : Option Node :=
  entries.lookup key

/-- Put a node under a key, in place of the one it has. -/
def put (key : String) (node : Node) : Entries → Entries
  | [] => [(key, node)]
  | (k, n) :: rest => if k == key then (key, node) :: rest else (k, n) :: put key node rest

/-- Change the last of the tables that headers have added. -/
def changeLast (f : Entries → Option Entries) : List Entries → Option (List Entries)
  | [] => none
  | [last] => (f last).map fun changed => [changed]
  | first :: rest => (changeLast f rest).map (first :: ·)

/-- Add a value under a key at the end of a path of dotted keys. `takes` tells whether the table
reached takes pairs: it does if the pair stands below its header, or if dotted keys made it. -/
def addPair (key : String) (v : Value) : Bool → List String → Entries → Option Entries
  | takes, [], entries =>
    if !takes || (entries.get? key).isSome then none else some (entries ++ [(key, .value v)])
  | _, step :: rest, entries =>
    match entries.get? step with
    | none => (addPair key v true rest []).map fun sub => put step (.table .dotted sub) entries
    | some (.table origin sub) =>
      if origin == .header then none
      else
        (addPair key v (origin == .dotted) rest sub).map fun sub =>
          put step (.table origin sub) entries
    | some (.tables items) =>
      (changeLast (addPair key v false rest) items).map fun items =>
        put step (.tables items) entries
    | some (.value _) => none

/-- Add pairs to the table they stand in. -/
def addPairs (entries : Entries) (pairs : List Pair) : Option Entries :=
  pairs.foldlM (fun acc (path, v) =>
    match path.getLast? with
    | some key => addPair key v true path.dropLast acc
    | none => none) entries

/-- Change the table at the end of a path of headers. -/
def within (f : Entries → Option Entries) : List String → Entries → Option Entries
  | [], entries => f entries
  | step :: rest, entries =>
    match entries.get? step with
    | none => (within f rest []).map fun sub => put step (.table .implied sub) entries
    | some (.table origin sub) =>
      (within f rest sub).map fun sub => put step (.table origin sub) entries
    | some (.tables items) =>
      (changeLast (within f rest) items).map fun items => put step (.tables items) entries
    | some (.value _) => none

/-- Define the table of a header inside its parent. -/
def define (key : String) (pairs : List Pair) (parent : Entries) : Option Entries :=
  let begun : Option Entries :=
    match parent.get? key with
    | none => some []
    | some (.table .implied sub) => some sub
    | some _ => none
  (begun.bind (addPairs · pairs)).map fun sub => put key (.table .header sub) parent

/-- Add the table of a header in double brackets to the list of its key. -/
def append (key : String) (pairs : List Pair) (parent : Entries) : Option Entries :=
  let begun : Option (List Entries) :=
    match parent.get? key with
    | none => some []
    | some (.tables items) => some items
    | some _ => none
  begun.bind fun items =>
    (addPairs [] pairs).map fun sub => put key (.tables (items ++ [sub])) parent

/-- Add a section to the table of the document. -/
def addSection (root : Entries) (s : Section) : Option Entries :=
  match s.path.getLast? with
  | some key =>
    within (if s.adds then append key s.pairs else define key s.pairs) s.path.dropLast root
  | none => none

end Entries

namespace Node

mutual

/-- The finished value. -/
def toValue : Node → Value
  | .value v => v
  | .table _ entries => .table (entriesToPairs entries)
  | .tables items => .array (tablesToValues items)

def entriesToPairs : List (String × Node) → List (String × Value)
  | [] => []
  | (k, n) :: rest => (k, n.toValue) :: entriesToPairs rest

def tablesToValues : List (List (String × Node)) → List Value
  | [] => []
  | entries :: rest => .table (entriesToPairs entries) :: tablesToValues rest

end

end Node

/-- The table of a document: first the pairs before any header, then the sections. -/
def document? (pairs : List Pair) (sections : List Section) : Option Value := do
  let root ← Entries.addPairs [] pairs
  let entries ← sections.foldlM Entries.addSection root
  return .table (Node.entriesToPairs entries)

/-- An inline table, which nothing is added to later. -/
def inlineTable? (pairs : List Pair) : Option Value :=
  (Entries.addPairs [] pairs).map fun entries => .table (Node.entriesToPairs entries)

end InfraPolicy.Toml
