import InfraPolicy.Yaml.Token

/-!
# Documents of YAML

The tree that tokens describe. An alias is kept as the number of the anchor that it refers to, since
it may refer to a node that it is part of; `Document.anchors` gives the nodes by number.

A text must hold one document. Where there is none at all, the document is an empty plain scalar.
-/

namespace InfraPolicy.Yaml

/-- A node of a document, with its tag if it has one. -/
inductive Node where
  | scalar (tag : Option String) (style : Style) (text : String)
  | sequence (tag : Option String) (items : List Node)
  | mapping (tag : Option String) (pairs : List (Node × Node))
  | alias (anchor : Nat)
deriving Inhabited

/-- A document as a tree with anchors. -/
structure Document where
  root : Node
  /-- The nodes with an anchor, by its number. -/
  anchors : List (Nat × Node)
deriving Inhabited

/-- The node where nothing is written. -/
def Node.nothing : Node :=
  .scalar none .plain ""

/-- What building the tree needs to know. -/
structure BuildState where
  tokens : List Token
  /-- Handles of tags and what they stand for. -/
  handles : List (String × String)
  /-- The number of the anchor that a name refers to now. -/
  names : List (String × Nat) := []
  /-- Anchors so far, whatever their numbers. -/
  count : Nat := 0
  /-- For every number the position of an anchor with it, the latest first. -/
  targets : List (Nat × Nat) := []
  /-- The nodes with an anchor, by its position. -/
  nodes : List (Nat × Node) := []
deriving Inhabited

/-- A step of building the tree. -/
abbrev Builder := StateT BuildState Option

namespace Builder

/-- The next token. -/
def peek : Builder (Option Token) := do
  return (← get).tokens.head?

/-- Go past the next token. -/
def drop : Builder Unit :=
  modify fun s => { s with tokens := s.tokens.drop 1 }

/-- Take the token if it is next, and tell whether it was. -/
def takeIf (t : Token) : Builder Bool := do
  if (← peek) == some t then do
    drop
    return true
  else return false

/-- Go past a token, which must be next. -/
def expect (t : Token) : Builder Unit := do
  if ← takeIf t then return () else failure

/-- Is one of the tokens next, or nothing? -/
def seesEnd (ends : List Token) : Builder Bool := do
  match ← peek with
  | some t => return ends.contains t
  | none => return true

/-- The full tag of a handle and a suffix. -/
def resolveTag (handle suffix : String) : Builder String := do
  if handle.isEmpty then return suffix
  else
    match (← get).handles.lookup handle with
    | some expansion => return expansion ++ suffix
    | none => failure

/-- An anchor and a tag, in any order, both optional. -/
def properties : Builder (Option String × Option String) := do
  let tag? : Builder (Option String) := do
    match ← peek with
    | some (.tag handle suffix) => do
      drop
      return some (← resolveTag handle suffix)
    | _ => return none
  let anchor? : Builder (Option String) := do
    match ← peek with
    | some (.anchor name) => do
      drop
      return some name
    | _ => return none
  match ← anchor? with
  | some name => return (some name, ← tag?)
  | none => do
    let tag ← tag?
    return (← anchor?, tag)

/-- Number an anchor, to which its name refers from here on, and give its position. The number is
that of the different names before, so that a name that is used again lets two anchors share a
number; the later one then counts. -/
def register (name : String) : Builder Nat := do
  let s ← get
  let number := s.names.length
  set { s with
    names := (name, number) :: s.names.filter fun p => p.1 != name
    count := s.count + 1
    targets := (number, s.count) :: s.targets }
  return s.count

mutual

/-- A node. Blocks may begin where `block` is set; a sequence without indentation may, where
`indentless` is set. -/
def node : Nat → Bool → Bool → Builder Node
  | 0, _, _ => failure
  | fuel + 1, block, indentless => do
    match ← peek with
    | some (.alias name) => do
      drop
      match (← get).names.lookup name with
      | some number => return .alias number
      | none => failure
    | _ => do
      let (anchor, tag) ← properties
      let position ← anchor.mapM register
      let n ← content fuel block indentless (anchor.isSome || tag.isSome) tag
      match position with
      | some k => modify fun s => { s with nodes := (k, n) :: s.nodes }
      | none => pure ()
      return n

/-- A node after its properties. With properties it may be empty. -/
def content : Nat → Bool → Bool → Bool → Option String → Builder Node
  | 0, _, _, _, _ => failure
  | fuel + 1, block, indentless, mayBeEmpty, tag => do
    match ← peek with
    | some (.scalar style text) => do
      drop
      return .scalar tag style text
    | some .flowSequence => do
      drop
      return .sequence tag (← flowItems fuel true)
    | some .flowMapping => do
      drop
      return .mapping tag (← flowPairs fuel true)
    | some .item =>
      if indentless then return .sequence tag (← indentlessItems fuel)
      else if mayBeEmpty then return .scalar tag .plain ""
      else failure
    | some .blockSequence =>
      if block then do
        drop
        return .sequence tag (← blockItems fuel)
      else if mayBeEmpty then return .scalar tag .plain ""
      else failure
    | some .blockMapping =>
      if block then do
        drop
        return .mapping tag (← blockPairs fuel)
      else if mayBeEmpty then return .scalar tag .plain ""
      else failure
    | _ => if mayBeEmpty then return .scalar tag .plain "" else failure

/-- Items of a block sequence up to and with its end. -/
def blockItems : Nat → Builder (List Node)
  | 0 => failure
  | fuel + 1 => do
    if ← takeIf .item then do
      let n ← (do
        if ← seesEnd [.item, .blockEnd] then return Node.nothing else node fuel true false)
      return n :: (← blockItems fuel)
    else do
      expect .blockEnd
      return []

/-- Items of a sequence that is not indented; it ends with the items. -/
def indentlessItems : Nat → Builder (List Node)
  | 0 => failure
  | fuel + 1 => do
    if ← takeIf .item then do
      let n ← (do
        if ← seesEnd [.item, .key, .value, .blockEnd] then return Node.nothing
        else node fuel true false)
      return n :: (← indentlessItems fuel)
    else return []

/-- Pairs of a block mapping up to and with its end. -/
def blockPairs : Nat → Builder (List (Node × Node))
  | 0 => failure
  | fuel + 1 => do
    if ← takeIf .key then do
      let k ← (do
        if ← seesEnd [.key, .value, .blockEnd] then return Node.nothing else node fuel true true)
      let v ← (do
        if ← takeIf .value then
          if ← seesEnd [.key, .value, .blockEnd] then return Node.nothing else node fuel true true
        else return Node.nothing)
      return (k, v) :: (← blockPairs fuel)
    else do
      expect .blockEnd
      return []

/-- Items between brackets up to and with the closing one. An item may be a single pair. -/
def flowItems : Nat → Bool → Builder (List Node)
  | 0, _ => failure
  | fuel + 1, first => do
    if ← takeIf .flowSequenceEnd then return []
    else do
      if !first then expect .comma
      if ← takeIf .flowSequenceEnd then return []
      else do
        let n ← (do
          if ← takeIf .key then return Node.mapping none [← flowPair fuel]
          else node fuel false false)
        return n :: (← flowItems fuel false)

/-- A single pair among the items between brackets, after the sign of its key. -/
def flowPair : Nat → Builder (Node × Node)
  | 0 => failure
  | fuel + 1 => do
    let k ← (do
      if ← seesEnd [.value, .comma, .flowSequenceEnd] then do
        drop
        return Node.nothing
      else node fuel false false)
    let v ← (do
      if ← takeIf .value then
        if ← seesEnd [.comma, .flowSequenceEnd] then return Node.nothing else node fuel false false
      else return Node.nothing)
    return (k, v)

/-- Pairs between braces up to and with the closing one. A value may be left out. -/
def flowPairs : Nat → Bool → Builder (List (Node × Node))
  | 0, _ => failure
  | fuel + 1, first => do
    if ← takeIf .flowMappingEnd then return []
    else do
      if !first then expect .comma
      if ← takeIf .flowMappingEnd then return []
      else if ← takeIf .key then do
        let k ← (do
          if ← seesEnd [.value, .comma, .flowMappingEnd] then return Node.nothing
          else node fuel false false)
        let v ← (do
          if ← takeIf .value then
            if ← seesEnd [.comma, .flowMappingEnd] then return Node.nothing
            else node fuel false false
          else return Node.nothing)
        return (k, v) :: (← flowPairs fuel false)
      else do
        let k ← node fuel false false
        return (k, Node.nothing) :: (← flowPairs fuel false)

end

/-- The directives before a document. The version may be given once and must be known, and a handle
may be declared once. -/
def directives (versioned : Bool) (declared : List String) : Nat → Builder Unit
  | 0 => failure
  | fuel + 1 => do
    match ← peek with
    | some (.version major minor) =>
      if versioned || major != 1 || !(minor == 1 || minor == 2) then failure
      else do
        drop
        directives true declared fuel
    | some (.handle name expansion) =>
      if declared.contains name then failure
      else do
        drop
        modify fun s => { s with handles := (name, expansion) :: s.handles }
        directives versioned (name :: declared) fuel
    | _ => return ()

/-- Is the token one that can only stand between documents? -/
def isBoundary : Option Token → Bool
  | none => true
  | some (.version ..) | some (.handle ..) | some .documentStart | some .documentEnd => true
  | _ => false

/-- Pass the marks after a document. -/
def documentEnds : Nat → Builder Unit
  | 0 => failure
  | fuel + 1 => do
    if ← takeIf .documentEnd then documentEnds fuel

/-- The only document of a text. -/
def document (fuel : Nat) : Builder Node := do
  match ← peek with
  | none => return Node.nothing
  | some t => do
    let root ← (do
      if isBoundary (some t) && t != .documentEnd then do
        directives false [] fuel
        expect .documentStart
        if isBoundary (← peek) then return Node.nothing else node fuel true false
      else node fuel true false)
    documentEnds fuel
    if (← peek).isNone then return root else failure

end Builder

/-- The handles of tags that are always there. -/
def standardHandles : List (String × String) :=
  [("!", "!"), ("!!", "tag:yaml.org,2002:")]

/-- Read a text that holds one document. -/
def Document.parse? (text : List Char) : Option Document := do
  let tokens ← Token.scan? text
  let fuel := 4 * tokens.length + 8
  let (root, s) ← (Builder.document fuel).run { tokens, handles := standardHandles }
  let anchors := s.targets.filterMap fun (number, position) =>
    (s.nodes.lookup position).map fun n => (number, n)
  some ⟨root, anchors⟩

end InfraPolicy.Yaml
