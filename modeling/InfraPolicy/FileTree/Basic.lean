import InfraPolicy.Error
import InfraPolicy.PathName

/-!
# File trees

Files and directories as values. A name is resolved from the root or from the working directory,
step by step: every step but the last has to lead to a directory, and two dots lead back up. The
entries of a directory stand in the order of their names.
-/

namespace InfraPolicy

/-- A file with its bytes, or a directory with its entries. -/
inductive FileTree where
  | file (content : ByteArray)
  | dir (entries : List (String × FileTree))
deriving Inhabited

namespace FileTree

def isDir : FileTree → Bool
  | .dir _ => true
  | .file _ => false

/-- The entries of a directory; a file has none. -/
def entries : FileTree → List (String × FileTree)
  | .dir entries => entries
  | .file _ => []

/-- The entry of a directory with a name. -/
def child? (t : FileTree) (name : String) : Option FileTree :=
  t.entries.lookup name

/-- Put an entry into its place among entries in the order of their names. -/
def putEntry (name : String) (t : FileTree) : List (String × FileTree) → List (String × FileTree)
  | [] => [(name, t)]
  | (n, old) :: rest =>
    if name < n then (name, t) :: (n, old) :: rest
    else if n = name then (name, t) :: rest
    else (n, old) :: putEntry name t rest

/-- Put a tree at the end of a path of names; what is missing on the way becomes a directory. -/
def put (t : FileTree) : List String → FileTree → FileTree
  | [], _ => t
  | name :: rest, tree =>
    .dir (putEntry name (put t rest ((tree.child? name).getD (.dir []))) tree.entries)

/-- Remove what is at the end of a path of names. -/
def remove : List String → FileTree → FileTree
  | [], tree => tree
  | [name], .dir entries => .dir (entries.filter fun e => e.1 != name)
  | name :: rest, .dir entries =>
    match entries.lookup name with
    | some sub => .dir (putEntry name (remove rest sub) entries)
    | none => .dir entries
  | _, .file content => .file content

end FileTree

/-- A node of a tree with the directories above it, the nearest one first, each with the name of the
entry that leads down. -/
structure Place where
  node : FileTree
  above : List (String × FileTree)
deriving Inhabited

namespace Place

/-- The names from the root down to the node. -/
def names (p : Place) : List String :=
  (p.above.map Prod.fst).reverse

/-- Take one step of a name. -/
def step (p : Place) (segment : String) : Except FileFault Place :=
  match p.node with
  | .file _ => .error .notDirectory
  | .dir entries =>
    if segment == "" || segment == "." then .ok p
    else if segment == ".." then
      match p.above with
      | (_, dir) :: rest => .ok ⟨dir, rest⟩
      | [] => .ok p
    else
      match entries.lookup segment with
      | some t => .ok ⟨t, (segment, p.node) :: p.above⟩
      | none => .error .notFound

end Place

/-- A tree and the working directory in it. -/
structure Workspace where
  root : FileTree := .dir []
  /-- The names from the root to the working directory, which exists. -/
  cwd : List String := []
deriving Inhabited

namespace Workspace

/-- Where a name starts: at the root, or in the working directory. -/
def start (w : Workspace) (path : String) : List String :=
  if PathName.isAbsolute path then [] else w.cwd

/-- The place at the end of steps from where a name starts. -/
def follow (w : Workspace) (path : String) (steps : List String) : Except FileFault Place :=
  (w.start path ++ steps).foldlM Place.step ⟨w.root, []⟩

/-- The place that a name leads to. The empty name leads nowhere. -/
def find (w : Workspace) (path : String) : Except FileFault Place :=
  if path.isEmpty then .error .notFound else w.follow path (PathName.segments path)

/-- The place that a name leads to, if there is one. -/
def find? (w : Workspace) (path : String) : Option Place :=
  (w.find path).toOption

def isFile (w : Workspace) (path : String) : Bool :=
  (w.find? path).any fun p => !p.node.isDir

def isDir (w : Workspace) (path : String) : Bool :=
  (w.find? path).any fun p => p.node.isDir

/-- Does the name lead anywhere? -/
def contains (w : Workspace) (path : String) : Bool :=
  (w.find? path).isSome

/-- The text of a file. -/
def read (w : Workspace) (path : String) : Except FileFault String := do
  match (← w.find path).node with
  | .dir _ => .error .isDirectory
  | .file content =>
    match String.fromUTF8? content with
    | some text => .ok text
    | none => .error .notUtf8

/-- Where a file of a name would be written: its directory has to exist, and no directory may be in
its place. -/
def target (w : Workspace) (path : String) : Except FileFault (List String) :=
  match w.find path with
  | .ok p => if p.node.isDir then .error .isDirectory else .ok p.names
  | .error .notFound =>
    let parts := PathName.segments path
    match parts.getLast? with
    | some last =>
      if last == "" || last == "." || last == ".." then .error .notFound
      else do
        let dir ← w.follow path parts.dropLast
        if dir.node.isDir then return dir.names ++ [last] else .error .notDirectory
    | none => .error .notFound
  | .error fault => .error fault

/-- Write the text of a file. -/
def write (w : Workspace) (path text : String) : Except FileFault Workspace := do
  let names ← w.target path
  return { w with root := FileTree.put (.file text.toUTF8) names w.root }

/-- The names from the root to where a name leads, whether anything is there or not. -/
def names (w : Workspace) (path : String) : List String :=
  (PathName.segments path).foldl
    (fun names s =>
      if s == "" || s == "." then names
      else if s == ".." then names.dropLast
      else names ++ [s])
    (w.start path)

/-- Put a tree where a name leads. Directories are made on the way. -/
def put (w : Workspace) (path : String) (t : FileTree) : Workspace :=
  { w with root := FileTree.put t (w.names path) w.root }

/-- Make a directory, if there is nothing of its name. -/
def makeDir (w : Workspace) (path : String) : Workspace :=
  if w.contains path then w else w.put path (.dir [])

/-- Remove what a name leads to. -/
def remove (w : Workspace) (path : String) : Workspace :=
  { w with root := FileTree.remove (w.names path) w.root }

end Workspace

end InfraPolicy
