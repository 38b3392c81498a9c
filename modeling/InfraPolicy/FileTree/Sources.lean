import InfraPolicy.FileTree.Basic
import InfraPolicy.Ignore.Line

/-!
# Source files

The source files of a directory, or of a whole tree, in the order of their names. Hidden entries and
those that ignore files exclude are left out, and nothing below an excluded directory is looked at.

There are three kinds of ignore files. `.ignore` counts everywhere. `.gitignore` and the list of
excluded files of a repository count within a repository only, that is, up to the nearest directory
that has an entry `.git`. Files of deeper directories win over those further up.
-/

namespace InfraPolicy

/-- What the ignore files of a directory say. -/
structure IgnoreLevel where
  /-- The name of the directory in the one above. -/
  name : String
  plain : List Ignore.Line
  git : List Ignore.Line
  exclude : List Ignore.Line
  isRepository : Bool
deriving Inhabited

namespace IgnoreLevel

/-- The lines of an ignore file, given by its path in a tree. -/
def linesAt (t : FileTree) (path : List String) : List Ignore.Line :=
  match path.foldlM FileTree.child? t with
  | some (.file content) => Ignore.parse content
  | _ => []

/-- What a directory says about the entries that are to be skipped. -/
def ofTree (name : String) (t : FileTree) : IgnoreLevel where
  name
  plain := linesAt t [".ignore"]
  git := linesAt t [".gitignore"]
  exclude := linesAt t [".git", "info", "exclude"]
  isRepository := (t.child? ".git").isSome

/-- What the lines of one kind say about a path: the nearest directory with a line that matches
decides. -/
def effect? (lines : IgnoreLevel → List Ignore.Line) (isDir : Bool) :
    List IgnoreLevel → String → Option Ignore.Effect
  | [], _ => none
  | l :: above, path =>
    match Ignore.effect? (lines l) path isDir with
    | some e => some e
    | none => effect? lines isDir above (l.name ++ "/" ++ path)

/-- The directories up to the nearest repository; none outside of repositories. -/
def withinRepository : List IgnoreLevel → List IgnoreLevel
  | [] => []
  | l :: above =>
    if l.isRepository then [l]
    else if above.any isRepository then l :: withinRepository above
    else []

/-- Is an entry of the first directory looked at? -/
def admits (levels : List IgnoreLevel) (name : String) (isDir : Bool) : Bool :=
  let repository := withinRepository levels
  match effect? plain isDir levels name <|> effect? git isDir repository name <|>
      effect? exclude isDir repository name with
  | some .skip => false
  | some .keep => true
  | none => name.toList.head? != some '.'

end IgnoreLevel

namespace FileTree

/-- The extension of source files. -/
def sourceExtension : String := "tf"

mutual

/-- The source files at an entry that is looked at; directories are entered if `deep`. -/
def sourcesAt (deep : Bool) (levels : List IgnoreLevel) (path name : String) :
    FileTree → List String
  | .file _ => if PathName.extensionOf? name == some sourceExtension then [path] else []
  | .dir entries =>
    if deep then sourcesIn deep (IgnoreLevel.ofTree name (.dir entries) :: levels) path entries
    else []

/-- The source files among the entries of a directory. -/
def sourcesIn (deep : Bool) (levels : List IgnoreLevel) (path : String) :
    List (String × FileTree) → List String
  | [] => []
  | (name, t) :: rest =>
    let here :=
      if IgnoreLevel.admits levels name t.isDir then
        sourcesAt deep levels (PathName.join path name) name t
      else []
    here ++ sourcesIn deep levels path rest

end

end FileTree

namespace Place

/-- The ignore files of the directories above a place, the nearest one first. -/
def levelsAbove : List (String × FileTree) → List IgnoreLevel
  | [] => []
  | (_, dir) :: above => .ofTree ((above.head?.map Prod.fst).getD "") dir :: levelsAbove above

/-- The ignore files of a directory and of those above it. -/
def levels (p : Place) : List IgnoreLevel :=
  .ofTree ((p.above.head?.map Prod.fst).getD "") p.node :: levelsAbove p.above

end Place

namespace Workspace

/-- The source files of a target: the target itself if it is a file, or those in the directory. -/
def sources (w : Workspace) (path : String) (deep : Bool) : Except Error (List String) :=
  match w.find path with
  | .ok p =>
    if p.node.isDir then .ok (FileTree.sourcesIn deep p.levels path p.node.entries)
    else .ok [path]
  | .error _ => .error (.unreadable (.noTarget path))

end Workspace

end InfraPolicy
