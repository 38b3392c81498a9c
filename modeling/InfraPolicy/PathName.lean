/-!
# Path names

The names of files as texts with slashes. Two names are compared by their components: slashes that
follow each other count as one, and a dot counts only at the beginning of a relative name.
-/

namespace InfraPolicy

namespace PathName

/-- A component of a name, in the order in which they sort. -/
inductive Component where
  | root
  /-- The dot at the beginning. -/
  | current
  | parent
  | name (s : String)
deriving DecidableEq, Repr, Inhabited

namespace Component

/-- The kinds of components in order; names come last. -/
def rank : Component → Nat
  | .root => 0
  | .current => 1
  | .parent => 2
  | .name _ => 3

/-- Compare two components. Names are compared as texts. -/
def compare : Component → Component → Ordering
  | .name a, .name b => Ord.compare a b
  | a, b => Ord.compare a.rank b.rank

end Component

/-- The texts between slashes. -/
def segments (path : String) : List String :=
  (path.toList.splitOn '/').map String.ofList

/-- Does the name start at the root? -/
def isAbsolute (path : String) : Bool :=
  path.toList.head? == some '/'

/-- The component of a segment after the beginning of a name. -/
def component? (segment : String) : Option Component :=
  if segment == "" || segment == "." then none
  else if segment == ".." then some .parent
  else some (.name segment)

/-- The components of a name. -/
def components (path : String) : List Component :=
  let parts := segments path
  let start :=
    if isAbsolute path then [Component.root]
    else if parts.head? == some "." then [Component.current]
    else []
  start ++ parts.filterMap component?

/-- Compare component by component; a name sorts before its continuations. -/
def compareComponents : List Component → List Component → Ordering
  | [], [] => .eq
  | [], _ :: _ => .lt
  | _ :: _, [] => .gt
  | a :: as, b :: bs => (a.compare b).then (compareComponents as bs)

/-- Compare two names. -/
def compare (a b : String) : Ordering :=
  compareComponents (components a) (components b)

/-- The components of the directory that a name is in. The root and the empty name are in none. -/
def parent (path : String) : List Component :=
  let parts := components path
  if parts.getLast? == some .root then [] else parts.dropLast

/-- The last component, if it is a name. -/
def baseName? (path : String) : Option String :=
  match (components path).getLast? with
  | some (.name s) => some s
  | _ => none

/-- The text after the last dot of a file name, unless nothing stands before the dot. -/
def extensionOf? (name : String) : Option String :=
  let cs := name.toList.reverse
  match cs.dropWhile (· != '.') with
  | _ :: _ :: _ => some (String.ofList (cs.takeWhile (· != '.')).reverse)
  | _ => none

/-- The extension of the last component. -/
def extension? (path : String) : Option String :=
  (baseName? path).bind extensionOf?

/-- The name of an entry of a directory. -/
def join (dir name : String) : String :=
  if dir.isEmpty || dir.toList.getLast? == some '/' then dir ++ name else dir ++ "/" ++ name

/-- The text of the directory that a name is in, without slashes at its end and dots inside that do
not count. -/
def parentText (path : String) : String :=
  let keep := ((segments path).reverse.dropWhile fun s => s == "" || s == ".").drop 1
  let trimmed := (keep.dropWhile fun s => s == "" || s == ".").reverse
  if !trimmed.isEmpty then "/".intercalate trimmed
  else if isAbsolute path then "/"
  else if keep.getLast? == some "." then "."
  else ""

end PathName

end InfraPolicy
