/-!
# Sorted sets of texts

A set of texts as a list in increasing order without repetition.
-/

namespace InfraPolicy.Text

/-- Add a text to a sorted set. -/
def insertSorted (s : String) : List String → List String
  | [] => [s]
  | t :: rest =>
    if s < t then s :: t :: rest
    else if s = t then t :: rest
    else t :: insertSorted s rest

/-- The sorted set of the texts of a list. -/
def sortedSet (texts : List String) : List String :=
  texts.foldl (fun set s => insertSorted s set) []

end InfraPolicy.Text
