/-!
# Distance between texts

The least number of characters to insert, delete or replace in order to turn one text into
another, by the usual table that is filled row by row.
-/

namespace InfraPolicy.Text

/-- The next row of the table, from its first entry on. Each entry is the cheapest of replacing
`c`, which is free where it stands already, deleting it, or inserting a character. -/
def nextRow (c : Char) (left : Nat) : List Char → List Nat → List Nat
  | t :: target, diagonal :: above :: row =>
    let here := min (min (left + 1) (above + 1)) (diagonal + if c = t then 0 else 1)
    here :: nextRow c here target (above :: row)
  | _, _ => []

/-- Fill the rows for the characters of the source; the last entry of the last row is the
distance. -/
def fillRows (target : List Char) (row : List Nat) : List Char → List Nat
  | [] => row
  | c :: source =>
    let first := row.headD 0 + 1
    fillRows target (first :: nextRow c first target row) source

/-- The edit distance of two texts in characters. -/
def distance (source target : List Char) : Nat :=
  (fillRows target (List.range (target.length + 1)) source).getLastD 0

end InfraPolicy.Text
