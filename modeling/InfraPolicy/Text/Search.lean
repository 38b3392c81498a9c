/-!
# Searching text

Text as a list of characters. It is cut at a separator by `List.splitOn`, and compared with what it
should begin with by `List.isPrefixOf`; here is what is left behind such a beginning, and the search
for one text inside another.
-/

namespace InfraPolicy.Text

/-- The text behind the given characters, if it begins with them. -/
def strip? (cs part : List Char) : Option (List Char) :=
  part.isPrefixOf? cs

/-- Do the given characters occur somewhere in the text, in a row? -/
def hasInfix : List Char → List Char → Bool
  | [], part => part.isEmpty
  | c :: cs, part => part.isPrefixOf (c :: cs) || hasInfix cs part

end InfraPolicy.Text
