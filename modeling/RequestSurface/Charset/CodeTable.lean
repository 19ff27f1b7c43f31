/-!
# Coded sets of characters

Sets of characters that have numbers of two bytes. The characters of a set mostly have numbers that
follow one another, so a set is kept as its runs.
-/

namespace RequestSurface.Charset

/-- Characters whose codes follow one another: the code of the first one, and all of them. -/
structure Run where
  first : Nat
  characters : Array Char

/-- A coded set of characters. -/
structure CodeTable where
  runs : List Run

namespace CodeTable

/-- The set with some runs, each given by its first code and the text of its characters. -/
def ofRuns (runs : List (Nat × String)) : CodeTable where
  runs := runs.map fun (first, text) => ⟨first, text.toList.toArray⟩

/-- The character of a code, if the set has one. -/
def charAt? (table : CodeTable) (code : Nat) : Option Char :=
  table.runs.findSome? fun run =>
    if run.first ≤ code then run.characters[code - run.first]? else none

/-- The characters of the set. -/
def characters (table : CodeTable) : List Char :=
  table.runs.flatMap (·.characters.toList)

end CodeTable

/-- Which numbers below a bound belong to characters of a list. -/
def marksOf (bound : Nat) (characters : List Char) : Array Bool :=
  characters.foldl (fun marks sign => marks.setIfInBounds sign.toNat true)
    (Array.replicate bound false)

end RequestSurface.Charset
