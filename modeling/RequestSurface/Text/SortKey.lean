/-!
# Sort keys

A sort key is a row of texts. Rows are compared text by text, and texts by their code points; a
row that ends first comes first.
-/

namespace RequestSurface.Text

/-- What a thing is ordered by: the first text counts most. -/
abbrev SortKey : Type := List String

namespace SortKey

/-- Whether a key comes before another one or equals it. -/
def isUpTo : SortKey -> SortKey -> Bool
  | [], _ => true
  | _ :: _, [] => false
  | left :: lefts, right :: rights =>
      decide (left < right) || (left == right && isUpTo lefts rights)

/-- Put things in the order of their keys; those with equal keys keep theirs. -/
def sort {α : Type} (key : α -> SortKey) (things : List α) : List α :=
  things.mergeSort fun left right => (key left).isUpTo (key right)

end SortKey

end RequestSurface.Text
