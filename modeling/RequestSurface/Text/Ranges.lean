import RequestSurface.Text.Digits
import RequestSurface.Text.Pieces

/-!
# Range tables

Sets of code points, kept as closed ranges in increasing order. Tables are written as rows
`first-last` of hexadecimal numbers, and a code point is looked for by bisection.
-/

namespace RequestSurface.Text

/-- A sorted table of closed ranges of code points. -/
structure RangeTable where
  ranges : Array (Nat × Nat)

namespace RangeTable

/-- Read one row `first-last`. -/
def readRow (row : List Char) : Nat × Nat :=
  let first := row.takeWhile (· != '-')
  ((hexNumber? first).getD 0, (hexNumber? (row.drop (first.length + 1))).getD 0)

/-- Read a table from lines of rows, which blanks separate. -/
def ofRows (lines : List String) : RangeTable where
  ranges := (lines.flatMap fun line => (piecesAt ' ' line.toList).map readRow).toArray

/-- Bisect the ranges from `low` up to, not including, `high` for one that holds the code. -/
def search (ranges : Array (Nat × Nat)) (code low high : Nat) : Bool :=
  if low < high then
    let middle := (low + high) / 2
    match ranges[middle]? with
    | none => false
    | some (first, last) =>
        if code < first then search ranges code low middle
        else if last < code then search ranges code (middle + 1) high
        else true
  else false
termination_by high - low

/-- Whether a character lies in one of the ranges. -/
def holds (table : RangeTable) (character : Char) : Bool :=
  search table.ranges character.toNat 0 table.ranges.size

end RangeTable

end RequestSurface.Text
