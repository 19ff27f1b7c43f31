import RequestSurface.Text.Digits
import RequestSurface.Text.Pieces

/-!
# Numbers by range

Numbers that belong to code points, kept by closed ranges in increasing order. Tables are written as
rows `first-last:number` of hexadecimal numbers, and a code point is looked for by bisection.
-/

namespace RequestSurface.Text

/-- A closed range of code points and the number of all of them. -/
structure NumberedRange where
  first : Nat
  last : Nat
  number : Nat

/-- A sorted table of numbered ranges. -/
structure RangeMap where
  ranges : Array NumberedRange

namespace RangeMap

/-- Read one row `first-last:number`. -/
def readRow (row : List Char) : NumberedRange :=
  let first := row.takeWhile (· != '-')
  let last := (row.drop (first.length + 1)).takeWhile (· != ':')
  let number := row.drop (first.length + last.length + 2)
  ⟨(hexNumber? first).getD 0, (hexNumber? last).getD 0, (hexNumber? number).getD 0⟩

/-- Read a table from lines of rows, which blanks separate. -/
def ofRows (lines : List String) : RangeMap where
  ranges := (lines.flatMap fun line => (piecesAt ' ' line.toList).map readRow).toArray

/-- Bisect the ranges from `low` up to, not including, `high`. -/
def search (ranges : Array NumberedRange) (code low high : Nat) : Option Nat :=
  if low < high then
    let middle := (low + high) / 2
    match ranges[middle]? with
    | none => none
    | some range =>
        if code < range.first then search ranges code low middle
        else if range.last < code then search ranges code (middle + 1) high
        else some range.number
  else none
termination_by high - low

/-- The number of a character, if it lies in one of the ranges. -/
def find? (table : RangeMap) (character : Char) : Option Nat :=
  search table.ranges character.toNat 0 table.ranges.size

end RangeMap

end RequestSurface.Text
