import RequestSurface.Text.Digits
import RequestSurface.Text.Pieces

/-!
# Replacement tables

A replacement table gives some code points a text to stand in their place. Tables are written as
rows `code:images` of hexadecimal numbers in increasing order, so a row is found by bisection.
-/

namespace RequestSurface.Text

/-- A sorted table of code points and the texts that replace them. -/
structure Replacements where
  rows : Array (Nat × List Char)

namespace Replacements

/-- Read one row `code:image,image`. A row without images drops its code point. -/
def readRow (row : List Char) : Nat × List Char :=
  let code := row.takeWhile (· != ':')
  let images := (piecesAt ',' (row.drop (code.length + 1))).filterMap fun image =>
    if image.isEmpty then none else (hexNumber? image).map Char.ofNat
  ((hexNumber? code).getD 0, images)

/-- Read a table from lines of rows, which blanks separate. -/
def ofRows (lines : List String) : Replacements where
  rows := (lines.flatMap fun line => (piecesAt ' ' line.toList).map readRow).toArray

/-- Bisect the rows from `low` up to, not including, `high`. -/
def search (rows : Array (Nat × List Char)) (code low high : Nat) : Option (List Char) :=
  if low < high then
    let middle := (low + high) / 2
    match rows[middle]? with
    | none => none
    | some (key, images) =>
        if key = code then some images
        else if key < code then search rows code (middle + 1) high
        else search rows code low middle
  else none
termination_by high - low

/-- The text that replaces a character, if the table has a row for it. -/
def find? (table : Replacements) (character : Char) : Option (List Char) :=
  search table.rows character.toNat 0 table.rows.size

end Replacements

end RequestSurface.Text
