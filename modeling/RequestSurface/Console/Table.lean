import RequestSurface.Console.Markup
import RequestSurface.Console.Wrapping
import RequestSurface.Text.Half

/-!
# Console output

Texts and tables as they are printed. Texts carry markup and are wrapped to the console. A table has
a title in the middle above it, a heavy frame around its head and a light one around its rows, and
columns as wide as their widest cell with a blank on each side, as far as the console is wide
enough.
-/

namespace RequestSurface.Console

/-- The cells of a line of the console. -/
def lineWidth : Nat := 400

/-- Lines as they are printed. Half of a character cannot be printed. -/
def printLines (lines : List (List Char)) : Except Fault String :=
  if lines.any Text.hasHalf then .error .halfCharacter
  else .ok (String.join (lines.map fun line => String.ofList line ++ "\n"))

/-- Print a text with markup. -/
def printText (text : String) : Except Fault String := do
  printLines (wrap .none .fold lineWidth (← shown text))

/-- A column: its heading and the side that its cells keep to. -/
structure Column where
  heading : String
  side : Side := .left

/-- A table with its title and the texts of its rows, all with markup. -/
structure Table where
  title : String
  columns : List Column
  rows : List (List String)

/-- The strokes of a horizontal line: at the left, within cells, between columns, at the right. -/
structure Strokes where
  left : Char
  within : Char
  between : Char
  right : Char

/-- Draw a horizontal line over columns of the given widths, without the blanks beside cells. -/
def Strokes.draw (strokes : Strokes) (widths : List Nat) : List Char :=
  let spans := widths.map fun cells => List.replicate (cells + 2) strokes.within
  strokes.left :: List.intercalate [strokes.between] spans ++ [strokes.right]

/-- The line above the head. -/
def topStrokes : Strokes := ⟨'┏', '━', '┳', '┓'⟩

/-- The line below the head. -/
def headStrokes : Strokes := ⟨'┡', '━', '╇', '┩'⟩

/-- The line below the rows. -/
def bottomStrokes : Strokes := ⟨'└', '─', '┴', '┘'⟩

/-- Divide and round to the nearest whole number, ties to the even one. -/
def nearestQuotient (numerator denominator : Nat) : Nat :=
  let quotient := numerator / denominator
  let twice := 2 * (numerator % denominator)
  if twice < denominator then quotient
  else if denominator < twice then quotient + 1
  else quotient + quotient % 2

/-- Take away from the widths of the columns that are chosen, evenly, and at most a limit from each.
The second number is how many of those to come are chosen. -/
def narrowEvenly (limit : Nat) (excess : Nat) : Nat -> List (Nat × Bool) -> List Nat
  | _, [] => []
  | chosen, (cells, isChosen) :: rest =>
      if isChosen then
        let share := min limit (nearestQuotient excess chosen)
        (cells - share) :: narrowEvenly limit (excess - share) (chosen - 1) rest
      else cells :: narrowEvenly limit excess chosen rest

/-- Narrow columns that take more cells than there are, in at most so many steps: the widest ones
first, down to the next ones, until all are as wide as each other. -/
def narrow (limit : Nat) : Nat -> List Nat -> List Nat
  | 0, widths => widths
  | steps + 1, widths =>
      let total := widths.foldl (· + ·) 0
      let widest := widths.foldl max 0
      let next := (widths.filter (· != widest)).foldl max 0
      if total ≤ limit then widths
      else
        let chosen := widths.map fun cells => (cells, cells == widest)
        let share := min (total - limit) (widest - next)
        narrow limit steps
          (narrowEvenly share (total - limit) (chosen.filter (·.2)).length chosen)

namespace Table

/-- What is shown in every cell of a row. -/
def shownRow (row : List String) : Except Fault (List (List Char)) :=
  row.mapM shown

/-- The width of every column with the blanks beside its cells: that of its widest line. -/
def columnWidths (limit : Nat) (columns : List Column) (rows : List (List (List Char))) :
    List Nat :=
  (List.range columns.length).map fun index =>
    let lines := rows.flatMap fun row => Text.lines (row[index]?.getD [])
    min limit ((lines.map width).foldl max 0 + 2)

/-- Draw a row between vertical strokes. A cell with fewer lines than others is filled up below. -/
def drawRow (stroke : Char) (columns : List Column) (widths : List Nat) (row : List (List Char)) :
    List (List Char) :=
  let cells := (columns.zip (widths.zip row)).map fun (column, cells, text) =>
    (cells, wrap column.side .abridge cells text)
  let height := (cells.map (·.2.length)).foldl max 1
  (List.range height).map fun index =>
    let parts := cells.map fun (cells, lines) =>
      ' ' :: padRight cells (lines[index]?.getD []) ++ [' ']
    stroke :: List.intercalate [stroke] parts ++ [stroke]

/-- The lines of a table. -/
def draw (table : Table) : Except Fault (List (List Char)) := do
  let head ← shownRow (table.columns.map Column.heading)
  let rows ← table.rows.mapM shownRow
  let frame := table.columns.length + 1
  let limit := lineWidth - frame
  let outer := narrow limit lineWidth (columnWidths limit table.columns (head :: rows))
  let widths := outer.map (· - 2)
  let total := outer.foldl (· + ·) frame
  let title ← shown table.title
  let titleLines := if table.title.isEmpty then [] else wrap .middle .fold total title
  return titleLines ++ [topStrokes.draw widths] ++ drawRow '┃' table.columns widths head ++
    [headStrokes.draw widths] ++ rows.flatMap (drawRow '│' table.columns widths) ++
    [bottomStrokes.draw widths]

/-- Print a table. -/
def print (table : Table) : Except Fault String := do
  printLines (← table.draw)

end Table

end RequestSurface.Console
