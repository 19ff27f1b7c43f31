import RequestSurface.Console.Width
import RequestSurface.Text.Lines
import RequestSurface.Text.Pieces

/-!
# Wrapping

How a line is broken that takes too many cells: between words where it can be. A word that fits on
no line is cut into lines, or it is abridged. Each line then keeps to a side.
-/

namespace RequestSurface.Console

/-- How far apart tab stops are. -/
def tabStop : Nat := 8

/-- Replace the tabs between some pieces by blanks up to the next tab stop, from a column on. -/
def joinAtTabs (column : Nat) : List (List Char) -> List Char
  | [] => []
  | [last] => last
  | piece :: rest =>
      let reached := column + width (piece ++ [' '])
      let gap := (tabStop - reached % tabStop) % tabStop
      piece ++ blanks (1 + gap) ++ joinAtTabs (reached + gap) rest

/-- Replace tabs by blanks up to the next tab stop. -/
def expandTabs (line : List Char) : List Char :=
  joinAtTabs 0 (Text.piecesAt '\t' line)

/-- Cut a line into words. A word has the blanks after it, and the first one those before it. -/
def words (line : List Char) : List (List Char) :=
  let leading := line.takeWhile Text.isBlank
  match cut (line.drop leading.length) with
  | [] => []
  | first :: others => (leading ++ first) :: others
where
  /-- Cut before every character that follows a blank and is none. -/
  cut : List Char -> List (List Char)
    | [] => []
    | [only] => [[only]]
    | head :: next :: rest =>
        match cut (next :: rest) with
        | [] => [[head]]
        | word :: others =>
            if Text.isBlank head && !Text.isBlank next then [head] :: word :: others
            else (head :: word) :: others

/-- What becomes of a word that fits on no line. -/
inductive Overflow where
  | fold
  | abridge
  deriving DecidableEq, Repr

/-- Lay out words in lines of so many cells, after a line that has been begun and the cells it
takes. -/
def layOut (overflow : Overflow) (cells : Nat) (line : List Char) (used : Nat) :
    List (List Char) -> List (List Char)
  | [] => [line]
  | word :: rest =>
      let needed := width (Text.trimEnd word)
      if used + needed ≤ cells then
        layOut overflow cells (line ++ word) (used + width word) rest
      else
        let finished := if line.isEmpty then [] else [line]
        if cells < needed && overflow == .fold then
          let parts := Cluster.chop cells [] 0 (Cluster.ofText word)
          let last := parts.getLast?.getD []
          finished ++ parts.dropLast ++ layOut overflow cells last (width last) rest
        else finished ++ layOut overflow cells word (width word) rest

/-- Break a line between words. A blank line stays whole. -/
def breakLine (overflow : Overflow) (cells : Nat) (line : List Char) : List (List Char) :=
  match words line with
  | [] => [line]
  | parts => layOut overflow cells [] 0 parts

/-- Drop blanks from the end of a line that has more characters than there are cells, as many as are
too many. -/
def cropBlanks (cells : Nat) (line : List Char) : List Char :=
  let spare := line.length - (Text.trimEnd line).length
  line.take (line.length - min spare (line.length - cells))

/-- Cut a line that takes too many cells; where words are abridged, a mark tells that it was cut. -/
def truncate (overflow : Overflow) (cells : Nat) (line : List Char) : List Char :=
  if width line ≤ cells then line
  else
    match overflow with
    | .fold => fitTo cells line
    | .abridge => fitTo (cells - 1) line ++ ['…']

/-- Where a line keeps to: no side in particular, a side, or the middle. -/
inductive Side where
  | none
  | left
  | middle
  | right
  deriving DecidableEq, Repr

/-- Fill up a line. -/
def Side.justify (side : Side) (overflow : Overflow) (cells : Nat) (line : List Char) : List Char :=
  match side with
  | none => truncate overflow cells line
  | left => padRight cells (truncate overflow cells line)
  | middle => centre cells (truncate overflow cells (Text.trimEnd line))
  | right => padLeft cells (truncate overflow cells (Text.trimEnd line))

/-- Break a text into lines of so many cells. -/
def wrap (side : Side) (overflow : Overflow) (cells : Nat) (text : List Char) : List (List Char) :=
  (Text.piecesAt '\n' text).flatMap fun line =>
    (breakLine overflow cells (expandTabs line)).map fun part =>
      side.justify overflow cells (cropBlanks cells part)

end RequestSurface.Console
