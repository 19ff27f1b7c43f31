import RequestSurface.Console.WidthTable
import RequestSurface.Text.Ranges

/-!
# Width

How many cells of a terminal a text takes. Most characters take one or two cells by themselves; a
joiner draws the next character into the one before it, and a mark after a narrow character may ask
for its picture, which is wide. What is drawn together is never cut.
-/

namespace RequestSurface.Console

/-- Code points without a cell. -/
def emptyTable : Text.RangeTable := .ofRows emptyRanges

/-- Code points with two cells. -/
def wideTable : Text.RangeTable := .ofRows wideRanges

/-- Code points with one cell whose pictures have two. -/
def pictureTable : Text.RangeTable := .ofRows pictureRanges

/-- The cells of a character by itself. Controls have none. -/
def charWidth (character : Char) : Nat :=
  let code := character.toNat
  if 0x20 ≤ code && code < 0x7F then 1
  else if code < 0xA0 then 0
  else if emptyTable.holds character then 0
  else if wideTable.holds character then 2
  else 1

/-- The character that joins the next one to the one before it. -/
def joiner : Char := '\u200D'

/-- The character that asks for the picture of the one before it. -/
def pictureMark : Char := '\uFE0F'

/-- How much wider the last character with cells gets as a picture. -/
def pictureGain (last : Option Char) : Nat :=
  if (last.map pictureTable.holds).getD false then 1 else 0

/-- The cells of a text after the last character with cells. -/
def widthAfter (last : Option Char) : List Char -> Nat
  | [] => 0
  | head :: rest =>
      if head == joiner then widthAfter last (rest.drop 1)
      else if head == pictureMark then pictureGain last + widthAfter none rest
      else
        let cells := charWidth head
        cells + widthAfter (if cells = 0 then last else some head) rest
termination_by text => text.length
decreasing_by all_goals grind

/-- The cells of a text. -/
def width (text : List Char) : Nat :=
  widthAfter none text

/-- Characters that are drawn together, and their cells. -/
structure Cluster where
  text : List Char
  cells : Nat
  deriving Repr

namespace Cluster

/-- Add characters to the last of some clusters, which are in reverse; without one they are a
cluster without cells. -/
def extend (added : List Char) (gain : Nat) : List Cluster -> List Cluster
  | [] => [⟨added, 0⟩]
  | last :: others => ⟨last.text ++ added, last.cells + gain⟩ :: others

/-- Cut a text into clusters after those already read, which are in reverse, and the last character
with cells. -/
def readFrom (done : List Cluster) (last : Option Char) : List Char -> List Cluster
  | [] => done.reverse
  | head :: rest =>
      if done.isEmpty && (head == joiner || head == pictureMark) then
        readFrom [⟨[head], 0⟩] last rest
      else if head == joiner then
        readFrom (extend (head :: rest.take 1) 0 done) last (rest.drop 1)
      else if head == pictureMark then
        let gain := pictureGain last
        readFrom (extend [head] gain done) (if gain = 0 then last else none) rest
      else
        let cells := charWidth head
        if cells = 0 then readFrom (extend [head] 0 done) last rest
        else readFrom (⟨[head], cells⟩ :: done) (some head) rest
termination_by text => text.length
decreasing_by all_goals grind

/-- Cut a text into clusters. -/
def ofText (text : List Char) : List Cluster :=
  readFrom [] none text

/-- As many clusters as fit into so many cells. Half of a wide one is a blank. -/
def takeCells (cells : Nat) : List Cluster -> List Char
  | [] => []
  | head :: rest =>
      if head.cells ≤ cells then head.text ++ takeCells (cells - head.cells) rest
      else List.replicate cells ' '

/-- Cut clusters into lines of so many cells each, after a line that has been begun. -/
def chop (cells : Nat) (line : List Char) (used : Nat) : List Cluster -> List (List Char)
  | [] => if used = 0 then [] else [line]
  | head :: rest =>
      if cells < used + head.cells then line :: chop cells head.text head.cells rest
      else chop cells (line ++ head.text) (used + head.cells) rest

end Cluster

/-- Blanks, in a row. -/
def blanks (count : Nat) : List Char :=
  List.replicate count ' '

/-- Fill up a text on the right. -/
def padRight (cells : Nat) (text : List Char) : List Char :=
  text ++ blanks (cells - width text)

/-- Fill up a text on the left. -/
def padLeft (cells : Nat) (text : List Char) : List Char :=
  blanks (cells - width text) ++ text

/-- Put a text in the middle; an odd blank goes to the right. -/
def centre (cells : Nat) (text : List Char) : List Char :=
  padRight cells (blanks ((cells - width text) / 2) ++ text)

/-- Fill up or cut a text to so many cells. -/
def fitTo (cells : Nat) (text : List Char) : List Char :=
  if width text ≤ cells then padRight cells text else Cluster.takeCells cells (Cluster.ofText text)

end RequestSurface.Console
