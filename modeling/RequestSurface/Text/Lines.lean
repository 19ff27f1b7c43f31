/-!
# Blanks and lines

Which characters count as blank and which end a line. Every line boundary is blank, and a carriage
return directly before a line feed belongs to the same boundary.
-/

namespace RequestSurface.Text

/-- Characters that end a line. -/
def isLineBoundary (character : Char) : Bool :=
  let code := character.toNat
  (0x0A ≤ code && code ≤ 0x0D) || (0x1C ≤ code && code ≤ 0x1E) || code == 0x85 ||
    code == 0x2028 || code == 0x2029

/-- Characters that are blank. -/
def isBlank (character : Char) : Bool :=
  let code := character.toNat
  (0x09 ≤ code && code ≤ 0x0D) || (0x1C ≤ code && code ≤ 0x20) || code == 0x85 || code == 0xA0 ||
    code == 0x1680 || (0x2000 ≤ code && code ≤ 0x200A) || code == 0x2028 || code == 0x2029 ||
    code == 0x202F || code == 0x205F || code == 0x3000

/-- Drop the blanks at the end of a text. -/
def trimEnd : List Char -> List Char
  | [] => []
  | head :: tail =>
      match trimEnd tail with
      | [] => if isBlank head then [] else [head]
      | kept => head :: kept

/-- Drop the blanks at both ends of a text. -/
def trim (text : List Char) : List Char :=
  trimEnd (text.dropWhile isBlank)

/-- Cut a text into lines, given the part of the current line already read, in reverse. A boundary
at the very end opens no further line. -/
def linesFrom (line : List Char) : List Char -> List (List Char)
  | [] => if line.isEmpty then [] else [line.reverse]
  | '\r' :: '\n' :: rest => line.reverse :: linesFrom [] rest
  | head :: rest =>
      if isLineBoundary head then line.reverse :: linesFrom [] rest
      else linesFrom (head :: line) rest

/-- Cut a text into lines. -/
def lines (text : List Char) : List (List Char) :=
  linesFrom [] text

/-- Write every line end as a line feed. -/
def unifyLineEnds : List Char -> List Char
  | [] => []
  | '\r' :: '\n' :: rest => '\n' :: unifyLineEnds rest
  | '\r' :: rest => '\n' :: unifyLineEnds rest
  | head :: rest => head :: unifyLineEnds rest

/-- A description as documentation lines: the text without its outer blanks, line by line, each
line without its trailing blanks. -/
def docLines (text : String) : List String :=
  (lines (trim text.toList)).map fun line => String.ofList (trimEnd line)

end RequestSurface.Text
