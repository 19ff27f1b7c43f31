/-!
# Pieces of a text

Cutting a text at separators and joining the pieces again. Cutting always gives at least one
piece, and pieces may be empty.
-/

namespace RequestSurface.Text

/-- Cut a text at every character that separates. -/
def piecesBy (separates : Char -> Bool) : List Char -> List (List Char)
  | [] => [[]]
  | head :: tail =>
      match piecesBy separates tail with
      | [] => [[head]]
      | piece :: pieces =>
          if separates head then [] :: piece :: pieces else (head :: piece) :: pieces

/-- Cut a text at every occurrence of one character. -/
def piecesAt (separator : Char) (text : List Char) : List (List Char) :=
  piecesBy (· == separator) text

/-- Cut a string at every occurrence of one character. -/
def splitString (separator : Char) (text : String) : List String :=
  (piecesAt separator text.toList).map String.ofList

/-- The part of a text after its last separator, and all of it if there is none. -/
def afterLast (separator : Char) (text : String) : String :=
  String.ofList ((piecesAt separator text.toList).getLast?.getD [])

/-- The part of a text before its last separator, and nothing if there is none. -/
def beforeLast (separator : Char) (text : String) : String :=
  String.intercalate (String.singleton separator) (splitString separator text).dropLast

/-- Whether a text occurs within another one. -/
def occursIn (part : List Char) : List Char -> Bool
  | [] => part.isEmpty
  | head :: rest => part.isPrefixOf (head :: rest) || occursIn part rest

end RequestSurface.Text
