import RequestSurface.Text.Accents
import RequestSurface.Text.Casing
import RequestSurface.Text.Pieces

/-!
# Words of an identifier

An identifier in any casing is a row of lowercase words. Words end at every character that is not
an ASCII letter or digit, before a capital that follows a lowercase letter or a digit, and before
the last capital of a run of capitals when a lowercase letter follows, which keeps acronyms
together.
-/

namespace RequestSurface

/-- Put a blank before the last capital of a run of at least two that a lowercase letter follows. -/
def breakAcronyms : List Char -> List Char
  | first :: second :: third :: rest =>
      if first.isUpper && second.isUpper && third.isLower then
        first :: ' ' :: breakAcronyms (second :: third :: rest)
      else first :: breakAcronyms (second :: third :: rest)
  | text => text

/-- Put a blank between a lowercase letter or digit and the capital after it. -/
def breakHumps : List Char -> List Char
  | first :: second :: rest =>
      if (first.isLower || first.isDigit) && second.isUpper then
        first :: ' ' :: breakHumps (second :: rest)
      else first :: breakHumps (second :: rest)
  | text => text

/-- The lowercase words of a text, as rows of characters. -/
def wordsOf (text : List Char) : List (List Char) :=
  let broken := breakHumps (breakAcronyms (Text.removeAccents text))
  let pieces := (Text.piecesBy (fun character => !character.isAlphanum) broken).filter (!·.isEmpty)
  pieces.map fun piece => piece.map Char.toLower

/-- The lowercase words of an identifier. -/
def splitWords (identifier : String) : List String :=
  (wordsOf identifier.toList).map String.ofList

/-- The singular of a plural collection name. Endings are compared without regard to case, and no
character outside ASCII has an ending's letter as its lower case. -/
def singular (word : String) : String :=
  let text := word.toList
  let lowered := text.map Char.toLower
  let endsIn (ending : String) : Bool := ending.toList.isSuffixOf lowered
  if endsIn "ies" && 3 < text.length then String.ofList (text.take (text.length - 3) ++ ['y'])
  else if ["sses", "shes", "ches", "xes", "zes"].any endsIn then
    String.ofList (text.take (text.length - 2))
  else if ["ss", "us", "is"].any endsIn then word
  else if endsIn "s" && 1 < text.length then String.ofList (text.take (text.length - 1))
  else word

/-- An identifier without a casing. -/
structure Name where
  words : List String
  deriving DecidableEq, Repr

namespace Name

/-- The name whose words are those of several identifiers, one after the other. -/
def ofPieces (pieces : List String) : Name where
  words := pieces.flatMap splitWords

/-- A word with a capital in front. -/
def capitalized (word : String) : String :=
  String.ofList (Text.capitalize word.toList)

/-- All words with a capital in front, run together. -/
def upperCamel (name : Name) : String :=
  String.join (name.words.map capitalized)

/-- The first word as it is and the others with a capital in front, run together. -/
def lowerCamel (name : Name) : String :=
  match name.words with
  | [] => ""
  | first :: rest => first ++ String.join (rest.map capitalized)

/-- The words joined by underscores. -/
def lowerUnderscore (name : Name) : String :=
  String.intercalate "_" name.words

end Name

end RequestSurface
