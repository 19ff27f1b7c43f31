import RequestSurface.Text.FoldTable
import RequestSurface.Text.LowercaseTable
import RequestSurface.Text.Ranges
import RequestSurface.Text.Replacements
import RequestSurface.Text.UppercaseTable

/-!
# Full case mappings

Case folding, upper case and lower case over all of Unicode. They work character by character, and
one character may become several. Only the lower case of the letter sigma depends on its neighbours.
-/

namespace RequestSurface.Text

/-- Foldings of the code points outside ASCII. -/
def foldTable : Replacements := .ofRows foldRows

/-- Upper-case forms of the code points outside ASCII. -/
def uppercaseTable : Replacements := .ofRows uppercaseRows

/-- Lower-case forms of the code points outside ASCII. -/
def lowercaseTable : Replacements := .ofRows lowercaseRows

/-- Letters with a case. -/
def casedTable : RangeTable := .ofRows casedRanges

/-- Code points that do not count between a letter and its neighbours. -/
def caselessTable : RangeTable := .ofRows caselessRanges

/-- The full case folding of one character. -/
def foldChar (character : Char) : List Char :=
  if character.toNat < 0x80 then [character.toLower]
  else (foldTable.find? character).getD [character]

/-- The full upper-case form of one character. -/
def upperChar (character : Char) : List Char :=
  if character.toNat < 0x80 then [character.toUpper]
  else (uppercaseTable.find? character).getD [character]

/-- Fold the case of a text, for comparing without regard to case. -/
def caseFold (text : String) : String :=
  String.ofList (text.toList.flatMap foldChar)

/-- Write a text in upper case. -/
def upperCase (text : String) : String :=
  String.ofList (text.toList.flatMap upperChar)

/-- The full lower-case form of one character. -/
def lowerChar (character : Char) : List Char :=
  if character.toNat < 0x80 then [character.toLower]
  else (lowercaseTable.find? character).getD [character]

/-- Whether the next letter of a text has a case. -/
def startsCased (text : List Char) : Bool :=
  match text.dropWhile caselessTable.holds with
  | head :: _ => casedTable.holds head
  | [] => false

/-- Write a text in lower case, after some characters that were read before, in reverse. A sigma at
the end of a word has a form of its own. -/
def lowerFrom (before : List Char) : List Char -> List Char
  | [] => []
  | 'Σ' :: rest =>
      (if startsCased before && !startsCased rest then 'ς' else 'σ') ::
        lowerFrom ('Σ' :: before) rest
  | head :: rest => lowerChar head ++ lowerFrom (head :: before) rest

/-- Write a text in lower case. -/
def lowerCase (text : List Char) : List Char :=
  lowerFrom [] text

/-- Write the first character of a text in upper case and leave the rest alone. -/
def capitalize : List Char -> List Char
  | [] => []
  | head :: tail => upperChar head ++ tail

end RequestSurface.Text
