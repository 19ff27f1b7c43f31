import RequestSurface.HostName.Direction
import RequestSurface.HostName.JoiningTable
import RequestSurface.HostName.PermittedTable
import RequestSurface.HostName.Punycode
import RequestSurface.HostName.ScriptTable
import RequestSurface.Text.Composed
import RequestSurface.Text.Half
import RequestSurface.Text.MarkTable

/-!
# Labels

A label is a part of a host name between dots. It is permitted when it is in composed form, when its
hyphens and its first character fit, when each of its code points may stand where it stands, and
when its writing directions fit. A permitted label with other characters than ASCII is asked for in
an ASCII form of its own.
-/

namespace RequestSurface.HostName

/-- Code points that may stand anywhere. -/
def permittedTable : Text.RangeTable := .ofRows permittedRanges

/-- Combining marks of every kind. -/
def markTable : Text.RangeTable := .ofRows Text.markRanges

/-- Code points that neighbours join across. -/
def transparentTable : Text.RangeTable := .ofRows transparentRanges

/-- Letters that join the next one. -/
def joinsNextTable : Text.RangeTable := .ofRows joinsNextRanges

/-- Letters that join the previous one. -/
def joinsPreviousTable : Text.RangeTable := .ofRows joinsPreviousRanges

/-- Greek code points. -/
def greekTable : Text.RangeTable := .ofRows greekRanges

/-- Hebrew code points. -/
def hebrewTable : Text.RangeTable := .ofRows hebrewRanges

/-- Hiragana, Katakana and Han code points. -/
def japaneseTable : Text.RangeTable := .ofRows japaneseRanges

/-- The combining class of the sign that ends a consonant. -/
def consonantEndClass : Nat := 9

/-- Whether a text, read away from a place, comes to a letter of a table across transparent ones. -/
def reaches (table : Text.RangeTable) (text : List Char) : Bool :=
  match text.dropWhile transparentTable.holds with
  | head :: _ => table.holds head
  | [] => false

/-- Whether a joiner may stand between what precedes it, in reverse, and what follows it. -/
def joinerFits (joiner : Char) (before after : List Char) : Bool :=
  let endsConsonant := match before with
    | head :: _ => Text.combiningClass head == consonantEndClass
    | [] => false
  endsConsonant ||
    (joiner == '\u200c' && reaches joinsNextTable before && reaches joinsPreviousTable after)

/-- Whether a character is an Arabic-Indic digit. -/
def isArabicIndicDigit (character : Char) : Bool :=
  '\u0660' ≤ character && character ≤ '\u0669'

/-- Whether a character is an extended Arabic-Indic digit. -/
def isExtendedDigit (character : Char) : Bool :=
  '\u06F0' ≤ character && character ≤ '\u06F9'

/-- Whether a character that depends on its context fits it; nothing for all other characters. -/
def contextFits? (label before : List Char) (character : Char) (after : List Char) :
    Option Bool :=
  if character == '\u00B7' then some (before.head? == some 'l' && after.head? == some 'l')
  else if character == '\u0375' then some ((after.head?.map greekTable.holds).getD false)
  else if character == '\u05F3' || character == '\u05F4' then
    some ((before.head?.map hebrewTable.holds).getD false)
  else if character == '\u30FB' then
    some (label.any fun other => other != '\u30FB' && japaneseTable.holds other)
  else if isArabicIndicDigit character then some (!label.any isExtendedDigit)
  else if isExtendedDigit character then some (!label.any isArabicIndicDigit)
  else none

/-- Check the code points of a label from a position on; those before it are in reverse. -/
def checkCodes (label : List Char) (position : Nat) (before : List Char) :
    List Char -> Except Fault Unit
  | [] => .ok ()
  | head :: rest =>
      let code := Text.codeOf head
      let next := checkCodes label (position + 1) (head :: before) rest
      if permittedTable.holds head then next
      else if head == '\u200c' || head == '\u200d' then
        if joinerFits head before rest then next
        else .error (.looseJoiner code position label)
      else
        match contextFits? label before head rest with
        | some true => next
        | some false => .error (.outOfContext code position label)
        | none => .error (.forbidden code position label)

/-- Check that a label is permitted. -/
def checkLabel (label : List Char) : Except Fault Unit :=
  if label.isEmpty then .error .emptyLabel
  else if !Text.isComposed label then .error .notComposed
  else if (label.drop 2).take 2 = ['-', '-'] then .error .innerHyphens
  else if label.head? = some '-' ∨ label.getLast? = some '-' then .error .outerHyphen
  else if (label.head?.map markTable.holds).getD false then .error .leadingMark
  else do
    checkCodes label 1 [] label
    checkDirections label

/-- What an ASCII form begins with. -/
def codedMark : List Char := "xn--".toList

/-- The most characters of a label. -/
def labelLimit : Nat := 63

/-- Whether a text is ASCII. -/
def isAscii (text : List Char) : Bool :=
  text.all (·.toNat < 0x80)

/-- The label that an ASCII label in lower case stands for. -/
def decodeLabel (label : List Char) : Except Fault (List Char) :=
  if codedMark.isPrefixOf label then
    let coded := label.drop codedMark.length
    if coded.isEmpty then .error .nothingCoded
    else if coded.getLast? = some '-' then .error .trailingHyphen
    else
      match Punycode.decode? coded with
      | none => .error .badCode
      | some codes => do
          let decoded := codes.map Text.charOf
          checkLabel decoded
          return decoded
  else do
    checkLabel label
    return label

/-- The ASCII form of a label in lower case. -/
def encodeLabel (label : List Char) : Except Fault (List Char) := do
  let coded ←
    if isAscii label then do
      let _ ← decodeLabel label
      pure label
    else do
      checkLabel label
      pure (codedMark ++ Punycode.encode (label.map Text.codeOf))
  if labelLimit < coded.length then .error .longLabel else return coded

end RequestSurface.HostName
