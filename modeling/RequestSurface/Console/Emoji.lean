import RequestSurface.Console.EmojiTable
import RequestSurface.Text.Casing
import RequestSurface.Text.Digits
import RequestSurface.Text.Lines
import RequestSurface.Text.Pieces

/-!
# Emoji

A name between two colons stands for an emoji. The name may end with `-emoji` or `-text`, which asks
for the emoji as a picture or as a plain sign. Many emoji also have names with a tone of skin.
-/

namespace RequestSurface.Console

/-- The characters of code points in hexadecimal with dashes between. -/
def charsOfCodes (codes : List Char) : List Char :=
  (Text.piecesAt '-' codes).map fun code => Char.ofNat (Text.numberIn 16 code)

/-- The names of one row of a table, and what stands after them. -/
def readNames (row : List Char) : List (List Char) × List Char :=
  let names := row.takeWhile (· != ':')
  (Text.piecesAt ',' names, row.drop (names.length + 1))

/-- The entries of a table of names. -/
def readRows (lines : List String) (value : List Char -> List Char) :
    List (List Char × List Char) :=
  (lines.flatMap fun line => Text.piecesAt ' ' line.toList).flatMap fun row =>
    let (names, rest) := readNames row
    names.map fun name => (name, value rest)

/-- Emoji by their names. -/
def emojiNames : List (List Char × List Char) :=
  readRows emojiRows charsOfCodes

/-- Emoji that take a tone of skin, by their names without it. -/
def tonedNames : List (List Char × List Char) :=
  readRows tonedRows charsOfCodes

/-- The sign of a letter of a flag. -/
def flagLetter (letter : Char) : Char :=
  Char.ofNat (0x1F1E6 + (letter.toNat - 'a'.toNat))

/-- Flags by the names of their countries. -/
def flagNames : List (List Char × List Char) :=
  readRows flagRows (·.map flagLetter)

/-- Endings of names with a tone of skin, and the signs of the tones. -/
def toneEndings : List (List Char × Char) :=
  [("_medium-light_skin_tone", 0x1F3FC), ("_medium-dark_skin_tone", 0x1F3FE),
    ("_light_skin_tone", 0x1F3FB), ("_medium_skin_tone", 0x1F3FD), ("_dark_skin_tone", 0x1F3FF)].map
    fun (ending, code) => (ending.toList, Char.ofNat code)

/-- A name without an ending, if it has that ending. -/
def withoutEnding? (ending name : List Char) : Option (List Char) :=
  if ending.isSuffixOf name then some (name.take (name.length - ending.length)) else none

/-- An emoji with a tone of skin after its first sign. -/
def withTone (tone : Char) : List Char -> List Char
  | [] => []
  | head :: rest => head :: tone :: rest

/-- The emoji of a name with a tone of skin. -/
def tonedEmoji? (name : List Char) : Option (List Char) :=
  toneEndings.findSome? fun (ending, tone) => do
    let base ← withoutEnding? ending name
    return withTone tone (← tonedNames.lookup base)

/-- The flag of a name. -/
def flag? (name : List Char) : Option (List Char) :=
  let start := "flag_for_".toList
  let country := if start.isPrefixOf name then name.drop start.length else name
  flagNames.lookup country

/-- The emoji of a name in lower case. -/
def emojiNamed? (name : List Char) : Option (List Char) :=
  ((emojiNames.lookup name).or (flag? name)).or (tonedEmoji? name)

/-- A name without the ending that tells how the emoji is shown, and the sign for that. -/
def splitManner (name : List Char) : List Char × List Char :=
  match withoutEnding? "-emoji".toList name, withoutEnding? "-text".toList name with
  | some base, _ => (base, ['\uFE0F'])
  | none, some base => (base, ['\uFE0E'])
  | none, none => (name, [])

/-- What a name between colons stands for, whatever its case. -/
def emojiOf? (name : List Char) : Option (List Char) :=
  let (base, manner) := splitManner name
  (emojiNamed? (Text.lowerCase base)).map (· ++ manner)

/-- Replace names between colons by emoji. Names without emoji stay, with both of their colons. -/
def replaceEmoji : List Char -> List Char
  | [] => []
  | ':' :: rest =>
      let name := rest.takeWhile fun character => character != ':' && !Text.isBlank character
      match rest.drop name.length with
      | ':' :: _ =>
          (emojiOf? name).getD (':' :: name ++ [':']) ++
            replaceEmoji (rest.drop (name.length + 1))
      | _ => ':' :: replaceEmoji rest
  | head :: rest => head :: replaceEmoji rest
termination_by text => text.length

end RequestSurface.Console
