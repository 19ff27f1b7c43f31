import RequestSurface.Text.AccentTable
import RequestSurface.Text.Replacements

/-!
# Removing accents

Compatibility decomposition takes a text apart code point by code point and then only reorders
marks of non-zero combining class. Leaving those marks out therefore makes the operation a map
from characters to texts: `plain` says what one character leaves behind.
-/

namespace RequestSurface.Text

/-- Decompositions of the code points outside ASCII and outside the Hangul block. -/
def accentTable : Replacements := .ofRows accentRows

/-- The conjoining letters of a Hangul syllable, given its offset in the block. -/
def hangulLetters (offset : Nat) : List Char :=
  let lead := Char.ofNat (0x1100 + offset / 588)
  let vowel := Char.ofNat (0x1161 + offset % 588 / 28)
  let trail := offset % 28
  if trail = 0 then [lead, vowel] else [lead, vowel, Char.ofNat (0x11A7 + trail)]

/-- What is left of a character once it is decomposed and its marks are dropped. -/
def plain (character : Char) : List Char :=
  if character.toNat < 0x80 then [character]
  else if 0xAC00 ≤ character.toNat ∧ character.toNat ≤ 0xD7A3 then
    hangulLetters (character.toNat - 0xAC00)
  else (accentTable.find? character).getD [character]

/-- Decompose a text and drop its combining marks. -/
def removeAccents (text : List Char) : List Char :=
  text.flatMap plain

/-- An ASCII character has nothing to decompose. -/
theorem plain_of_ascii {character : Char} (ascii : character.toNat < 0x80) :
    plain character = [character] := by
  simp [plain, ascii]

/-- Accents are removed from two texts side by side. -/
@[simp] theorem removeAccents_append (left right : List Char) :
    removeAccents (left ++ right) = removeAccents left ++ removeAccents right := by
  simp [removeAccents]

end RequestSurface.Text
