import RequestSurface.Text.CombiningTable
import RequestSurface.Text.DecompositionTable
import RequestSurface.Text.RangeMap
import RequestSurface.Text.Ranges
import RequestSurface.Text.Replacements

/-!
# Composed texts

A letter and its marks can often be written as one code point. A text is in composed form when
decomposing it, putting its marks in order and composing it again leaves it as it is.
-/

namespace RequestSurface.Text

/-- Combining classes of marks. -/
def combiningTable : RangeMap := .ofRows combiningRows

/-- Canonical decompositions, one step at a time. -/
def decompositionTable : Replacements := .ofRows decompositionRows

/-- Code points with two images that are never composed again. -/
def uncomposedTable : RangeTable := .ofRows uncomposedRanges

/-- The combining class of a character; zero for all but marks. -/
def combiningClass (character : Char) : Nat :=
  (combiningTable.find? character).getD 0

/-- The first Hangul syllable. -/
def firstSyllable : Nat := 0xAC00

/-- The first letters that a Hangul syllable begins with, goes on with, and ends with. The last of
them is no letter itself but stands for the missing one. -/
def firstJamo : Nat × Nat × Nat := (0x1100, 0x1161, 0x11A7)

/-- How many letters there are of each kind. -/
def jamoCounts : Nat × Nat × Nat := (19, 21, 28)

/-- How many Hangul syllables there are: `19 * 21 * 28`. -/
def syllableCount : Nat := 11172

/-- The letters of a Hangul syllable, if the character is one. -/
def syllableLetters? (character : Char) : Option (List Char) :=
  let code := character.toNat
  if firstSyllable ≤ code ∧ code < firstSyllable + syllableCount then
    let index := code - firstSyllable
    let (lead, vowel, tail) := firstJamo
    let (_, vowels, tails) := jamoCounts
    let letters :=
      [Char.ofNat (lead + index / (vowels * tails)), Char.ofNat (vowel + index / tails % vowels)]
    some (if index % tails = 0 then letters else letters ++ [Char.ofNat (tail + index % tails)])
  else none

/-- No decomposition takes more steps than this. -/
def decompositionSteps : Nat := 8

/-- The full decomposition of a character, in at most so many steps. -/
def decomposeChar : Nat -> Char -> List Char
  | 0, character => [character]
  | steps + 1, character =>
      match syllableLetters? character, decompositionTable.find? character with
      | some letters, _ => letters
      | none, some images => images.flatMap (decomposeChar steps)
      | none, none => [character]

/-- Put a character in front of a text in order, behind the marks of lower class. -/
def insertMark (character : Char) : List Char -> List Char
  | [] => [character]
  | head :: rest =>
      if 0 < combiningClass head ∧ combiningClass head < combiningClass character then
        head :: insertMark character rest
      else character :: head :: rest

/-- Put the marks after every letter in the order of their classes. -/
def orderMarks : List Char -> List Char
  | [] => []
  | head :: rest => insertMark head (orderMarks rest)

/-- The decomposed form of a text. -/
def decomposed (text : List Char) : List Char :=
  orderMarks (text.flatMap (decomposeChar decompositionSteps))

/-- The Hangul syllable that two characters form. -/
def syllableOf? (first second : Char) : Option Char :=
  let (lead, vowel, tail) := firstJamo
  let (leads, vowels, tails) := jamoCounts
  let (one, two) := (first.toNat, second.toNat)
  if lead ≤ one ∧ one < lead + leads ∧ vowel ≤ two ∧ two < vowel + vowels then
    some (Char.ofNat (firstSyllable + ((one - lead) * vowels + (two - vowel)) * tails))
  else if firstSyllable ≤ one ∧ one < firstSyllable + syllableCount ∧
      (one - firstSyllable) % tails = 0 ∧ tail < two ∧ two < tail + tails then
    some (Char.ofNat (one + (two - tail)))
  else none

/-- The character that two characters form, if they form one. -/
def composed? (first second : Char) : Option Char :=
  match syllableOf? first second with
  | some syllable => some syllable
  | none =>
      (decompositionTable.rows.find? fun row =>
        row.2 == [first, second] && !uncomposedTable.holds (Char.ofNat row.1)).map fun row =>
          Char.ofNat row.1

/-- Compose the characters after a letter with it, as far as no mark of the same or a higher class
stands between; marks that do not compose are kept in reverse, and `last` is the class of the one
read last. -/
def composeFrom (letter : Char) (marks : List Char) (last : Nat) : List Char -> List Char
  | [] => letter :: marks.reverse
  | head :: rest =>
      let size := combiningClass head
      let reaches := marks.isEmpty || last < size
      match if reaches then composed? letter head else none with
      | some joined => composeFrom joined marks last rest
      | none =>
          if size = 0 then letter :: marks.reverse ++ composeFrom head [] 0 rest
          else composeFrom letter (head :: marks) size rest

/-- Compose a decomposed text. Marks before the first letter stay alone. -/
def compose : List Char -> List Char
  | [] => []
  | head :: rest =>
      if combiningClass head = 0 then composeFrom head [] 0 rest else head :: compose rest

/-- Whether a text is in composed form. -/
def isComposed (text : List Char) : Bool :=
  compose (decomposed text) == text

end RequestSurface.Text
