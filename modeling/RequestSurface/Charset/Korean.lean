import RequestSurface.Charset.KoreanTables
import RequestSurface.Charset.Signs

/-!
# Korean charsets

Three ways to write Hangul: in the codes of a set of common syllables, with the other syllables in
the gaps between them, and by the letters of a syllable.
-/

namespace RequestSurface.Charset

/-- The letters that a syllable may begin with. -/
def initials : List Char := "ㄱㄲㄴㄷㄸㄹㅁㅂㅃㅅㅆㅇㅈㅉㅊㅋㅌㅍㅎ".toList

/-- The vowels of syllables. -/
def vowels : List Char := "ㅏㅐㅑㅒㅓㅔㅕㅖㅗㅘㅙㅚㅛㅜㅝㅞㅟㅠㅡㅢㅣ".toList

/-- The letters that a syllable may end with. -/
def finals : List Char := "ㄱㄲㄳㄴㄵㄶㄷㄹㄺㄻㄼㄽㄾㄿㅀㅁㅂㅄㅅㅆㅇㅈㅊㅋㅌㅍㅎ".toList

/-- The syllable of letters by their places; a final place of zero is no letter. -/
def syllable (initial vowel final : Nat) : Char :=
  Char.ofNat (0xAC00 + 588 * initial + 28 * vowel + final)

/-- The letter of a byte in a syllable that is spelt out. -/
def speltLetter (byte : UInt8) : Char :=
  Char.ofNat (0x3131 + (byte.toNat - 0xA1))

/-- The syllable that three bytes spell; the last one may be a filler. -/
def speltSyllable? (first second third : UInt8) : Option Char :=
  if first.toNat < 0xA1 ∨ second.toNat < 0xA1 ∨ third.toNat < 0xA1 then none
  else
    match initials.idxOf? (speltLetter first), vowels.idxOf? (speltLetter second) with
    | some initial, some vowel =>
        if third == 0xD4 then some (syllable initial vowel 0)
        else (finals.idxOf? (speltLetter third)).map fun final => syllable initial vowel (final + 1)
    | _, _ => none

/-- Read a sign of the raised set. After a filler a syllable is spelt out, in four codes. -/
def readEucKr (byte : UInt8) (rest : List UInt8) : Sign :=
  match rest with
  | 0xD4 :: others =>
      if byte != 0xA4 then readCommon byte rest
      else
        match others with
        | one :: first :: two :: second :: three :: third :: _ =>
            match speltSyllable? first second third with
            | some sign =>
                if one == 0xA4 && two == 0xA4 && three == 0xA4 then ⟨[sign], 7⟩ else .broken 0
            | none => .broken 0
        | _ => .cut rest
  | _ => readCommon byte rest
where
  /-- Read a sign that is no filler. -/
  readCommon : UInt8 -> List UInt8 -> Sign :=
    readPair asciiChar? fun first second => (lowCode? first second).bind ksX1001.charAt?

/-- The syllables that the set of common ones lacks, in order. -/
def rareSyllables : Array Char :=
  let common := marksOf 0xD7A4 ksX1001.characters
  ((List.range' 0xAC00 11172).filter fun code => !common.getD code false).toArray.map Char.ofNat

/-- How many of the bytes that may be the second one of a rare syllable come before a byte. -/
def rarePlace? (trail : Nat) : Option Nat :=
  if 0x41 ≤ trail ∧ trail ≤ 0x5A then some (trail - 0x41)
  else if 0x61 ≤ trail ∧ trail ≤ 0x7A then some (trail - 0x61 + 26)
  else if 0x81 ≤ trail ∧ trail ≤ 0xFE then some (trail - 0x81 + 52)
  else none

/-- The rare syllable of two bytes. Beside the rows of the common set the rows are shorter. -/
def rareSyllable? (first second : UInt8) : Option Char :=
  let lead := first.toNat
  (rarePlace? second.toNat).bind fun place =>
    if lead < 0x81 then none
    else if lead ≤ 0xA0 then rareSyllables[178 * (lead - 0x81) + place]?
    else if place < 84 then rareSyllables[178 * 32 + 84 * (lead - 0xA1) + place]?
    else none

/-- Read a sign of the raised set with the rare syllables in its gaps. -/
def readCp949 : UInt8 -> List UInt8 -> Sign :=
  readPair asciiChar? fun first second =>
    ((lowCode? first second).bind ksX1001.charAt?).or (rareSyllable? first second)

/-- A part of a syllable: nothing is there, or a letter by its place. -/
inductive Part where
  | empty
  | letter (place : Nat)

/-- The initial of five bits. -/
def initialOf? (bits : Nat) : Option Part :=
  if bits = 1 then some .empty
  else if 2 ≤ bits ∧ bits ≤ 20 then some (.letter (bits - 2))
  else none

/-- The vowel of five bits. Two of every eight numbers are left out. -/
def vowelOf? (bits : Nat) : Option Part :=
  if bits = 2 then some .empty
  else if bits < 3 ∨ bits % 8 < 2 ∨ 29 < bits then none
  else some (.letter (6 * (bits / 8) + bits % 8 - 3))

/-- The final of five bits. One number is left out. -/
def finalOf? (bits : Nat) : Option Part :=
  if bits = 1 then some .empty
  else if 2 ≤ bits ∧ bits ≤ 17 then some (.letter (bits - 2))
  else if 19 ≤ bits ∧ bits ≤ 29 then some (.letter (bits - 3))
  else none

/-- The character of three parts: a syllable, or a letter on its own. -/
def joinedParts? : Part -> Part -> Part -> Option Char
  | .empty, .empty, .empty => some '\u3000'
  | .empty, .empty, .letter final => finals[final]?
  | .empty, .letter vowel, .empty => vowels[vowel]?
  | .letter initial, .empty, .empty => initials[initial]?
  | .letter initial, .letter vowel, .empty => some (syllable initial vowel 0)
  | .letter initial, .letter vowel, .letter final => some (syllable initial vowel (final + 1))
  | _, _, _ => none

/-- The code in the set of common characters that stands at two bytes after those of syllables. -/
def johabCode? (lead trail : Nat) : Option Nat :=
  let isTrail := 0x31 ≤ trail && trail != 0x7F && trail != 0xFF &&
    !(0x80 ≤ trail && trail < 0x91) && !(lead == 0xDA && 0xA1 ≤ trail && trail ≤ 0xD3)
  if lead < 0xD9 ∨ lead = 0xDF ∨ 0xF9 < lead ∨ !isTrail then none
  else
    let row := if lead < 0xE0 then 2 * (lead - 0xD9) else 2 * lead - 0x197
    let place := if trail < 0x91 then trail - 0x31 else trail - 0x43
    some (0x100 * (row + place / 94 + 0x21) + (place % 94 + 0x21))

/-- Read a sign of syllables by their letters. -/
def readJohab : UInt8 -> List UInt8 -> Sign :=
  readPair asciiChar? fun first second =>
    let lead := first.toNat
    let trail := second.toNat
    if lead < 0xD8 then
      match initialOf? (lead / 4 % 32), vowelOf? (lead % 4 * 8 + trail / 32),
          finalOf? (trail % 32) with
      | some initial, some vowel, some final => joinedParts? initial vowel final
      | _, _, _ => none
    else (johabCode? lead trail).bind ksX1001.charAt?

end RequestSurface.Charset
