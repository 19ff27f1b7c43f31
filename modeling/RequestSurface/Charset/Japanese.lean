import RequestSurface.Charset.JapaneseTables
import RequestSurface.Charset.Signs

/-!
# Japanese charsets

Two ways to write the sets of Japanese characters in bytes. In the one both bytes of a code are
raised by 128. In the other the rows are shifted together in pairs, which leaves room for the narrow
kana as signs of one byte.
-/

namespace RequestSurface.Charset

/-- The editions of the third set: the revision changed some of its ideographs. -/
inductive Edition where
  | original
  | revised
  deriving DecidableEq, Repr

/-- The codes in the first plane of the third set that the revision added. -/
def addedCodes : List Nat :=
  [0x2E21, 0x2F7E, 0x4F54, 0x4F7E, 0x7427, 0x7E7A, 0x7E7B, 0x7E7C, 0x7E7D, 0x7E7E]

/-- What a code in the first plane of the third set stands for. The first set is a part of it. The
codes that the revision added are signs of the original edition as well, but of nothing. -/
def firstPlane? (edition : Edition) (code : Nat) : Option (List Char) :=
  if edition = .original ∧ addedCodes.contains code then some [replacement]
  else
    match jisX0213Pairs.lookup code with
    | some text => some text.toList
    | none => ((jisX0208.charAt? code).or (jisX0213First.charAt? code)).map fun sign => [sign]

/-- What a code in the second plane of the third set stands for. -/
def secondPlane? (edition : Edition) (code : Nat) : Option (List Char) :=
  if edition = .original ∧ code = 0x7D3B then some ['\u9B1D']
  else (jisX0213Second.charAt? code).map fun sign => [sign]

/-- The narrow kana of a byte. -/
def narrowKana? (byte : UInt8) : Option Char :=
  if 0xA1 ≤ byte.toNat ∧ byte.toNat ≤ 0xDF then some (Char.ofNat (0xFEC0 + byte.toNat)) else none

/-- The character of a byte below 128 where the money sign and the line above stand in for two
signs. -/
def romanChar? (byte : UInt8) : Option Char :=
  if byte == 0x5C then some '¥' else if byte == 0x7E then some '‾' else asciiChar? byte

/-- Read a sign of raised codes. A code of the second set follows a mark of its own. -/
def readRaised (pair? : Nat -> Option (List Char)) (marked? : Nat -> Option (List Char))
    (byte : UInt8) (rest : List UInt8) : Sign :=
  match asciiChar? byte, rest with
  | some character, _ => .plain character
  | none, [] => .broken 0
  | none, second :: others =>
      if byte == 0x8E then
        match narrowKana? second with
        | some kana => ⟨[kana], 1⟩
        | none => .broken 0
      else if byte == 0x8F then
        match others with
        | [] => .broken 1
        | third :: _ =>
            match (lowCode? second third).bind marked? with
            | some text => ⟨text, 2⟩
            | none => .broken 0
      else
        match (lowCode? byte second).bind pair? with
        | some text => ⟨text, 1⟩
        | none => .broken 0

/-- Read a sign of the raised first and second set. -/
def readEucJp : UInt8 -> List UInt8 -> Sign :=
  readRaised (fun code => (jisX0208.charAt? code).map fun sign => [sign])
    fun code => (jisX0212.charAt? code).map fun sign => [sign]

/-- Read a sign of the raised third set. The codes of its second plane that are free belong to the
second set, and the wave is drawn wide. -/
def readEucJis (edition : Edition) : UInt8 -> List UInt8 -> Sign :=
  readRaised (fun code => if code = 0x2232 then some ['～'] else firstPlane? edition code)
    fun code => (secondPlane? edition code).or ((jisX0212.charAt? code).map fun sign => [sign])

/-- The row and the place in it, both from zero on, that two bytes of paired rows tell. -/
def placeOf? (first second : UInt8) : Option (Nat × Nat) :=
  let lead := first.toNat
  let trail := second.toNat
  let isLead := 0x81 ≤ lead && lead ≤ 0x9F || 0xE0 ≤ lead && lead ≤ 0xFC
  let isTrail := 0x40 ≤ trail && trail ≤ 0xFC && trail != 0x7F
  if isLead && isTrail then
    let place := if trail < 0x80 then trail - 0x40 else trail - 0x41
    let row := 2 * (if lead < 0xE0 then lead - 0x81 else lead - 0xC1)
    some (row + place / 94, place % 94)
  else none

/-- The code of a row and a place in it. -/
def codeAt (row place : Nat) : Nat :=
  0x100 * (row + 0x21) + (place + 0x21)

/-- The character of the first set that two bytes of paired rows stand for. -/
def pairedChar? (first second : UInt8) : Option Char :=
  (placeOf? first second).bind fun (row, place) => jisX0208.charAt? (codeAt row place)

/-- Read a sign of paired rows of the first set. -/
def readShiftJis : UInt8 -> List UInt8 -> Sign :=
  readPair (fun byte => (asciiChar? byte).or (narrowKana? byte)) pairedChar?

/-- The character of a single byte in the codes of the window system. -/
def windowSingle? (byte : UInt8) : Option Char :=
  let code := byte.toNat
  if code ≤ 0x80 then some (Char.ofNat code)
  else if code = 0xA0 then some '\uF8F0'
  else if 0xFD ≤ code then some (Char.ofNat (0xF8F1 + (code - 0xFD)))
  else narrowKana? byte

/-- The character that is free for users at two bytes of the codes of the window system. -/
def windowFree? (first second : UInt8) : Option Char :=
  if 0xF0 ≤ first.toNat ∧ first.toNat ≤ 0xF9 then
    (placeOf? first second).map fun (row, place) =>
      Char.ofNat (0xE000 + 94 * (row - 2 * (0xF0 - 0xC1)) + place)
  else none

/-- Read a sign in the codes of the window system. -/
def readCp932 : UInt8 -> List UInt8 -> Sign :=
  readPair windowSingle? fun first second =>
    (cp932Signs.charAt? (codeOf first second)).or <|
      (pairedChar? first second).or (windowFree? first second)

/-- The row of the second plane that stands at a row after those of the first one. -/
def secondRow (row : Nat) : Nat :=
  if 0x67 ≤ row then row + 7 - 0x21
  else if 0x63 ≤ row ∨ row = 0x5F then row - 0x37 - 0x21
  else row - 0x3D - 0x21

/-- Read a sign of paired rows of the third set. The backslash is drawn narrow. -/
def readShiftJis2004 (edition : Edition) : UInt8 -> List UInt8 -> Sign :=
  readPairText (fun byte => (romanChar? byte).or (narrowKana? byte)) fun first second =>
    (placeOf? first second).bind fun (row, place) =>
      if codeAt row place = 0x2140 then some ['\\']
      else if row < 94 then firstPlane? edition (codeAt row place)
      else secondPlane? edition (codeAt (secondRow row) place)

end RequestSurface.Charset
