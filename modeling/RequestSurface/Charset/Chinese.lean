import RequestSurface.Charset.ChineseTables
import RequestSurface.Charset.Signs

/-!
# Chinese charsets

Three charsets of the mainland, each of which has the one before it as a part, and the charset of
Taiwan with what others added to it. The widest charset of the mainland has a code for every
character: those that two bytes do not tell have codes of four bytes, in the order of their numbers.
-/

namespace RequestSurface.Charset

/-- Read a sign of the raised set of the mainland. -/
def readGb2312 : UInt8 -> List UInt8 -> Sign :=
  readPair asciiChar? fun first second =>
    (lowCode? first second).bind gb2312.charAt?

/-- The ideographs that the set of the mainland lacks, in order. -/
def rareIdeographs : Array Char :=
  let common := marksOf 0xA000 gb2312.characters
  ((List.range' 0x4E00 0x51A6).filter fun code => !common.getD code false).toArray.map Char.ofNat

/-- How many of the bytes that may be second come before a byte, from 0x40 on. -/
def trailPlace? (trail : Nat) : Option Nat :=
  if 0x40 ≤ trail ∧ trail ≤ 0x7E then some (trail - 0x40)
  else if 0x80 ≤ trail ∧ trail ≤ 0xFE then some (trail - 0x41)
  else none

/-- The rare ideograph of two bytes: in the rows before those of the set, and left of the rows of
its ideographs. -/
def rareIdeograph? (lead trail : Nat) : Option Char :=
  (trailPlace? trail).bind fun place =>
    if 0x81 ≤ lead ∧ lead ≤ 0xA0 then rareIdeographs[190 * (lead - 0x81) + place]?
    else if 0xAA ≤ lead ∧ lead ≤ 0xFE ∧ place < 96 then
      rareIdeographs[190 * 32 + 96 * (lead - 0xAA) + place]?
    else none

/-- The character of two bytes in the wider set of the mainland. -/
def gbkChar? (first second : UInt8) : Option Char :=
  (gbkSigns.charAt? (codeOf first second)).or <|
    ((lowCode? first second).bind gb2312.charAt?).or
      (rareIdeograph? first.toNat second.toNat)

/-- Read a sign of the wider set of the mainland. -/
def readGbk : UInt8 -> List UInt8 -> Sign :=
  readPair asciiChar? gbkChar?

/-- The character that is free for users at two bytes. -/
def gbFree? (lead trail : Nat) : Option Char :=
  (trailPlace? trail).bind fun place =>
    if 96 ≤ place then
      if 0xAA ≤ lead ∧ lead ≤ 0xAF then
        some (Char.ofNat (0xE000 + 94 * (lead - 0xAA) + (place - 96)))
      else if 0xF8 ≤ lead ∧ lead ≤ 0xFE then
        some (Char.ofNat (0xE234 + 94 * (lead - 0xF8) + (place - 96)))
      else none
    else if 0xA1 ≤ lead ∧ lead ≤ 0xA7 then some (Char.ofNat (0xE4C6 + 96 * (lead - 0xA1) + place))
    else none

/-- The character of two bytes in the full set of the mainland. -/
def gb18030Char? (first second : UInt8) : Option Char :=
  (gbkChar? first second).or <|
    (gb18030Signs.charAt? (codeOf first second)).or (gbFree? first.toNat second.toNat)

/-- The characters of sixteen bits, from 0x80 on, that have no code of two bytes. The dot of the set
is one of them, as the wider set has another dot in its place. -/
def gb18030Rest : Array Char :=
  let short := marksOf 0x10000 <|
    gb2312.characters.filter (· != '・') ++ gbkSigns.characters ++ gb18030Signs.characters
  let isIdeograph (code : Nat) := 0x4E00 ≤ code && code < 0x9FA6
  let isUsers (code : Nat) := 0xE000 ≤ code && code < 0xE766
  let isFree (code : Nat) :=
    !(0xD800 ≤ code && code < 0xE000) && !isIdeograph code && !isUsers code &&
      !short.getD code false
  ((List.range' 0x80 0xFF80).filter isFree).toArray.map Char.ofNat

/-- The character of four bytes, of which the second and the fourth one are digits. -/
def quadChar? (first second third fourth : UInt8) : Option Char :=
  let isLead (byte : UInt8) := 0x81 ≤ byte.toNat && byte.toNat ≤ 0xFE
  let isDigit (byte : UInt8) := 0x30 ≤ byte.toNat && byte.toNat ≤ 0x39
  if !(isLead first && isDigit second && isLead third && isDigit fourth) then none
  else
    let place (lead : Nat) :=
      ((lead * 10 + (second.toNat - 0x30)) * 126 + (third.toNat - 0x81)) * 10 +
        (fourth.toNat - 0x30)
    if first.toNat < 0x85 then gb18030Rest[place (first.toNat - 0x81)]?
    else if first.toNat < 0x90 then none
    else
      let code := 0x10000 + place (first.toNat - 0x90)
      if code ≤ 0x10FFFF then some (Char.ofNat code) else none

/-- Read a sign of the full set of the mainland. -/
def readGb18030 (byte : UInt8) (rest : List UInt8) : Sign :=
  match rest with
  | second :: others =>
      if 0x80 ≤ byte.toNat && 0x30 ≤ second.toNat && second.toNat ≤ 0x39 then
        match others with
        | third :: fourth :: _ =>
            match quadChar? byte second third fourth with
            | some sign => ⟨[sign], 3⟩
            | none => .broken 0
        | _ => .cut rest
      else readShort byte rest
  | [] => readShort byte rest
where
  /-- Read a sign of one byte or two. -/
  readShort : UInt8 -> List UInt8 -> Sign :=
    readPair asciiChar? gb18030Char?

/-- Read a sign of the set of Taiwan. -/
def readBig5 : UInt8 -> List UInt8 -> Sign :=
  readPair asciiChar? fun first second => big5.charAt? (codeOf first second)

/-- Read a sign of the set of Taiwan in the codes of the window system. -/
def readCp950 : UInt8 -> List UInt8 -> Sign :=
  readPair asciiChar? fun first second =>
    let code := codeOf first second
    (cp950Signs.charAt? code).or (big5.charAt? code)

/-- Read a sign of the set of Taiwan with the additions of Hong Kong, which fills two of its rows
and a part of another one anew. -/
def readBig5Hkscs : UInt8 -> List UInt8 -> Sign :=
  readPairText asciiChar? fun first second =>
    let code := codeOf first second
    match hongKongPairs.lookup code, hongKong.charAt? code with
    | some text, _ => some text.toList
    | none, some sign => some [sign]
    | none, none =>
        if 0xC6A1 ≤ code ∧ code < 0xC900 then none
        else (big5.charAt? code).map fun sign => [sign]

end RequestSurface.Charset
