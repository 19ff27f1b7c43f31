import RequestSurface.Charset.ByteTable
import RequestSurface.Charset.CodeTable

/-!
# Signs of several bytes

Charsets in which a character may be a row of bytes, and in which bytes may change what those after
them mean. Bytes that are no sign are replaced, and reading goes on after them.
-/

namespace RequestSurface.Charset

/-- What is read at a byte: the text that a sign stands for, and how many bytes after the first one
belong to it. -/
structure Sign where
  text : List Char
  further : Nat := 0
  deriving Repr

namespace Sign

/-- A sign of one byte that stands for a character. -/
def plain (character : Char) : Sign := ⟨[character], 0⟩

/-- Bytes that are no sign: one of them, and so many further ones. -/
def broken (further : Nat) : Sign := ⟨[replacement], further⟩

/-- A sign that the end of the bytes cuts off; all of them belong to it. -/
def cut (rest : List UInt8) : Sign := broken rest.length

end Sign

/-- A byte below 128, as the character of its own number. -/
def asciiChar? (byte : UInt8) : Option Char :=
  if byte.toNat < 0x80 then some (Char.ofNat byte.toNat) else none

/-- The code of two bytes. -/
def codeOf (first second : UInt8) : Nat :=
  0x100 * first.toNat + second.toNat

/-- The code of two bytes from 0x80 on, in a set whose codes are made of bytes below. -/
def lowCode? (first second : UInt8) : Option Nat :=
  if 0x80 ≤ first.toNat ∧ 0x80 ≤ second.toNat then some (codeOf first second - 0x8080) else none

/-- Read a sign of a charset that has signs of one byte and of two; those of two may stand for any
text. -/
def readPairText (single? : UInt8 -> Option Char) (pair? : UInt8 -> UInt8 -> Option (List Char))
    (byte : UInt8) (rest : List UInt8) : Sign :=
  match single? byte, rest with
  | some character, _ => .plain character
  | none, [] => .broken 0
  | none, second :: _ =>
      match pair? byte second with
      | some text => ⟨text, 1⟩
      | none => .broken 0

/-- Read a sign of a charset that has signs of one byte and of two, each for one character. -/
def readPair (single? : UInt8 -> Option Char) (pair? : UInt8 -> UInt8 -> Option Char) :
    UInt8 -> List UInt8 -> Sign :=
  readPairText single? fun first second => (pair? first second).map fun sign => [sign]

/-- Decode bytes sign by sign, in a state that signs may change. -/
def decodeFrom (read : State -> UInt8 -> List UInt8 -> State × Sign) :
    State -> List UInt8 -> List Char
  | _, [] => []
  | state, byte :: rest =>
      let (after, sign) := read state byte rest
      sign.text ++ decodeFrom read after (rest.drop sign.further)
termination_by _ bytes => bytes.length

/-- Decode bytes whose signs always mean the same. -/
def decodeSigns (read : UInt8 -> List UInt8 -> Sign) (bytes : List UInt8) : List Char :=
  decodeFrom (fun (_ : Unit) byte rest => ((), read byte rest)) () bytes

end RequestSurface.Charset
