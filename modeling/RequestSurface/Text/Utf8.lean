import RequestSurface.Text.Digits

/-!
# UTF-8

Decoding of byte rows, with the first fault where the bytes are no text. The fault covers the bytes
of a character that was begun but cannot be continued.
-/

namespace RequestSurface.Text

/-- Why bytes are no UTF-8 text. -/
inductive Utf8Reason where
  | invalidStart
  | invalidContinuation
  | unexpectedEnd
  deriving DecidableEq, Repr

/-- The wording of a reason. -/
def Utf8Reason.wording : Utf8Reason -> String
  | invalidStart => "invalid start byte"
  | invalidContinuation => "invalid continuation byte"
  | unexpectedEnd => "unexpected end of data"

/-- Bytes that are no text: from `start` for `count` bytes, the first of which is `byte`. -/
structure Utf8Fault where
  reason : Utf8Reason
  start : Nat
  count : Nat
  byte : Nat
  deriving DecidableEq, Repr

/-- The least and the greatest second byte after a first byte, and how many bytes follow it. -/
def continuation? (first : Nat) : Option (Nat × Nat × Nat) :=
  if 0xC2 ≤ first ∧ first ≤ 0xDF then some (0x80, 0xBF, 1)
  else if first = 0xE0 then some (0xA0, 0xBF, 2)
  else if first = 0xED then some (0x80, 0x9F, 2)
  else if 0xE1 ≤ first ∧ first ≤ 0xEF then some (0x80, 0xBF, 2)
  else if first = 0xF0 then some (0x90, 0xBF, 3)
  else if 0xF1 ≤ first ∧ first ≤ 0xF3 then some (0x80, 0xBF, 3)
  else if first = 0xF4 then some (0x80, 0x8F, 3)
  else none

/-- A character that has been begun: its first byte and place, the bytes read, the bits read, and
what may come next. -/
structure Begun where
  first : Nat
  start : Nat
  count : Nat
  bits : Nat
  least : Nat
  greatest : Nat
  owed : Nat

/-- The bits of a first byte that belong to the character. -/
def leadingBits (first owed : Nat) : Nat :=
  if owed = 1 then first - 0xC0 else if owed = 2 then first - 0xE0 else first - 0xF0

/-- Decode bytes from a position on; the characters already read are in reverse. -/
def decodeFrom (position : Nat) (done : List Char) :
    Option Begun -> List UInt8 -> Except Utf8Fault (List Char)
  | none, [] => .ok done.reverse
  | some begun, [] => .error ⟨.unexpectedEnd, begun.start, begun.count, begun.first⟩
  | none, byte :: rest =>
      let first := byte.toNat
      if first < 0x80 then decodeFrom (position + 1) (Char.ofNat first :: done) none rest
      else
        match continuation? first with
        | none => .error ⟨.invalidStart, position, 1, first⟩
        | some (least, greatest, owed) =>
            let begun := ⟨first, position, 1, leadingBits first owed, least, greatest, owed⟩
            decodeFrom (position + 1) done (some begun) rest
  | some begun, byte :: rest =>
      let next := byte.toNat
      if next < begun.least ∨ begun.greatest < next then
        .error ⟨.invalidContinuation, begun.start, begun.count, begun.first⟩
      else
        let bits := begun.bits * 64 + (next - 0x80)
        if begun.owed = 1 then decodeFrom (position + 1) (Char.ofNat bits :: done) none rest
        else
          let more :=
            { begun with
              count := begun.count + 1, bits := bits, least := 0x80, greatest := 0xBF,
              owed := begun.owed - 1 }
          decodeFrom (position + 1) done (some more) rest

/-- Decode bytes as text. -/
def decode (bytes : List UInt8) : Except Utf8Fault (List Char) :=
  decodeFrom 0 [] none bytes

/-- Decode bytes as text from a position on, with a replacement character for every row of bytes
that is no text. The characters already read are in reverse; in at most so many steps. -/
def decodeLossyFrom : Nat -> List Char -> List UInt8 -> List Char
  | 0, done, _ => done.reverse
  | steps + 1, done, bytes =>
      match decode bytes with
      | .ok text => done.reverse ++ text
      | .error fault =>
          let before := (decode (bytes.take fault.start)).toOption.getD []
          decodeLossyFrom steps ('\uFFFD' :: before.reverse ++ done)
            (bytes.drop (fault.start + fault.count))

/-- Decode bytes as text, with a replacement character for every row of bytes that is no text. -/
def decodeLossy (bytes : List UInt8) : List Char :=
  decodeLossyFrom (bytes.length + 1) [] bytes

/-- A byte as `0x` and two hexadecimal digits. -/
def byteText (byte : Nat) : String :=
  "0x" ++ String.ofList (hexDigits 2 byte)

/-- The message of a fault. -/
def Utf8Fault.message (fault : Utf8Fault) : String :=
  let place :=
    if fault.count = 1 then s!"byte {byteText fault.byte} in position {fault.start}"
    else s!"bytes in position {fault.start}-{fault.start + fault.count - 1}"
  "'utf-8' codec can't decode " ++ place ++ ": " ++ fault.reason.wording

end RequestSurface.Text
