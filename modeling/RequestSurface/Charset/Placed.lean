import RequestSurface.Charset.ByteTable
import RequestSurface.HostName.Punycode
import RequestSurface.Text.Half

/-!
# Placed characters

The charset that host names are written in: ASCII before the last hyphen, and after it moves that
place the other characters. Moves are followed as far as they are well written.
-/

namespace RequestSurface.Charset

open HostName in
/-- Put code points among those already placed; `place` is where the next one may stand first. At
most so many steps are taken. A code point past the last one is a question mark. -/
def placeCodes (bias code place : Nat) (isFirst : Bool) (row : List Nat) :
    Nat -> List Char -> List Nat
  | _, [] => row
  | 0, _ => row
  | steps + 1, text =>
      match Punycode.readNumber? bias Punycode.base 1 0 text with
      | none => row
      | some (move, rest) =>
          let counter := place + move
          let size := row.length + 1
          let reached := code + counter / size
          let code := if Punycode.lastCode < reached then '?'.toNat else reached
          let place := counter % size
          placeCodes (Punycode.adapt move size isFirst) code (place + 1) false
            (row.take place ++ code :: row.drop place) steps rest

open HostName in
/-- Decode some bytes. If a byte among the moves is not ASCII, that byte and its place there are
given instead. -/
def decodePlaced (bytes : List UInt8) : Except (UInt8 × Nat) (List Char) :=
  let (before, moves) := Punycode.splitLast (ByteTable.latin.decode bytes)
  match moves.findIdx? fun character => 0x80 ≤ character.toNat with
  | some place => .error (UInt8.ofNat ((moves[place]?).getD 'a').toNat, place)
  | none =>
      let row := before.map fun character =>
        if character.toNat < 0x80 then character.toNat else replacement.toNat
      .ok ((placeCodes Punycode.firstBias Punycode.firstCode 0 true row moves.length moves).map
        Text.charOf)

end RequestSurface.Charset
