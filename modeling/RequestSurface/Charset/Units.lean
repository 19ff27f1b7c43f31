import RequestSurface.Charset.ByteTable
import RequestSurface.Text.Half

/-!
# Charsets of wide units

Texts in units of two or four bytes, which stand in either order. In units of two bytes the
characters above sixteen bits take two units, the halves of the character.
-/

namespace RequestSurface.Charset

/-- The order of the bytes in a unit. -/
inductive ByteOrder where
  | little
  | big
  deriving DecidableEq, Repr

/-- The number of a unit. -/
def unitOf (order : ByteOrder) (bytes : List UInt8) : Nat :=
  let ordered := match order with
    | .little => bytes.reverse
    | .big => bytes
  ordered.foldl (fun number byte => 0x100 * number + byte.toNat) 0

/-- Whether a unit of two bytes is the first half of a character. -/
def isFirstHalf (unit : Nat) : Bool :=
  0xD800 ≤ unit && unit < 0xDC00

/-- Whether a unit of two bytes is the second half of a character. -/
def isSecondHalf (unit : Nat) : Bool :=
  0xDC00 ≤ unit && unit < 0xE000

/-- The character of two halves. -/
def joinHalves (first second : Nat) : Char :=
  Char.ofNat (0x10000 + (first - 0xD800) * 0x400 + (second - 0xDC00))

/-- Decode units of two bytes. A half without the other one stands for nothing, and neither do bytes
at the end that are no unit. -/
def decodePairs (order : ByteOrder) : List UInt8 -> List Char
  | a :: b :: c :: d :: rest =>
      let unit := unitOf order [a, b]
      let next := unitOf order [c, d]
      if isFirstHalf unit && isSecondHalf next then joinHalves unit next :: decodePairs order rest
      else
        (if Text.isHalf unit then replacement else Char.ofNat unit) ::
          decodePairs order (c :: d :: rest)
  | a :: b :: rest =>
      let unit := unitOf order [a, b]
      if isFirstHalf unit then [replacement]
      else
        (if Text.isHalf unit then replacement else Char.ofNat unit) ::
          rest.map fun _ => replacement
  | rest => rest.map fun _ => replacement

/-- Decode units of four bytes. A number that is no character stands for nothing, and neither do
bytes at the end that are no unit. -/
def decodeQuads (order : ByteOrder) : List UInt8 -> List Char
  | a :: b :: c :: d :: rest =>
      let unit := unitOf order [a, b, c, d]
      (if Text.isHalf unit || 0x10FFFF < unit then replacement else Char.ofNat unit) ::
        decodeQuads order rest
  | [] => []
  | _ => [replacement]

end RequestSurface.Charset
