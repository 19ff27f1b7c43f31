import RequestSurface.Charset.Designated
import RequestSurface.Charset.Escapes
import RequestSurface.Charset.Placed
import RequestSurface.Charset.Shifted
import RequestSurface.Text.Utf8

/-!
# Charsets

How bytes stand for text. Bytes that stand for nothing are replaced, so that decoding only fails as
a whole: where the order of bytes is not told, or where what has a charset's name is none.
-/

namespace RequestSurface

namespace Charset

/-- Why bytes are not decoded: the name of their charset has a null character in it, nothing tells
the order of bytes in units of so many bits, a byte at a place among moves is not ASCII, or the name
belongs to packed bytes, to a cipher of letters, to host names, or to nothing. -/
inductive Fault where
  | nullInName
  | noMark (bits : Nat)
  | notAscii (byte : UInt8) (place : Nat)
  | packed
  | cipher
  | hostNames
  | nothing
  deriving DecidableEq, Repr

/-- The message of a fault. -/
def Fault.message : Fault -> String
  | nullInName => "embedded null character"
  | noMark bits => s!"UTF-{bits} stream does not start with BOM"
  | notAscii byte place =>
      s!"'ascii' codec can't decode byte {Text.byteText byte.toNat} in position {place}: " ++
        "ordinal not in range(128)"
  | packed => ""
  | cipher => "descriptor 'translate' for 'str' objects doesn't apply to a 'bytes' object"
  | hostNames => "Unsupported error handling replace"
  | nothing => "undefined encoding"

end Charset

/-- A charset: single bytes, rows of bytes for a character (with or without a mark before the text),
units of two or four bytes whose order may be told by a mark, shifted or escaped text, signs of
several bytes, designated sets, a set between braces, placed characters, or no charset at all. -/
inductive Charset where
  | bytes (table : Charset.ByteTable)
  | utf8
  | markedUtf8
  | pairs (order : Option Charset.ByteOrder)
  | quads (order : Option Charset.ByteOrder)
  | shifted
  | escaped (isFull : Bool)
  | signs (read : UInt8 -> List UInt8 -> Charset.Sign)
  | designated (designations : Charset.Designations)
  | braced
  | placed
  | unfit (fault : Charset.Fault)

namespace Charset

/-- The mark before a text in rows of bytes. -/
def rowMark : List UInt8 := [0xEF, 0xBB, 0xBF]

/-- Decode after a mark. A text that ends within the mark is empty. -/
def decodeMarked (bytes : List UInt8) : List Char :=
  if bytes.isPrefixOf rowMark then []
  else if rowMark.isPrefixOf bytes then Text.decodeLossy (bytes.drop 3)
  else Text.decodeLossy bytes

/-- The order that the mark before a text in units tells. -/
def markedOrder? (width : Nat) (bytes : List UInt8) : Option ByteOrder :=
  let first := bytes.take width
  if first.length < width then none
  else if unitOf .little first = 0xFEFF then some .little
  else if unitOf .big first = 0xFEFF then some .big
  else none

/-- Decode units of so many bytes in the order that their mark tells. -/
def decodeByMark (width : Nat) (decodeIn : ByteOrder -> List UInt8 -> List Char)
    (bytes : List UInt8) : Except Fault (List Char) :=
  match markedOrder? width bytes with
  | some order => .ok (decodeIn order (bytes.drop width))
  | none =>
      if width ≤ bytes.length then .error (.noMark (8 * width))
      else .ok (decodeIn .little bytes)

/-- Decode some bytes, of which there is at least one. -/
def decode (charset : Charset) (given : List UInt8) : Except Fault (List Char) :=
  match charset with
  | bytes table => .ok (table.decode given)
  | utf8 => .ok (Text.decodeLossy given)
  | markedUtf8 => .ok (decodeMarked given)
  | pairs (some order) => .ok (decodePairs order given)
  | pairs none => decodeByMark 2 decodePairs given
  | quads (some order) => .ok (decodeQuads order given)
  | quads none => decodeByMark 4 decodeQuads given
  | shifted => .ok (decodeShifted .outside given)
  | escaped isFull => .ok (decodeEscapes isFull given)
  | signs read => .ok (decodeSigns read given)
  | designated designations => .ok (designations.decode given)
  | braced => .ok (decodeFrom readHz false given)
  | placed =>
      (decodePlaced given).mapError fun (byte, place) => .notAscii byte place
  | unfit fault => .error fault

end Charset

end RequestSurface
