/-!
# Charsets of single bytes

A charset in which every byte is one character. The bytes below the first one of its table stand for
the characters of their own numbers.
-/

namespace RequestSurface.Charset

/-- The character for bytes that stand for nothing. -/
def replacement : Char := '\uFFFD'

/-- A charset of single bytes: the characters from the byte `first` on. Bytes past its end stand for
nothing. -/
structure ByteTable where
  first : Nat
  characters : Array Char
  deriving Inhabited

namespace ByteTable

/-- The table with the characters of a text. -/
def of (first : Nat) (text : String) : ByteTable where
  first := first
  characters := text.toList.toArray

/-- The charset in which every byte is the character of its own number. -/
def latin : ByteTable := .of 0x100 ""

/-- The character of a byte. -/
def charAt (table : ByteTable) (byte : UInt8) : Char :=
  if byte.toNat < table.first then Char.ofNat byte.toNat
  else (table.characters[byte.toNat - table.first]?).getD replacement

/-- The text of some bytes. -/
def decode (table : ByteTable) (bytes : List UInt8) : List Char :=
  bytes.map table.charAt

end ByteTable

end RequestSurface.Charset
