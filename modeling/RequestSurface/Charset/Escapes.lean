import RequestSurface.Charset.ByteTable
import RequestSurface.Text.Half

/-!
# Escaped text

Two charsets in which every byte is the character of its own number, and other characters are
written with a backslash. In the plain one only numbers are escaped; in the full one controls and
quotes are as well.
-/

namespace RequestSurface.Charset

/-- The letters after a backslash that stand for one character. -/
def letterEscapes : List (Char × Char) :=
  [('\\', '\\'), ('\'', '\''), ('"', '"'), ('b', '\x08'), ('f', '\x0c'), ('t', '\t'), ('n', '\n'),
    ('r', '\r'), ('v', '\x0b'), ('a', '\x07')]

/-- How many hexadecimal digits follow a letter after a backslash. -/
def hexWidth? (isFull : Bool) (letter : Char) : Option Nat :=
  match letter with
  | 'x' => if isFull then some 2 else none
  | 'u' => some 4
  | 'U' => some 8
  | _ => none

/-- The character of a number, which must have so many digits. -/
def escapedNumber (width : Nat) (digits : List Char) : Char :=
  let number := Text.numberIn 16 digits
  if digits.length = width ∧ number ≤ 0x10FFFF then Text.charOf number else replacement

/-- The name in braces after a letter and what follows it. -/
def skipName : List Char -> List Char
  | '\x7b' :: rest =>
      match rest.dropWhile (· != '\x7d') with
      | [] => []
      | _ :: after => after
  | rest => rest

/-- Decode the characters that follow, in at most so many steps. A name stands for nothing. -/
def decodeEscapesIn (isFull : Bool) : Nat -> List Char -> List Char
  | 0, _ => []
  | _, [] => []
  | _, ['\\'] => if isFull then [replacement] else ['\\']
  | steps + 1, '\\' :: letter :: rest =>
      match hexWidth? isFull letter, letterEscapes.lookup letter with
      | some width, _ =>
          let digits := (rest.take width).takeWhile fun digit => (Text.hexDigit? digit).isSome
          escapedNumber width digits :: decodeEscapesIn isFull steps (rest.drop digits.length)
      | none, escape =>
          if !isFull then '\\' :: letter :: decodeEscapesIn isFull steps rest
          else if letter == '\n' then decodeEscapesIn isFull steps rest
          else if letter == 'N' then replacement :: decodeEscapesIn isFull steps (skipName rest)
          else if Text.isDigitIn 8 letter then
            let digits := letter :: (rest.take 2).takeWhile (Text.isDigitIn 8)
            Char.ofNat (Text.numberIn 8 digits) ::
              decodeEscapesIn isFull steps (rest.drop (digits.length - 1))
          else
            match escape with
            | some character => character :: decodeEscapesIn isFull steps rest
            | none => '\\' :: letter :: decodeEscapesIn isFull steps rest
  | steps + 1, head :: rest => head :: decodeEscapesIn isFull steps rest

/-- Decode some bytes. -/
def decodeEscapes (isFull : Bool) (bytes : List UInt8) : List Char :=
  decodeEscapesIn isFull (bytes.length + 1) (ByteTable.latin.decode bytes)

end RequestSurface.Charset
