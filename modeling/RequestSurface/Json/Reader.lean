import RequestSurface.Json.Fault
import RequestSurface.Text.Digits
import RequestSurface.Text.Half
import RequestSurface.Value

/-!
# Reading JSON

Reads JSON text into a value. Keys keep the order in which they first appear, and the last value
of a repeated key counts. Beside the numbers of JSON the words for the infinities and for the
undefined number are accepted.
-/

namespace RequestSurface.Json

/-- What is left to read, and how many characters were read before it. -/
structure Cursor where
  offset : Nat
  rest : List Char

/-- A part that was read, or the problem that stopped the reading. -/
abbrev Read (α : Type) := Except Problem (α × Cursor)

/-- The characters that may stand between tokens. -/
def isSpace (character : Char) : Bool :=
  character == ' ' || character == '\t' || character == '\n' || character == '\r'

/-- Skip a number of characters. -/
def Cursor.advance (cursor : Cursor) (count : Nat) : Cursor :=
  ⟨cursor.offset + count, cursor.rest.drop count⟩

/-- Skip the spaces at the cursor. -/
def Cursor.skipSpace (cursor : Cursor) : Cursor :=
  cursor.advance (cursor.rest.takeWhile isSpace).length

/-- Stop at a place. -/
def stop {α : Type} (reason : Reason) (offset : Nat) : Read α :=
  .error (.malformed reason offset)

/-- What a one-letter escape stands for. -/
def simpleEscape? : Char -> Option Char
  | '"' => some '"'
  | '\\' => some '\\'
  | '/' => some '/'
  | 'b' => some '\x08'
  | 'f' => some '\x0c'
  | 'n' => some '\n'
  | 'r' => some '\r'
  | 't' => some '\t'
  | _ => none

/-- The character of two halves. -/
def joinHalves (high low : Nat) : Char :=
  Char.ofNat (0x10000 + (high - 0xD800) * 0x400 + (low - 0xDC00))

/-- Read a string up to its closing quote. A four-digit escape is only complete when something
follows it. Two of them that are the halves of one character are that character; another half stays
a half. -/
def readText (opening offset : Nat) (done : List Char) : List Char -> Read String
  | [] => stop .unterminatedString opening
  | '"' :: rest => .ok (String.ofList done.reverse, ⟨offset + 1, rest⟩)
  | '\\' :: 'u' :: a :: b :: c :: d :: '\\' :: 'u' :: e :: f :: g :: h :: next :: rest =>
      match Text.hexNumber? [a, b, c, d] with
      | none => stop .invalidUnicodeEscape (offset + 1)
      | some high =>
          let pending := '\\' :: 'u' :: e :: f :: g :: h :: next :: rest
          if 0xD800 ≤ high ∧ high ≤ 0xDBFF then
            match Text.hexNumber? [e, f, g, h] with
            | none => stop .invalidUnicodeEscape (offset + 7)
            | some low =>
                if 0xDC00 ≤ low ∧ low ≤ 0xDFFF then
                  readText opening (offset + 12) (joinHalves high low :: done) (next :: rest)
                else readText opening (offset + 6) (Text.charOf high :: done) pending
          else readText opening (offset + 6) (Text.charOf high :: done) pending
  | '\\' :: 'u' :: a :: b :: c :: d :: next :: rest =>
      match Text.hexNumber? [a, b, c, d] with
      | none => stop .invalidUnicodeEscape (offset + 1)
      | some code => readText opening (offset + 6) (Text.charOf code :: done) (next :: rest)
  | '\\' :: 'u' :: _ => stop .invalidUnicodeEscape (offset + 1)
  | '\\' :: escape :: rest =>
      match simpleEscape? escape with
      | some character => readText opening (offset + 2) (character :: done) rest
      | none => stop .invalidEscape offset
  | ['\\'] => stop .unterminatedString opening
  | head :: rest =>
      if head.toNat < 0x20 then stop .controlCharacter offset
      else readText opening (offset + 1) (head :: done) rest
termination_by text => text.length

/-- The fraction digits after the whole part of a number, if a point with digits follows. -/
def fractionDigits : List Char -> List Char
  | '.' :: rest => rest.takeWhile Char.isDigit
  | _ => []

/-- The sign and digits of an exponent, if one follows, with the count of characters it takes. -/
def exponentPart : List Char -> Option (Bool × List Char × Nat)
  | mark :: rest =>
      if mark = 'e' ∨ mark = 'E' then
        let (negative, signs, digits) :=
          match rest with
          | '-' :: tail => (true, 1, tail.takeWhile Char.isDigit)
          | '+' :: tail => (false, 1, tail.takeWhile Char.isDigit)
          | tail => (false, 0, tail.takeWhile Char.isDigit)
        if digits.isEmpty then none else some (negative, digits, 1 + signs + digits.length)
      else none
  | [] => none

/-- Read a number whose sign has been read. A leading zero stands alone. -/
def readNumber (start : Nat) (negative : Bool) (cursor : Cursor) : Read Value :=
  let digits := cursor.rest.takeWhile Char.isDigit
  let whole := if digits.head? = some '0' then ['0'] else digits
  if whole.isEmpty then stop .expectingValue start
  else
    let afterWhole := cursor.advance whole.length
    let fraction := fractionDigits afterWhole.rest
    let afterFraction :=
      if fraction.isEmpty then afterWhole else afterWhole.advance (1 + fraction.length)
    match exponentPart afterFraction.rest, fraction with
    | none, [] =>
        if Text.digitLimit < whole.length then .error (.tooManyDigits whole.length)
        else
          let magnitude : Int := Text.numberIn 10 whole
          .ok (.int (if negative then -magnitude else magnitude), afterWhole)
    | power, _ =>
        let (size, width) : Int × Nat :=
          match power with
          | none => (0, 0)
          | some (false, digits, width) => (Text.numberIn 10 digits, width)
          | some (true, digits, width) => (-(Text.numberIn 10 digits : Int), width)
        let number :=
          Binary64.ofDecimal negative (Text.numberIn 10 (whole ++ fraction))
            (size - fraction.length)
        .ok (.scalar (.float number), afterFraction.advance width)

/-- The words that stand for a value. -/
def words : List (String × Value) :=
  [("null", .null), ("true", .bool true), ("false", .bool false),
    ("NaN", .scalar (.float .undefined)), ("Infinity", .scalar (.float (.infinite false))),
    ("-Infinity", .scalar (.float (.infinite true)))]

/-- Read a value that is neither a string nor a container. -/
def readAtom (cursor : Cursor) : Read Value :=
  match words.find? fun word => word.1.toList.isPrefixOf cursor.rest with
  | some (word, value) => .ok (value, cursor.advance word.length)
  | none =>
      match cursor.rest with
      | '-' :: _ => readNumber cursor.offset true (cursor.advance 1)
      | _ => readNumber cursor.offset false cursor

mutual

/-- Read one value. The depth counts down at every step and is never reached when it starts above
twice the number of characters. -/
def readValue : Nat -> Cursor -> Except Problem (Value × Cursor)
  | 0, cursor => stop .expectingValue cursor.offset
  | depth + 1, cursor =>
      match cursor.rest with
      | '"' :: rest => do
          let (text, next) ← readText cursor.offset (cursor.offset + 1) [] rest
          return (.text text, next)
      | '{' :: _ =>
          let inner := (cursor.advance 1).skipSpace
          match inner.rest with
          | '}' :: _ => .ok (.mapping [], inner.advance 1)
          | _ => readEntries depth [] inner
      | '[' :: _ =>
          let inner := (cursor.advance 1).skipSpace
          match inner.rest with
          | ']' :: _ => .ok (.list [], inner.advance 1)
          | _ => readItems depth [] inner
      | _ => readAtom cursor

/-- Read the items of a list; those already read are in reverse. -/
def readItems : Nat -> List Value -> Cursor -> Except Problem (Value × Cursor)
  | 0, _, cursor => stop .expectingValue cursor.offset
  | depth + 1, done, cursor => do
      let (item, next) ← readValue depth cursor
      let after := next.skipSpace
      match after.rest with
      | ']' :: _ => return (.list (item :: done).reverse, after.advance 1)
      | ',' :: _ => readItems depth (item :: done) (after.advance 1).skipSpace
      | _ => stop .expectingComma after.offset

/-- Read the entries of an object after those already read. -/
def readEntries : Nat -> List (Scalar × Value) -> Cursor -> Except Problem (Value × Cursor)
  | 0, _, cursor => stop .expectingValue cursor.offset
  | depth + 1, done, cursor => do
      match cursor.rest with
      | '"' :: rest =>
          let (name, next) ← readText cursor.offset (cursor.offset + 1) [] rest
          let colon := next.skipSpace
          match colon.rest with
          | ':' :: _ =>
              let (value, last) ← readValue depth (colon.advance 1).skipSpace
              let entries := putEntry done (.text name) value
              let after := last.skipSpace
              match after.rest with
              | '}' :: _ => return (.mapping entries, after.advance 1)
              | ',' :: _ => readEntries depth entries (after.advance 1).skipSpace
              | _ => stop .expectingComma after.offset
          | _ => stop .expectingColon colon.offset
      | _ => stop .expectingName cursor.offset

end

/-- Read a whole text as one value, with nothing but spaces around it. -/
def read (text : List Char) : Except Problem Value :=
  match text with
  | '\uFEFF' :: _ => .error (.malformed .byteOrderMark 0)
  | _ => do
      let (value, next) ← readValue (2 * text.length + 2) (Cursor.mk 0 text).skipSpace
      let after := next.skipSpace
      if after.rest.isEmpty then return value
      else .error (.malformed .extraData after.offset)

end RequestSurface.Json
