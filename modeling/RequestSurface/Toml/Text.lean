import RequestSurface.Text.Digits

/-!
# Strings and keys of TOML

Reads strings in all four spellings and keys with dots. A basic string has escapes, a literal one
has none, and either may go over several lines when three quotes stand around it.
-/

namespace RequestSurface.Toml

/-- Why a text cannot be read: it is malformed, or a whole number in it has more digits than are
converted. -/
inductive Problem where
  | malformed
  | tooManyDigits (count : Nat)
  deriving DecidableEq, Repr

/-- Blanks within a line. -/
def isBlank (character : Char) : Bool :=
  character == ' ' || character == '\t'

/-- Skip the blanks in front of a text. -/
def skipBlanks (text : List Char) : List Char :=
  text.dropWhile isBlank

/-- Skip blanks and line ends. -/
def skipSpace (text : List Char) : List Char :=
  text.dropWhile fun character => isBlank character || character == '\n'

/-- Characters that must not occur in a string or comment. A string over several lines may hold
line ends. -/
def isForbidden (manyLines : Bool) (character : Char) : Bool :=
  let code := character.toNat
  (code < 0x20 || code == 0x7F) && character != '\t' && !(manyLines && character == '\n')

/-- What a one-letter escape stands for. -/
def simpleEscapes : List (Char × Char) :=
  [('b', '\x08'), ('t', '\t'), ('n', '\n'), ('f', '\x0c'), ('r', '\r'), ('"', '"'), ('\\', '\\')]

/-- How many hexadecimal digits follow the letter of an escape. -/
def escapeWidth? : Char -> Option Nat
  | 'u' => some 4
  | 'U' => some 8
  | _ => none

/-- The character after a backslash and how many characters it takes. -/
def escaped? : List Char -> Option (Char × Nat)
  | [] => none
  | letter :: rest =>
      match simpleEscapes.lookup letter, escapeWidth? letter with
      | some character, _ => some (character, 1)
      | none, none => none
      | none, some width =>
          if (rest.take width).length = width then
            match Text.hexNumber? (rest.take width) with
            | some code =>
                if code.isValidChar then some (Char.ofNat code, width + 1) else none
            | none => none
          else none

/-- What follows an escaped line end: the text after all blanks and line ends. Blanks may stand
between the backslash and the line end. -/
def afterEscapedBreak? (text : List Char) : Option (List Char) :=
  match skipBlanks text with
  | [] => if text.isEmpty then none else some []
  | '\n' :: rest => some (skipSpace rest)
  | _ => none

/-- Whether a text begins with the quotes that close a string. -/
def closes (quote : Char) (manyLines : Bool) (text : List Char) : Bool :=
  if manyLines then text.take 3 == [quote, quote, quote] else text.head? == some quote

/-- The end of a string: its text and what follows. Up to two more quotes belong to a string over
several lines. -/
def closed (quote : Char) (manyLines : Bool) (done rest : List Char) : String × List Char :=
  let extra := if manyLines then ((rest.drop 3).take 2).takeWhile (· == quote) else []
  let width := if manyLines then 3 else 1
  (String.ofList (done.reverse ++ extra), rest.drop (width + extra.length))

/-- Read a string after its opening quotes, in at most so many steps; what was read before is in
reverse. -/
def readString (quote : Char) (manyLines : Bool) :
    Nat -> List Char -> List Char -> Except Problem (String × List Char)
  | 0, _, _ => .error .malformed
  | steps + 1, done, text =>
      match text with
      | [] => .error .malformed
      | head :: rest =>
          if closes quote manyLines text then .ok (closed quote manyLines done text)
          else if head == '\\' && quote == '"' then
            match escaped? rest, afterEscapedBreak? rest with
            | some (character, width), _ =>
                readString quote manyLines steps (character :: done) (rest.drop width)
            | none, some next =>
                if manyLines then readString quote manyLines steps done next else .error .malformed
            | none, none => .error .malformed
          else if isForbidden manyLines head then .error .malformed
          else readString quote manyLines steps (head :: done) rest

/-- Read a string on one line after its opening quote. -/
def readLineString (quote : Char) (rest : List Char) : Except Problem (String × List Char) :=
  readString quote false (rest.length + 1) [] rest

/-- Read a string that begins with the given quote. A line end right after three opening quotes does
not count. -/
def readQuoted (quote : Char) (rest : List Char) : Except Problem (String × List Char) :=
  if rest.take 2 == [quote, quote] then
    let inner := rest.drop 2
    let inner := if inner.head? == some '\n' then inner.drop 1 else inner
    readString quote true (inner.length + 1) [] inner
  else readLineString quote rest

/-- Characters of a key without quotes. -/
def isBareKeyChar (character : Char) : Bool :=
  character.isAlphanum || character == '-' || character == '_'

/-- Read one part of a key. -/
def readKeyPart (text : List Char) : Except Problem (String × List Char) :=
  match text with
  | '"' :: rest => readLineString '"' rest
  | '\'' :: rest => readLineString '\'' rest
  | _ =>
      let part := text.takeWhile isBareKeyChar
      if part.isEmpty then .error .malformed
      else .ok (String.ofList part, text.drop part.length)

/-- Read a key: parts with dots between them, in at most so many steps. -/
def readKeyParts : Nat -> List Char -> Except Problem (List String × List Char)
  | 0, _ => .error .malformed
  | steps + 1, text => do
      let (part, rest) ← readKeyPart text
      match skipBlanks rest with
      | '.' :: tail =>
          let (others, last) ← readKeyParts steps (skipBlanks tail)
          return (part :: others, last)
      | next => return ([part], next)

/-- Read a key and the blanks after it. -/
def readKey (text : List Char) : Except Problem (List String × List Char) :=
  readKeyParts (text.length + 1) text

end RequestSurface.Toml
