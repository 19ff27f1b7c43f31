/-!
# Places in YAML text

What is left to read and where it stands. Indentation is told by columns, so a place knows its line
and its column besides the characters that follow it.
-/

namespace RequestSurface.Yaml

/-- Why a text cannot be read: it is malformed, a date in it names no day, a whole number in it has
no digits or more than are converted, a number in sixtieths has too many parts, or an escape names
no character. -/
inductive Problem where
  | malformed
  | noSuchDay (reason : String)
  | noDigits (base : Nat)
  | tooManyDigits (count : Nat)
  | tooManyParts
  | noSuchCharacter
  | characterTooGreat
  deriving DecidableEq, Repr

/-- Characters that end a line. -/
def isBreak (character : Char) : Bool :=
  character == '\n' || character == '\r' || character == '\u0085' || character == '\u2028' ||
    character == '\u2029'

/-- What a line end stands for inside a scalar. -/
def breakText (character : Char) : Char :=
  if character == '\u2028' || character == '\u2029' then character else '\n'

/-- Whether a text is at its end or goes on with something blank. -/
def startsBlank : List Char -> Bool
  | [] => true
  | head :: _ => head == ' ' || head == '\t' || isBreak head

/-- Characters that may occur in a text. -/
def isPrintable (character : Char) : Bool :=
  let code := character.toNat
  code == 0x09 || code == 0x0A || code == 0x0D || (0x20 ≤ code && code ≤ 0x7E) || code == 0x85 ||
    (0xA0 ≤ code && code ≤ 0xFFFD) || 0x10000 ≤ code

/-- A place in a text. -/
structure Place where
  rest : List Char
  offset : Nat
  line : Nat
  column : Nat
  deriving Repr

namespace Place

/-- The beginning of a text. A byte order mark takes no column. -/
def start (text : List Char) : Place :=
  match text with
  | '\uFEFF' :: rest => ⟨rest, 1, 0, 0⟩
  | _ => ⟨text, 0, 0, 0⟩

/-- The place after some characters of the same line. -/
def advance (place : Place) (count : Nat) : Place :=
  { place with
    rest := place.rest.drop count, offset := place.offset + count, column := place.column + count }

/-- Skip blanks, line ends and comments; a comment goes from a number sign to the end of its
line. -/
def skipFrom (inComment : Bool) (offset line column : Nat) : List Char -> Place
  | [] => ⟨[], offset, line, column⟩
  | head :: rest =>
      if isBreak head then skipFrom false (offset + 1) (line + 1) 0 rest
      else if inComment || head == '#' then skipFrom true (offset + 1) line (column + 1) rest
      else if head == ' ' then skipFrom false (offset + 1) line (column + 1) rest
      else ⟨head :: rest, offset, line, column⟩

/-- The next place where something stands. -/
def skip (place : Place) : Place :=
  skipFrom false place.offset place.line place.column place.rest

/-- Whether one character stands at a place, with something blank after it. -/
def hasMark (mark : Char) (place : Place) : Bool :=
  place.rest.head? == some mark && startsBlank (place.rest.drop 1)

/-- Whether a text, read from the start of a line, separates documents. -/
def isSeparator (text : List Char) : Bool :=
  (text.take 3 == ['-', '-', '-'] || text.take 3 == ['.', '.', '.']) && startsBlank (text.drop 3)

/-- Whether the document ends at a place. -/
def atEnd (place : Place) : Bool :=
  place.rest.isEmpty || (place.column == 0 && isSeparator place.rest)

end Place

end RequestSurface.Yaml
