import RequestSurface.Text.Digits
import RequestSurface.Text.Half
import RequestSurface.Text.Lines
import RequestSurface.Text.Ranges
import RequestSurface.Text.WordTable

/-!
# Parameters of events

A tag that begins with an at sign may have parameters: the name of an action, with or without a list
of values after it, or the values alone. Values are numbers, texts, rows of bytes, the words for
truth, falsehood and nothing, and groups of values. Here it is only told whether parameters can be
read.
-/

namespace RequestSurface.Console

/-- Kinds of values, as far as they decide what a value may be part of: numbers without and with a
sign, which may be imaginary; values that cannot change; and those that can. -/
inductive LiteralKind where
  | number
  | imaginary
  | signed
  | signedImaginary
  | fixed
  | changing
  deriving DecidableEq, Repr

namespace LiteralKind

/-- The kind of a value with a sign in front, if it may have one. -/
def withSign? : LiteralKind -> Option LiteralKind
  | number => some signed
  | imaginary => some signedImaginary
  | _ => none

/-- The kind of the sum of two values: the first is real and the second imaginary. -/
def sum? (left right : LiteralKind) : Option LiteralKind :=
  if (left == number || left == signed) && right == imaginary then some fixed else none

/-- The kind of a group that cannot change. -/
def group (kinds : List LiteralKind) : LiteralKind :=
  if kinds.contains changing then changing else fixed

end LiteralKind

/-- What reading a part gives, and what follows it. -/
abbrev LiteralRead := Option (LiteralKind × List Char)

/-- Skip blanks; inside brackets, line ends and comments as well. -/
def skipBlanks (isInside : Bool) (inComment : Bool) : List Char -> List Char
  | [] => []
  | head :: rest =>
      if head == '\n' then
        if isInside then skipBlanks isInside false rest else head :: rest
      else if inComment || head == '#' then skipBlanks isInside true rest
      else if head == ' ' || head == '\t' || head == '\x0c' then skipBlanks isInside false rest
      else head :: rest

/-- Digits of a base with single underscores between them, and what follows. -/
def digitRow (base : Nat) : List Char -> List Char × List Char
  | [] => ([], [])
  | head :: '_' :: next :: rest =>
      if !Text.isDigitIn base head then ([], head :: '_' :: next :: rest)
      else if !Text.isDigitIn base next then ([head], '_' :: next :: rest)
      else
        let (digits, others) := digitRow base (next :: rest)
        (head :: digits, others)
  | head :: rest =>
      if !Text.isDigitIn base head then ([], head :: rest)
      else
        let (digits, others) := digitRow base rest
        (head :: digits, others)
termination_by text => text.length

/-- The exponent at the beginning of a text, if there is one, and what follows. -/
def skipExponent (text : List Char) : Bool × List Char :=
  match text with
  | mark :: rest =>
      if mark != 'e' && mark != 'E' then (false, text)
      else
        let unsigned := match rest with
          | '+' :: others => others
          | '-' :: others => others
          | others => others
        match digitRow 10 unsigned with
        | ([], _) => (false, text)
        | (_, others) => (true, others)
  | [] => (false, [])

/-- Whether a number or a name goes on with a character. -/
def continuesWord (character : Char) : Bool :=
  character.isAlphanum || character == '_' || 0x80 ≤ character.toNat

/-- A number that has been read, unless it goes on like a name. -/
def numberEnd (kind : LiteralKind) (rest : List Char) : LiteralRead :=
  if (rest.head?.map continuesWord).getD false then none else some (kind, rest)

/-- Read a whole number of another base after its mark. -/
def readBased (base : Nat) (text : List Char) : LiteralRead :=
  let digits := match text with
    | '_' :: rest => rest
    | _ => text
  match digitRow base digits with
  | ([], _) => none
  | (_, rest) => numberEnd .number rest

/-- Read a decimal number. -/
def readDecimal (text : List Char) : LiteralRead :=
  let (whole, afterWhole) := digitRow 10 text
  let (fraction, hasPoint, afterFraction) := match afterWhole with
    | '.' :: rest =>
        let (digits, others) := digitRow 10 rest
        (digits, true, others)
    | _ => ([], false, afterWhole)
  if whole.isEmpty && fraction.isEmpty then none
  else
    let (hasExponent, rest) := skipExponent afterFraction
    match rest with
    | 'j' :: others => numberEnd .imaginary others
    | 'J' :: others => numberEnd .imaginary others
    | _ =>
        let hasIdleZero := whole.head? == some '0' && whole.any (· != '0')
        if !hasPoint && !hasExponent && (hasIdleZero || Text.digitLimit < whole.length) then none
        else numberEnd .number rest

/-- Read a number. -/
def readLiteralNumber (text : List Char) : LiteralRead :=
  match text with
  | '0' :: 'x' :: rest => readBased 16 rest
  | '0' :: 'X' :: rest => readBased 16 rest
  | '0' :: 'o' :: rest => readBased 8 rest
  | '0' :: 'O' :: rest => readBased 8 rest
  | '0' :: 'b' :: rest => readBased 2 rest
  | '0' :: 'B' :: rest => readBased 2 rest
  | _ => readDecimal text

/-- How a quoted text is written: between which quotes, whether backslashes stand for themselves,
and whether it is a row of bytes. -/
structure Quoting where
  quotes : List Char
  isRaw : Bool
  isBytes : Bool

/-- How many hexadecimal digits follow a letter after a backslash. -/
def Quoting.hexWidth (quoting : Quoting) (letter : Char) : Nat :=
  match letter with
  | 'x' => 2
  | 'u' => if quoting.isBytes then 0 else 4
  | 'U' => if quoting.isBytes then 0 else 8
  | _ => 0

/-- Skip a quoted text after its opening quotes, in at most so many steps. -/
def skipQuoted (quoting : Quoting) : Nat -> List Char -> Option (List Char)
  | 0, _ => none
  | _, [] => none
  | steps + 1, head :: rest =>
      if quoting.quotes.isPrefixOf (head :: rest) then
        some ((head :: rest).drop quoting.quotes.length)
      else if head == '\n' && quoting.quotes.length == 1 then none
      else if quoting.isBytes && 0x80 ≤ head.toNat then none
      else if head != '\\' then skipQuoted quoting steps rest
      else
        match rest with
        | [] => none
        | letter :: others =>
            if quoting.isBytes && 0x80 ≤ letter.toNat then none
            else if quoting.isRaw then skipQuoted quoting steps others
            else
              let width := quoting.hexWidth letter
              let digits := others.take width
              let fits := digits.length == width && digits.all (Text.isDigitIn 16) &&
                Text.numberIn 16 digits ≤ 0x10FFFF
              if !fits || (letter == 'N' && !quoting.isBytes) then none
              else skipQuoted quoting steps (others.drop width)

/-- The letters in front of a quoted text: whether they make it raw, and whether it is a row of
bytes. -/
def quotedStarts : List (String × Bool × Bool) :=
  [("", false, false), ("u", false, false), ("r", true, false), ("b", false, true),
    ("br", true, true), ("rb", true, true)]

/-- Read one quoted text, and whether it is a row of bytes. -/
def readQuotedOne (text : List Char) : Option (Bool × List Char) :=
  let letters := text.takeWhile Char.isAlpha
  match quotedStarts.lookup (String.ofList (letters.map Char.toLower)),
      text.drop letters.length with
  | some (isRaw, isBytes), quote :: rest =>
      if quote != '"' && quote != '\'' then none
      else
        let isTriple := [quote, quote].isPrefixOf rest
        let quotes := if isTriple then [quote, quote, quote] else [quote]
        (skipQuoted ⟨quotes, isRaw, isBytes⟩ (rest.length + 1)
          (rest.drop (quotes.length - 1))).map fun after => (isBytes, after)
  | _, _ => none

/-- Read quoted texts in a row, which must be of one kind, in at most so many steps. -/
def readQuotedRow (isInside : Bool) : Nat -> Option Bool -> List Char -> LiteralRead
  | 0, _, _ => none
  | steps + 1, kind, text =>
      match readQuotedOne (skipBlanks isInside false text) with
      | none => kind.map fun _ => (.fixed, text)
      | some (isBytes, rest) =>
          if kind == some (!isBytes) then none else readQuotedRow isInside steps (some isBytes) rest

/-- Words that are values. -/
def valueWords : List String := ["None", "True", "False"]

/-- Read a word that is a value, or the empty set. -/
def readWordValue (isInside : Bool) (text : List Char) : LiteralRead :=
  let word := String.ofList (text.takeWhile continuesWord)
  let rest := text.drop word.length
  if valueWords.contains word then some (.fixed, rest)
  else if word != "set" then none
  else
    match skipBlanks isInside false rest with
    | '(' :: inner =>
        match skipBlanks true false inner with
        | ')' :: after => some (.changing, after)
        | _ => none
    | _ => none

mutual

/-- Read a value, which may be a sum; the depth counts down at every step. -/
def readSum : Nat -> Bool -> List Char -> LiteralRead
  | 0, _, _ => none
  | depth + 1, isInside, text => do
      let (left, rest) ← readSigned depth isInside text
      match skipBlanks isInside false rest with
      | mark :: after =>
          if mark != '+' && mark != '-' then return (left, rest)
          let (right, others) ← readSigned depth isInside after
          let kind ← left.sum? right
          match skipBlanks isInside false others with
          | next :: _ => if next == '+' || next == '-' then none else return (kind, others)
          | [] => return (kind, others)
      | [] => return (left, rest)

/-- Read a value, which may have a sign. -/
def readSigned : Nat -> Bool -> List Char -> LiteralRead
  | 0, _, _ => none
  | depth + 1, isInside, text =>
      match skipBlanks isInside false text with
      | '+' :: rest => readWithSign depth isInside rest
      | '-' :: rest => readWithSign depth isInside rest
      | '(' :: rest => readTuple depth [] (skipBlanks true false rest)
      | '\x7b' :: rest => readBraces depth none (skipBlanks true false rest)
      | '.' :: '.' :: '.' :: rest => some (.fixed, rest)
      | rest =>
          (readLiteralNumber rest).or
            ((readQuotedRow isInside (rest.length + 1) none rest).or (readWordValue isInside rest))

/-- Read the value after a sign. -/
def readWithSign : Nat -> Bool -> List Char -> LiteralRead
  | 0, _, _ => none
  | depth + 1, isInside, text => do
      let (kind, rest) ← readSigned depth isInside text
      return (← kind.withSign?, rest)

/-- Read a group in parentheses after the values already read; a single value without comma is
itself. -/
def readTuple : Nat -> List LiteralKind -> List Char -> LiteralRead
  | 0, _, _ => none
  | depth + 1, done, text =>
      match text with
      | ')' :: rest => some (.group done, rest)
      | _ => do
          let (kind, rest) ← readSum depth true text
          match skipBlanks true false rest with
          | ',' :: after => readTuple depth (kind :: done) (skipBlanks true false after)
          | ')' :: after =>
              return (if done.isEmpty then kind else .group (kind :: done), after)
          | _ => none

/-- Read a group in braces. Either all its values have keys or none has; keys, and values without
keys, cannot be of a changing kind. -/
def readBraces : Nat -> Option Bool -> List Char -> LiteralRead
  | 0, _, _ => none
  | depth + 1, hasKeys, text =>
      match text with
      | '\x7d' :: rest => some (.changing, rest)
      | _ => do
          let (key, rest) ← readSum depth true text
          let (isEntry, after) ← match skipBlanks true false rest with
            | ':' :: value => do
                let (_, others) ← readSum depth true value
                some (true, skipBlanks true false others)
            | others => some (false, others)
          if key == .changing || hasKeys == some (!isEntry) then none
          match after with
          | ',' :: others => readBraces depth (some isEntry) (skipBlanks true false others)
          | '\x7d' :: others => return (.changing, others)
          | _ => none

end

/-- Read values with commas between, in at most so many steps, up to the end of a text. -/
def readValues : Nat -> List Char -> Bool
  | 0, _ => false
  | steps + 1, text =>
      match readSum (4 * text.length + 4) false text with
      | none => false
      | some (_, rest) =>
          match skipBlanks false false rest with
          | [] => true
          | ',' :: after =>
              (skipBlanks false false after).isEmpty || readValues steps after
          | _ => false

/-- The letters and numbers outside ASCII. -/
def wordTable : Text.RangeTable := .ofRows Text.wordRanges

/-- Whether the name of an action may have a character. -/
def isOfAction (character : Char) : Bool :=
  character.isAlphanum || character == '_' || character == '.' || wordTable.holds character

/-- The values among some parameters: those in parentheses after the name of an action, none if
there is only the name, and the parameters themselves where there is no such name. -/
def valuesOf (parameters : List Char) : List Char :=
  let values := parameters.dropWhile isOfAction
  if values.isEmpty then "()".toList
  else if values.head? == some '(' && values.getLast? == some ')' && !values.contains '\n' then
    values
  else parameters

/-- Whether parameters can be read. -/
def areParameters (parameters : List Char) : Bool :=
  let values := valuesOf (Text.trim parameters)
  !Text.hasHalf values && readValues (values.length + 1) values

end RequestSurface.Console
