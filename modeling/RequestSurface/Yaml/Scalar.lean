import RequestSurface.Calendar
import RequestSurface.Json.Fault
import RequestSurface.Number.Arithmetic
import RequestSurface.Text.Digits
import RequestSurface.Text.Pieces
import RequestSurface.Value
import RequestSurface.Yaml.Place

/-!
# Plain scalars

What an unquoted scalar stands for: nothing, a truth value, a number, a date, or its own text.
Underscores may stand between digits, and a number may be written in sixtieths with colons.
-/

namespace RequestSurface.Yaml

/-- Words for nothing. -/
def nullWords : List String := ["", "~", "null", "Null", "NULL"]

/-- Words for truth. -/
def trueWords : List String :=
  ["yes", "Yes", "YES", "true", "True", "TRUE", "on", "On", "ON"]

/-- Words for falsehood. -/
def falseWords : List String :=
  ["no", "No", "NO", "false", "False", "FALSE", "off", "Off", "OFF"]

/-- Words for infinity. -/
def infinityWords : List String := [".inf", ".Inf", ".INF"]

/-- Words for the undefined number. -/
def undefinedWords : List String := [".nan", ".NaN", ".NAN"]

/-- Whether a number is negative, and what follows its sign. -/
def splitSign : List Char -> Bool × List Char
  | '-' :: rest => (true, rest)
  | '+' :: rest => (false, rest)
  | text => (false, text)

/-- Whether a character may stand in a row of digits of a base. -/
def isSpacedDigit (base : Nat) (character : Char) : Bool :=
  Text.isDigitIn base character || character == '_'

/-- The number written by a row of digits with underscores between them. -/
def spacedNumber (base : Nat) (digits : List Char) : Nat :=
  Text.numberIn base (digits.filter (· != '_'))

/-- Whether a text is a part of a number in sixtieths: one digit, or two below sixty. -/
def isSixtieth (digits : List Char) : Bool :=
  match digits with
  | [digit] => digit.isDigit
  | [tens, ones] => '0' ≤ tens && tens ≤ '5' && ones.isDigit
  | _ => false

/-- The number written in sixtieths, the greatest part first. -/
def sixtieths (parts : List (List Char)) : Nat :=
  parts.foldl (fun value part => 60 * value + spacedNumber 10 part) 0

/-- The number written after the mark of a base, which may lack digits. -/
def markedNumber? (base : Nat) (digits : List Char) : Option (Except Problem Nat) :=
  if digits.isEmpty || !digits.all (isSpacedDigit base) then none
  else if digits.all (· == '_') then some (.error (.noDigits base))
  else some (.ok (spacedNumber base digits))

/-- A whole number whose greatest part is written by the given decimal digits. -/
def withinLimit (digits : List Char) (value : Nat) : Except Problem Nat :=
  let width := (digits.filter (· != '_')).length
  if Text.digitLimit < width then .error (.tooManyDigits width) else .ok value

/-- The whole number that a text without sign stands for. -/
def magnitude? (text : List Char) : Option (Except Problem Nat) :=
  match text with
  | '0' :: 'b' :: digits => markedNumber? 2 digits
  | '0' :: 'x' :: digits => markedNumber? 16 digits
  | '0' :: digits =>
      if digits.all (isSpacedDigit 8) then some (.ok (spacedNumber 8 digits)) else none
  | head :: _ =>
      let parts := Text.piecesAt ':' text
      let first := parts.headD []
      if head.isDigit && first.all (isSpacedDigit 10) && (parts.drop 1).all isSixtieth then
        some (withinLimit first (sixtieths parts))
      else none
  | [] => none

/-- The exponent at the end of a number, which has a sign; no exponent is zero. -/
def exponent? (text : List Char) : Option Int :=
  match text with
  | [] => some 0
  | mark :: sign :: digits =>
      if (mark == 'e' || mark == 'E') && (sign == '-' || sign == '+') && !digits.isEmpty &&
          digits.all Char.isDigit then
        let size : Int := Text.numberIn 10 digits
        some (if sign == '-' then -size else size)
      else none
  | _ => none

/-- Add up a number in sixtieths from its least part; `weight` is what the next part counts. -/
def addSixtieths (weight : Nat) (done : Binary64) : List Binary64 -> Except Problem Binary64
  | [] => .ok done
  | part :: rest =>
      match Binary64.ofFraction false weight 1 with
      | .infinite _ => .error .tooManyParts
      | factor => addSixtieths (60 * weight) (done.add (part.mul factor)) rest

/-- The number in sixtieths with the given parts, the greatest first, the last of which has a
fraction. The parts are added up from the last one, and each sum is rounded. -/
def fractionalSixtieths (parts : List (List Char)) (fraction : List Char) :
    Except Problem Binary64 :=
  let last := (parts.getLast?).getD []
  let places : Int := fraction.length
  let lastPart := Binary64.ofDecimal false (Text.numberIn 10 (last ++ fraction)) (-places)
  let others := parts.dropLast.reverse.map fun part =>
    Binary64.ofDecimal false (Text.numberIn 10 part) 0
  addSixtieths 1 (.zero false) (lastPart :: others)

/-- The number with a fraction that a text stands for. -/
def fractional? (text : List Char) : Option (Except Problem Binary64) :=
  let (negative, body) := splitSign text
  if infinityWords.contains (String.ofList body) then some (.ok (.infinite negative))
  else if undefinedWords.contains (String.ofList text) then some (.ok .undefined)
  else
    let whole := body.takeWhile (· != '.')
    match body.drop whole.length with
    | [] => none
    | _ :: tail =>
        let fraction := tail.takeWhile (isSpacedDigit 10)
        let digits := fraction.filter (· != '_')
        let places : Int := digits.length
        let parts := Text.piecesAt ':' whole
        match exponent? (tail.drop fraction.length) with
        | none => none
        | some exponent =>
            if whole.isEmpty then
              if text.head? = some '.' ∧ (fraction.headD '_').isDigit then
                some (.ok (.ofDecimal false (spacedNumber 10 fraction) (exponent - places)))
              else none
            else if !(whole.headD '_').isDigit then none
            else if whole.all (isSpacedDigit 10) then
              let number := spacedNumber 10 (whole ++ fraction)
              some (.ok (.ofDecimal negative number (exponent - places)))
            else if (parts.headD []).all (isSpacedDigit 10) && (parts.drop 1).all isSixtieth &&
                (tail.drop fraction.length).isEmpty then
              let number := fractionalSixtieths (parts.map (·.filter (· != '_'))) digits
              some (number.map fun size => if negative then size.negate else size)
            else none

/-- The day of a year, a month and a day, if there is one. -/
def dateOf (year month day : Nat) : Except Problem Scalar :=
  if year = 0 then .error (.noSuchDay s!"year {year} is out of range")
  else if month = 0 ∨ 12 < month then .error (.noSuchDay "month must be in 1..12")
  else if day = 0 ∨ Calendar.daysOf year month < day then
    .error (.noSuchDay "day is out of range for month")
  else .ok (.date year month day)

/-- The numbers of a date: four, two and two digits with dashes between them. -/
def dateParts? (text : List Char) : Option (Nat × Nat × Nat) :=
  match Text.piecesAt '-' text with
  | [year, month, day] =>
      if year.length = 4 ∧ month.length = 2 ∧ day.length = 2 ∧
          (year ++ month ++ day).all Char.isDigit then
        some (Text.numberIn 10 year, Text.numberIn 10 month, Text.numberIn 10 day)
      else none
  | _ => none

/-- The words that are kept for purposes of their own. -/
def keptWords : List String := ["=", "<<"]

/-- What a plain scalar stands for. -/
def resolvePlain (text : List Char) : Except Problem Scalar :=
  let word := String.ofList text
  if nullWords.contains word then .ok .null
  else if trueWords.contains word then .ok (.bool true)
  else if falseWords.contains word then .ok (.bool false)
  else if keptWords.contains word then .error .malformed
  else
    let (negative, body) := splitSign text
    match fractional? text, magnitude? body, dateParts? text with
    | some number, _, _ => number.map .float
    | none, some size, _ =>
        size.map fun size => .int (if negative then -(size : Int) else size)
    | none, none, some (year, month, day) => dateOf year month day
    | none, none, none => .ok (.text word)

end RequestSurface.Yaml
