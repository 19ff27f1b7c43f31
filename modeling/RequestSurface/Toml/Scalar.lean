import RequestSurface.Calendar
import RequestSurface.Json.Fault
import RequestSurface.Toml.Text
import RequestSurface.Value

/-!
# Numbers and dates of TOML

Reads what begins with a digit, a sign or one of the words for special numbers. Underscores may
stand between digits only. Times of day are not read.
-/

namespace RequestSurface.Toml

/-- The row of digits of a base that a text begins with, without the single underscores between
them, and how many characters it takes. -/
def spacedDigits (base : Nat) : List Char -> List Char × Nat
  | [] => ([], 0)
  | head :: '_' :: rest =>
      if Text.isDigitIn base head then
        let (digits, width) := spacedDigits base rest
        if digits.isEmpty then ([head], 1) else (head :: digits, width + 2)
      else ([], 0)
  | head :: rest =>
      if Text.isDigitIn base head then
        let (digits, width) := spacedDigits base rest
        (head :: digits, width + 1)
      else ([], 0)

/-- The base that a letter after a zero stands for. -/
def baseOf? : Char -> Option Nat
  | 'x' => some 16
  | 'o' => some 8
  | 'b' => some 2
  | _ => none

/-- A number with a base in front. -/
def basedNumber? (text : List Char) : Option (Value × List Char) :=
  match text with
  | '0' :: letter :: rest =>
      match baseOf? letter with
      | none => none
      | some base =>
          let (digits, width) := spacedDigits base rest
          if digits.isEmpty then none
          else some (.int (Text.numberIn base digits), rest.drop width)
  | _ => none

/-- The fraction digits after a whole number, and how many characters they take with the point. -/
def fractionPart : List Char -> List Char × Nat
  | '.' :: rest =>
      let (digits, width) := spacedDigits 10 rest
      if digits.isEmpty then ([], 0) else (digits, width + 1)
  | _ => ([], 0)

/-- The exponent after a number, if there is one, and how many characters it takes. -/
def exponentPart? : List Char -> Option (Int × Nat)
  | mark :: rest =>
      if mark == 'e' || mark == 'E' then
        let (negative, signs) :=
          match rest.head? with
          | some '-' => (true, 1)
          | some '+' => (false, 1)
          | _ => (false, 0)
        let (digits, width) := spacedDigits 10 (rest.drop signs)
        let size : Int := Text.numberIn 10 digits
        if digits.isEmpty then none else some (if negative then -size else size, width + signs + 1)
      else none
  | [] => none

/-- Read a decimal number. A leading zero stands alone. -/
def decimalNumber? (text : List Char) : Option (Except Problem Value × List Char) :=
  let (negative, signs) :=
    match text.head? with
    | some '-' => (true, 1)
    | some '+' => (false, 1)
    | _ => (false, 0)
  let body := text.drop signs
  let (whole, width) := if body.head? = some '0' then (['0'], 1) else spacedDigits 10 body
  if whole.isEmpty then none
  else
    let rest := body.drop width
    let (fraction, fractionWidth) := fractionPart rest
    let afterFraction := rest.drop fractionWidth
    match exponentPart? afterFraction with
    | none =>
        if fraction.isEmpty then
          let size : Int := Text.numberIn 10 whole
          let value : Except Problem Value :=
            if Text.digitLimit < whole.length then .error (.tooManyDigits whole.length)
            else .ok (.int (if negative then -size else size))
          some (value, rest)
        else
          let number :=
            Binary64.ofDecimal negative (Text.numberIn 10 (whole ++ fraction)) (-fraction.length)
          some (.ok (.scalar (.float number)), afterFraction)
    | some (exponent, exponentWidth) =>
        let number :=
          Binary64.ofDecimal negative (Text.numberIn 10 (whole ++ fraction))
            (exponent - fraction.length)
        some (.ok (.scalar (.float number)), afterFraction.drop exponentWidth)

/-- The date a text begins with: four, two and two digits with dashes between them. -/
def date? (text : List Char) : Option (Except Problem Value × List Char) :=
  let digits := text.take 4 ++ (text.drop 5).take 2 ++ (text.drop 8).take 2
  let dashes := [text[4]?, text[7]?]
  if digits.length = 8 ∧ digits.all Char.isDigit ∧ dashes.all (· == some '-') then
    let year := Text.numberIn 10 (text.take 4)
    let month := Text.numberIn 10 ((text.drop 5).take 2)
    let day := Text.numberIn 10 ((text.drop 8).take 2)
    if month = 0 ∨ 12 < month ∨ day = 0 ∨ 31 < day then none
    else if year = 0 ∨ Calendar.daysOf year month < day then some (.error .malformed, text.drop 10)
    else some (.ok (.scalar (.date year month day)), text.drop 10)
  else none

/-- Words for special values. -/
def words : List (String × Value) :=
  let infinite (negative : Bool) := Value.scalar (.float (.infinite negative))
  let undefined := Value.scalar (.float .undefined)
  [("true", .bool true), ("false", .bool false), ("inf", infinite false), ("nan", undefined),
    ("+inf", infinite false), ("-inf", infinite true), ("+nan", undefined), ("-nan", undefined)]

/-- Read a value that is neither a string nor a container. -/
def readScalar (text : List Char) : Except Problem (Value × List Char) :=
  match words.find? fun word => word.1.toList.isPrefixOf text with
  | some (word, value) => .ok (value, text.drop word.length)
  | none =>
      match date? text, basedNumber? text, decimalNumber? text with
      | some (value, rest), _, _ => value.map (·, rest)
      | none, some (value, rest), _ => .ok (value, rest)
      | none, none, some (value, rest) => value.map (·, rest)
      | none, none, none => .error .malformed

end RequestSurface.Toml
