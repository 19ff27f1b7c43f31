import RequestSurface.Text.DecimalTable
import RequestSurface.Text.Digits
import RequestSurface.Text.Lines
import RequestSurface.Text.Ranges

/-!
# Whole numbers in any script

A whole number may be written with the decimal digits of any script, with single underscores between
digits, a sign in front and blanks around it.
-/

namespace RequestSurface.Text

/-- The digits zero of all scripts. -/
def zeroTable : RangeTable := .ofRows zeroRanges

/-- The value of a decimal digit of any script. -/
def decimalDigit? (character : Char) : Option Nat :=
  if character.isDigit then some (character.toNat - 48)
  else if character.toNat < 0x80 then none
  else (List.range 10).find? fun value => zeroTable.holds (Char.ofNat (character.toNat - value))

/-- The number written by digits with single underscores between them, and how many digits there
are. -/
def decimalNumber? (value count : Nat) : List Char -> Option (Nat × Nat)
  | [] => none
  | [last] => (decimalDigit? last).map fun digit => (10 * value + digit, count + 1)
  | head :: '_' :: rest =>
      match decimalDigit? head with
      | some digit => decimalNumber? (10 * value + digit) (count + 1) rest
      | none => none
  | head :: rest =>
      match decimalDigit? head with
      | some digit => decimalNumber? (10 * value + digit) (count + 1) rest
      | none => none

/-- The whole number that a text stands for. -/
def wholeNumber? (text : List Char) : Option Int :=
  let (negative, digits) := match trim text with
    | '-' :: rest => (true, rest)
    | '+' :: rest => (false, rest)
    | rest => (false, rest)
  match decimalNumber? 0 0 digits with
  | some (value, count) =>
      if digitLimit < count then none else some (if negative then -(value : Int) else value)
  | none => none

end RequestSurface.Text
