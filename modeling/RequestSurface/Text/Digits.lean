/-!
# Digits

Whole numbers written with digits of a base up to sixteen. Letters count as digits in either case
and are written in lower case.
-/

namespace RequestSurface.Text

/-- The most decimal digits a whole number may be written with. -/
def digitLimit : Nat := 4300

/-- The number a hexadecimal digit stands for. -/
def hexDigit? (digit : Char) : Option Nat :=
  if '0' ≤ digit ∧ digit ≤ '9' then some (digit.toNat - '0'.toNat)
  else if 'A' ≤ digit ∧ digit ≤ 'F' then some (digit.toNat - 'A'.toNat + 10)
  else if 'a' ≤ digit ∧ digit ≤ 'f' then some (digit.toNat - 'a'.toNat + 10)
  else none

/-- Whether a character is a digit of a base. -/
def isDigitIn (base : Nat) (digit : Char) : Bool :=
  match hexDigit? digit with
  | some value => value < base
  | none => false

/-- The number written by a row of digits of a base. Characters that are no digits count as zero. -/
def numberIn (base : Nat) (digits : List Char) : Nat :=
  digits.foldl (fun value digit => base * value + (hexDigit? digit).getD 0) 0

/-- The number written by a row of hexadecimal digits; anything else is no number. -/
def hexNumber? (digits : List Char) : Option Nat :=
  digits.foldlM (fun value digit => (hexDigit? digit).map (16 * value + ·)) 0

/-- The digit of a number below sixteen. -/
def hexDigit (value : Nat) : Char :=
  if value < 10 then Char.ofNat ('0'.toNat + value) else Char.ofNat ('a'.toNat + value - 10)

/-- The last `width` digits of a number. -/
def hexDigits : Nat -> Nat -> List Char
  | 0, _ => []
  | width + 1, value => hexDigits width (value / 16) ++ [hexDigit (value % 16)]

end RequestSurface.Text
