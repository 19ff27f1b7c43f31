/-!
# Double-precision numbers

The values of the 64-bit binary format and the correctly rounded reading of decimal numbers: the
nearest value wins, and of two equally near ones the value with the even significand.
-/

namespace RequestSurface

/-- A double-precision number. A finite one is `significand * 2 ^ exponent`, where the significand
is below `2 ^ 53`, and at least `2 ^ 52` unless the exponent is the least one. -/
inductive Binary64 where
  | finite (negative : Bool) (significand : Nat) (exponent : Int)
  | infinite (negative : Bool)
  | undefined
  deriving DecidableEq, Repr, Inhabited

namespace Binary64

/-- The least exponent. -/
def leastExponent : Int := -1074

/-- The greatest exponent. -/
def greatestExponent : Int := 971

/-- The least significand of a number whose exponent is not the least one: `2 ^ 52`. -/
def hiddenBit : Nat := 0x10000000000000

/-- Zero of either sign. -/
def zero (negative : Bool) : Binary64 := .finite negative 0 leastExponent

/-- Divide and round to the nearest whole number, ties to the even one. -/
def roundedQuotient (numerator denominator : Nat) : Nat :=
  let quotient := numerator / denominator
  let twice := 2 * (numerator % denominator)
  if twice < denominator then quotient
  else if denominator < twice then quotient + 1
  else quotient + quotient % 2

/-- The quotient of `numerator / denominator` by `2 ^ exponent`, as a fraction. -/
def scaled (numerator denominator : Nat) (exponent : Int) : Nat × Nat :=
  (numerator * Nat.pow 2 (-exponent).toNat, denominator * Nat.pow 2 exponent.toNat)

/-- The double-precision number nearest to a fraction. -/
def ofFraction (negative : Bool) (numerator denominator : Nat) : Binary64 :=
  if numerator = 0 then zero negative
  else
    let low : Int := (Nat.log2 numerator : Int) - Nat.log2 denominator - 53
    let rough := scaled numerator denominator low
    let width : Int := Nat.log2 (rough.1 / rough.2) + 1
    let exponent := max (low + width - 53) leastExponent
    let exact := scaled numerator denominator exponent
    let significand := roundedQuotient exact.1 exact.2
    let carried := significand = hiddenBit * 2
    let exponent := if carried then exponent + 1 else exponent
    let significand := if carried then hiddenBit else significand
    if greatestExponent < exponent then .infinite negative
    else .finite negative significand exponent

/-- The double-precision number nearest to `digits * 10 ^ exponent`. Numbers far outside the range
are decided by their size alone. -/
def ofDecimal (negative : Bool) (digits : Nat) (exponent : Int) : Binary64 :=
  if digits = 0 then zero negative
  else
    let magnitude : Int := (Nat.log2 digits : Int) / 4 + exponent
    if 400 < magnitude then .infinite negative
    else if (Nat.log2 digits : Int) + exponent < -400 then zero negative
    else ofFraction negative (digits * Nat.pow 10 exponent.toNat) (Nat.pow 10 (-exponent).toNat)

/-- The magnitude of a finite number as a fraction. -/
def fraction (significand : Nat) (exponent : Int) : Nat × Nat :=
  (significand * Nat.pow 2 exponent.toNat, Nat.pow 2 (-exponent).toNat)

/-- Whether a number equals a whole number; the sign of zero does not count. -/
def equalsInt (number : Binary64) (value : Int) : Bool :=
  match number with
  | .finite negative significand exponent =>
      let (numerator, denominator) := fraction significand exponent
      let signed : Int := if negative then -(numerator : Int) else numerator
      signed == value * denominator
  | _ => false

end Binary64

end RequestSurface
