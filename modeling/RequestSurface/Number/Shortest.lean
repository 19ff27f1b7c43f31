import RequestSurface.Number.Binary64

/-!
# Shortest decimal text

The fewest significant digits that read back as the same double-precision number; of several such
decimals the nearest one. Decimals are written positionally from `0.0001` up to `10 ^ 16`, and with
an exponent outside that range.
-/

namespace RequestSurface.Binary64

/-- The power of ten of the first digit of a positive fraction, searched downwards from a power
that is too large. -/
def leadingPower (numerator denominator : Nat) : Nat -> Int -> Int
  | 0, power => power
  | steps + 1, power =>
      if denominator * Nat.pow 10 power.toNat ≤ numerator * Nat.pow 10 (-power).toNat then power
      else leadingPower numerator denominator steps (power - 1)

/-- The decimals with `count` digits on either side of a fraction that read back as `number`, the
nearer one first. -/
def nearDecimal? (number : Binary64) (numerator denominator count : Nat) (power : Int) :
    Option (Nat × Int) :=
  let unit : Int := power - count + 1
  let top := numerator * Nat.pow 10 (-unit).toNat
  let bottom := denominator * Nat.pow 10 unit.toNat
  let below := top / bottom
  let order :=
    if 2 * (top % bottom) < bottom ∨ (2 * (top % bottom) = bottom ∧ below % 2 = 0) then
      [below, below + 1]
    else [below + 1, below]
  (order.find? fun digits => ofDecimal false digits unit == number).map fun digits =>
    (digits, unit)

/-- Drop the zeros at the end of a decimal. -/
def dropZeros : Nat -> Nat -> Int -> Nat × Int
  | 0, digits, unit => (digits, unit)
  | steps + 1, digits, unit =>
      if digits % 10 = 0 ∧ digits ≠ 0 then dropZeros steps (digits / 10) (unit + 1)
      else (digits, unit)

/-- The shortest decimal `digits * 10 ^ unit` of a positive number. Seventeen digits always read
back. -/
def shortestDecimal (significand : Nat) (exponent : Int) : Nat × Int :=
  let number := Binary64.finite false significand exponent
  let (numerator, denominator) := fraction significand exponent
  let power := leadingPower numerator denominator 700 310
  let found := (List.range' 1 17).findSome? fun count =>
    nearDecimal? number numerator denominator count power
  let (digits, unit) := found.getD (0, 0)
  dropZeros 20 digits unit

/-- A row of zeros. -/
def zeros (count : Nat) : String :=
  String.ofList (List.replicate count '0')

/-- The text of a positive decimal. -/
def decimalText (digits : Nat) (unit : Int) : String :=
  let text := Nat.repr digits
  let point : Int := text.length + unit
  if -4 < point ∧ point ≤ 16 then
    if point ≤ 0 then "0." ++ zeros (-point).toNat ++ text
    else if text.length ≤ point.toNat then text ++ zeros (point.toNat - text.length) ++ ".0"
    else
      let whole := text.toList.take point.toNat
      String.ofList whole ++ "." ++ String.ofList (text.toList.drop point.toNat)
  else
    let power := point - 1
    let first := String.ofList (text.toList.take 1)
    let rest := String.ofList (text.toList.drop 1)
    let mantissa := if rest.isEmpty then first else first ++ "." ++ rest
    let size := Nat.repr power.natAbs
    let padded := if size.length < 2 then "0" ++ size else size
    mantissa ++ "e" ++ (if power < 0 then "-" else "+") ++ padded

/-- The shortest text of a number. -/
def text : Binary64 -> String
  | .undefined => "nan"
  | .infinite negative => if negative then "-inf" else "inf"
  | .finite negative significand exponent =>
      let sign := if negative then "-" else ""
      if significand = 0 then sign ++ "0.0"
      else
        let (digits, unit) := shortestDecimal significand exponent
        sign ++ decimalText digits unit

end RequestSurface.Binary64
