import RequestSurface.Number.Binary64

/-!
# Sums and products

The rounded sum and the rounded product of two numbers that are not negative. Each is the exact
result, rounded once.
-/

namespace RequestSurface.Binary64

/-- The sum of two numbers that are not negative. -/
def add (left right : Binary64) : Binary64 :=
  match left, right with
  | .finite _ significand exponent, .finite _ other otherExponent =>
      let (above, below) := fraction significand exponent
      let (otherAbove, otherBelow) := fraction other otherExponent
      ofFraction false (above * otherBelow + otherAbove * below) (below * otherBelow)
  | .undefined, _ => .undefined
  | _, .undefined => .undefined
  | _, _ => .infinite false

/-- The product of a number that is not negative and a positive one. -/
def mul (left right : Binary64) : Binary64 :=
  match left, right with
  | .finite _ significand exponent, .finite _ other otherExponent =>
      let (above, below) := fraction significand exponent
      let (otherAbove, otherBelow) := fraction other otherExponent
      ofFraction false (above * otherAbove) (below * otherBelow)
  | .undefined, _ => .undefined
  | _, .undefined => .undefined
  | _, _ => .infinite false

/-- The number of the other sign. -/
def negate : Binary64 -> Binary64
  | .finite negative significand exponent => .finite (!negative) significand exponent
  | .infinite negative => .infinite (!negative)
  | .undefined => .undefined

end RequestSurface.Binary64
