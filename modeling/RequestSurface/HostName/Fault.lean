import RequestSurface.Text.Quoted

/-!
# Faults of host names

Why a label or a whole host name is not permitted.
-/

namespace RequestSurface.HostName

/-- Why a host name is not permitted. Positions count from one. -/
inductive Fault where
  | emptyName
  | emptyLabel
  | longLabel
  | longName
  | notComposed
  | innerHyphens
  | outerHyphen
  | leadingMark
  | nothingCoded
  | trailingHyphen
  | badCode
  | forbidden (code position : Nat) (label : List Char)
  | looseJoiner (code position : Nat) (label : List Char)
  | outOfContext (code position : Nat) (label : List Char)
  | unknownDirection (position : Nat) (label : List Char)
  | badFirstDirection (label : List Char)
  | badDirection (position : Nat) (rightToLeft : Bool)
  | mixedNumbers
  | badLastDirection
  deriving DecidableEq, Repr

namespace Fault

/-- A code point as `U+` and at least four hexadecimal digits. -/
def codeText (code : Nat) : String :=
  let width := if code < 0x10000 then 4 else if code < 0x100000 then 5 else 6
  "U+" ++ String.ofList ((Text.hexDigits width code).map Char.toUpper)

/-- A label between quotes. -/
def labelText (label : List Char) : String :=
  Text.quoted (String.ofList label)

/-- The message of a fault. -/
def message : Fault -> String
  | emptyName => "Empty domain"
  | emptyLabel => "Empty Label"
  | longLabel => "Label too long"
  | longName => "Domain too long"
  | notComposed => "Label must be in Normalization Form C"
  | innerHyphens => "Label has disallowed hyphens in 3rd and 4th position"
  | outerHyphen => "Label must not start or end with a hyphen"
  | leadingMark => "Label begins with an illegal combining character"
  | nothingCoded => "Malformed A-label, no Punycode eligible content found"
  | trailingHyphen => "A-label must not end with a hyphen"
  | badCode => "Invalid A-label"
  | forbidden code position label =>
      s!"Codepoint {codeText code} at position {position} of {labelText label} not allowed"
  | looseJoiner code position label =>
      s!"Joiner {codeText code} not allowed at position {position} in {labelText label}"
  | outOfContext code position label =>
      s!"Codepoint {codeText code} not allowed at position {position} in {labelText label}"
  | unknownDirection position label =>
      s!"Unknown directionality in label {labelText label} at position {position}"
  | badFirstDirection label =>
      s!"First codepoint in label {labelText label} must be directionality L, R or AL"
  | badDirection position rightToLeft =>
      let side := if rightToLeft then "right-to-left" else "left-to-right"
      s!"Invalid direction for codepoint at position {position} in a {side} label"
  | mixedNumbers => "Can not mix numeral types in a right-to-left label"
  | badLastDirection => "Label ends with illegal codepoint directionality"

end Fault

end RequestSurface.HostName
