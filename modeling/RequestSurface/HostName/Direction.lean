import RequestSurface.HostName.DirectionTable
import RequestSurface.HostName.Fault
import RequestSurface.Text.Ranges

/-!
# Writing directions in labels

A label with a letter that is written from right to left must be written in one direction from its
first to its last letter, and may not mix two kinds of numbers.
-/

namespace RequestSurface.HostName

/-- The writing direction of a code point. -/
inductive Direction where
  | leftToRight
  | rightToLeft
  | arabicLetter
  | arabicNumber
  | europeanNumber
  | mark
  | neutral
  | boundary
  | separator
  deriving DecidableEq, Repr

namespace Direction

/-- The code points of every direction but the usual one. -/
def tables : List (Direction × Text.RangeTable) :=
  [(rightToLeft, .ofRows rightToLeftRanges), (arabicLetter, .ofRows arabicLetterRanges),
    (arabicNumber, .ofRows arabicNumberRanges), (europeanNumber, .ofRows europeanNumberRanges),
    (mark, .ofRows markRanges), (neutral, .ofRows neutralRanges),
    (boundary, .ofRows boundaryRanges), (separator, .ofRows separatorRanges)]

/-- Permitted code points whose direction is not known. -/
def unknownTable : Text.RangeTable := .ofRows unknownRanges

/-- The direction of a permitted code point, if it is known. -/
def of? (character : Char) : Option Direction :=
  if unknownTable.holds character then none
  else some (((tables.find? fun entry => entry.2.holds character).map (·.1)).getD leftToRight)

/-- Whether a direction makes the whole label subject to the rules. -/
def isRightToLeft : Direction -> Bool
  | rightToLeft | arabicLetter | arabicNumber => true
  | _ => false

/-- Whether a direction may occur in a label of the given main direction. -/
def mayOccur (rightToLeftLabel : Bool) : Direction -> Bool
  | leftToRight => !rightToLeftLabel
  | rightToLeft | arabicLetter | arabicNumber => rightToLeftLabel
  | _ => true

/-- Whether a direction may end a label of the given main direction. -/
def mayEnd (rightToLeftLabel : Bool) : Direction -> Bool
  | leftToRight => !rightToLeftLabel
  | rightToLeft | arabicLetter | arabicNumber => rightToLeftLabel
  | europeanNumber => true
  | _ => false

/-- Whether a direction is that of a number. -/
def isNumber : Direction -> Bool
  | arabicNumber | europeanNumber => true
  | _ => false

end Direction

/-- Check the directions of a label from a position on. The kind of the first number is kept, and
whether the label might end here. -/
def checkDirectionsFrom (rightToLeftLabel : Bool) (position : Nat) (number : Option Direction)
    (mayEnd : Bool) : List Direction -> Except Fault Unit
  | [] => if mayEnd then .ok () else .error .badLastDirection
  | head :: rest =>
      let ends := if head = .mark then mayEnd else head.mayEnd rightToLeftLabel
      if !head.mayOccur rightToLeftLabel then .error (.badDirection position rightToLeftLabel)
      else if rightToLeftLabel && head.isNumber then
        match number with
        | none => checkDirectionsFrom rightToLeftLabel (position + 1) (some head) ends rest
        | some kind =>
            if kind = head then checkDirectionsFrom rightToLeftLabel (position + 1) number ends rest
            else .error .mixedNumbers
      else checkDirectionsFrom rightToLeftLabel (position + 1) number ends rest

/-- The directions of a label's code points from a position on. -/
def directionsFrom (label : List Char) (position : Nat) :
    List Char -> Except Fault (List Direction)
  | [] => .ok []
  | head :: rest =>
      match Direction.of? head with
      | none => .error (.unknownDirection position label)
      | some direction => (directionsFrom label (position + 1) rest).map (direction :: ·)

/-- Check the directions of a label whose code points are all permitted. -/
def checkDirections (label : List Char) : Except Fault Unit := do
  let directions ← directionsFrom label 1 label
  if directions.any Direction.isRightToLeft then
    match directions.head? with
    | some .rightToLeft | some .arabicLetter => checkDirectionsFrom true 1 none false directions
    | some .leftToRight => checkDirectionsFrom false 1 none false directions
    | _ => .error (.badFirstDirection label)

end RequestSurface.HostName
