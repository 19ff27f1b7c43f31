import RequestSurface.Text.Digits

/-!
# Half characters

Some formats write a character above sixteen bits as two halves, and a half may also stand alone. A
half is no character of its own. It is kept in a text as a private character of the last plane, one
for each of the 2048 halves.
-/

namespace RequestSurface.Text

/-- The first of the halves. -/
def firstHalf : Nat := 0xD800

/-- The private character that keeps the first half. -/
def firstHalfKeeper : Nat := 0x10F000

/-- Whether a number of sixteen bits is a half. -/
def isHalf (unit : Nat) : Bool :=
  firstHalf ≤ unit && unit < firstHalf + 0x800

/-- The character that keeps a half. -/
def halfChar (unit : Nat) : Char :=
  Char.ofNat (firstHalfKeeper + (unit - firstHalf))

/-- The half that a character keeps, if it keeps one. -/
def halfOf? (character : Char) : Option Nat :=
  if firstHalfKeeper ≤ character.toNat ∧ character.toNat < firstHalfKeeper + 0x800 then
    some (firstHalf + (character.toNat - firstHalfKeeper))
  else none

/-- The number of a character, or of the half it keeps. -/
def codeOf (character : Char) : Nat :=
  (halfOf? character).getD character.toNat

/-- The character of a number, which may be a half. -/
def charOf (code : Nat) : Char :=
  if isHalf code then halfChar code else Char.ofNat code

/-- Whether a text has a half in it. -/
def hasHalf (text : List Char) : Bool :=
  text.any fun character => (halfOf? character).isSome

end RequestSurface.Text
