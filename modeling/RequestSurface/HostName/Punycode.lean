/-!
# Code points in ASCII letters

A row of code points is written with letters, digits and hyphens: first those of its code points
that are ASCII, then, after a hyphen, where and which the others are. Each of the others is told by
how far a counter moves on that runs through every place for every code point; the moves are written
in digits of varying weight, to base thirty-six.
-/

namespace RequestSurface.HostName.Punycode

/-- The base of the digits. -/
def base : Nat := 36

/-- The bias that the first number is written with. -/
def firstBias : Nat := 72

/-- The first code point that is not ASCII. -/
def firstCode : Nat := 0x80

/-- The greatest code point. -/
def lastCode : Nat := 0x10FFFF

/-- The digit from which on a number goes on, at a position counted in steps of the base. -/
def threshold (position bias : Nat) : Nat :=
  min 26 (max 1 (position - bias))

/-- Scale a move down, and count how often that takes. -/
def scaleDown (move steps : Nat) : Nat × Nat :=
  if 455 < move then scaleDown (move / 35) (steps + base) else (move, steps)
termination_by move
decreasing_by omega

/-- The bias after a move, with so many code points placed. -/
def adapt (move placed : Nat) (isFirst : Bool) : Nat :=
  let move := if isFirst then move / 700 else move / 2
  let (rest, steps) := scaleDown (move + move / placed) 0
  steps + base * rest / (rest + 38)

/-- The character of a digit. -/
def digitChar (digit : Nat) : Char :=
  if digit < 26 then Char.ofNat (97 + digit) else Char.ofNat (22 + digit)

/-- The digit of a character. -/
def digitOf? (character : Char) : Option Nat :=
  let code := character.toLower.toNat
  if 97 ≤ code ∧ code ≤ 122 then some (code - 97)
  else if 48 ≤ code ∧ code ≤ 57 then some (code - 22)
  else none

/-- Write a number from a position on. -/
def writeNumber (bias position number : Nat) : List Char :=
  let least := threshold position bias
  if least ≤ number then
    digitChar (least + (number - least) % (base - least)) ::
      writeNumber bias (position + base) ((number - least) / (base - least))
  else [digitChar number]
termination_by number
decreasing_by
  have bounds : 1 ≤ threshold position bias := by unfold threshold; omega
  have smaller :=
    Nat.div_le_self (number - threshold position bias) (base - threshold position bias)
  omega

/-- The state of writing: the code point that is placed, the counter's move so far, the bias, how
many code points have been placed, whether none but ASCII was placed yet, and the digits written. -/
structure Writing where
  code : Nat
  move : Nat
  bias : Nat
  placed : Nat
  isFirst : Bool
  digits : List Char

/-- Pass over one code point of the row while the current one is placed. -/
def Writing.pass (state : Writing) (code : Nat) : Writing :=
  if code < state.code then { state with move := state.move + 1 }
  else if code = state.code then
    { state with
      move := 0, bias := adapt state.move (state.placed + 1) state.isFirst,
      placed := state.placed + 1, isFirst := false,
      digits := state.digits ++ writeNumber state.bias base state.move }
  else state

/-- Place a code point wherever it stands in the row. -/
def Writing.place (row : List Nat) (state : Writing) (code : Nat) : Writing :=
  let moved :=
    { state with move := state.move + (code - state.code) * (state.placed + 1), code := code }
  let passed := row.foldl Writing.pass moved
  { passed with move := passed.move + 1, code := code + 1 }

/-- Write a row of code points. -/
def encode (row : List Nat) : List Char :=
  let plain := row.filter (· < firstCode)
  let others :=
    ((row.filter (firstCode ≤ ·)).eraseDups).mergeSort fun one other => decide (one ≤ other)
  let start : Writing := ⟨firstCode, 0, firstBias, plain.length, true, []⟩
  let written := others.foldl (Writing.place row) start
  plain.map Char.ofNat ++ (if plain.isEmpty then [] else ['-']) ++ written.digits

/-- Read a number at a position, with the weight of its next digit; what follows it is left. -/
def readNumber? (bias position weight number : Nat) : List Char -> Option (Nat × List Char)
  | [] => none
  | head :: rest =>
      match digitOf? head with
      | none => none
      | some digit =>
          let least := threshold position bias
          let number := number + digit * weight
          if digit < least then some (number, rest)
          else readNumber? bias (position + base) (weight * (base - least)) number rest

/-- Put code points among those already placed, in at most so many steps; `place` is where the next
one may stand first. -/
def readMoves (bias code place : Nat) (isFirst : Bool) (row : List Nat) :
    Nat -> List Char -> Option (List Nat)
  | _, [] => some row
  | 0, _ => none
  | steps + 1, text =>
      match readNumber? bias base 1 0 text with
      | none => none
      | some (move, rest) =>
          let counter := place + move
          let size := row.length + 1
          let code := code + counter / size
          let place := counter % size
          if lastCode < code then none
          else
            readMoves (adapt move size isFirst) code (place + 1) false
              (row.take place ++ code :: row.drop place) steps rest

/-- What stands before the last hyphen, and what follows it. Without a hyphen all of it follows. -/
def splitLast (text : List Char) : List Char × List Char :=
  let after := (text.reverse.takeWhile (· != '-')).reverse
  (text.take (text.length - after.length - 1), after)

/-- Read a row of code points. -/
def decode? (text : List Char) : Option (List Nat) :=
  let (plain, moves) := splitLast text
  readMoves firstBias firstCode 0 true (plain.map Char.toNat) moves.length moves

end RequestSurface.HostName.Punycode
