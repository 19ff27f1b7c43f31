import RequestSurface.Charset.Units

/-!
# Shifted text

A charset of ASCII in which other characters stand in runs: after a plus sign, units of two bytes
are written in digits of six bits. A run ends before the first character that is no such digit; a
minus sign there belongs to the run.
-/

namespace RequestSurface.Charset

/-- The value of a digit of six bits. -/
def sixBits? (byte : UInt8) : Option Nat :=
  let code := byte.toNat
  if 65 ≤ code ∧ code ≤ 90 then some (code - 65)
  else if 97 ≤ code ∧ code ≤ 122 then some (code - 71)
  else if 48 ≤ code ∧ code ≤ 57 then some (code + 4)
  else if code = 43 then some 62
  else if code = 47 then some 63
  else none

/-- A run that has begun: the bits that make no unit yet, how many there are, and the first half of
a character whose second half is missing. -/
structure ShiftedRun where
  bits : Nat := 0
  count : Nat := 0
  half : Option Nat := none

namespace ShiftedRun

/-- The character that keeps a half which the other one does not follow. -/
def lone (run : ShiftedRun) : List Char :=
  (run.half.map Text.charOf).toList

/-- Read a digit: the run after it, and the characters that it completes. -/
def push (run : ShiftedRun) (digit : Nat) : ShiftedRun × List Char :=
  let bits := 64 * run.bits + digit
  let count := run.count + 6
  if count < 16 then ({ run with bits, count }, [])
  else
    let spare := count - 16
    let unit := bits / Nat.pow 2 spare
    let next : ShiftedRun := { bits := bits % Nat.pow 2 spare, count := spare }
    match run.half with
    | some first =>
        if isSecondHalf unit then (next, [joinHalves first unit])
        else if isFirstHalf unit then ({ next with half := some unit }, run.lone)
        else (next, run.lone ++ [Text.charOf unit])
    | none =>
        if isFirstHalf unit then ({ next with half := some unit }, [])
        else (next, [Text.charOf unit])

/-- Whether bits are left over that are more than filling. -/
def isBroken (run : ShiftedRun) : Bool :=
  6 ≤ run.count || run.bits != 0

end ShiftedRun

/-- Where in shifted text a byte stands: outside runs, directly after the sign that begins one, or in
a run. -/
inductive Shift where
  | outside
  | begun
  | inside (run : ShiftedRun)

/-- Read a byte outside runs. -/
def readOutside (byte : UInt8) : Shift × List Char :=
  if 0x80 ≤ byte.toNat then (.outside, [replacement])
  else if byte == 43 then (.begun, [])
  else (.outside, [Char.ofNat byte.toNat])

/-- Read a byte that may end a run. -/
def readEnd (run : ShiftedRun) (byte : UInt8) : List Char :=
  if run.isBroken then [replacement]
  else if byte == 45 then run.lone
  else if byte.toNat < 0x80 then run.lone ++ [Char.ofNat byte.toNat]
  else [replacement]

/-- Read a byte: where the next one stands, and the characters that it completes. A run without
digits is the sign that begins one. -/
def Shift.read : Shift -> UInt8 -> Shift × List Char
  | outside, byte => readOutside byte
  | begun, byte =>
      match sixBits? byte with
      | some digit => (inside (ShiftedRun.push {} digit).1, (ShiftedRun.push {} digit).2)
      | none => (outside, if byte == 45 then ['+'] else [replacement])
  | inside run, byte =>
      match sixBits? byte with
      | some digit => (inside (run.push digit).1, (run.push digit).2)
      | none => (outside, readEnd run byte)

/-- What the end of the bytes completes. What stands for nothing is replaced. -/
def Shift.finish : Shift -> List Char
  | inside run => if run.isBroken || run.half.isSome then [replacement] else []
  | _ => []

/-- Decode the bytes that follow. -/
def decodeShifted : Shift -> List UInt8 -> List Char
  | shift, [] => shift.finish
  | shift, byte :: rest =>
      let (next, characters) := shift.read byte
      characters ++ decodeShifted next rest

end RequestSurface.Charset
