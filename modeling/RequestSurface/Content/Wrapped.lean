import RequestSurface.Content.Inflate

/-!
# Wrapped content

Packed content behind a head and in front of a check sum and a size. A head has a signature and some
marks, which tell of further parts that are passed over. Content that ends early is unpacked as far
as it goes; a head that ends early has nothing behind it.
-/

namespace RequestSurface.Content

/-- Why coded content cannot be decoded: its head is not as it should be, it cannot be unpacked, or
it does not end as its head or its check sums tell. -/
inductive Fault where
  | head
  | method
  | marks
  | headSum
  | packing (fault : PackingFault)
  | contentSum
  | contentSize
  deriving DecidableEq, Repr

/-- The message of a fault. -/
def Fault.message (fault : Fault) : String :=
  let wording := match fault with
    | head => "incorrect header check"
    | method => "unknown compression method"
    | marks => "unknown header flags set"
    | headSum => "header crc mismatch"
    | packing fault => fault.wording
    | contentSum => "incorrect data check"
    | contentSize => "incorrect length check"
  "Error -3 while decompressing data: " ++ wording

namespace Wrapped

/-- The first two bytes of wrapped content. -/
def signature : List UInt8 := [0x1F, 0x8B]

/-- How many bytes of a head are always there: signature, method, marks, time and origin. -/
def headSize : Nat := 10

/-- The number of some bytes, the least one first. -/
def numberOf (bytes : List UInt8) : Nat :=
  bytes.foldr (fun byte number => 0x100 * number + byte.toNat) 0

/-- Go on with a check sum by one bit. -/
def sumBit (sum : UInt32) : UInt32 :=
  if sum % 2 = 1 then (sum >>> 1) ^^^ 0xEDB88320 else sum >>> 1

/-- Go on with a check sum by one byte. -/
def sumByte (sum : UInt32) (byte : UInt8) : UInt32 :=
  (List.range 8).foldl (fun sum _ => sumBit sum) (sum ^^^ byte.toUInt32)

/-- The check sum of some bytes. -/
def checkSum (bytes : List UInt8) : Nat :=
  (bytes.foldl sumByte 0xFFFFFFFF ^^^ 0xFFFFFFFF).toNat

/-- What follows so many bytes, if there are so many. -/
def behind? (count : Nat) (bytes : List UInt8) : Option (List UInt8) :=
  if bytes.length < count then none else some (bytes.drop count)

/-- What follows a field of a head that begins with its size. -/
def behindField? (bytes : List UInt8) : Option (List UInt8) := do
  let rest ← behind? 2 bytes
  behind? (numberOf (bytes.take 2)) rest

/-- What follows a text of a head, which ends with a null. -/
def behindText? (bytes : List UInt8) : Option (List UInt8) :=
  (bytes.dropWhile (· != 0)).tail?

/-- What follows the parts of a head that its marks tell of: a field, a name and a comment. -/
def behindParts? (marks : Nat) (bytes : List UInt8) : Option (List UInt8) := do
  let rest ← behind? headSize bytes
  let rest ← if marks.testBit 2 then behindField? rest else some rest
  let rest ← if marks.testBit 3 then behindText? rest else some rest
  if marks.testBit 4 then behindText? rest else some rest

/-- What follows a head, whose own check sum is at its end if its marks tell of one. Nothing follows
a head that ends early. -/
def behindHead? (marks : Nat) (bytes : List UInt8) : Except Fault (Option (List UInt8)) :=
  match behindParts? marks bytes with
  | none => .ok none
  | some rest =>
      if !marks.testBit 1 then .ok (some rest)
      else
        match behind? 2 rest with
        | none => .ok none
        | some packed =>
            let sum := checkSum (bytes.take (bytes.length - rest.length))
            if numberOf (rest.take 2) = sum % 0x10000 then .ok (some packed) else .error .headSum

/-- Unpack what follows a head. Content that ends early is unpacked as far as it goes. -/
def unpackBehindHead (packed : List UInt8) : Except Fault (List UInt8) :=
  match unpackWithRest packed with
  | .error fault => .error (.packing fault)
  | .ok (output, none) => .ok output
  | .ok (output, some rest) =>
      match behind? 4 rest with
      | none => .ok output
      | some size =>
          if numberOf (rest.take 4) != checkSum output then .error .contentSum
          else if 4 ≤ size.length ∧ numberOf (size.take 4) != output.length % 0x100000000 then
            .error .contentSize
          else .ok output

/-- Unpack wrapped content. -/
def unpack (bytes : List UInt8) : Except Fault (List UInt8) :=
  if bytes.length < 2 then .ok []
  else if bytes.take 2 != signature then .error .head
  else
    match bytes.drop 2 with
    | method :: marks :: _ =>
        if method != 8 then .error .method
        else if 0x20 ≤ marks then .error .marks
        else
          match behindHead? marks.toNat bytes with
          | .error fault => .error fault
          | .ok none => .ok []
          | .ok (some packed) => unpackBehindHead packed
    | _ => .ok []

end Wrapped

end RequestSurface.Content
