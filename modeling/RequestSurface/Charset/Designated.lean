import RequestSurface.Charset.Chinese
import RequestSurface.Charset.Japanese
import RequestSurface.Charset.Korean
import RequestSurface.Charset.StandardTables

/-!
# Designated sets

Charsets in which all characters are written with bytes below 128: what these mean is said by rows
of bytes that designate a set, or that turn from one set to another.
-/

namespace RequestSurface.Charset

/-- The sets that may be designated. -/
inductive CodedSet where
  | ascii
  | latin
  | greek
  | roman
  | kana
  | oldJisX0208
  | jisX0208
  | jisX0212
  | firstPlane (edition : Edition)
  | secondPlane
  | gb2312
  | ksX1001
  deriving DecidableEq, Repr

namespace CodedSet

/-- Whether the codes of a set are of two bytes. -/
def isDouble : CodedSet -> Bool
  | ascii | latin | greek | roman | kana => false
  | _ => true

/-- The last byte of the rows of bytes that designate a set. -/
def mark : CodedSet -> Char
  | ascii => 'B'
  | latin => 'A'
  | greek => 'F'
  | roman => 'J'
  | kana => 'I'
  | oldJisX0208 => '@'
  | jisX0208 => 'B'
  | jisX0212 => 'D'
  | firstPlane .original => 'O'
  | firstPlane .revised => 'Q'
  | secondPlane => 'P'
  | gb2312 => 'A'
  | ksX1001 => 'C'

/-- What a byte stands for in a set of single bytes. The sets of the upper half stand for nothing
here. -/
def single? (set : CodedSet) (byte : UInt8) : Option Char :=
  match set with
  | ascii => asciiChar? byte
  | roman => romanChar? byte
  | kana => narrowKana? (byte ||| 0x80)
  | _ => none

/-- What a code of two bytes stands for in a set. Of the second plane there is only the revised
edition. -/
def pair? (set : CodedSet) (code : Nat) : Option (List Char) :=
  let only (table : CodeTable) := (table.charAt? code).map fun sign => [sign]
  match set with
  | oldJisX0208 | jisX0208 => only Charset.jisX0208
  | jisX0212 => only Charset.jisX0212
  | firstPlane edition => Charset.firstPlane? edition code
  | secondPlane => Charset.secondPlane? .revised code
  | gb2312 => only Charset.gb2312
  | ksX1001 => only Charset.ksX1001
  | _ => none

end CodedSet

/-- A charset of designated sets: which sets there are besides ASCII, and whether two bytes turn to
the second designated set and back, whether a third set can be designated for single signs, and
whether a prefix may announce the first Japanese set. -/
structure Designations where
  sets : List CodedSet
  mayTurn : Bool := false
  hasThird : Bool := false
  hasPrefix : Bool := true

/-- The sets designated so far, whether the second one is turned to, and whether a row of bytes that
designates nothing goes on. -/
structure Designated where
  first : CodedSet := .ascii
  second : CodedSet := .ascii
  third : CodedSet := .ascii
  isTurned : Bool := false
  isForeign : Bool := false

/-- Whether a byte ends a row of bytes that designates. -/
def endsRow (byte : UInt8) : Bool :=
  64 ≤ byte.toNat && byte.toNat ≤ 90

/-- How a row of bytes that designates ends: after so many bytes, nowhere near, or not before the
bytes do. -/
inductive RowEnd where
  | after (bytes : Nat)
  | never
  | cut

/-- Where a row of bytes ends of which so many have been passed; so many more may follow. -/
def rowEnd (hasPrefix : Bool) (passed : Nat) : Nat -> List UInt8 -> RowEnd
  | 0, _ => .never
  | _, [] => .cut
  | more + 1, byte :: rest =>
      if endsRow byte then .after (passed + 1)
      else if hasPrefix && byte == 38 && rest.head? == some 64 then
        rowEnd hasPrefix (passed + 3) (more - 2) (rest.drop 2)
      else rowEnd hasPrefix (passed + 1) more rest

namespace Designations

/-- The set that a mark designates. -/
def setOf? (charset : Designations) (isDouble : Bool) (mark : UInt8) : Option CodedSet :=
  (CodedSet.ascii :: charset.sets).find? fun set =>
    set.isDouble == isDouble && set.mark.toNat == mark.toNat

/-- What a whole row of bytes designates, without the escape before it. -/
def designate? (charset : Designations) (state : Designated) (row : List UInt8) :
    Option Designated :=
  match row with
  | [36, mark] => (charset.setOf? true mark).map fun set => { state with first := set }
  | [40, mark] => (charset.setOf? false mark).map fun set => { state with first := set }
  | [41, mark] => (charset.setOf? false mark).map fun set => { state with second := set }
  | [46, mark] =>
      if charset.hasThird then
        (charset.setOf? false mark).map fun set => { state with third := set }
      else none
  | [36, 40, mark] => (charset.setOf? true mark).map fun set => { state with first := set }
  | [36, 41, mark] => (charset.setOf? true mark).map fun set => { state with second := set }
  | [_, _, 27, 36, 66] =>
      if charset.hasPrefix then
        (charset.setOf? true 66).map fun set => { state with first := set }
      else none
  | _ => none

/-- The sign of the third set that a byte stands for. Single bytes stand for the upper half of their
set there. -/
def thirdChar? (set : CodedSet) (byte : UInt8) : Option Char :=
  match set with
  | .ascii => asciiChar? byte
  | .latin => if byte.toNat < 0x80 then some (Char.ofNat (byte.toNat + 0x80)) else none
  | .greek =>
      let upper := iso88597.charAt (byte ^^^ 0x80)
      if upper == replacement || ['€', '₯', '\u037A'].contains upper then none else some upper
  | _ => none

/-- Read after an escape. What does not begin to designate passes as it is. -/
def readEscape (charset : Designations) (state : Designated) (rest : List UInt8) :
    Designated × Sign :=
  match rest with
  | [] => (state, .cut rest)
  | next :: others =>
      if [36, 38, 40, 41, 46].contains next then
        match rowEnd charset.hasPrefix 0 15 rest with
        | .cut => (state, .cut rest)
        | .never => (state, .broken 0)
        | .after count =>
            match charset.designate? state (rest.take count) with
            | some designated => (designated, ⟨[], count⟩)
            | none => (state, .broken count)
      else if charset.hasThird && next == 78 then
        match others with
        | [] => (state, .cut rest)
        | byte :: _ =>
            match thirdChar? state.third byte with
            | some sign => (state, ⟨[sign], 2⟩)
            | none => (state, .broken 2)
      else ({ state with isForeign := true }, .plain '\x1b')

/-- Read a sign of a set. -/
def readIn (set : CodedSet) (byte : UInt8) (rest : List UInt8) : Sign :=
  if set.isDouble then
    match rest with
    | [] => .cut rest
    | second :: _ =>
        match set.pair? (codeOf byte second) with
        | some text => ⟨text, 1⟩
        | none => .broken 1
  else
    match set.single? byte with
    | some sign => .plain sign
    | none => .broken 0

/-- Read a sign. A new line turns back to the first set. -/
def read (charset : Designations) (state : Designated) (byte : UInt8) (rest : List UInt8) :
    Designated × Sign :=
  let itself := Sign.plain (Char.ofNat byte.toNat)
  if state.isForeign then ({ state with isForeign := !endsRow byte }, itself)
  else if byte == 27 then charset.readEscape state rest
  else if charset.mayTurn && byte == 15 then ({ state with isTurned := false }, ⟨[], 0⟩)
  else if charset.mayTurn && byte == 14 then ({ state with isTurned := true }, ⟨[], 0⟩)
  else if byte == 10 then ({ state with isTurned := false }, itself)
  else if byte.toNat < 32 then (state, itself)
  else if 0x80 ≤ byte.toNat then (state, .broken 0)
  else (state, readIn (if state.isTurned then state.second else state.first) byte rest)

/-- Decode some bytes. -/
def decode (charset : Designations) (bytes : List UInt8) : List Char :=
  decodeFrom charset.read {} bytes

end Designations

/-- Read a sign of the set of the mainland between braces: a tilde and a brace turn to the set or
back, two tildes are one, and a tilde before the end of a line joins it to the next one. The state
is whether the set is turned to. -/
def readHz (isTurned : Bool) (byte : UInt8) (rest : List UInt8) : Bool × Sign :=
  match rest with
  | [] =>
      if byte == 126 || 0x80 ≤ byte.toNat || isTurned then (isTurned, .broken 0)
      else (isTurned, .plain (Char.ofNat byte.toNat))
  | second :: _ =>
      if byte == 126 then
        if isTurned then if second == 125 then (false, ⟨[], 1⟩) else (true, .broken 0)
        else if second == 126 then (false, ⟨['~'], 1⟩)
        else if second == 123 then (true, ⟨[], 1⟩)
        else if second == 10 then (false, ⟨[], 1⟩)
        else (false, .broken 0)
      else if 0x80 ≤ byte.toNat then (isTurned, .broken 0)
      else if isTurned then
        match gb2312.charAt? (codeOf byte second) with
        | some sign => (true, ⟨[sign], 1⟩)
        | none => (true, .broken 0)
      else (false, .plain (Char.ofNat byte.toNat))

end RequestSurface.Charset
