/-!
# Faults in JSON text

Where a text stops being JSON and why.
-/

namespace RequestSurface.Json

/-- Why a text is not JSON. -/
inductive Reason where
  | byteOrderMark
  | expectingValue
  | expectingName
  | expectingColon
  | expectingComma
  | extraData
  | unterminatedString
  | controlCharacter
  | invalidEscape
  | invalidUnicodeEscape
  deriving DecidableEq, Repr

/-- The wording of a reason. -/
def Reason.wording : Reason -> String
  | byteOrderMark => "Unexpected UTF-8 BOM (decode using utf-8-sig)"
  | expectingValue => "Expecting value"
  | expectingName => "Expecting property name enclosed in double quotes"
  | expectingColon => "Expecting ':' delimiter"
  | expectingComma => "Expecting ',' delimiter"
  | extraData => "Extra data"
  | unterminatedString => "Unterminated string starting at"
  | controlCharacter => "Invalid control character at"
  | invalidEscape => "Invalid \\escape"
  | invalidUnicodeEscape => "Invalid \\uXXXX escape"

/-- Why a text cannot be read: it is malformed at an offset, or a whole number in it has more
digits than are converted. -/
inductive Problem where
  | malformed (reason : Reason) (offset : Nat)
  | tooManyDigits (count : Nat)
  deriving DecidableEq, Repr

/-- The line of an offset, counted from one. -/
def lineOf (text : List Char) (offset : Nat) : Nat :=
  (text.take offset).count '\n' + 1

/-- The column of an offset, counted from one. -/
def columnOf (text : List Char) (offset : Nat) : Nat :=
  ((text.take offset).reverse.takeWhile (· != '\n')).length + 1

/-- A malformed text with the place of the fault. -/
structure Fault where
  reason : Reason
  line : Nat
  column : Nat
  offset : Nat
  deriving DecidableEq, Repr

/-- The fault of a text at an offset. -/
def Fault.at (text : List Char) (reason : Reason) (offset : Nat) : Fault :=
  ⟨reason, lineOf text offset, columnOf text offset, offset⟩

/-- The message of a fault. -/
def Fault.message (fault : Fault) : String :=
  fault.reason.wording ++ s!": line {fault.line} column {fault.column} (char {fault.offset})"

end RequestSurface.Json
