import RequestSurface.Text.Quoted
import RequestSurface.Value

/-!
# Literals

How values are named and spelled in messages.
-/

namespace RequestSurface

/-- The spelling of a scalar. -/
def Scalar.literal : Scalar -> String
  | .null => "None"
  | .bool true => "True"
  | .bool false => "False"
  | .int value => toString value
  | .float value => value.text
  | .text value => Text.quoted value
  | .date year month day => s!"datetime.date({year}, {month}, {day})"

namespace Value

/-- What kind of value something is. -/
def kind : Value -> String
  | .scalar .null => "NoneType"
  | .scalar (.bool _) => "bool"
  | .scalar (.int _) => "int"
  | .scalar (.float _) => "float"
  | .scalar (.text _) => "str"
  | .scalar (.date _ _ _) => "date"
  | .list _ => "list"
  | .mapping _ => "dict"

mutual

/-- The spelling of a value. -/
def literal : Value -> String
  | .scalar value => value.literal
  | .list items => "[" ++ String.intercalate ", " (literalItems items) ++ "]"
  | .mapping entries => "\x7b" ++ String.intercalate ", " (literalEntries entries) ++ "\x7d"

/-- The spellings of a list's items. -/
def literalItems : List Value -> List String
  | [] => []
  | item :: rest => literal item :: literalItems rest

/-- The spellings of a mapping's entries. -/
def literalEntries : List (Scalar × Value) -> List String
  | [] => []
  | (key, value) :: rest => (key.literal ++ ": " ++ literal value) :: literalEntries rest

end

end Value

/-- The longest beginning of a text that takes at most so many bytes. -/
def Text.takeBytes (bytes : Nat) : List Char -> List Char
  | [] => []
  | head :: rest =>
      if head.utf8Size ≤ bytes then head :: takeBytes (bytes - head.utf8Size) rest else []

/-- The most bytes of a spelling that is shown in full. -/
def literalLimit : Nat := 50

/-- A text, with its middle left out if it is too long. -/
def Text.abridge (text : String) : String :=
  if literalLimit < text.utf8ByteSize then
    let characters := text.toList
    let front := takeBytes (literalLimit / 2) characters
    let back := (takeBytes (literalLimit / 2 - 1) characters.reverse).reverse
    String.ofList front ++ "..." ++ String.ofList back
  else text

end RequestSurface
