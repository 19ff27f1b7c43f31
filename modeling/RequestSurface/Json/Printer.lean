import RequestSurface.Text.Half
import RequestSurface.Value

/-!
# Writing JSON

Writes a value in ASCII, on one line or indented by two blanks a level. Numbers that JSON cannot
write become null, and a date becomes its text.
-/

namespace RequestSurface.Json

/-- An escape of four hexadecimal digits. -/
def unicodeEscape (code : Nat) : List Char :=
  '\\' :: 'u' :: Text.hexDigits 4 code

/-- One character inside a string. A character above sixteen bits is written in two halves. -/
def writtenChar (character : Char) : List Char :=
  match character with
  | '"' => ['\\', '"']
  | '\\' => ['\\', '\\']
  | '\n' => ['\\', 'n']
  | '\r' => ['\\', 'r']
  | '\t' => ['\\', 't']
  | '\x08' => ['\\', 'b']
  | '\x0c' => ['\\', 'f']
  | _ =>
      let code := Text.codeOf character
      if 0x20 ≤ code ∧ code ≤ 0x7E then [character]
      else if code < 0x10000 then unicodeEscape code
      else
        let offset := code - 0x10000
        unicodeEscape (0xD800 + offset / 0x400) ++ unicodeEscape (0xDC00 + offset % 0x400)

/-- A string between double quotes. -/
def writtenText (text : String) : String :=
  String.ofList ('"' :: text.toList.flatMap writtenChar ++ ['"'])

/-- A number with at least the given count of digits. -/
def padded (width value : Nat) : String :=
  let digits := Nat.repr value
  String.ofList (List.replicate (width - digits.length) '0') ++ digits

/-- The text of a date. -/
def dateText (year month day : Nat) : String :=
  padded 4 year ++ "-" ++ padded 2 month ++ "-" ++ padded 2 day

/-- A scalar as a JSON token. -/
def writtenScalar : Scalar -> String
  | .null => "null"
  | .bool true => "true"
  | .bool false => "false"
  | .int value => toString value
  | .float value =>
      match value with
      | .finite _ _ _ => value.text
      | _ => "null"
  | .text value => writtenText value
  | .date year month day => writtenText (dateText year month day)

/-- A scalar as a key. -/
def writtenKey : Scalar -> String
  | .text value => writtenText value
  | other => "\"" ++ writtenScalar other ++ "\""

/-- How the parts of a container are laid out. -/
inductive Layout where
  | oneLine
  | indented (level : Nat)

/-- The layout one level further in. -/
def Layout.deeper : Layout -> Layout
  | oneLine => oneLine
  | indented level => indented (level + 1)

/-- What stands before every part of a container. -/
def Layout.lead : Layout -> String
  | oneLine => ""
  | indented level => "\n" ++ String.ofList (List.replicate (2 * level) ' ')

/-- A container from its written parts. -/
def bracketed (layout : Layout) (opening closing : String) (parts : List String) : String :=
  if parts.isEmpty then opening ++ closing
  else
    let separator := match layout with
      | .oneLine => ", "
      | .indented _ => ","
    opening ++ String.intercalate separator (parts.map (layout.deeper.lead ++ ·)) ++
      layout.lead ++ closing

mutual

/-- Write a value. -/
def write (layout : Layout) : Value -> String
  | .scalar value => writtenScalar value
  | .list items => bracketed layout "[" "]" (writeItems layout.deeper items)
  | .mapping entries => bracketed layout "\x7b" "\x7d" (writeEntries layout.deeper entries)

/-- Write the items of a list. -/
def writeItems (layout : Layout) : List Value -> List String
  | [] => []
  | item :: rest => write layout item :: writeItems layout rest

/-- Write the entries of a mapping. -/
def writeEntries (layout : Layout) : List (Scalar × Value) -> List String
  | [] => []
  | (key, value) :: rest =>
      (writtenKey key ++ ": " ++ write layout value) :: writeEntries layout rest

end

end RequestSurface.Json
