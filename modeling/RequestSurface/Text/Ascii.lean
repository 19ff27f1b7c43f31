import RequestSurface.Text.Half

/-!
# ASCII

Texts that must be ASCII, and the first row of characters that are not.
-/

namespace RequestSurface.Text

/-- A row of characters outside ASCII: where it begins, how long it is, and its first character. -/
structure AsciiFault where
  start : Nat
  count : Nat
  first : Char
  deriving DecidableEq, Repr

/-- Whether a character is ASCII. -/
def isAsciiChar (character : Char) : Bool :=
  character.toNat < 0x80

/-- The first row of characters outside ASCII. -/
def asciiFault? (text : List Char) : Option AsciiFault :=
  let before := text.takeWhile isAsciiChar
  match text.drop before.length with
  | [] => none
  | first :: rest => some ⟨before.length, 1 + (rest.takeWhile (!isAsciiChar ·)).length, first⟩

/-- The escape of a character: the shortest of those with two, four and eight digits. -/
def shortEscape (character : Char) : String :=
  let code := codeOf character
  if code < 0x100 then "\\x" ++ String.ofList (hexDigits 2 code)
  else if code < 0x10000 then "\\u" ++ String.ofList (hexDigits 4 code)
  else "\\U" ++ String.ofList (hexDigits 8 code)

/-- The message of a fault. -/
def AsciiFault.message (fault : AsciiFault) : String :=
  let place :=
    if fault.count = 1 then s!"character '{shortEscape fault.first}' in position {fault.start}"
    else s!"characters in position {fault.start}-{fault.start + fault.count - 1}"
  "'ascii' codec can't encode " ++ place ++ ": ordinal not in range(128)"

end RequestSurface.Text
