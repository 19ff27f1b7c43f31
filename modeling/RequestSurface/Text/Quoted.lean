import RequestSurface.Text.Half
import RequestSurface.Text.Ranges
import RequestSurface.Text.UnprintableTable

/-!
# Quoted names

A name is shown between single quotes, or between double quotes when it holds a single quote and
no double one. The backslash, the chosen quote and every unprintable character are escaped.
-/

namespace RequestSurface.Text

/-- The code points outside ASCII that are not shown as themselves. -/
def unprintable : RangeTable := .ofRows unprintableRanges

/-- Characters that are shown as themselves. -/
def isPrintable (character : Char) : Bool :=
  let code := character.toNat
  if code < 0x80 then 0x20 ≤ code && code < 0x7F
  else !unprintable.holds character

/-- One character of a quoted name. -/
def quotedChar (quote character : Char) : List Char :=
  if character = quote ∨ character = '\\' then ['\\', character]
  else if character = '\t' then ['\\', 't']
  else if character = '\n' then ['\\', 'n']
  else if character = '\r' then ['\\', 'r']
  else if isPrintable character then [character]
  else
    let code := codeOf character
    if code < 0x100 then '\\' :: 'x' :: hexDigits 2 code
    else if code < 0x10000 then '\\' :: 'u' :: hexDigits 4 code
    else '\\' :: 'U' :: hexDigits 8 code

/-- A name between quotes. -/
def quoted (name : String) : String :=
  let text := name.toList
  let quote := if text.contains '\'' && !text.contains '"' then '"' else '\''
  String.ofList (quote :: text.flatMap (quotedChar quote) ++ [quote])

end RequestSurface.Text
