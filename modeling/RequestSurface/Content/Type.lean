import RequestSurface.Charset.Names
import RequestSurface.Text.Ascii
import RequestSurface.Text.Casing
import RequestSurface.Text.Lines

/-!
# Content types

The parameters of a content type, among them the charset of the content. A parameter may be written
in sections, whose numbers tell their order; the name of a section that is coded ends with an
asterisk, and a parameter with a coded section begins with a charset and a language of its own.
-/

namespace RequestSurface.Content

/-- Cut a content type at its semicolons, except at those between quotes; escaped quotes do not
count. The part that has begun is in reverse. -/
def partsFrom (isQuoted : Bool) (begun : List Char) : List Char -> List (List Char)
  | [] => [begun.reverse]
  | head :: rest =>
      if head == ';' && !isQuoted then begun.reverse :: partsFrom false [] rest
      else
        let turns := head == '"' && begun.head? != some '\\'
        partsFrom (isQuoted != turns) (head :: begun) rest

/-- A parameter: its name in lower case, and its value. -/
structure Parameter where
  name : List Char
  value : List Char
  deriving Repr

namespace Parameter

/-- The parameter that a part of a content type is. -/
def ofPart (part : List Char) : Parameter :=
  let name := part.takeWhile (· != '=')
  ⟨Text.lowerCase (Text.trim name), Text.trim (part.drop (name.length + 1))⟩

end Parameter

/-- The parameters of a content type; the first one is the type itself. -/
def parametersOf (contentType : List Char) : List Parameter :=
  (partsFrom false [] contentType).map .ofPart

/-- A value without the quotes or angle brackets around it. -/
def unquoted (value : List Char) : List Char :=
  match value.head?, value.getLast? with
  | some '"', some '"' => (value.drop 1).dropLast
  | some '<', some '>' => (value.drop 1).dropLast
  | _, _ => value

/-- A section of a parameter. -/
structure Section where
  number : Option Nat
  text : List Char
  isCoded : Bool

namespace Section

/-- The section of the parameter with a name that another parameter is, if it is one. -/
def of? (name : List Char) (parameter : Parameter) : Option Section :=
  if !(name ++ ['*']).isPrefixOf parameter.name then none
  else
    let mark := parameter.name.drop (name.length + 1)
    let digits := mark.takeWhile Char.isDigit
    let rest := mark.drop digits.length
    let text := unquoted parameter.value
    if mark.isEmpty then some ⟨none, text, true⟩
    else if digits.isEmpty || (!rest.isEmpty && rest != ['*']) then none
    else some ⟨some (Text.numberIn 10 digits), text, !rest.isEmpty⟩

/-- Whether a section comes before another one. -/
def comesBefore (one other : Section) : Bool :=
  match one.number, other.number with
  | none, some _ => true
  | some _, none => false
  | first, second =>
      if first != second then first.getD 0 < second.getD 0
      else String.ofList one.text < String.ofList other.text

/-- A text in which a per cent sign and two digits stand for a character. -/
def withoutCodes : List Char -> List Char
  | '%' :: high :: low :: rest =>
      match Text.hexNumber? [high, low] with
      | some number => Char.ofNat number :: withoutCodes rest
      | none => '%' :: withoutCodes (high :: low :: rest)
  | head :: rest => head :: withoutCodes rest
  | [] => []
termination_by text => text.length

/-- What a section says. -/
def plain (part : Section) : List Char :=
  if part.isCoded then withoutCodes part.text else part.text

end Section

/-- The text in a charset that is written with characters below 256. What the charset cannot read
stays as it is. -/
def recoded (charset : List Char) (text : List Char) : List Char :=
  match Charset.ofName? charset with
  | none => text
  | some charset =>
      match charset.decode (text.map fun character => UInt8.ofNat character.toNat) with
      | .ok read => if read.contains Charset.replacement then text else read
      | .error _ => text

/-- The value of a parameter that is written in sections. -/
def joinedSections (parts : List Section) : List Char :=
  let text := (parts.mergeSort fun one other => !other.comesBefore one).flatMap Section.plain
  if parts.any (·.isCoded) then
    match Text.piecesAt '\'' text with
    | charset :: _ :: first :: others =>
        recoded charset (unquoted (List.intercalate ['\''] (first :: others)))
    | _ => text
  else text

/-- The value of the parameter with a name, if there is one. -/
def parameter? (name : String) (contentType : List Char) : Option (List Char) :=
  let parameters := parametersOf contentType
  match parameters.find? fun parameter => parameter.name == name.toList with
  | some parameter => some (unquoted parameter.value)
  | none =>
      match (parameters.drop 1).filterMap (Section.of? name.toList) with
      | [] => none
      | parts => some (joinedSections parts)

/-- The name of the charset that a content type tells, which must be ASCII. -/
def charsetName? (contentType : List Char) : Option (List Char) :=
  (parameter? "charset" contentType).filter fun name => name.all Text.isAsciiChar

/-- The charset that a content type tells, or UTF-8. A name with a null character in it is at
fault. -/
def charsetOf (contentType : List Char) : Except Charset.Fault Charset :=
  match charsetName? contentType with
  | none => .ok .utf8
  | some name =>
      if name.contains '\x00' then .error .nullInName
      else .ok ((Charset.ofName? name).getD .utf8)

end RequestSurface.Content
