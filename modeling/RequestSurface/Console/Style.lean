import RequestSurface.Console.ColourTable
import RequestSurface.Console.Fault
import RequestSurface.Text.Casing
import RequestSurface.Text.Decimal
import RequestSurface.Text.Digits
import RequestSurface.Text.Pieces

/-!
# Styles

A style is told by words: attributes, which may be denied, a colour, a colour of the ground, and a
link. Two styles with the same effect have the same normal form, which tells them apart from others.
-/

namespace RequestSurface.Console

/-- The attributes of a style in the order of its normal form, each with a short name if it has
one. -/
def attributeNames : List (String × Option String) :=
  [("bold", some "b"), ("dim", some "d"), ("italic", some "i"), ("underline", some "u"),
    ("blink", none), ("blink2", none), ("reverse", some "r"), ("conceal", some "c"),
    ("strike", some "s"), ("underline2", some "uu"), ("frame", none), ("encircle", none),
    ("overline", some "o")]

/-- The attribute that a word names. -/
def attribute? (word : List Char) : Option String :=
  let name := String.ofList word
  (attributeNames.find? fun (long, short) => long == name || short == some name).map (·.1)

/-- A style. -/
structure Style where
  attributes : List (String × Bool) := []
  colour : Option (List Char) := none
  ground : Option (List Char) := none
  link : Option (List Char) := none
  deriving Repr

/-- Why words tell no style: one of them has no meaning, or a part of a colour is no number. -/
inductive StyleFault where
  | unknown
  | number
  deriving DecidableEq, Repr

/-- The colours that have names. -/
def colourNames : List (List Char) :=
  ("default".toList :: colourRows.flatMap fun row => Text.piecesAt ' ' row.toList)

/-- The text between a beginning and a closing parenthesis. -/
def enclosed? (opening : String) (word : List Char) : Option (List Char) :=
  if opening.toList.isPrefixOf word && word.getLast? == some ')' then
    some ((word.drop opening.length).dropLast)
  else none

/-- The parts of a colour: three whole numbers up to 255, with commas between. -/
def checkParts (parts : List (List Char)) : Except StyleFault Unit :=
  if parts.length != 3 then .error .unknown
  else
    match parts.mapM Text.wholeNumber? with
    | none => .error .number
    | some numbers => if numbers.all (· ≤ 255) then .ok () else .error .unknown

/-- The colour that a word tells: a name, six hexadecimal digits, a number, or three parts. -/
def readColour (word : List Char) : Except StyleFault (List Char) :=
  let word := Text.lowerCase word
  if colourNames.contains word then .ok word
  else
    match word, enclosed? "color(" word, enclosed? "rgb(" word with
    | '#' :: digits, _, _ =>
        if digits.length = 6 ∧ digits.all (Text.isDigitIn 16) then .ok word else .error .unknown
    | _, some digits, _ =>
        if !digits.isEmpty && digits.length ≤ 3 && digits.all Char.isDigit &&
            Text.numberIn 10 digits ≤ 255 then .ok word
        else .error .unknown
    | _, none, some inner =>
        let fits := inner.all fun character =>
          character == ',' || (Text.decimalDigit? character).isSome
        if inner.isEmpty || !fits then .error .unknown
        else (checkParts (Text.piecesAt ',' inner)).map fun _ => word
    | _, none, none => .error .unknown

namespace Style

/-- Set an attribute. -/
def set (style : Style) (name : String) (value : Bool) : Style :=
  { style with attributes := (name, value) :: style.attributes }

/-- Read a style from words. -/
def readFrom (style : Style) : List (List Char) -> Except StyleFault Style
  | [] => .ok style
  | word :: rest =>
      match String.ofList (Text.lowerCase word), attribute? (Text.lowerCase word), rest with
      | "on", _, [] => .error .unknown
      | "on", _, next :: others => do
          readFrom { style with ground := some (← readColour next) } others
      | "not", _, [] => .error .unknown
      | "not", _, next :: others =>
          match attribute? next with
          | some name => readFrom (style.set name false) others
          | none => .error .unknown
      | "link", _, [] => .error .unknown
      | "link", _, next :: others => readFrom { style with link := some next } others
      | _, some name, others => readFrom (style.set name true) others
      | _, none, others => do
          readFrom { style with colour := some (← readColour word) } others

/-- The words of the normal form of a style. -/
def words (style : Style) : List (List Char) :=
  let attributes := attributeNames.flatMap fun (name, _) =>
    match style.attributes.lookup name with
    | some true => [name.toList]
    | some false => ["not".toList, name.toList]
    | none => []
  let after (word : String) (part : Option (List Char)) := match part with
    | some value => [word.toList, value]
    | none => []
  attributes ++ style.colour.toList ++ after "on" style.ground ++ after "link" style.link

/-- The normal form of a style. -/
def normal (style : Style) : List Char :=
  if style.words.isEmpty then "none".toList else List.intercalate [' '] style.words

end Style

/-- The words of a text. -/
def wordsOf (text : List Char) : List (List Char) :=
  (Text.piecesBy Text.isBlank text).filter (!·.isEmpty)

/-- The normal form of what a tag names. What tells no style stands for itself, whatever its case
and the blanks around it. -/
def normalName (name : List Char) : Except Fault (List Char) :=
  let found :=
    if Text.trim name == "none".toList then .ok {} else Style.readFrom {} (wordsOf name)
  match found with
  | .ok style => .ok style.normal
  | .error .unknown => .ok (Text.lowerCase (Text.trim name))
  | .error .number => .error .colour

end RequestSurface.Console
