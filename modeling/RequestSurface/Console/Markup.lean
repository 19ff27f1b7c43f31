import RequestSurface.Console.Emoji
import RequestSurface.Console.Parameters
import RequestSurface.Console.Style

/-!
# Markup

Texts for the console may carry tags in square brackets, which choose a style and are not shown. A
tag with a slash in front ends the last style of its name, or the last one of all if it names none;
there must be one to end. Backslashes in front of a tag escape it. Between tags, names of emoji
stand for emoji.
-/

namespace RequestSurface.Console

/-- A tag: its name, and the parameters after an equals sign. -/
structure Tag where
  name : List Char
  parameters : List Char := []
  deriving DecidableEq, Repr

/-- The tag with a content. -/
def Tag.ofContent (content : List Char) : Tag :=
  let name := content.takeWhile (· != '=')
  ⟨name, content.drop (name.length + 1)⟩

/-- A part of a text with markup. -/
inductive MarkupPart where
  | text (shown : List Char)
  | tag (tag : Tag)
  deriving DecidableEq, Repr

/-- Characters that a tag begins with. -/
def opensTag (character : Char) : Bool :=
  ('a' ≤ character && character ≤ 'z') || character == '#' || character == '/' || character == '@'

/-- The content of a tag after its opening bracket, and what follows the tag, if it is one. -/
def tag? : List Char -> Option (List Char × List Char)
  | [] => none
  | head :: rest =>
      if opensTag head then
        let inner := rest.takeWhile fun character => character != '[' && character != ']'
        match rest.drop inner.length with
        | ']' :: after => some (head :: inner, after)
        | _ => none
      else none

/-- A tag at the beginning of a text, after some backslashes: how many those are, the content of the
tag, and what follows it. -/
def escapedTag? (text : List Char) : Option (Nat × List Char × List Char) :=
  let escapes := (text.takeWhile (· == '\\')).length
  match text.drop escapes with
  | '[' :: rest => (tag? rest).map fun (inner, after) => (escapes, inner, after)
  | _ => none

/-- Drop the backslashes that stand directly before an opening bracket. -/
def unescape : List Char -> List Char
  | [] => []
  | '\\' :: '[' :: rest => '[' :: unescape rest
  | head :: rest => head :: unescape rest

/-- Cut a text into shown parts and tags, in at most so many steps; the shown characters read last
are in reverse. Two backslashes before a tag show one, and an odd one shows the tag as it is. -/
def markupParts : Nat -> List Char -> List Char -> List MarkupPart
  | 0, shown, text => [.text (unescape (shown.reverse ++ text))]
  | _ + 1, shown, [] => [.text (unescape shown.reverse)]
  | steps + 1, shown, head :: rest =>
      match escapedTag? (head :: rest) with
      | some (escapes, inner, after) =>
          let before := [MarkupPart.text (unescape shown.reverse),
            .text (List.replicate (escapes / 2) '\\')]
          if escapes % 2 = 0 then before ++ .tag (.ofContent inner) :: markupParts steps [] after
          else before ++ .text ('[' :: inner ++ [']']) :: markupParts steps [] after
      | none => markupParts steps (head :: shown) rest

/-- Characters that are never shown. -/
def isStripped (character : Char) : Bool :=
  ['\x07', '\x08', '\x0b', '\x0c', '\r'].contains character

/-- Whether a tag belongs to an event. -/
def Tag.isEvent (tag : Tag) : Bool :=
  tag.name.head? == some '@'

/-- Check the parameters of a tag that is ended. -/
def Tag.check (tag : Tag) : Except Fault Unit :=
  if tag.isEvent && !tag.parameters.isEmpty && !areParameters tag.parameters then .error .tag
  else .ok ()

/-- End the last tag of a name; the open tags are in reverse. -/
def endTag (name : List Char) : List Tag -> Except Fault (Tag × List Tag)
  | [] => .error .tag
  | last :: others =>
      if last.name == name then .ok (last, others)
      else (endTag name others).map fun (tag, rest) => (tag, last :: rest)

/-- What is shown of some parts while some tags are open, the last one first. -/
def shownParts (tags : List Tag) : List MarkupPart -> Except Fault (List Char)
  | [] => .ok []
  | .text shown :: rest => do
      return (replaceEmoji shown).filter (!isStripped ·) ++ (← shownParts tags rest)
  | .tag ⟨'/' :: name, _⟩ :: rest => do
      let (ended, others) ←
        match Text.trim name, tags with
        | [], [] => throw Fault.tag
        | [], last :: others => pure (last, others)
        | named, _ => do endTag (← normalName named) tags
      ended.check
      shownParts others rest
  | .tag tag :: rest => do
      let tag := { tag with name := ← normalName tag.name }
      shownParts (tag :: tags) rest

/-- What is shown of a text with markup. -/
def shown (text : String) : Except Fault (List Char) :=
  shownParts [] (markupParts (text.length + 1) [] text.toList)

end RequestSurface.Console
