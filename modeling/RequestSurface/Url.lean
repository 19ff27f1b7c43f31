import RequestSurface.Text.Digits
import RequestSurface.Text.Pieces

/-!
# Locations on the network

A text is the location of something on the network when it starts with a scheme and names an
authority. Control characters and blanks in front do not count, and tabs and line ends do not count
anywhere.
-/

namespace RequestSurface

namespace Url

/-- Drop what does not count. -/
def clean (text : List Char) : List Char :=
  (text.dropWhile fun character => character.toNat ≤ 0x20).filter fun character =>
    character != '\t' && character != '\n' && character != '\r'

/-- Characters of a scheme. -/
def isSchemeChar (character : Char) : Bool :=
  character.isAlphanum || character == '+' || character == '-' || character == '.'

/-- What follows a scheme and its colon, if a scheme is there. -/
def afterScheme? (text : List Char) : Option (List Char) :=
  let scheme := text.takeWhile isSchemeChar
  match scheme.head?, text.drop scheme.length with
  | some head, ':' :: rest => if head.isAlpha then some rest else none
  | _, _ => none

/-- The authority: what follows two slashes up to the path, the query or the fragment. -/
def authority? : List Char -> Option (List Char)
  | '/' :: '/' :: rest =>
      some (rest.takeWhile fun character =>
        character != '/' && character != '?' && character != '#')
  | _ => none

/-- What precedes the first occurrence of a character, and what follows it, if it occurs. -/
def cut (separator : Char) (text : List Char) : List Char × Option (List Char) :=
  let before := text.takeWhile (· != separator)
  match text.drop before.length with
  | [] => (before, none)
  | _ :: after => (before, some after)

/-- A number of an address in four parts: up to three digits without a leading zero, below 256. -/
def isOctet (digits : List Char) : Bool :=
  !digits.isEmpty && digits.all Char.isDigit && digits.length ≤ 3 &&
    (digits.length == 1 || digits.head? != some '0') &&
    Text.numberIn 10 digits < 256

/-- An address in four parts. -/
def isDottedAddress (text : List Char) : Bool :=
  let parts := Text.piecesAt '.' text
  parts.length == 4 && parts.all isOctet

/-- A group of an address in eight groups. -/
def isGroup (digits : List Char) : Bool :=
  !digits.isEmpty && digits.length ≤ 4 && (Text.hexNumber? digits).isSome

/-- The groups of an address, with an address in four parts at the end written as two groups. -/
def addressGroups? (text : List Char) : Option (List (List Char)) :=
  let parts := Text.piecesAt ':' text
  match parts.reverse with
  | last :: others =>
      if parts.length < 3 then none
      else if last.contains '.' then
        if isDottedAddress last then some (others.reverse ++ [['0'], ['0']]) else none
      else some parts
  | [] => none

/-- Whether groups form an address: eight of them, or fewer with one empty place that stands for
the missing ones. An empty group at an end is part of such a place. -/
def formsAddress (groups : List (List Char)) : Bool :=
  let inner := (groups.drop 1).dropLast
  let holes := (List.range inner.length).filter fun index =>
    (inner[index]?.getD []).isEmpty
  if 9 < groups.length then false
  else
    match holes with
    | [] => groups.length == 8 && groups.all isGroup
    | [hole] =>
        let before := groups.take (hole + 1)
        let after := groups.drop (hole + 2)
        let front := if before.head? = some [] then before.drop 1 else before
        let back := if after.getLast? = some [] then after.dropLast else after
        (before.head? ≠ some [] || front.isEmpty) && (after.getLast? ≠ some [] || back.isEmpty) &&
          front.length + back.length < 8 && front.all isGroup && back.all isGroup
    | _ => false

/-- An address in eight groups, with an optional zone after a percent sign. -/
def isGroupedAddress (text : List Char) : Bool :=
  let (address, zone) := cut '%' text
  let zoneFits := match zone with
    | none => true
    | some name => !name.isEmpty && !name.contains '%'
  zoneFits && match addressGroups? address with
    | some groups => formsAddress groups
    | none => false

/-- A host between brackets: an address in eight groups, or a version and a free form. -/
def isBracketedHost (host : List Char) : Bool :=
  match host with
  | 'v' :: rest =>
      match cut '.' rest with
      | (version, some free) =>
          !version.isEmpty && (Text.hexNumber? version).isSome && !free.isEmpty &&
            !free.contains '\n'
      | _ => false
  | _ => isGroupedAddress host

/-- Whether the brackets of an authority fit: none at all, or one pair around the host, with
nothing but a port after it. -/
def bracketsFit (authority : List Char) : Bool :=
  if authority.contains '[' != authority.contains ']' then false
  else if !authority.contains '[' then true
  else
    let host := (Text.piecesAt '@' authority).getLast?.getD []
    match cut '[' host with
    | (before, some bracketed) =>
        let (inside, port) := cut ']' bracketed
        let portFits := match port with
          | none | some [] => true
          | some (head :: _) => head == ':'
        before.isEmpty && portFits && isBracketedHost inside
    | (_, none) => isBracketedHost (cut ':' host).1

/-- Characters whose compatibility form holds a character that separates the parts of a location. -/
def lookAlikes : List Nat :=
  [0x2047, 0x2048, 0x2049, 0x2100, 0x2101, 0x2105, 0x2106, 0x2A74, 0xFE13, 0xFE16, 0xFE55, 0xFE56,
    0xFE5F, 0xFE6B, 0xFF03, 0xFF0F, 0xFF1A, 0xFF1F, 0xFF20]

end Url

/-- Whether a text is the location of something on the network. -/
def isUrl (text : String) : Bool :=
  match (Url.afterScheme? (Url.clean text.toList)).bind Url.authority? with
  | some authority =>
      !authority.isEmpty && Url.bracketsFit authority &&
        !authority.any fun character => Url.lookAlikes.contains character.toNat
  | none => false

end RequestSurface
