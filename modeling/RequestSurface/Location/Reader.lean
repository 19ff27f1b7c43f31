import RequestSurface.Location.Basic
import RequestSurface.Text.Casing
import RequestSurface.Text.Decimal
import RequestSurface.Url

/-!
# Reading locations

A text is cut into the parts of a location, and every part is brought into the form in which it is
asked for: scheme and host in lower case, without the usual port of the scheme, without dot
segments, and with the characters that may not stand in a part written as bytes in percent form.
-/

namespace RequestSurface.Location

/-- The parts of a location as they are given. -/
structure Parts where
  scheme : List Char
  user : List Char
  host : List Char
  port : List Char
  path : List Char
  query : Option (List Char)
  fragment : Option (List Char)

/-- The most characters of a location or of a part that is given by itself. -/
def lengthLimit : Nat := 65536

/-- The first control character of ASCII in a text, with its place. -/
def controlAt? (text : List Char) : Option (Char × Nat) :=
  let before := text.takeWhile fun character =>
    !(character.toNat < 0x20 || character.toNat == 0x7F)
  (text.drop before.length).head?.map fun character => (character, before.length)

/-- Cut a text after a scheme and its colon. A colon at the very beginning belongs to a scheme
without letters. -/
def splitScheme (text : List Char) : List Char × List Char :=
  match text with
  | ':' :: rest => ([], rest)
  | _ =>
      let scheme := text.takeWhile Url.isSchemeChar
      match scheme, text.drop scheme.length with
      | head :: _, ':' :: rest => if head.isAlpha then (scheme, rest) else ([], text)
      | _, _ => ([], text)

/-- Cut an authority into user, host and port. The user ends at the last at sign, and a host in
brackets at its last bracket. -/
def splitAuthority (authority : List Char) : List Char × List Char × List Char :=
  let place := (authority.reverse.takeWhile (· != '@')).reverse
  let user := authority.take (authority.length - place.length - 1)
  let bracketed := (place.reverse.dropWhile (· != ']')).reverse
  let host :=
    if place.head? = some '[' ∧ !bracketed.isEmpty then bracketed
    else place.takeWhile (· != ':')
  let rest := place.drop host.length
  (user, host, if rest.head? = some ':' then rest.drop 1 else rest)

/-- Cut a text into parts. -/
def Parts.ofText (text : List Char) : Parts :=
  let (scheme, afterScheme) := splitScheme text
  let authority := (Url.authority? afterScheme).getD []
  let afterAuthority :=
    if (Url.authority? afterScheme).isSome then afterScheme.drop (authority.length + 2)
    else afterScheme
  let (beforeFragment, fragment) := Url.cut '#' afterAuthority
  let (path, query) := Url.cut '?' beforeFragment
  let (user, host, port) := splitAuthority authority
  { scheme, user, host, port, path, query, fragment }

/-- A byte in percent form. -/
def percentByte (byte : UInt8) : List Char :=
  '%' :: (Text.hexDigits 2 byte.toNat).map Char.toUpper

/-- Write the characters of a part that may not stand in it in percent form. Blanks, controls and
everything outside ASCII may stand in none. -/
def quote (escaped : List Char) (part : List Char) : String :=
  String.ofList (part.flatMap fun character =>
    if character.toNat ≤ 0x20 || 0x7F ≤ character.toNat || escaped.contains character then
      (String.singleton character).toUTF8.toList.flatMap percentByte
    else [character])

/-- What may not stand in a user. -/
def userMarks : List Char := "\"<>#?`\x7b\x7d/;=@[\\]^|".toList

/-- What may not stand in a host. -/
def hostMarks : List Char := "#/:<>?@[]^".toList

/-- What may not stand in a path. -/
def pathMarks : List Char := "\"<>#?`\x7b\x7d".toList

/-- What may not stand in a query. -/
def queryMarks : List Char := "\"<>#".toList

/-- What may not stand in a fragment. -/
def fragmentMarks : List Char := "\"<>`".toList

/-- The usual port of a scheme in lower case. -/
def usualPort? (scheme : List Char) : Option Int :=
  [("ftp", 21), ("http", 80), ("https", 443), ("ws", 80), ("wss", 443)].lookup
    (String.ofList scheme)

/-- Drop a single dot, and two dots with the segment before them. -/
def dropDots (path : List Char) : List Char :=
  let segments := Text.piecesAt '/' path
  if segments.any fun segment => segment = ['.'] ∨ segment = ['.', '.'] then
    List.intercalate ['/'] <| segments.foldl
      (fun done segment =>
        if segment = ['.'] then done
        else if segment = ['.', '.'] then if done = [[]] then done else done.dropLast
        else done ++ [segment])
      []
  else path

/-- Whether a host reads as four rows of digits with one character between them, whatever that is.
It may itself be a digit, so of some digits every second one after the first may count. -/
def looksDotted (host : List Char) : Bool :=
  let rows := Text.piecesBy (fun character => !character.isDigit) host
  let spare := (rows.map fun row => (row.length - 1) / 2).foldl (· + ·) 0
  rows.length ≤ 4 && rows.all (!·.isEmpty) && 4 ≤ rows.length + spare

/-- Read a host: an address in four parts, one in groups between brackets, which are not kept, or a
name. -/
def readHost (host : List Char) : Except Fault String :=
  let given := String.ofList host
  if host.isEmpty then .ok ""
  else if looksDotted host then
    if Url.isDottedAddress host then .ok given else .error (.dottedAddress given)
  else if host.head? = some '[' ∧ host.getLast? = some ']' ∧ 2 ≤ host.length then
    let inner := (host.drop 1).dropLast
    if Url.isGroupedAddress inner then .ok (String.ofList inner)
    else .error (.groupedAddress given)
  else if HostName.isAscii host then .ok (quote hostMarks (host.map Char.toLower))
  else
    match HostName.encode (Text.lowerCase host) with
    | .ok name => .ok (String.ofList name)
    | .error _ => .error (.hostName given)

/-- Read a port. -/
def readPort (scheme port : List Char) : Except Fault (Option Int) :=
  if port.isEmpty then .ok none
  else
    match Text.wholeNumber? port with
    | none => .error (.port (String.ofList port))
    | some number => .ok (if usualPort? scheme = some number then none else some number)

/-- Check that a path fits what stands in front of it. -/
def checkPath (hasScheme hasAuthority : Bool) (path : List Char) : Except Fault Unit :=
  if hasAuthority ∧ !path.isEmpty ∧ path.head? ≠ some '/' then .error .pathBesideHost
  else if !hasScheme ∧ !hasAuthority ∧ path.take 2 = ['/', '/'] then .error .doubleSlash
  else if !hasScheme ∧ !hasAuthority ∧ path.head? = some ':' then .error .leadingColon
  else .ok ()

/-- The location of some parts. -/
def ofParts (parts : Parts) : Except Fault Location := do
  let user := quote userMarks parts.user
  let host ← readHost parts.host
  let port ← readPort parts.scheme parts.port
  let hasScheme := !parts.scheme.isEmpty
  let hasAuthority := !user.isEmpty || !host.isEmpty || port.isSome
  checkPath hasScheme hasAuthority parts.path
  let path := if hasScheme || hasAuthority then dropDots parts.path else parts.path
  return {
    scheme := String.ofList (parts.scheme.map Char.toLower), user, host, port,
    path := quote pathMarks path, query := parts.query.map (quote queryMarks),
    fragment := parts.fragment.map (quote fragmentMarks) }

/-- Read a location. -/
def read (text : String) : Except Fault Location :=
  let characters := text.toList
  if lengthLimit < characters.length then .error .tooLong
  else
    match controlAt? characters with
    | some (character, position) => .error (.control character position)
    | none => ofParts (.ofText characters)

/-- Check a part that is given by itself. -/
def checkPart (name : String) (part : List Char) : Except Fault Unit :=
  if lengthLimit < part.length then .error (.longPart name)
  else
    match controlAt? part with
    | some (character, position) => .error (.controlInPart name character position)
    | none => .ok ()

/-- The parts of a location that has been read. -/
def parts (location : Location) : Parts :=
  let (user, host, port) := splitAuthority location.authority.toList
  { scheme := location.scheme.toList, user, host, port, path := location.path.toList,
    query := location.query.map String.toList, fragment := location.fragment.map String.toList }

/-- Check the parts of a location that are given again. -/
def checkParts (location : Location) : Except Fault Unit := do
  checkPart "authority" location.authority.toList
  checkPart "path" location.path.toList
  checkPart "query" (location.query.getD "").toList

/-- A location at another host. -/
def withHost (location : Location) (host : String) : Except Fault Location := do
  checkParts location
  checkPart "fragment" (location.fragment.getD "").toList
  let characters := host.toList
  let bracketed :=
    if characters.contains ':' && !(characters.head? == some '[' && characters.getLast? == some ']')
    then '[' :: characters ++ [']'] else characters
  checkPart "host" bracketed
  ofParts { location.parts with host := bracketed }

/-- A location with another fragment, as that is shown. -/
def withFragment (location : Location) (fragment : List Char) : Except Fault Location := do
  checkParts location
  checkPart "fragment" fragment
  ofParts { location.parts with fragment := some fragment }

/-- The location that a request asks for. Where it does not name that by itself, the path and the
query alone are asked for, from the root on. -/
def requested (location : Location) : Except Fault Location :=
  if location.isAbsolute then .ok location
  else do
    let written := if location.path.isEmpty then "/" else location.path
    let path := '/' :: written.toList.dropWhile (· == '/')
    let target : Location :=
      { scheme := "", host := "", path := String.ofList path, query := location.query }
    checkParts target
    return target

end RequestSurface.Location
