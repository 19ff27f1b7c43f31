import RequestSurface.HostName.Label

/-!
# Host names

A host name is a row of labels with dots between them; a dot may stand at its end. Dots of some
scripts count as dots too. Host names are given and asked for in lower case.
-/

namespace RequestSurface.HostName

/-- The dots of all scripts. -/
def isDot (character : Char) : Bool :=
  character == '.' || character == '\u3002' || character == '\uFF0E' || character == '\uFF61'

/-- The labels of a host name, and whether a dot stands at its end. -/
def labels (name : List Char) : Except Fault (List (List Char) × Bool) :=
  let parts := Text.piecesBy isDot name
  match parts.getLast? with
  | some [] => if parts.length = 1 then .error .emptyName else .ok (parts.dropLast, true)
  | _ => .ok (parts, false)

/-- Labels with dots between them, and one at the end if there was one. -/
def joinLabels (parts : List (List Char)) (endsInDot : Bool) : List Char :=
  List.intercalate ['.'] (parts ++ if endsInDot then [[]] else [])

/-- The most characters of a host name, without a dot at its end. -/
def nameLimit : Nat := 253

/-- The ASCII form of a host name. -/
def encode (name : List Char) : Except Fault (List Char) := do
  let (parts, endsInDot) ← labels name
  let coded := joinLabels (← parts.mapM encodeLabel) endsInDot
  let limit := if endsInDot then nameLimit + 1 else nameLimit
  if limit < coded.length then .error .longName else return coded

/-- The host name that an ASCII form stands for. -/
def decode (name : List Char) : Except Fault (List Char) := do
  let (parts, endsInDot) ← labels name
  return joinLabels (← parts.mapM decodeLabel) endsInDot

/-- The host name that a text shows: an ASCII form is decoded, and all else stands for itself. -/
def shown (name : List Char) : Except Fault (List Char) :=
  if codedMark.isPrefixOf name then decode name else .ok name

end RequestSurface.HostName
