import RequestSurface.Location.Reader

/-!
# References between locations

A location may be given as seen from another one, which fills in what it leaves out. Parts that are
there but empty do not count, and a scheme whose locations are not known to have a hierarchy fills
in nothing.
-/

namespace RequestSurface.Location

/-- The parts of a reference. The parameters follow the last segment of the path, after a
semicolon. -/
structure Reference where
  scheme : List Char
  authority : List Char
  path : List Char
  parameters : List Char
  query : List Char
  fragment : List Char
  deriving DecidableEq, Repr

namespace Reference

/-- Schemes whose locations may be given as seen from each other. -/
def relativeSchemes : List String :=
  ["", "ftp", "http", "gopher", "nntp", "imap", "wais", "file", "https", "shttp", "mms", "prospero",
    "rtsp", "rtsps", "rtspu", "sftp", "svn", "svn+ssh", "ws", "wss"]

/-- Schemes whose locations have an authority. -/
def authoritySchemes : List String :=
  ["", "ftp", "http", "gopher", "nntp", "telnet", "imap", "wais", "file", "mms", "https", "shttp",
    "snews", "prospero", "rtsp", "rtsps", "rtspu", "rsync", "svn", "svn+ssh", "sftp", "nfs", "git",
    "git+ssh", "ws", "wss"]

/-- Schemes whose locations have parameters. -/
def parameterSchemes : List String :=
  ["", "ftp", "hdl", "prospero", "http", "imap", "https", "shttp", "rtsp", "rtsps", "rtspu", "sip",
    "sips", "mms", "sftp", "tel"]

/-- Whether a scheme is one of some. -/
def isAmong (schemes : List String) (scheme : List Char) : Bool :=
  schemes.contains (String.ofList scheme)

/-- Cut the parameters off a path: what follows the first semicolon of its last segment. -/
def splitParameters (path : List Char) : List Char × List Char :=
  let segment := (path.reverse.takeWhile (· != '/')).reverse
  let (name, parameters) := Url.cut ';' segment
  (path.take (path.length - segment.length) ++ name, parameters.getD [])

/-- Read a reference, which has the given scheme unless it names one. -/
def ofText (scheme text : List Char) : Reference :=
  let named := text.takeWhile Url.isSchemeChar
  let (scheme, rest) := match Url.afterScheme? text with
    | some rest => (named.map Char.toLower, rest)
    | none => (scheme, text)
  let authority := (Url.authority? rest).getD []
  let rest := if (Url.authority? rest).isSome then rest.drop (authority.length + 2) else rest
  let (beforeFragment, fragment) := Url.cut '#' rest
  let (path, query) := Url.cut '?' beforeFragment
  let (path, parameters) :=
    if isAmong parameterSchemes scheme then splitParameters path else (path, [])
  { scheme, authority, path, parameters, query := query.getD [], fragment := fragment.getD [] }

/-- A part with a mark in front of it, or nothing if it is empty. -/
def marked (mark : Char) (part : List Char) : List Char :=
  if part.isEmpty then [] else mark :: part

/-- Write a reference. -/
def text (reference : Reference) : List Char :=
  let path := reference.path ++ marked ';' reference.parameters
  let hasAuthority := !reference.authority.isEmpty ||
    (!reference.scheme.isEmpty && isAmong authoritySchemes reference.scheme) ||
    path.take 2 == ['/', '/']
  let place :=
    if hasAuthority then
      let path := if path.isEmpty || path.head? == some '/' then path else '/' :: path
      '/' :: '/' :: reference.authority ++ path
    else path
  (if reference.scheme.isEmpty then [] else reference.scheme ++ [':']) ++ place ++
    marked '?' reference.query ++ marked '#' reference.fragment

/-- A path as seen from another one. -/
def joinPaths (base path : List Char) : List Char :=
  let segments :=
    if path.head? = some '/' then Text.piecesAt '/' path
    else
      let above := Text.piecesAt '/' base
      let above := if above.getLast? = some [] then above else above.dropLast
      let all := above ++ Text.piecesAt '/' path
      all.take 1 ++ ((all.drop 1).dropLast.filter fun segment => !segment.isEmpty) ++
        (all.drop 1).drop (all.length - 2)
  let kept := segments.foldl
    (fun done segment =>
      if segment = ['.', '.'] then done.dropLast
      else if segment = ['.'] then done
      else done ++ [segment])
    ([] : List (List Char))
  let last := segments.getLast?.getD []
  let kept := if last = ['.'] ∨ last = ['.', '.'] then kept ++ [[]] else kept
  let joined := List.intercalate ['/'] kept
  if joined.isEmpty then ['/'] else joined

/-- What a text refers to as seen from another one. -/
def resolve (base text : List Char) : List Char :=
  if base.isEmpty then text
  else if text.isEmpty then base
  else
    let upper := ofText [] base
    let reference := ofText upper.scheme text
    if reference.scheme ≠ upper.scheme ∨ !isAmong relativeSchemes reference.scheme then text
    else
      let isPlaced := isAmong authoritySchemes reference.scheme
      if isPlaced && !reference.authority.isEmpty then reference.text
      else
        let placed :=
          if isPlaced then { reference with authority := upper.authority } else reference
        if reference.path.isEmpty && reference.parameters.isEmpty then
          let query := if reference.query.isEmpty then upper.query else reference.query
          let whole :=
            { placed with path := upper.path, parameters := upper.parameters, query := query }
          whole.text
        else { placed with path := joinPaths upper.path reference.path : Reference }.text

end Reference

/-- A location as seen from another one. -/
def seenFrom (location base : Location) : Except Fault Location :=
  read (String.ofList (Reference.resolve base.text.toList location.text.toList))

end RequestSurface.Location
