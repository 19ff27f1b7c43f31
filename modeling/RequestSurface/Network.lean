import RequestSurface.Failure
import RequestSurface.Location.Reference

/-!
# The network

Responses by location, and what asking for a location gives: an answer, or the problem that stopped
it, together with every location that was asked for on the way.
-/

namespace RequestSurface

/-- A response. -/
structure Response where
  status : Nat
  headers : List (String × String) := []
  body : List UInt8 := []
  deriving Repr, Inhabited

/-- What answers at each location; nothing answers anywhere else. -/
structure Network where
  responses : List (String × Response) := []
  followsRedirects : Bool := true

/-- Short names of status codes. -/
def reasonPhrases : List (Nat × String) :=
  [(100, "Continue"), (101, "Switching Protocols"), (102, "Processing"), (103, "Early Hints"),
    (200, "OK"), (201, "Created"), (202, "Accepted"), (203, "Non-Authoritative Information"),
    (204, "No Content"), (205, "Reset Content"), (206, "Partial Content"), (207, "Multi-Status"),
    (208, "Already Reported"), (226, "IM Used"), (300, "Multiple Choices"),
    (301, "Moved Permanently"), (302, "Found"), (303, "See Other"), (304, "Not Modified"),
    (305, "Use Proxy"), (307, "Temporary Redirect"), (308, "Permanent Redirect"),
    (400, "Bad Request"), (401, "Unauthorized"), (402, "Payment Required"), (403, "Forbidden"),
    (404, "Not Found"), (405, "Method Not Allowed"), (406, "Not Acceptable"),
    (407, "Proxy Authentication Required"), (408, "Request Timeout"), (409, "Conflict"),
    (410, "Gone"), (411, "Length Required"), (412, "Precondition Failed"),
    (413, "Request Entity Too Large"), (414, "Request-URI Too Long"),
    (415, "Unsupported Media Type"), (416, "Requested Range Not Satisfiable"),
    (417, "Expectation Failed"), (418, "I'm a teapot"), (421, "Misdirected Request"),
    (422, "Unprocessable Entity"), (423, "Locked"), (424, "Failed Dependency"), (425, "Too Early"),
    (426, "Upgrade Required"), (428, "Precondition Required"), (429, "Too Many Requests"),
    (431, "Request Header Fields Too Large"), (451, "Unavailable For Legal Reasons"),
    (500, "Internal Server Error"), (501, "Not Implemented"), (502, "Bad Gateway"),
    (503, "Service Unavailable"), (504, "Gateway Timeout"), (505, "HTTP Version Not Supported"),
    (506, "Variant Also Negotiates"), (507, "Insufficient Storage"), (508, "Loop Detected"),
    (510, "Not Extended"), (511, "Network Authentication Required")]

/-- What a class of status codes is called. -/
def statusClass (status : Nat) : String :=
  match status / 100 with
  | 1 => "Informational response"
  | 3 => "Redirect response"
  | 4 => "Client error"
  | 5 => "Server error"
  | _ => "Invalid status code"

/-- The page that explains a status code. -/
def statusPage (status : Nat) : Location where
  scheme := "https"
  host := "developer.mozilla.org"
  path := s!"/en-US/docs/Web/HTTP/Status/{status}"

namespace Response

/-- The value of a header, whose name may be in any case. Several values are joined by commas. -/
def header? (response : Response) (name : String) : Option String :=
  let lower (text : String) := text.toList.map Char.toLower
  let values := (response.headers.filter fun entry => lower entry.1 == lower name).map (·.2)
  if values.isEmpty then none else some (String.intercalate ", " values)

/-- Where a response sends one on, if it does. -/
def redirect? (response : Response) : Option String :=
  if [301, 302, 303, 307, 308].contains response.status then response.header? "location" else none

/-- Whether a response is a success. -/
def isSuccess (response : Response) : Bool :=
  response.status / 100 == 2

/-- What is wrong with an unsuccessful response from a location. -/
def complaint (response : Response) (location : String) : String :=
  let phrase := (reasonPhrases.lookup response.status).getD ""
  let status := s!"{response.status}"
  let hint := "\nFor more information check: " ++ (statusPage response.status).text
  let sentOn := match response.redirect? with
    | some target => "\nRedirect location: '" ++ target ++ "'"
    | none => ""
  statusClass response.status ++ " '" ++ status ++ " " ++ phrase ++ "' for url '" ++ location ++
    "'" ++ sentOn ++ hint

/-- The first row of characters outside ASCII in the headers, which must be ASCII; a name comes
before its value. -/
def headerFault? (response : Response) : Option Text.AsciiFault :=
  (response.headers.flatMap fun entry => [entry.1, entry.2]).findSome? fun part =>
    Text.asciiFault? part.toList

/-- The codings of a response. -/
def codings (response : Response) : List Content.Coding :=
  match response.header? "content-encoding" with
  | some names => Content.Coding.ofText names
  | none => []

/-- The content of a response. -/
def content (response : Response) : Except InputProblem (List UInt8) :=
  match response.headerFault? with
  | some fault => .error (.badHeader fault)
  | none =>
      (Content.Coding.undoAll response.codings response.body).mapError .badContent

end Response

/-- A response from a location with its content. -/
structure Answer where
  location : Location
  response : Response
  content : List UInt8

/-- What is wrong with an answer, unless it is a success. -/
def Answer.complaint? (answer : Answer) : Option InputProblem :=
  if answer.response.isSuccess then none
  else some (.badStatus (answer.response.complaint answer.location.text))

/-- What asking gave, and every location that was asked for, in order. -/
structure Exchange (α : Type) where
  asked : List String
  outcome : Except InputProblem α

namespace Network

/-- How often a request may be sent on. -/
def redirectLimit : Nat := 20

/-- Read the host of a location as it is shown. -/
def shownHost (location : Location) : Except InputProblem String :=
  location.shownHost.mapError .badHostName

/-- The location that a response from another one sends on to. Where only a scheme is named, the
host stays the same, and a fragment stays unless there is a new one. -/
def target (current : Location) (destination : String) : Except InputProblem Location := do
  let next ← (Location.read destination).mapError .badDestination
  let next ←
    if next.scheme.isEmpty then pure next
    else if (← shownHost next).isEmpty then
      (next.withHost (← shownHost current)).mapError .notALocation
    else pure next
  let next ←
    if next.isAbsolute then pure next else (next.seenFrom current).mapError .notALocation
  let fragment := current.shownFragment
  let next ←
    if !fragment.isEmpty && next.shownFragment.isEmpty then
      (next.withFragment fragment).mapError .notALocation
    else pure next
  let _ ← shownHost next
  return next

/-- A location as a whole, without an empty fragment. -/
def withoutEmptyFragment (text : String) : String :=
  if text.toList.getLast? = some '#' then String.ofList text.toList.dropLast else text

/-- Whether a text begins with a name and a colon. -/
def namesScheme (text : String) : Bool :=
  let name := text.toList.takeWhile fun character => character != '/' && character != ':'
  !name.isEmpty && (text.toList.drop name.length).head? == some ':'

/-- Take what a location answers. Nothing can be taken from a location that names no scheme. -/
def receive (location : Location) (response : Response) : Except InputProblem Answer := do
  let content ← response.content
  if namesScheme location.text then return ⟨location, response, content⟩
  else .error (.noScheme (withoutEmptyFragment location.text))

/-- Ask for a location, and go where responses send on to at most so many times. -/
def ask (network : Network) : Nat -> Location -> Exchange Answer
  | 0, _ => ⟨[], .error .tooManyRedirects⟩
  | hops + 1, location =>
      match network.responses.lookup location.text with
      | none => ⟨[location.text], .error .refused⟩
      | some response =>
          match receive location response, response.redirect? with
          | .error problem, _ => ⟨[location.text], .error problem⟩
          | .ok answer, none => ⟨[location.text], .ok answer⟩
          | .ok answer, some destination =>
              match target location destination with
              | .error problem => ⟨[location.text], .error problem⟩
              | .ok next =>
                  if network.followsRedirects then
                    let later := network.ask hops next
                    { later with asked := location.text :: later.asked }
                  else ⟨[location.text], .ok answer⟩

/-- The location that a text asks for. -/
def locate (text : String) : Except InputProblem Location := do
  let location ← (Location.read text).mapError .notALocation
  let location ← location.requested.mapError .notALocation
  let _ ← shownHost location
  return location

/-- Get an answer from a location. -/
def get (network : Network) (text : String) : Exchange Answer :=
  match locate text with
  | .error problem => ⟨[], .error problem⟩
  | .ok location => network.ask (redirectLimit + 1) location

end Network

end RequestSurface
