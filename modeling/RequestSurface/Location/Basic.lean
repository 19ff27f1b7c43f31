import RequestSurface.HostName.Basic
import RequestSurface.Text.Utf8

/-!
# Locations

A location on the network, part by part, as it is asked for and written.
-/

namespace RequestSurface

/-- A location, part by part. Only a query or a fragment that is there is written. -/
structure Location where
  scheme : String
  user : String := ""
  host : String
  port : Option Int := none
  path : String
  query : Option String := none
  fragment : Option String := none
  deriving DecidableEq, Repr, Inhabited

namespace Location

/-- Why a text is no location. -/
inductive Fault where
  | tooLong
  | control (character : Char) (position : Nat)
  | longPart (name : String)
  | controlInPart (name : String) (character : Char) (position : Nat)
  | dottedAddress (host : String)
  | groupedAddress (host : String)
  | hostName (host : String)
  | port (text : String)
  | pathBesideHost
  | doubleSlash
  | leadingColon
  deriving DecidableEq, Repr

/-- The message of a fault. -/
def Fault.message : Fault -> String
  | tooLong => "URL too long"
  | control character position =>
      "Invalid non-printable ASCII character in URL, " ++
        Text.quoted (String.singleton character) ++ s!" at position {position}."
  | longPart name => s!"URL component '{name}' too long"
  | controlInPart name character position =>
      s!"Invalid non-printable ASCII character in URL {name} component, " ++
        Text.quoted (String.singleton character) ++ s!" at position {position}."
  | dottedAddress host => "Invalid IPv4 address: " ++ Text.quoted host
  | groupedAddress host => "Invalid IPv6 address: " ++ Text.quoted host
  | hostName host => "Invalid IDNA hostname: " ++ Text.quoted host
  | port text => "Invalid port: " ++ Text.quoted text
  | pathBesideHost => "For absolute URLs, path must be empty or begin with '/'"
  | doubleSlash => "Relative URLs cannot have a path starting with '//'"
  | leadingColon => "Relative URLs cannot have a path starting with ':'"

/-- The authority of a location. A host with colons stands in brackets. -/
def authority (location : Location) : String :=
  let host :=
    if location.host.toList.contains ':' then "[" ++ location.host ++ "]" else location.host
  (if location.user.isEmpty then "" else location.user ++ "@") ++ host ++
    (match location.port with
      | some port => s!":{port}"
      | none => "")

/-- Write a location. -/
def text (location : Location) : String :=
  (if location.scheme.isEmpty then "" else location.scheme ++ ":") ++
    (if location.authority.isEmpty then "" else "//" ++ location.authority) ++ location.path ++
    (match location.query with
      | some query => "?" ++ query
      | none => "") ++
    (match location.fragment with
      | some fragment => "#" ++ fragment
      | none => "")

/-- Whether a location names where to ask by itself. -/
def isAbsolute (location : Location) : Bool :=
  !location.scheme.isEmpty && !location.host.isEmpty

/-- The host of a location as it is shown. -/
def shownHost (location : Location) : Except HostName.Fault String :=
  (HostName.shown location.host.toList).map String.ofList

/-- The bytes that a text in percent form stands for. A percent sign that begins no byte stands for
itself. -/
def percentBytes : List Char -> List UInt8
  | [] => []
  | '%' :: high :: low :: rest =>
      match Text.hexNumber? [high, low] with
      | some byte => UInt8.ofNat byte :: percentBytes rest
      | none => UInt8.ofNat 37 :: percentBytes (high :: low :: rest)
  | head :: rest => (String.singleton head).toUTF8.toList ++ percentBytes rest

/-- The fragment of a location as it is shown, empty if there is none. -/
def shownFragment (location : Location) : List Char :=
  Text.decodeLossy (percentBytes (location.fragment.getD "").toList)

end Location

end RequestSurface
