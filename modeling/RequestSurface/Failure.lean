import RequestSurface.Charset.Basic
import RequestSurface.Content.Coding
import RequestSurface.Json.Fault
import RequestSurface.OutputRoot
import RequestSurface.Reading.Report
import RequestSurface.Surface
import RequestSurface.Text.Ascii
import RequestSurface.Text.Utf8

/-!
# Failures

Every way in which reading a document or lowering it can fail, as a cause with one message. A name
that clashes is no failure: symbol tables and import tables always find another one.
-/

namespace RequestSurface

/-- What is wrong with an input beneath the level of documents. Whatever has no place of its own
here is told by its kind and its message. -/
inductive InputProblem where
  | notFound (path : String)
  | absent (path : String)
  | directory (path : String)
  | notDirectory (path : String)
  | forbidden (path : String)
  | nameTooLong (path : String)
  | undecodable (fault : Text.Utf8Fault)
  | json (fault : Json.Fault)
  | tooManyDigits (count : Nat)
  | yaml
  | noSuchDay (reason : String)
  | noDigits (base : Nat)
  | numberTooGreat
  | noSuchCharacter
  | characterTooGreat
  | toml
  | notALocation (fault : Location.Fault)
  | badDestination (fault : Location.Fault)
  | badHostName (fault : HostName.Fault)
  | badHeader (fault : Text.AsciiFault)
  | badContent (fault : Content.Fault)
  | badCharset (fault : Charset.Fault)
  | noScheme (location : String)
  | refused
  | badStatus (message : String)
  | tooManyRedirects
  | nullByte
  | faults (record : String) (faults : List Fault)
  | keyNoText
  | notIndexable (kind : String)
  | notContainer (kind : String)
  | unknownTreatment (word : String)
  | badRoot (fault : OutputRoot.Fault)
  | other (kind message : String)
  deriving Repr, Inhabited

/-- A failure of the library. Optional parts may be absent. -/
inductive Failure where
  | general (message : String)
  | document (message : String)
  | load (source : String) (cause : Option Failure)
  | invalid (source : String) (errors : List String)
  | reference (name : String) (reason : Option String)
  | generation (message : String) (context : Option String) (cause : Option Failure)
  | precondition (message : String) (methodId : Option String)
  | request (methodId : String) (interface : Option String) (cause : Option Failure)
  | configuration (message : String) (path : Option String) (field : Option String)
  | unsupported (feature : String) (suggestion : Option String)
  | input (problem : InputProblem)
  deriving Repr, Inhabited

/-- A text built from an optional part; an absent or empty part gives nothing. -/
def whenGiven (part : Option String) (text : String -> String) : String :=
  match part with
  | some value => if value.isEmpty then "" else text value
  | none => ""

/-- The message of an input problem. -/
def InputProblem.message : InputProblem -> String
  | notFound path => "No such file: " ++ path
  | absent path => "[Errno 2] No such file or directory: " ++ Text.quoted path
  | directory path => "[Errno 21] Is a directory: " ++ Text.quoted path
  | notDirectory path => "[Errno 20] Not a directory: " ++ Text.quoted path
  | forbidden path => "[Errno 13] Permission denied: " ++ Text.quoted path
  | nameTooLong path => "[Errno 36] File name too long: " ++ Text.quoted path
  | undecodable fault => fault.message
  | json fault => fault.message
  | tooManyDigits count =>
      s!"Exceeds the limit ({Text.digitLimit} digits) for integer string conversion: " ++
        s!"value has {count} digits; use sys.set_int_max_str_digits() to increase the limit"
  | yaml => "malformed YAML"
  | noSuchDay reason => reason
  | noDigits base => s!"invalid literal for int() with base {base}: ''"
  | numberTooGreat => "int too large to convert to float"
  | noSuchCharacter => "chr() arg not in range(0x110000)"
  | characterTooGreat => "Python int too large to convert to C int"
  | toml => "malformed TOML"
  | notALocation fault => fault.message
  | badDestination fault => "Invalid URL in location header: " ++ fault.message ++ "."
  | badHostName fault => fault.message
  | badHeader fault => fault.message
  | badContent fault => fault.message
  | badCharset fault => fault.message
  | noScheme location => "unknown url type: " ++ Text.quoted location
  | refused => "connection refused"
  | badStatus message => message
  | tooManyRedirects => "Exceeded maximum allowed redirects."
  | nullByte => "embedded null byte"
  | faults record found => reportFaults record found
  | keyNoText => "keywords must be strings"
  | notIndexable kind =>
      match kind with
      | "str" => "string indices must be integers, not 'str'"
      | _ => s!"{kind} indices must be integers or slices, not str"
  | notContainer kind => s!"argument of type '{kind}' is not iterable"
  | unknownTreatment word => Text.quoted word ++ " is not a valid ResourceNameTreatment"
  | badRoot fault => fault.message
  | other _ message => message

/-- The message of a failure. -/
def Failure.message : Failure -> String
  | general message => message
  | document message => message
  | load source cause =>
      let base := "Failed to load discovery document from '" ++ source ++ "'"
      match cause with
      | some failure => base ++ ": " ++ failure.message
      | none => base
  | invalid source errors =>
      let base := "Discovery document validation failed for '" ++ source ++ "'"
      if errors.isEmpty then base else base ++ ": " ++ String.intercalate "; " errors
  | reference name reason =>
      "Failed to resolve reference '" ++ name ++ "'" ++ whenGiven reason (": " ++ ·)
  | generation message context cause =>
      let base := message ++ whenGiven context fun value => " (while generating " ++ value ++ ")"
      match cause with
      | some failure => base ++ ": " ++ failure.message
      | none => base
  | precondition message methodId =>
      message ++ whenGiven methodId fun value => " (while generating " ++ value ++ ")"
  | request methodId interface cause =>
      let base := "Failed to generate request view for '" ++ methodId ++ "'" ++
        (whenGiven interface fun value => " (interface " ++ value ++ ")") ++
        whenGiven (some methodId) fun value => " (while generating " ++ value ++ ")"
      match cause with
      | some failure => base ++ ": " ++ failure.message
      | none => base
  | configuration message path field =>
      message ++ (whenGiven path fun value => " in '" ++ value ++ "'") ++
        whenGiven field fun value => " (field: " ++ value ++ ")"
  | unsupported feature suggestion =>
      "Unsupported feature: " ++ feature ++ whenGiven suggestion (". " ++ ·)
  | input problem => problem.message

/-- The failure of a word that selects no surface. -/
def Surface.unknown (label : String) : Failure :=
  .configuration ("Unknown surface language '" ++ label ++ "'") none (some "language")

end RequestSurface
