import RequestSurface.Failure
import RequestSurface.Json.Reader
import RequestSurface.Toml.Reader
import RequestSurface.Yaml.Reader

/-!
# Data formats

The formats that documents and configurations are written in, and how a text in one of them is read
into a value.
-/

namespace RequestSurface

/-- A format of data. -/
inductive DataFormat where
  | json
  | yaml
  | toml
  deriving DecidableEq, Repr

namespace DataFormat

/-- Endings of the names of YAML files. -/
def yamlSuffixes : List String := [".yaml", ".yml"]

/-- The format of a document with a suffix, whatever its case. -/
def ofSuffix (suffix : String) : DataFormat :=
  if yamlSuffixes.contains (String.ofList (suffix.toList.map Char.toLower)) then yaml else json

/-- Ways to read texts, one for each format. -/
abbrev Readers : Type := DataFormat -> List Char -> Except InputProblem Value

/-- Read a text, as far as this library knows the format. -/
def read (format : DataFormat) (text : List Char) : Except InputProblem Value :=
  match format with
  | json =>
      (Json.read text).mapError fun
        | .malformed reason offset => .json (.at text reason offset)
        | .tooManyDigits count => .tooManyDigits count
  | yaml =>
      (Yaml.read text).mapError fun
        | .malformed => .yaml
        | .noSuchDay reason => .noSuchDay reason
        | .noDigits base => .noDigits base
        | .tooManyDigits count => .tooManyDigits count
        | .tooManyParts => .numberTooGreat
        | .noSuchCharacter => .noSuchCharacter
        | .characterTooGreat => .characterTooGreat
  | toml =>
      (Toml.read text).mapError fun
        | .malformed => .toml
        | .tooManyDigits count => .tooManyDigits count

end DataFormat

end RequestSurface
