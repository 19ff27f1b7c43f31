import RequestSurface.Literal

/-!
# Faults of a value

Where a value is not what a document or configuration asks for, and what was asked for.
-/

namespace RequestSurface

/-- One step into a value: to the value of a key, or to a numbered item. -/
inductive Step where
  | key (name : String)
  | index (number : Int)
  deriving DecidableEq, Repr

/-- The text of a step. -/
def Step.text : Step -> String
  | key name => name
  | index number => toString number

/-- The bound of 64-bit numbers with a sign: `2 ^ 63`. -/
def wordBound : Int := 0x8000000000000000

/-- Whether a whole number is a 64-bit number with a sign. -/
def fitsWord (value : Int) : Bool :=
  -wordBound ≤ value && value < wordBound

/-- The step to the value of a mapping's key. Whole numbers of 64 bits and truth values count as
numbers. -/
def Step.ofScalar (key : Scalar) : Step :=
  match key with
  | .text name => .key name
  | .bool value => .index (if value then 1 else 0)
  | .int value => if fitsWord value then .index value else .key (toString value)
  | other => .key other.literal

/-- What was asked for where a value does not fit. -/
inductive Demand where
  | text
  | nonEmptyText
  | flag
  | flagWord
  | list
  | mapping
  | record (name : String)
  | present
  | textKey
  | knownKey
  | choice (options : List String)
  | literal (options : List String)
  deriving DecidableEq, Repr

/-- Options between single quotes, the last two joined by "or". -/
def orList (options : List String) : String :=
  let shown := options.map fun option => "'" ++ option ++ "'"
  match shown.reverse with
  | [] => ""
  | [only] => only
  | last :: others => String.intercalate ", " others.reverse ++ " or " ++ last

/-- The code of a demand. -/
def Demand.code : Demand -> String
  | text => "string_type"
  | nonEmptyText => "string_too_short"
  | flag => "bool_type"
  | flagWord => "bool_parsing"
  | list => "list_type"
  | mapping => "dict_type"
  | record _ => "model_type"
  | present => "missing"
  | textKey => "invalid_key"
  | knownKey => "extra_forbidden"
  | choice _ => "enum"
  | literal _ => "literal_error"

/-- The message of a demand. -/
def Demand.message : Demand -> String
  | text => "Input should be a valid string"
  | nonEmptyText => "String should have at least 1 character"
  | flag => "Input should be a valid boolean"
  | flagWord => "Input should be a valid boolean, unable to interpret input"
  | list => "Input should be a valid list"
  | mapping => "Input should be a valid dictionary"
  | record name => "Input should be a valid dictionary or instance of " ++ name
  | present => "Field required"
  | textKey => "Keys should be strings"
  | knownKey => "Extra inputs are not permitted"
  | choice options => "Input should be " ++ orList options
  | literal options => "Input should be " ++ orList options

/-- An unmet demand, the way to it from the top of the value, and what was given there. Where
something is missing, the mapping around it was given. -/
structure Fault where
  location : List Step
  demand : Demand
  given : Value
  deriving Repr

/-- The same fault seen from one step further out. -/
def Fault.beneath (step : Step) (fault : Fault) : Fault :=
  { fault with location := step :: fault.location }

end RequestSurface
