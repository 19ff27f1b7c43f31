import RequestSurface.Number.Shortest

/-!
# Values

The values that documents and configurations are written in. A mapping keeps its entries in the
order in which their keys first appear; writing a key again replaces its value in place. Keys are
scalars, although most formats only have text keys.
-/

namespace RequestSurface

/-- A value without parts. -/
inductive Scalar where
  | null
  | bool (value : Bool)
  | int (value : Int)
  | float (value : Binary64)
  | text (value : String)
  | date (year month day : Nat)
  deriving DecidableEq, Repr, Inhabited

/-- A value. -/
inductive Value where
  | scalar (value : Scalar)
  | list (items : List Value)
  | mapping (entries : List (Scalar × Value))
  deriving Repr, Inhabited

namespace Scalar

/-- The whole number a truth value or a number stands for, when keys are compared. -/
def wholeNumber? : Scalar -> Option Int
  | bool value => some (if value then 1 else 0)
  | int value => some value
  | _ => none

/-- Whether two scalars are the same key. Truth values and numbers are compared as numbers. -/
def sameKey (left right : Scalar) : Bool :=
  match left, right with
  | .float one, .float other =>
      one == other || (one.equalsInt 0 && other.equalsInt 0)
  | .float one, other => (other.wholeNumber?.map one.equalsInt).getD false
  | one, .float other => (one.wholeNumber?.map other.equalsInt).getD false
  | one, other =>
      match one.wholeNumber?, other.wholeNumber? with
      | some first, some second => first == second
      | _, _ => one == other

end Scalar

namespace Value

/-- The value null. -/
def null : Value := .scalar .null

/-- A truth value. -/
def bool (value : Bool) : Value := .scalar (.bool value)

/-- A whole number. -/
def int (value : Int) : Value := .scalar (.int value)

/-- A text. -/
def text (value : String) : Value := .scalar (.text value)

/-- A text, or null. -/
def optionalText (value : Option String) : Value :=
  (value.map text).getD null

/-- A list of texts. -/
def texts (values : List String) : Value := .list (values.map text)

/-- A mapping with text keys. -/
def record (fields : List (String × Value)) : Value :=
  .mapping (fields.map fun field => (.text field.1, field.2))

/-- Whether a value is null. -/
def isNull : Value -> Bool
  | .scalar .null => true
  | _ => false

end Value

/-- Write a key into the entries of a mapping. A key that is there keeps its place. -/
def putEntry (entries : List (Scalar × Value)) (key : Scalar) (value : Value) :
    List (Scalar × Value) :=
  match entries with
  | [] => [(key, value)]
  | (present, old) :: rest =>
      if present.sameKey key then (present, value) :: rest
      else (present, old) :: putEntry rest key value

/-- The value at a text key. -/
def findText? (entries : List (Scalar × Value)) (key : String) : Option Value :=
  match entries with
  | [] => none
  | (.text present, value) :: rest => if present = key then some value else findText? rest key
  | _ :: rest => findText? rest key

end RequestSurface
