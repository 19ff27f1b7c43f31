import RequestSurface.ImportTable
import RequestSurface.Text.Casing
import RequestSurface.Text.SortKey
import RequestSurface.Value

/-!
# Request messages

The message that a caller of a method fills in, ready to be rendered: its properties in order, its
body, and how everything is called on the surface.
-/

namespace RequestSurface

/-- A property of a message. -/
structure Property where
  rawName : String
  name : String
  typeName : String
  innerTypeName : String
  isRequired : Bool
  isRepeated : Bool
  getter : String
  setter : String
  adder : Option String := none
  docLines : List String := []
  deriving DecidableEq, Repr, Inhabited

/-- The parameter that stands for a resource name in a flattened call. -/
structure ResourceNameParameter where
  name : String
  fieldName : String
  getter : String
  setter : String
  pattern : Option String
  deriving DecidableEq, Repr, Inhabited

/-- The message that calls one method. -/
structure RequestMessage where
  rawName : String
  name : String
  typeName : String
  properties : List Property
  hasRequiredProperties : Bool
  hasFieldMask : Bool
  body : Option Property
  docLines : List String
  deriving DecidableEq, Repr, Inhabited

namespace Property

/-- What properties are ordered by: the name without regard to case, then the name, then the name
in the document. -/
def sortKey (property : Property) : Text.SortKey :=
  [Text.caseFold property.name, property.name, property.rawName]

/-- Put properties in order; equal ones keep theirs. -/
def sort (properties : List Property) : List Property :=
  Text.SortKey.sort sortKey properties

/-- A property as a value. -/
def toValue (property : Property) : Value :=
  .record
    [("raw_name", .text property.rawName), ("name", .text property.name),
      ("type_name", .text property.typeName), ("inner_type_name", .text property.innerTypeName),
      ("is_required", .bool property.isRequired), ("is_repeated", .bool property.isRepeated),
      ("get_function", .text property.getter), ("set_function", .text property.setter),
      ("add_function", .optionalText property.adder), ("doc_lines", .texts property.docLines),
      ("properties", .list [])]

end Property

/-- A message as a value. A message is always required and never repeated. -/
def RequestMessage.toValue (message : RequestMessage) : Value :=
  .record
    [("raw_name", .text message.rawName), ("name", .text message.name),
      ("type_name", .text message.typeName),
      ("properties", .list (message.properties.map Property.toValue)),
      ("has_required_properties", .bool message.hasRequiredProperties),
      ("has_field_mask", .bool message.hasFieldMask),
      ("request_body_type", (message.body.map Property.toValue).getD .null),
      ("doc_lines", .texts message.docLines), ("is_required", .bool true),
      ("is_repeated", .bool false)]

end RequestSurface
