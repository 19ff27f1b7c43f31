import RequestSurface.SurfaceType

/-!
# Fields

A field is a schema with a name: a parameter of a method or the body of its request.
-/

namespace RequestSurface

/-- A named schema. -/
structure Field where
  name : String
  schema : Schema
  deriving Repr, Inhabited

/-- The type of a field on a surface, and the type of one of its values if it is a list. -/
structure FieldType where
  whole : SurfaceType
  inner : SurfaceType
  deriving DecidableEq, Repr

namespace Field

/-- The field of a schema. Without a name it goes by the schema's id. -/
def ofSchema (schema : Schema) (name : Option String) : Field where
  name := Schema.nameOr (name.getD "") schema
  schema := schema

/-- The description, empty if there is none. -/
def description (field : Field) : String :=
  field.schema.description.getD ""

/-- The named schema the field refers to, if its name is not empty. -/
def reference? (field : Field) : Option String :=
  Schema.referenceName? field.schema.reference

/-- Whether a field holds a list of values. -/
def isRepeated (field : Field) : Bool :=
  field.schema.repeated || field.schema.type == some "array"

/-- Whether a field can be part of a resource name; only path parameters can. -/
def inPath (field : Field) : Bool :=
  field.schema.location == some .path

/-- One value of a repeated field: an item of a list, or the field itself taken once. -/
def element? (field : Field) : Option Field :=
  if field.schema.type = some "array" then
    field.schema.items.map fun items => ofSchema items (some field.name)
  else if field.schema.repeated then
    some { field with schema := { field.schema with repeated := false } }
  else none

/-- The values of a field that maps strings to values. -/
def mapValue? (field : Field) : Option Field :=
  if field.reference?.isSome ∨ field.schema.type ≠ some "object" then none
  else field.schema.additional.map fun values => ofSchema values (some field.name)

/-- The surface type of a field taken as it is. -/
def surfaceType (surface : Surface) (package : String) (field : Field) :
    Except UnknownPrimitive SurfaceType :=
  field.schema.surfaceType surface package field.name

/-- The types of a field. A repeated field without an element is a list of itself. -/
def types (surface : Surface) (package : String) (field : Field) :
    Except UnknownPrimitive FieldType :=
  if field.isRepeated then
    ((field.element?.getD field).surfaceType surface package).map fun inner => ⟨.list inner, inner⟩
  else (field.surfaceType surface package).map fun whole => ⟨whole, whole⟩

end Field

end RequestSurface
