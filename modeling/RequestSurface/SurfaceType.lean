import RequestSurface.Schema
import RequestSurface.Surface

/-!
# Surface types

The type of a value on a surface: a tree of list and string-keyed map containers around one named
type. A schema has a surface type unless its leaf is a type that the surface has no name for.
-/

namespace RequestSurface

/-- A type on a surface. -/
inductive SurfaceType where
  | named (qualifiedName : String)
  | list (element : SurfaceType)
  | map (value : SurfaceType)
  deriving DecidableEq, Repr, Inhabited

/-- A primitive type that a surface has no name for, and the name of the field that has it. -/
structure UnknownPrimitive where
  type : Option String
  format : Option String
  field : String
  deriving DecidableEq, Repr

namespace Surface

/-- The type of a message class. -/
def messageType (surface : Surface) (package reference : String) : SurfaceType :=
  .named (surface.messageName package (surface.className reference))

/-- The type of a primitive. -/
def primitive (surface : Surface) (field : String) (type format : Option String) :
    Except UnknownPrimitive SurfaceType :=
  match surface.primitiveType? type format with
  | some qualifiedName => .ok (.named qualifiedName)
  | none => .error ⟨type, format, field⟩

end Surface

namespace Schema

/-- The schema that a schema names, if it names one. -/
def referenceName? (reference : Option String) : Option String :=
  reference.filter (!·.isEmpty)

/-- The name of a field with a schema: its own name, or else the schema's id. -/
def nameOr (name : String) (schema : Schema) : String :=
  if name.isEmpty then schema.id.getD "" else name

/-- The surface type of the schema of a field. A name goes before everything else; a list takes the
type of its items, an object with schemas for its values is a map, and a repeated schema is a list
of what it would be otherwise. -/
def surfaceType (surface : Surface) (package field : String) :
    Schema -> Except UnknownPrimitive SurfaceType
  | ⟨_, type, reference, _, format, _, repeated, _, items, additional⟩ =>
      match referenceName? reference with
      | some name => .ok (surface.messageType package name)
      | none =>
          if type = some "array" then
            match items with
            | some inner => (surfaceType surface package (nameOr field inner) inner).map .list
            | none => surface.primitive field type format
          else
            let single :=
              match additional with
              | some inner =>
                  if type = some "object" then
                    (surfaceType surface package (nameOr field inner) inner).map .map
                  else surface.primitive field type format
              | none => surface.primitive field type format
            if repeated then single.map .list else single

end Schema

end RequestSurface
