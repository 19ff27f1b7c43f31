import RequestSurface.Reading.Basic

/-!
# Schemas

A schema describes a value of an API: a named type, a property or a parameter of a method. Only
what decides how a value is written on a surface is kept; the rest of a schema is checked when it
is read and stays in the reading's record.
-/

namespace RequestSurface

/-- Where a parameter is sent. -/
inductive ParameterLocation where
  | path
  | query
  deriving DecidableEq, Repr

/-- The shape of a value. -/
structure Schema where
  id : Option String := none
  type : Option String := none
  reference : Option String := none
  description : Option String := none
  format : Option String := none
  required : Bool := false
  repeated : Bool := false
  location : Option ParameterLocation := none
  items : Option Schema := none
  additional : Option Schema := none
  deriving Repr, Inhabited

namespace Schema

/-- The reading of a field that holds schemas: at most one of them, or several by name. -/
inductive Inner where
  | one (reading : Reading (Option Schema))
  | many (reading : Reading (List (String × Schema)))

/-- The reading of a field with at most one schema. -/
def Inner.toOne : Inner -> Reading (Option Schema)
  | one reading => reading
  | many reading => ⟨none, reading.record, reading.faults⟩

/-- The reading of a field with schemas by name. -/
def Inner.toMany : Inner -> Reading (List (String × Schema))
  | one reading => ⟨[], reading.record, reading.faults⟩
  | many reading => reading

/-- Read a schema's location. -/
def readLocation (value : Value) : Reading (Option ParameterLocation) :=
  .optional value (.oneOf (.choice ["path", "query"])
    [("path", ParameterLocation.path), ("query", .query)] .path value)

/-- Put a schema together from its entries and from the readings of the fields that hold schemas
themselves. -/
def assemble (entries : List (Scalar × Value)) (inner : List (String × Inner)) :
    Reading Schema :=
  let given := textEntries entries
  let id := Part.optional (.plain "id") given Reading.optionalText none
  let type := Part.optional (.plain "type") given Reading.optionalText none
  let reference := Part.optional ⟨"ref", "$ref"⟩ given Reading.optionalText none
  let description := Part.optional (.plain "description") given Reading.optionalText none
  let format := Part.optional (.plain "format") given Reading.optionalText none
  let default := Part.optional (.plain "default") given Reading.free ()
  let pattern := Part.optional (.plain "pattern") given Reading.optionalText none
  let required := Part.optional (.plain "required") given Reading.flag false
  let repeated := Part.optional (.plain "repeated") given Reading.flag false
  let location := Part.optional (.plain "location") given readLocation none
  let texts := fun value => Reading.optional value (Reading.list Reading.text value)
  let enum := Part.optional (.plain "enum") given texts none
  let enumDescriptions := Part.optional ⟨"enum_descriptions", "enumDescriptions"⟩ given texts none
  let minimum := Part.optional (.plain "minimum") given Reading.free ()
  let maximum := Part.optional (.plain "maximum") given Reading.free ()
  let items := Part.optional (.plain "items") inner Inner.toOne none
  let properties := Part.optional (.plain "properties") inner Inner.toMany []
  let additional :=
    Part.optional ⟨"additional_properties", "additionalProperties"⟩ inner Inner.toOne none
  let schema : Schema :=
    { id := id.result, type := type.result, reference := reference.result,
      description := description.result, format := format.result, required := required.result,
      repeated := repeated.result, location := location.result, items := items.result,
      additional := additional.result }
  Reading.opened schema
    [id.outline, type.outline, reference.outline, description.outline, format.outline,
      default.outline, pattern.outline, required.outline, repeated.outline, location.outline,
      enum.outline, enumDescriptions.outline, minimum.outline, maximum.outline, items.outline,
      properties.outline, additional.outline]
    entries

mutual

/-- Read a schema. -/
def read : Value -> Reading Schema
  | .mapping entries => assemble entries (readInner entries)
  | other => .misfit (.record "Schema") other {}

/-- Read the fields of a schema that hold schemas themselves, under the keys they are given by. -/
def readInner : List (Scalar × Value) -> List (String × Inner)
  | [] => []
  | (.text "items", value) :: rest =>
      ("items", .one (.optional value (read value))) :: readInner rest
  | (.text "additionalProperties", value) :: rest =>
      ("additionalProperties", .one (.optional value (read value))) :: readInner rest
  | (.text "additional_properties", value) :: rest =>
      ("additional_properties", .one (.optional value (read value))) :: readInner rest
  | (.text "properties", value) :: rest => ("properties", .many (readNamed value)) :: readInner rest
  | _ :: rest => readInner rest

/-- Read schemas by name. -/
def readNamed : Value -> Reading (List (String × Schema))
  | .mapping entries => Reading.ofEntries (readEntries entries)
  | other => .misfit .mapping other []

/-- Read the schema of every entry. -/
def readEntries : List (Scalar × Value) -> List (Scalar × Reading Schema)
  | [] => []
  | (key, value) :: rest => (key, read value) :: readEntries rest

end

end Schema

end RequestSurface
