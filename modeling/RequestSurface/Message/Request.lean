import RequestSurface.Message.Draft

/-!
# Building request messages

Names and types are filled into the drafts of a method. Names come from a symbol table of the
method's own, which the variable of the request itself claims a name in first; types are spelled
through the import table that all methods of an interface share. What was spelled before a failure
stays recorded.
-/

namespace RequestSurface

/-- A type as it is written, and the type of one value. -/
structure SpelledType where
  whole : String
  inner : String
  deriving DecidableEq, Repr

namespace ImportTable

/-- Write the types of a field, the inner one first. -/
def spellTypes (surface : Surface) (table : ImportTable) (types : FieldType) :
    SpelledType × ImportTable :=
  let (inner, afterInner) := table.spell surface types.inner
  let (whole, afterWhole) := afterInner.spell surface types.whole
  (⟨whole, inner⟩, afterWhole)

/-- Write the types of a field. A type that the surface has no name for is found before anything is
recorded. -/
def resolve (surface : Surface) (package : String) (table : ImportTable) (field : Field) :
    Except UnknownPrimitive SpelledType × ImportTable :=
  match field.types surface package with
  | .error unknown => (.error unknown, table)
  | .ok types =>
      let (spelled, next) := table.spellTypes surface types
      (.ok spelled, next)

/-- Write the types of several fields, one after the other. -/
def spellAll (surface : Surface) (table : ImportTable) :
    List FieldType -> List SpelledType × ImportTable
  | [] => ([], table)
  | types :: rest =>
      let (spelled, next) := table.spellTypes surface types
      let (others, last) := next.spellAll surface rest
      (spelled :: others, last)

end ImportTable

namespace SymbolTable

/-- Hand out names for several candidates, one after the other. -/
def allocateAll (table : SymbolTable) : List String -> List String × SymbolTable
  | [] => ([], table)
  | candidate :: rest =>
      let (name, next) := table.allocate candidate
      let (others, last) := next.allocateAll rest
      (name :: others, last)

end SymbolTable

/-- Fill a name and a type into a draft. -/
def PropertyDraft.finish (draft : PropertyDraft) (name : String) (types : SpelledType) : Property :=
  { rawName := draft.rawName, name := name, typeName := types.whole, innerTypeName := types.inner,
    isRequired := draft.isRequired, isRepeated := draft.isRepeated, getter := draft.getter,
    setter := draft.setter, adder := draft.adder, docLines := draft.docLines }

/-- What building a message needs beside the method: the surface, the package of the messages, and
words that no property may be called. -/
structure RequestContext where
  surface : Surface
  packageName : String
  reservedWords : List String := []
  schemas : List (String × Schema) := []

/-- The symbol table that the names of one message come from. -/
def RequestContext.symbols (context : RequestContext) : SymbolTable where
  reserved := context.surface.reservedWords ++ context.reservedWords

/-- A finished message and the resource-name parameter of its flattened call. -/
structure BuiltRequest where
  message : RequestMessage
  parameter : Option ResourceNameParameter
  deriving DecidableEq, Repr

namespace RequestContext

/-- Put a message together from its drafts and from the spelling of their types. -/
def compose (context : RequestContext) (method : Method) (drafts : List PropertyDraft)
    (types : List SpelledType) (body : Option Property) : RequestMessage :=
  let candidate := context.surface.fieldName method.requestName
  let (name, symbols) := context.symbols.allocate candidate
  let (names, _) := symbols.allocateAll (drafts.map PropertyDraft.candidate)
  let properties := (drafts.zip (names.zip types)).map fun (draft, name, types) =>
    draft.finish name types
  { rawName := candidate, name := name,
    typeName := context.surface.className method.requestName,
    properties := Property.sort properties,
    hasRequiredProperties := method.fields.any fun field => field.schema.required,
    hasFieldMask := method.hasFieldMask, body := body,
    docLines := Text.docLines
      ("Request object for method " ++ method.id ++ ". " ++ method.description.getD "") }

/-- Build the message of a method. -/
def build (context : RequestContext) (method : Method) (flattening : Flattening)
    (table : ImportTable) : Except Failure BuiltRequest × ImportTable :=
  let surface := context.surface
  let parameter := ResourceNameParameter.ofFlattening surface flattening
  let (drafts, failure) := method.drafts surface context.packageName parameter
  let (types, spelled) := table.spellAll surface (drafts.map PropertyDraft.types)
  match failure with
  | some failure => (.error failure, spelled)
  | none =>
      match method.bodyDraft surface context.packageName context.schemas with
      | .error failure => (.error failure, spelled)
      | .ok none => (.ok ⟨context.compose method drafts types none, parameter⟩, spelled)
      | .ok (some draft) =>
          let (bodyTypes, last) := spelled.spellTypes surface draft.types
          let body := draft.finish draft.candidate bodyTypes
          (.ok ⟨context.compose method drafts types (some body), parameter⟩, last)

end RequestContext

end RequestSurface
