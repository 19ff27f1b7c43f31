import RequestSurface.Flattening
import RequestSurface.Message.Basic
import RequestSurface.Placeholder
import RequestSurface.Text.Lines

/-!
# Drafts

A draft of a property says everything about it but its final name and the spelling of its type,
which depend on what else is named and imported. Drafting can fail; naming and spelling cannot.
The properties of a message are drafted in a fixed order: the standard query parameters, the
declared parameters that are not part of the path, and the resource identifier.
-/

namespace RequestSurface

/-- A property before naming and spelling. -/
structure PropertyDraft where
  rawName : String
  candidate : String
  types : FieldType
  isRequired : Bool
  isRepeated : Bool
  getter : String
  setter : String
  adder : Option String
  docLines : List String
  deriving DecidableEq, Repr

/-- Query parameters that every method accepts, with their descriptions. -/
def standardParameters : List (String × String) :=
  [("access_token", "OAuth 2.0 token for the current user."),
    ("callback", "Name of the JavaScript callback function that handles the response."),
    ("fields", "Selector specifying a subset of fields to include in the response."),
    ("key", "API key. Required unless you provide an OAuth 2.0 token."),
    ("prettyPrint", "Returns response with indentations and line breaks."),
    ("quotaUser", "Alternative to userIp."),
    ("userIp", "IP address of the end user for whom the API call is being made.")]

/-- A description with places for the path of a method and for the name of its identifier. -/
inductive TemplatePart where
  | literal (text : String)
  | path
  | name
  deriving DecidableEq, Repr

/-- What the description of a resource identifier says. -/
def identifierTemplate : List TemplatePart :=
  [.literal "It must have the format `", .path, .literal "`. `\x7b", .name,
    .literal "\x7d` must start with a letter,\n",
    .literal "and contain only letters (`[A-Za-z]`), numbers (`[0-9]`), dashes (`-`),\n",
    .literal "underscores (`_`), periods (`.`), tildes (`~`), plus (`+`) or percent\n",
    .literal "signs (`%`). It must be between 3 and 255 characters in length, and it\n",
    .literal "must not start with `\"goog\"`."]

/-- Fill in a template. -/
def fillTemplate (template : List TemplatePart) (path name : String) : String :=
  String.join (template.map fun part =>
    match part with
    | .literal text => text
    | .path => path
    | .name => name)

/-- The type of a property that holds one string. -/
def FieldType.string (surface : Surface) : FieldType :=
  ⟨.named surface.stringType, .named surface.stringType⟩

namespace PropertyDraft

/-- Draft a standard query parameter. -/
def standard (surface : Surface) (parameter description : String) : PropertyDraft where
  rawName := parameter
  candidate := surface.fieldName parameter
  types := .string surface
  isRequired := false
  isRepeated := false
  getter := surface.getterName parameter
  setter := surface.setterName parameter false
  adder := none
  docLines := Text.docLines description

/-- The failure of a field whose type the surface has no name for. -/
def unsupported (unknown : UnknownPrimitive) : Failure :=
  let shown (part : Option String) := part.getD "None"
  .unsupported
    ("type '" ++ shown unknown.type ++ "' with format '" ++ shown unknown.format ++
      "' of field '" ++ unknown.field ++ "'") none

/-- Draft a declared field. Its accessors are named after the name it has on the surface. -/
def declared (surface : Surface) (package : String) (field : Field) (preferred : String) :
    Except Failure PropertyDraft :=
  match field.types surface package with
  | .error unknown => .error (unsupported unknown)
  | .ok types =>
      let name := surface.fieldName preferred
      .ok
        { rawName := preferred, candidate := name, types := types,
          isRequired := field.schema.required, isRepeated := field.isRepeated,
          getter := surface.getterName name, setter := surface.setterName name field.isRepeated,
          adder := some (surface.adderName name), docLines := Text.docLines field.description }

/-- The description of a resource identifier, after that of the parameter it stands for. -/
def identifierDescription (method : Method) (identifier : String) : String :=
  let format := fillTemplate identifierTemplate method.path identifier
  match (method.parameter? identifier).map Field.description with
  | some description => if description.isEmpty then format else description ++ "\n" ++ format
  | none => format

/-- The failure of a path without a placeholder. -/
def noIdentifier (method : Method) : Failure :=
  .precondition ("Path '" ++ method.path ++ "' has no resource identifier placeholder")
    (some method.id)

/-- Draft the resource identifier. It goes by the resource-name parameter, if there is one, and by
the last placeholder of the path otherwise. -/
def identifier (surface : Surface) (method : Method) (parameter : Option ResourceNameParameter) :
    Except Failure PropertyDraft :=
  match resourceIdentifier method.path with
  | none => .error (noIdentifier method)
  | some identifier =>
      let (rawName, candidate, getter, setter) :=
        match parameter with
        | some parameter =>
            (parameter.fieldName, parameter.name, parameter.getter, parameter.setter)
        | none =>
            (identifier, surface.fieldName identifier, surface.getterName identifier,
              surface.setterName identifier false)
      .ok
        { rawName := rawName, candidate := candidate, types := .string surface,
          isRequired := true, isRepeated := false, getter := getter, setter := setter,
          adder := none, docLines := Text.docLines (identifierDescription method identifier) }

end PropertyDraft

/-- The parameter that stands for the resource name of a flattened call, if a field takes that
form. -/
def ResourceNameParameter.ofFlattening (surface : Surface) (flattening : Flattening) :
    Option ResourceNameParameter :=
  flattening.resourceName?.map fun flattened =>
    let raw := flattened.field.name
    { name := surface.fieldName raw, fieldName := raw, getter := surface.getterName raw,
      setter := surface.setterName raw false, pattern := flattened.pattern }

/-- The results before the first failure, and that failure. -/
def untilFailure {α : Type} : List (Except Failure α) -> List α × Option Failure
  | [] => ([], none)
  | .ok result :: rest =>
      let (results, failure) := untilFailure rest
      (result :: results, failure)
  | .error failure :: _ => ([], some failure)

namespace Method

/-- The standard parameters that a method does not declare itself, drafted. -/
def standardDrafts (surface : Surface) (method : Method) : List PropertyDraft :=
  (standardParameters.filter fun parameter => (method.parameter? parameter.1).isNone).map
    fun parameter => .standard surface parameter.1 parameter.2

/-- The declared parameters outside the path, drafted. -/
def declaredDrafts (surface : Surface) (package : String) (method : Method) :
    List (Except Failure PropertyDraft) :=
  (method.fields.filter (!·.inPath)).map fun field =>
    PropertyDraft.declared surface package field field.name

/-- The drafts of all properties of the request message, up to the first failure. -/
def drafts (surface : Surface) (package : String) (method : Method)
    (parameter : Option ResourceNameParameter) : List PropertyDraft × Option Failure :=
  untilFailure ((method.standardDrafts surface).map .ok ++ method.declaredDrafts surface package ++
    [PropertyDraft.identifier surface method parameter])

/-- The draft of the request body, if the method takes one by reference. -/
def bodyDraft (surface : Surface) (package : String) (method : Method)
    (schemas : List (String × Schema)) : Except Failure (Option PropertyDraft) :=
  match method.body schemas with
  | .error failure => .error failure
  | .ok none => .ok none
  | .ok (some body) =>
      if body.reference?.isSome then
        (PropertyDraft.declared surface package body method.bodyName).map some
      else .ok none

end Method

end RequestSurface
