import RequestSurface.Method.Basic

/-!
# Documents

A document describes an API: its named schemas, its own methods and a tree of resources, each with
methods and further resources.
-/

namespace RequestSurface

/-- A resource: its methods and the resources beneath it. -/
structure Resource where
  methods : List (String × Method) := []
  resources : List (String × Resource) := []
  deriving Repr, Inhabited

namespace Resource

/-- The reading of a field of a resource that holds resources, under the key it is given by. -/
abbrev Inner := Reading (List (String × Resource))

/-- Put a resource together from its entries and from the reading of the resources beneath it. -/
def assemble (entries : List (Scalar × Value)) (inner : List (String × Inner)) :
    Reading Resource :=
  let methods :=
    Part.optional (.plain "methods") (textEntries entries) (Reading.mapping Method.read) []
  let resources := Part.optional (.plain "resources") inner id []
  Reading.opened { methods := methods.result, resources := resources.result }
    [methods.outline, resources.outline] entries

mutual

/-- Read a resource. -/
def read : Value -> Reading Resource
  | .mapping entries => assemble entries (readInner entries)
  | other => .misfit (.record "Resource") other {}

/-- Read the resources beneath a resource. -/
def readInner : List (Scalar × Value) -> List (String × Inner)
  | [] => []
  | (.text "resources", value) :: rest => ("resources", readNamed value) :: readInner rest
  | _ :: rest => readInner rest

/-- Read resources by name. -/
def readNamed : Value -> Reading (List (String × Resource))
  | .mapping entries => Reading.ofEntries (readEntries entries)
  | other => .misfit .mapping other []

/-- Read the resource of every entry. -/
def readEntries : List (Scalar × Value) -> List (Scalar × Reading Resource)
  | [] => []
  | (key, value) :: rest => (key, read value) :: readEntries rest

end

end Resource

/-- A document. -/
structure Document where
  name : String
  version : String
  schemas : List (String × Schema) := []
  resources : List (String × Resource) := []
  methods : List (String × Method) := []
  deriving Repr, Inhabited

namespace Document

/-- Read a document. -/
def read : Value -> Reading Document
  | .mapping entries =>
      let given := textEntries entries
      let note := fun slot => Part.optional slot given Reading.optionalText none
      let kind := note (.plain "kind")
      let discoveryVersion := note ⟨"discovery_version", "discoveryVersion"⟩
      let id := note (.plain "id")
      let name := Part.required (.plain "name") entries Reading.text ""
      let version := Part.required (.plain "version") entries Reading.text ""
      let title := note (.plain "title")
      let description := note (.plain "description")
      let rootUrl := note ⟨"root_url", "rootUrl"⟩
      let servicePath := note ⟨"service_path", "servicePath"⟩
      let basePath := note ⟨"base_path", "basePath"⟩
      let parameters := Part.optional (.plain "parameters") given Schema.readNamed []
      let schemas := Part.optional (.plain "schemas") given Schema.readNamed []
      let resources := Part.optional (.plain "resources") given Resource.readNamed []
      let methods := Part.optional (.plain "methods") given (Reading.mapping Method.read) []
      let document : Document :=
        { name := name.result, version := version.result, schemas := schemas.result,
          resources := resources.result, methods := methods.result }
      Reading.opened document
        [kind.outline, discoveryVersion.outline, id.outline, name.outline, version.outline,
          title.outline, description.outline, rootUrl.outline, servicePath.outline,
          basePath.outline, parameters.outline, schemas.outline, resources.outline,
          methods.outline]
        entries
  | other => .misfit (.record "RestDescription") other { name := "", version := "" }

end Document

end RequestSurface
