import RequestSurface.Schema

/-!
# Methods

A method of an API as its document declares it.
-/

namespace RequestSurface

/-- A method: its dotted id, its path template, its parameters in the order of the document, and
the schema of its request body. -/
structure Method where
  id : String
  path : String
  httpMethod : String := "GET"
  description : Option String := none
  parameters : List (String × Schema) := []
  request : Option Schema := none
  deriving Repr, Inhabited

namespace Method

/-- Read a method. -/
def read : Value -> Reading Method
  | .mapping entries =>
      let given := textEntries entries
      let schema := fun value => Reading.optional value (Schema.read value)
      let id := Part.required (.plain "id") entries Reading.text ""
      let path := Part.required (.plain "path") entries Reading.text ""
      let httpMethod := Part.optional ⟨"http_method", "httpMethod"⟩ given Reading.text "GET"
      let flatPath := Part.optional ⟨"flat_path", "flatPath"⟩ given Reading.optionalText none
      let description := Part.optional (.plain "description") given Reading.optionalText none
      let parameters := Part.optional (.plain "parameters") given Schema.readNamed []
      let parameterOrder :=
        Part.optional ⟨"parameter_order", "parameterOrder"⟩ given (Reading.list Reading.text) []
      let request := Part.optional (.plain "request") given schema none
      let response := Part.optional (.plain "response") given schema none
      let scopes := Part.optional (.plain "scopes") given (Reading.list Reading.text) []
      let method : Method :=
        { id := id.result, path := path.result, httpMethod := httpMethod.result,
          description := description.result, parameters := parameters.result,
          request := request.result }
      Reading.opened method
        [id.outline, path.outline, httpMethod.outline, flatPath.outline, description.outline,
          parameters.outline, parameterOrder.outline, request.outline, response.outline,
          scopes.outline]
        entries
  | other => .misfit (.record "Method") other { id := "", path := "" }

end Method

end RequestSurface
