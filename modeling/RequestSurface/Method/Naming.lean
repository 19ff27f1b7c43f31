import RequestSurface.Failure
import RequestSurface.Field.Basic
import RequestSurface.Method.Basic
import RequestSurface.Text.Casing

/-!
# Names from methods

What the dotted id of a method says: the last piece is the action, the piece before it the
collection that the action works on. Listing actions keep the plural of the collection.
-/

namespace RequestSurface

namespace Method

/-- A parameter of a method as a field. -/
def parameter? (method : Method) (name : String) : Option Field :=
  (method.parameters.lookup name).map fun schema => Field.ofSchema schema (some name)

/-- All parameters of a method as fields, in the order of the document. -/
def fields (method : Method) : List Field :=
  method.parameters.map fun entry => Field.ofSchema entry.2 (some entry.1)

/-- The last piece of the id. -/
def action (method : Method) : String :=
  Text.afterLast '.' method.id

/-- The piece of the id before the last one, empty if there is none. -/
def collection (method : Method) : String :=
  Text.afterLast '.' (Text.beforeLast '.' method.id)

/-- Actions that return several resources. -/
def listingActions : List String := ["list", "aggregatedList"]

/-- Whether a method lists resources. -/
def isPlural (method : Method) : Bool :=
  listingActions.contains method.action

/-- Verbs of requests that take a mask of the fields to change. -/
def maskVerbs : List String := ["PATCH", "PUT"]

/-- Whether the request takes a field mask. -/
def hasFieldMask (method : Method) : Bool :=
  maskVerbs.contains (Text.upperCase method.httpMethod)

/-- The name of the request message. -/
def requestName (method : Method) : String :=
  let collection := if method.isPlural then method.collection else singular method.collection
  (Name.ofPieces [method.action, collection, "http", "request"]).lowerCamel

/-- The named schema of the request body, if its name is not empty. -/
def bodyReference? (method : Method) : Option String :=
  method.request.bind fun request => Schema.referenceName? request.reference

/-- The name of the request body: after the schema it refers to, or else after the collection. -/
def bodyName (method : Method) : String :=
  match method.bodyReference? with
  | some reference => (Name.ofPieces [reference, "resource"]).lowerCamel
  | none => (Name.ofPieces [singular method.collection, "resource"]).lowerCamel

/-- The failure of a request body that refers to no schema of the document. -/
def danglingBody (method : Method) (reference : String) : Failure :=
  .reference reference (some ("request body of " ++ method.id ++ " names no schema"))

/-- The request body as a field, if the method takes one. Its schema must be in the document. -/
def body (method : Method) (schemas : List (String × Schema)) : Except Failure (Option Field) :=
  match method.request with
  | none => .ok none
  | some request =>
      match method.bodyReference? with
      | some reference =>
          if (schemas.lookup reference).isSome then
            .ok (some (Field.ofSchema request (some method.bodyName)))
          else .error (method.danglingBody reference)
      | none => .ok (some (Field.ofSchema request (some method.bodyName)))

end Method

end RequestSurface
