import Mathlib
import RequestSurface.Proofs.BuiltRequest

/-!
# The body of a request

The body is drafted and spelled behind all properties, and its name does not come from their symbol
table. So methods that differ in their request alone build the same message but for the body, and
the body is called the same whatever the properties are called.
-/

namespace RequestSurface

/-- A method with another request, or with none. -/
def Method.withRequest (method : Method) (request : Option Schema) : Method :=
  { method with request := request }

/-- A built request without its body. -/
def BuiltRequest.withoutBody (built : BuiltRequest) : BuiltRequest :=
  { built with message := { built.message with body := none } }

/-- A request names a schema if its reference is there and is not empty. -/
theorem Method.isSome_bodyReference_iff {method : Method} :
    method.bodyReference?.isSome ↔ ∃ request reference,
      method.request = some request ∧ request.reference = some reference ∧ reference ≠ "" := by
  cases requested : method.request with
  | none => simp [bodyReference?, requested]
  | some request =>
      cases referring : request.reference with
      | none => simp [bodyReference?, requested, referring, Schema.referenceName?]
      | some reference => simp [bodyReference?, requested, referring, Schema.referenceName?]

/-- A declared field is drafted under the name that it has on the surface. -/
theorem PropertyDraft.candidate_of_declared {surface : Surface} {package preferred : String}
    {field : Field} {draft : PropertyDraft}
    (drafted : PropertyDraft.declared surface package field preferred = .ok draft) :
    draft.candidate = surface.fieldName preferred := by
  obtain ⟨types, -, rfl⟩ := exists_types_of_declared drafted
  rfl

/-- When a message has a body, and what that is called. -/
structure RequestMessage.HasBodyOf (surface : Surface) (method : Method)
    (message : RequestMessage) : Prop where
  present : message.body.isSome ↔ ∃ request reference,
    method.request = some request ∧ request.reference = some reference ∧ reference ≠ ""
  named : ∀ body, message.body = some body → body.name = surface.fieldName method.bodyName

namespace RequestContext

variable {context : RequestContext} {method : Method} {flattening : Flattening}
  {table last : ImportTable} {built : BuiltRequest} {drafts : List PropertyDraft}
  {bodyDraft : Option PropertyDraft}

/-- A built message has the body of its method. -/
theorem Built.hasBodyOf
    (parts : context.Built method flattening table built last drafts bodyDraft) :
    built.message.HasBodyOf context.surface method := by
  obtain ⟨body, bodySpelled, composed⟩ := parts.composed
  have isBody : built.message.body = body := by rw [composed, compose]
  cases bodySpelled with
  | absent =>
      cases Method.bodyDrafted_of_eq_ok parts.bodyDrafted with
      | unnamed isUnnamed =>
          refine ⟨?_, fun body isOther => ?_⟩
          · rw [isBody, ← Method.isSome_bodyReference_iff, isUnnamed, Option.isSome_none,
              Option.isSome_none]
          · rw [isBody] at isOther
            cases isOther
  | present draft =>
      cases Method.bodyDrafted_of_eq_ok parts.bodyDrafted with
      | named isNamed taken declared =>
          refine ⟨?_, fun body isOther => ?_⟩
          · rw [isBody, ← Method.isSome_bodyReference_iff, isNamed, Option.isSome_some,
              Option.isSome_some]
          · rw [isBody] at isOther
            cases isOther
            exact PropertyDraft.candidate_of_declared declared

/-- Nothing but the body of a message is put in because of the request. -/
theorem compose_withRequest {request : Option Schema} {types : List SpelledType}
    {body other : Option Property} :
    context.compose (method.withRequest request) drafts types other =
      { context.compose method drafts types body with body := other } := by
  have sameName : (method.withRequest request).requestName = method.requestName := rfl
  have sameFields : (method.withRequest request).fields = method.fields := rfl
  have sameMask : (method.withRequest request).hasFieldMask = method.hasFieldMask := rfl
  have sameId : (method.withRequest request).id = method.id := rfl
  have sameDescription : (method.withRequest request).description = method.description := rfl
  simp only [compose, sameName, sameFields, sameMask, sameId, sameDescription]

/-- Without its request a method builds the same, without the body. -/
theorem Built.build_withoutRequest
    (parts : context.Built method flattening table built last drafts bodyDraft) :
    (context.build (method.withRequest none) flattening table).1 = .ok built.withoutBody := by
  obtain ⟨body, -, composed⟩ := parts.composed
  -- Properties are drafted without regard to the request.
  have drafted : (method.withRequest none).drafts context.surface context.packageName
      (ResourceNameParameter.ofFlattening context.surface flattening) = (drafts, none) := by
    rw [← parts.parameter]
    exact parts.drafted
  have noBody : (method.withRequest none).bodyDraft context.surface context.packageName
      context.schemas = .ok none := rfl
  simp only [build, drafted, noBody]
  rw [BuiltRequest.withoutBody, composed, parts.parameter, compose_withRequest]

end RequestContext

/-- What a request has to do with a built message: only the body, and that is called after the
request alone. Settings are bound to the method without regard to the request, too. -/
structure RequestContext.BodyApart (context : RequestContext) (method : Method)
    (request : Option Schema) (built other : BuiltRequest) : Prop where
  sameMessage : { other.message with body := none } = { built.message with body := none }
  sameParameter : other.parameter = built.parameter
  body : built.message.HasBodyOf context.surface method
  otherBody : other.message.HasBodyOf context.surface (method.withRequest request)
  settings : ∀ settings,
    Flattening.ofSettings settings (method.withRequest request) =
      Flattening.ofSettings settings method

/-- Methods that differ in their request alone build the same but for the body, which is there if
the request names a schema, and which no property can take the name from. -/
theorem body_apart (context : RequestContext) (method : Method) (request : Option Schema)
    (flattening : Flattening) (table : ImportTable) (built other : BuiltRequest)
    (success : (context.build method flattening table).1 = .ok built)
    (otherSuccess :
      (context.build (method.withRequest request) flattening table).1 = .ok other) :
    context.BodyApart method request built other := by
  obtain ⟨drafts, bodyDraft, parts⟩ := RequestContext.exists_built (Prod.ext success rfl)
  obtain ⟨otherDrafts, otherBody, otherParts⟩ :=
    RequestContext.exists_built (Prod.ext otherSuccess rfl)
  have sameRest : other.withoutBody = built.withoutBody :=
    Except.ok.inj (otherParts.build_withoutRequest.symm.trans parts.build_withoutRequest)
  exact ⟨congrArg BuiltRequest.message sameRest, otherParts.parameter.trans parts.parameter.symm,
    parts.hasBodyOf, otherParts.hasBodyOf, fun settings => rfl⟩

/-- A method that declares parameters with the name and with the type of its body. -/
def insertMethod : Method where
  id := "compute.instances.insert"
  path := "projects/{project}/instances"
  httpMethod := "POST"
  parameters :=
    [("instanceResource", { type := some "string", location := some .query }),
      ("template", { reference := some "Instance", location := some .query })]
  request := some { reference := some "Instance" }

/-- A request that is described in place. -/
def inlineRequest : Schema where
  type := some "object"

/-- What builds the messages of a package with instances. -/
def instanceRequests : RequestContext where
  surface := .java
  packageName := "com.google.compute"
  schemas := [("Instance", { type := some "object" })]

/-- A method builds the same with a body that is described in place, but without the body. -/
theorem body_apart_instance :
    ∃ built other, (instanceRequests.build insertMethod {} {}).1 = .ok built ∧
      (instanceRequests.build (insertMethod.withRequest inlineRequest) {} {}).1 = .ok other ∧
      instanceRequests.BodyApart insertMethod inlineRequest built other := by
  obtain ⟨built, success⟩ := exists_eq_ok_of_isOk
    (show (instanceRequests.build insertMethod {} {}).1.isOk = true by decide +kernel)
  obtain ⟨other, otherSuccess⟩ := exists_eq_ok_of_isOk
    (show (instanceRequests.build (insertMethod.withRequest inlineRequest) {} {}).1.isOk = true by
      decide +kernel)
  exact ⟨built, other, success, otherSuccess,
    body_apart _ _ _ _ _ _ _ success otherSuccess⟩

end RequestSurface
