import Mathlib
import RequestSurface.Proofs.Spelling

/-!
# What a built request is made of

Building a message succeeds only if every draft of a property and the draft of the body succeed.
`Method.BodyDrafted` says when there is a body and how it is drafted. `RequestContext.Built` lists
what a built request is then made of: the drafts in their order, their types as the table spells
them one after the other, and the body that is spelled last.
-/

namespace RequestSurface

/-- An outcome that is not a failure has a result. -/
theorem exists_eq_ok_of_isOk {ε α : Type} {outcome : Except ε α}
    (succeeds : outcome.isOk = true) : ∃ result, outcome = .ok result := by
  cases outcome with
  | error failure => cases succeeds
  | ok result => exact ⟨result, rfl⟩

/-- Attempts among which no failure is found are all successful. -/
theorem eq_map_ok_of_untilFailure {α : Type} {attempts : List (Except Failure α)}
    {results : List α} (complete : untilFailure attempts = (results, none)) :
    attempts = results.map .ok := by
  induction attempts generalizing results with
  | nil =>
      simp only [untilFailure, Prod.mk.injEq] at complete
      simp [← complete.1]
  | cons attempt rest inductionHypothesis =>
      cases attempt with
      | error failure => simp [untilFailure] at complete
      | ok result =>
          simp only [untilFailure, Prod.mk.injEq] at complete
          obtain ⟨rfl, noFailure⟩ := complete
          exact congrArg (.ok result :: ·) (inductionHypothesis (Prod.ext rfl noFailure))

/-- The raw name of the resource identifier: that of the field that stands for the resource name, or
else the placeholder of the path. -/
def Method.identifierName (method : Method) (flattening : Flattening) : String :=
  match flattening.resourceName? with
  | some flattened => flattened.field.name
  | none => (resourceIdentifier method.path).getD ""

namespace PropertyDraft

variable {surface : Surface} {package preferred : String} {field : Field} {method : Method}
  {flattening : Flattening} {draft : PropertyDraft}

/-- A declared field is drafted with its types, if it has any. -/
theorem exists_types_of_declared (drafted : declared surface package field preferred = .ok draft) :
    ∃ types, field.types surface package = .ok types ∧
      draft =
        { rawName := preferred, candidate := surface.fieldName preferred, types := types,
          isRequired := field.schema.required, isRepeated := field.isRepeated,
          getter := surface.getterName (surface.fieldName preferred),
          setter := surface.setterName (surface.fieldName preferred) field.isRepeated,
          adder := some (surface.adderName (surface.fieldName preferred)),
          docLines := Text.docLines field.description } := by
  rw [declared] at drafted
  cases resolved : field.types surface package with
  | error unknown => simp [resolved] at drafted
  | ok types =>
      simp only [resolved, Except.ok.injEq] at drafted
      exact ⟨types, rfl, drafted.symm⟩

/-- The resource identifier is drafted as a required string that goes by its raw name throughout. -/
theorem eq_of_identifier
    (drafted : identifier surface method (ResourceNameParameter.ofFlattening surface flattening) =
      .ok draft) :
    draft =
      { rawName := method.identifierName flattening,
        candidate := surface.fieldName (method.identifierName flattening),
        types := .string surface, isRequired := true, isRepeated := false,
        getter := surface.getterName (method.identifierName flattening),
        setter := surface.setterName (method.identifierName flattening) false, adder := none,
        docLines := Text.docLines
          (identifierDescription method ((resourceIdentifier method.path).getD "")) } := by
  rw [identifier] at drafted
  cases placeholder : resourceIdentifier method.path with
  | none => simp [placeholder] at drafted
  | some identifier =>
      simp only [placeholder, Except.ok.injEq] at drafted
      subst drafted
      cases resourceName : flattening.resourceName? <;>
        simp [Method.identifierName, placeholder, ResourceNameParameter.ofFlattening, resourceName]

end PropertyDraft

/-- Drafts that all succeed are related one by one to what they are drafted from, if each of them
is: the standard parameters that the method does not declare, its declared parameters outside the
path, and the resource identifier. -/
theorem Method.forall₂_drafts {β : Type} {surface : Surface} {package : String} {method : Method}
    {parameter : Option ResourceNameParameter} {drafts : List PropertyDraft}
    (Related : PropertyDraft → β → Prop) (standard : String × String → β) {declared : Field → β}
    {identifier : β}
    (drafted : method.drafts surface package parameter = (drafts, none))
    (eachStandard : ∀ entry, Related (.standard surface entry.1 entry.2) (standard entry))
    (eachDeclared : ∀ field draft,
      PropertyDraft.declared surface package field field.name = .ok draft →
        Related draft (declared field))
    (forIdentifier : ∀ draft, PropertyDraft.identifier surface method parameter = .ok draft →
      Related draft identifier) :
    List.Forall₂ Related drafts
      ((standardParameters.filter fun entry => (method.parameter? entry.1).isNone).map standard ++
        (method.fields.filter (!·.inPath)).map declared ++ [identifier]) := by
  have attempts := eq_map_ok_of_untilFailure drafted
  let RelatedIfOk (attempt : Except Failure PropertyDraft) (source : β) : Prop :=
    ∀ draft, attempt = .ok draft → Related draft source
  have each : List.Forall₂ RelatedIfOk (drafts.map .ok)
      ((standardParameters.filter fun entry => (method.parameter? entry.1).isNone).map standard ++
        (method.fields.filter (!·.inPath)).map declared ++ [identifier]) := by
    rw [← attempts]
    refine List.rel_append (List.rel_append ?_ ?_) (.cons forIdentifier .nil)
    · rw [standardDrafts, List.map_map, List.forall₂_map_left_iff, List.forall₂_map_right_iff]
      refine List.forall₂_same.mpr fun entry _ draft isStandard => ?_
      rw [← Except.ok.inj isStandard]
      exact eachStandard entry
    · rw [declaredDrafts, List.forall₂_map_left_iff, List.forall₂_map_right_iff]
      exact List.forall₂_same.mpr fun field _ => eachDeclared field
  exact (List.forall₂_map_left_iff.mp each).imp fun _ _ related => related _ rfl

namespace Method

variable {surface : Surface} {package : String} {schemas : List (String × Schema)}
  {method : Method}

/-- The body that is taken is the request. -/
theorem body_eq_ok {body : Option Field}
    (taken : method.body schemas = .ok body) :
    body = method.request.map fun request => Field.ofSchema request (some method.bodyName) := by
  rw [Method.body] at taken
  cases requested : method.request with
  | none => simpa [requested, eq_comm] using taken
  | some request =>
      simp only [requested] at taken
      split at taken
      · split at taken
        · exact (Except.ok.inj taken).symm
        · cases taken
      · exact (Except.ok.inj taken).symm

/-- The field of a request refers to the schema that the request names. -/
theorem reference?_ofSchema {request : Schema} (requested : method.request = some request)
    {name : Option String} :
    (Field.ofSchema request name).reference? = method.bodyReference? := by
  rw [bodyReference?, requested]
  rfl

/-- How the body of a method is drafted: as a declared field that goes by the name of the body if
the request names a schema, and not at all otherwise. -/
inductive BodyDrafted (surface : Surface) (package : String) (schemas : List (String × Schema))
    (method : Method) : Option PropertyDraft → Prop where
  | unnamed (isUnnamed : method.bodyReference? = none) :
      BodyDrafted surface package schemas method none
  | named {reference : String} {field : Field} {draft : PropertyDraft}
      (isNamed : method.bodyReference? = some reference)
      (taken : method.body schemas = .ok (some field))
      (declared : PropertyDraft.declared surface package field method.bodyName = .ok draft) :
      BodyDrafted surface package schemas method (some draft)

/-- A body that can be drafted is drafted in this way. -/
theorem bodyDrafted_of_eq_ok {bodyDraft : Option PropertyDraft}
    (drafted : method.bodyDraft surface package schemas = .ok bodyDraft) :
    method.BodyDrafted surface package schemas bodyDraft := by
  cases taken : method.body schemas with
  | error failure => simp [Method.bodyDraft, taken] at drafted
  | ok body =>
      have isRequest := body_eq_ok taken
      cases requested : method.request with
      | none =>
          rw [requested, Option.map_none] at isRequest
          simp only [Method.bodyDraft, taken, isRequest, Except.ok.injEq] at drafted
          subst drafted
          exact .unnamed (by rw [bodyReference?, requested, Option.bind_none])
      | some request =>
          rw [requested, Option.map_some] at isRequest
          subst isRequest
          simp only [Method.bodyDraft, taken, reference?_ofSchema requested] at drafted
          cases isNamed : method.bodyReference? with
          | none =>
              simp only [isNamed, Option.isSome_none, Bool.false_eq_true, if_false,
                Except.ok.injEq] at drafted
              subst drafted
              exact .unnamed isNamed
          | some reference =>
              cases declared : PropertyDraft.declared surface package
                  (Field.ofSchema request (some method.bodyName)) method.bodyName with
              | error failure => simp [isNamed, declared, Except.map] at drafted
              | ok draft =>
                  simp only [isNamed, declared, Except.map, Option.isSome_some, if_true,
                    Except.ok.injEq] at drafted
                  subst drafted
                  exact .named isNamed taken declared

end Method

namespace RequestContext

/-- How the body of a message is written, after a table has spelled the types of the properties:
its name is the one it was drafted with. -/
inductive BodySpelled (surface : Surface) (spelled : ImportTable) :
    Option PropertyDraft → Option Property → ImportTable → Prop where
  | absent : BodySpelled surface spelled none none spelled
  | present (draft : PropertyDraft) :
      BodySpelled surface spelled (some draft)
        (some (draft.finish draft.candidate (spelled.spellTypes surface draft.types).1))
        (spelled.spellTypes surface draft.types).2

/-- What a built request is made of, and the table after it is built. -/
structure Built (context : RequestContext) (method : Method) (flattening : Flattening)
    (table : ImportTable) (built : BuiltRequest) (last : ImportTable)
    (drafts : List PropertyDraft) (bodyDraft : Option PropertyDraft) : Prop where
  parameter : built.parameter = ResourceNameParameter.ofFlattening context.surface flattening
  drafted : method.drafts context.surface context.packageName built.parameter = (drafts, none)
  bodyDrafted :
    method.bodyDraft context.surface context.packageName context.schemas = .ok bodyDraft
  composed : ∃ body,
    BodySpelled context.surface
      (table.spellAll context.surface (drafts.map PropertyDraft.types)).2 bodyDraft body last ∧
    built.message = context.compose method drafts
      (table.spellAll context.surface (drafts.map PropertyDraft.types)).1 body

variable {context : RequestContext} {method : Method} {flattening : Flattening}
  {table last : ImportTable} {built : BuiltRequest}

/-- A request that is built is made of drafts that all succeed. -/
theorem exists_built (success : context.build method flattening table = (.ok built, last)) :
    ∃ drafts bodyDraft, context.Built method flattening table built last drafts bodyDraft := by
  let parameter := ResourceNameParameter.ofFlattening context.surface flattening
  rcases drafted : method.drafts context.surface context.packageName parameter with
    ⟨drafts, failure⟩
  cases failure with
  | some failure => simp [build, parameter, drafted] at success
  | none =>
      cases bodyDrafted : method.bodyDraft context.surface context.packageName context.schemas with
      | error failure => simp [build, parameter, drafted, bodyDrafted] at success
      | ok bodyDraft =>
          refine ⟨drafts, bodyDraft, ?_⟩
          cases bodyDraft with
          | none =>
              simp only [build, parameter, drafted, bodyDrafted, Prod.mk.injEq,
                Except.ok.injEq] at success
              obtain ⟨rfl, rfl⟩ := success
              exact ⟨rfl, drafted, bodyDrafted, none, .absent, rfl⟩
          | some draft =>
              simp only [build, parameter, drafted, bodyDrafted, Prod.mk.injEq,
                Except.ok.injEq] at success
              obtain ⟨rfl, rfl⟩ := success
              exact ⟨rfl, drafted, bodyDrafted, _, .present draft, rfl⟩

variable {drafts : List PropertyDraft} {bodyDraft : Option PropertyDraft}

/-- The class of a built message is named after its method. -/
theorem Built.typeName
    (parts : context.Built method flattening table built last drafts bodyDraft) :
    built.message.typeName = context.surface.className method.requestName := by
  obtain ⟨body, -, composed⟩ := parts.composed
  rw [composed, compose]

/-- So is the variable of the request. -/
theorem Built.rawName
    (parts : context.Built method flattening table built last drafts bodyDraft) :
    built.message.rawName = context.surface.fieldName method.requestName := by
  obtain ⟨body, -, composed⟩ := parts.composed
  rw [composed, compose]

/-- The variable of the request is the first thing that gets a name. -/
theorem Built.name (parts : context.Built method flattening table built last drafts bodyDraft) :
    built.message.name =
      (context.symbols.allocate (context.surface.fieldName method.requestName)).1 := by
  obtain ⟨body, -, composed⟩ := parts.composed
  rw [composed, compose]

end RequestContext

end RequestSurface
