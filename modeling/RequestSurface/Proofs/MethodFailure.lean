import Mathlib
import RequestSurface.Batch
import RequestSurface.Proofs.BuiltRequest
import RequestSurface.Proofs.FirstFailure
import RequestSurface.Proofs.Placeholders
import RequestSurface.Proofs.Places
import RequestSurface.Proofs.Resolvable

/-!
# Why a method is not lowered

The causes for which a method is not lowered, in the order in which they are looked for. Each of
them is said in terms of the document and the settings alone: which surface it is and what was
imported before do not matter.
-/

namespace RequestSurface

/-- A text has something between braces that has no brace in it. -/
def HasPlaceholder (text : List Char) : Prop :=
  ∃ front inside back, text = front ++ '\x7b' :: (inside ++ '\x7d' :: back) ∧ inside ≠ [] ∧
    ∀ character ∈ inside, isInside character = true

/-- Placeholders are found exactly where there are some. -/
theorem placeholders_ne_nil_iff {text : List Char} :
    placeholders text ≠ [] ↔ HasPlaceholder text := by
  rw [placeholders_ne_nil_iff_exists]
  constructor
  · rintro ⟨front, inside, back, isPlaceholder⟩
    exact ⟨front, inside, back, isPlaceholder.whole, isPlaceholder.nonempty,
      isPlaceholder.isInside⟩
  · rintro ⟨front, inside, back, whole, nonempty, plain⟩
    exact ⟨front, inside, back, whole, nonempty,
      fun character member => isInside_iff.mp (plain character member)⟩

/-- Of several causes of a failure, the first one that applies does so with a failure. -/
def FirstCause (causes : List (Failure → Prop)) (failure : Failure) : Prop :=
  FirstFailure (fun cause failure => cause failure) causes failure

/-- A cause applies, or it does not and a later one does. -/
theorem firstCause_cons_iff {cause : Failure → Prop} {others : List (Failure → Prop)}
    {failure : Failure} :
    FirstCause (cause :: others) failure ↔
      cause failure ∨ (∀ other, ¬ cause other) ∧ FirstCause others failure :=
  FirstFailure.cons_iff

/-- The causes in front apply, or they do not and those behind do. -/
theorem firstCause_append_iff {front back : List (Failure → Prop)} {failure : Failure} :
    FirstCause (front ++ back) failure ↔
      FirstCause front failure ∨ (∀ other, ¬ FirstCause front other) ∧ FirstCause back failure :=
  FirstFailure.append_iff

/-- A single cause applies first when it applies. -/
theorem firstCause_singleton_iff {cause : Failure → Prop} {failure : Failure} :
    FirstCause [cause] failure ↔ cause failure :=
  FirstFailure.singleton_iff

/-- A field is unresolvable, and the failure says which type has no name. -/
def Field.CausesUnsupported (field : Field) (failure : Failure) : Prop :=
  ∃ unknown, field.Unresolvable unknown ∧ failure = PropertyDraft.unsupported unknown

namespace Method

/-- A flattening group that is set for the method names a parameter that the method does not
declare. -/
def UndeclaredParameter (settings : DocumentSettings) (method : Method) (failure : Failure) :
    Prop :=
  ∃ own, settings.methods.lookup method.id = some own ∧
    FirstFailure
      (fun parameter failure => parameter ∉ method.parameters.map Prod.fst ∧
        failure = Flattening.undeclared method parameter)
      own.flattening.flatten failure

/-- A declared parameter outside the path is unresolvable. -/
def UnresolvableParameter (method : Method) (failure : Failure) : Prop :=
  FirstFailure Field.CausesUnsupported (method.fields.filter (!·.inPath)) failure

/-- The path has no placeholder. -/
def MissingPlaceholder (method : Method) (failure : Failure) : Prop :=
  ¬ HasPlaceholder method.path.toList ∧ failure = PropertyDraft.noIdentifier method

/-- The request names a schema that the document does not have. -/
def UnknownBody (schemas : List (String × Schema)) (method : Method) (failure : Failure) : Prop :=
  ∃ reference, method.bodyReference? = some reference ∧ reference ∉ schemas.map Prod.fst ∧
    failure = method.danglingBody reference

/-- The request names a schema, but is a list with an unresolvable element. -/
def UnresolvableBody (method : Method) (failure : Failure) : Prop :=
  ∃ request element unknown, method.request = some request ∧ method.bodyReference?.isSome ∧
    request.type = some "array" ∧
    (Field.ofSchema request (some method.bodyName)).element? = some element ∧
    Schema.EndsInUnknown element.name element.schema unknown ∧
    failure = PropertyDraft.unsupported unknown

end Method

/-- A name is not looked up exactly when it is not among the names. -/
theorem lookup_eq_none_iff_not_mem {α : Type} {entries : List (String × α)} {name : String} :
    entries.lookup name = none ↔ name ∉ entries.map Prod.fst := by
  rw [List.lookup_eq_none_iff]
  simp only [bne_iff_ne, List.mem_map, not_exists, not_and]
  exact forall₂_congr fun _ _ => ne_comm

/-- A name is looked up exactly when it is among the names. -/
theorem isSome_lookup_iff_mem {α : Type} {entries : List (String × α)} {name : String} :
    (entries.lookup name).isSome ↔ name ∈ entries.map Prod.fst := by
  rw [Option.isSome_iff_ne_none, ne_eq, lookup_eq_none_iff_not_mem, not_not]

namespace Flattening

/-- Binding a parameter fails exactly when the method does not declare it. -/
theorem bindField_eq_error_iff {settings : MethodSettings} {method : Method} {parameter : String}
    {failure : Failure} :
    bindField settings method parameter = .error failure ↔
      parameter ∉ method.parameters.map Prod.fst ∧ failure = undeclared method parameter := by
  rw [← lookup_eq_none_iff_not_mem, bindField, Method.parameter?]
  cases method.parameters.lookup parameter with
  | none => simp [eq_comm]
  | some schema => cases settings.patterns.lookup parameter <;> simp

/-- Flattening fails exactly at the first parameter that is not declared, group by group. -/
theorem ofSettings_eq_error_iff {settings : DocumentSettings} {method : Method}
    {failure : Failure} :
    ofSettings settings method = .error failure ↔ method.UndeclaredParameter settings failure := by
  rw [ofSettings, Method.UndeclaredParameter]
  cases settings.methods.lookup method.id with
  | none => simp
  | some own =>
      have bound : own.flattening.mapM (fun group => group.mapM (bindField own method)) =
            .error failure ↔
          FirstFailure (fun parameter failure => bindField own method parameter = .error failure)
            own.flattening.flatten failure := by
        rw [mapM_eq_error_iff, FirstFailure.flatten_iff]
        exact FirstFailure.congr fun group failure => mapM_eq_error_iff
      have binding (parameter : String) (failure : Failure) :
          bindField own method parameter = .error failure ↔
            parameter ∉ method.parameters.map Prod.fst ∧ failure = undeclared method parameter :=
        bindField_eq_error_iff
      simp only [Option.some.injEq, exists_eq_left', ← binding, ← bound]
      cases own.flattening.mapM fun group => group.mapM (bindField own method) <;>
        simp [bind, Except.bind, pure, Except.pure]

end Flattening

section

variable {surface : Surface} {package : String} {method : Method} {failure : Failure}

/-- Drafting a declared field fails exactly when its type is unresolvable. -/
theorem PropertyDraft.declared_eq_error_iff {field : Field} {preferred : String} :
    PropertyDraft.declared surface package field preferred = .error failure ↔
      field.CausesUnsupported failure := by
  have resolved (unknown : UnknownPrimitive) :
      field.types surface package = .error unknown ↔ field.Unresolvable unknown :=
    Field.types_eq_error_iff
  simp only [Field.CausesUnsupported, ← resolved, PropertyDraft.declared]
  cases field.types surface package with
  | error unknown => simp [eq_comm]
  | ok types => simp

/-- Drafting the resource identifier fails exactly when the path has no placeholder. -/
theorem PropertyDraft.identifier_eq_error_iff {parameter : Option ResourceNameParameter} :
    PropertyDraft.identifier surface method parameter = .error failure ↔
      method.MissingPlaceholder failure := by
  rw [Method.MissingPlaceholder, ← placeholders_ne_nil_iff, not_not, PropertyDraft.identifier,
    resourceIdentifier]
  cases found : placeholders method.path.toList with
  | nil => simp [eq_comm]
  | cons first others => simp [List.getLast?_cons]

namespace Method

/-- Drafting the properties fails for the first unresolvable parameter, or else for the path. -/
theorem drafts_eq_some_iff {parameter : Option ResourceNameParameter} :
    (method.drafts surface package parameter).2 = some failure ↔
      FirstCause [method.UnresolvableParameter, method.MissingPlaceholder] failure := by
  have standard : ∀ other, ¬ FirstFailure
      (fun (attempt : Except Failure PropertyDraft) failure => attempt = .error failure)
      ((method.standardDrafts surface).map .ok) other := by
    simp [← not_exists, FirstFailure.exists_iff]
  have declared {other : Failure} :
      FirstFailure (fun attempt failure => attempt = .error failure)
        (method.declaredDrafts surface package) other ↔ method.UnresolvableParameter other := by
    rw [declaredDrafts, FirstFailure.map_iff]
    exact FirstFailure.congr fun field failure => PropertyDraft.declared_eq_error_iff
  rw [drafts, untilFailure_eq_some_iff, List.append_assoc, FirstFailure.append_iff,
    FirstFailure.append_iff, FirstFailure.singleton_iff, PropertyDraft.identifier_eq_error_iff,
    firstCause_cons_iff, firstCause_singleton_iff]
  simp only [declared, standard, false_or, not_false_eq_true, implies_true, true_and]

/-- Taking the body fails exactly when the request names a schema that is not there. -/
theorem body_eq_error_iff {schemas : List (String × Schema)} :
    method.body schemas = .error failure ↔ method.UnknownBody schemas failure := by
  rw [body, UnknownBody]
  cases requested : method.request with
  | none => simp [bodyReference?, requested]
  | some request =>
      cases named : method.bodyReference? with
      | none => simp
      | some reference =>
          simp only [Option.some.injEq, exists_eq_left', ← lookup_eq_none_iff_not_mem]
          cases schemas.lookup reference with
          | none =>
              simp only [Option.isSome_none, Bool.false_eq_true, if_false, Except.error.injEq,
                true_and]
              exact eq_comm
          | some schema => simp only [Option.isSome_some, if_true, reduceCtorEq, false_and]

/-- A request that names a schema is an unresolvable body exactly when its field is unresolvable. -/
theorem unresolvableBody_iff {request : Schema} (requested : method.request = some request) :
    method.UnresolvableBody failure ↔ method.bodyReference?.isSome ∧
      (Field.ofSchema request (some method.bodyName)).CausesUnsupported failure := by
  let field := Field.ofSchema request (some method.bodyName)
  have sameReference : field.reference? = method.bodyReference? := reference?_ofSchema requested
  constructor
  · rintro ⟨_, element, unknown, isRequest, named, isArray, isElement, endsInUnknown, rfl⟩
    obtain rfl := Option.some.inj (requested.symm.trans isRequest)
    refine ⟨named, unknown, ?_, rfl⟩
    rw [← sameReference] at named
    exact (Field.unresolvable_iff_of_reference named).mpr
      ⟨isArray, element, isElement, endsInUnknown⟩
  · rintro ⟨named, unknown, unresolvable, rfl⟩
    have fieldNamed := named
    rw [← sameReference] at fieldNamed
    obtain ⟨isArray, element, isElement, endsInUnknown⟩ :=
      (Field.unresolvable_iff_of_reference fieldNamed).mp unresolvable
    exact ⟨request, element, unknown, requested, named, isArray, isElement, endsInUnknown, rfl⟩

/-- Drafting the body fails because it is not there, or else because it is unresolvable. -/
theorem bodyDraft_eq_error_iff {schemas : List (String × Schema)} :
    method.bodyDraft surface package schemas = .error failure ↔
      FirstCause [method.UnknownBody schemas, method.UnresolvableBody] failure := by
  rw [firstCause_cons_iff, firstCause_singleton_iff]
  simp only [← body_eq_error_iff]
  cases taken : method.body schemas with
  | error unknown => simp [bodyDraft, taken]
  | ok body =>
      have isRequest := body_eq_ok taken
      simp only [bodyDraft, taken, reduceCtorEq, not_false_eq_true, implies_true, true_and,
        false_or]
      cases requested : method.request with
      | none =>
          rw [requested, Option.map_none] at isRequest
          simp [isRequest, UnresolvableBody, requested]
      | some request =>
          rw [requested, Option.map_some] at isRequest
          subst isRequest
          simp only [reference?_ofSchema requested, unresolvableBody_iff requested]
          cases method.bodyReference? with
          | none => simp
          | some reference => simp [map_eq_error_iff, PropertyDraft.declared_eq_error_iff]

end Method

namespace RequestContext

/-- Building a message fails while its properties are drafted, or else while its body is. -/
theorem build_eq_error_iff {context : RequestContext} {flattening : Flattening}
    {table : ImportTable} :
    (context.build method flattening table).1 = .error failure ↔
      FirstCause ([method.UnresolvableParameter, method.MissingPlaceholder] ++
        [method.UnknownBody context.schemas, method.UnresolvableBody]) failure := by
  let parameter := ResourceNameParameter.ofFlattening context.surface flattening
  have drafted (other : Failure) :
      (method.drafts context.surface context.packageName parameter).2 = some other ↔
        FirstCause [method.UnresolvableParameter, method.MissingPlaceholder] other :=
    Method.drafts_eq_some_iff
  have bodyDrafted (other : Failure) :
      method.bodyDraft context.surface context.packageName context.schemas = .error other ↔
        FirstCause [method.UnknownBody context.schemas, method.UnresolvableBody] other :=
    Method.bodyDraft_eq_error_iff
  simp only [firstCause_append_iff, ← drafted, ← bodyDrafted]
  rcases attempt : method.drafts context.surface context.packageName parameter with
    ⟨drafts, outcome⟩
  cases outcome with
  | some other => simp [build, parameter, attempt]
  | none =>
      cases body : method.bodyDraft context.surface context.packageName context.schemas with
      | error other => simp [build, parameter, attempt, body]
      | ok draft => cases draft <;> simp [build, parameter, attempt, body]

end RequestContext

end

namespace OutputRoot

/-- What has no colon names no protocol. -/
theorem splitProtocol?_eq_none {text : List Char} (noColon : ':' ∉ text) :
    splitProtocol? text = none := by
  rw [splitProtocol?]
  split
  · split
    · rename_i behind
      exact absurd (List.mem_of_mem_drop (behind ▸ List.mem_cons_self)) noColon
    · rename_i behind
      exact absurd (List.mem_of_mem_drop (behind ▸ List.mem_cons_self)) noColon
    · rename_i behind
      exact absurd (List.mem_of_mem_drop (behind ▸ List.mem_cons_self)) noColon
    · rfl
  · rfl

/-- A file name is never refused. -/
theorem checkPart_of_isFileName {name : String} (root : OutputRoot) (valid : IsFileName name) :
    root.checkPart name = .ok () := by
  rw [checkPart, splitProtocol?_eq_none valid.noColon]

/-- There is no place exactly where a part of the way is refused. -/
theorem place_eq_error_iff {root : OutputRoot} {segments : List String} {fault : Fault} :
    root.place segments = .error fault ↔
      FirstFailure (fun part fault => root.checkPart part = .error fault) segments fault := by
  rw [← forM_eq_error_iff, place]
  cases segments.forM root.checkPart with
  | error other => simp [bind, Except.bind]
  | ok _ => cases root <;> simp [bind, Except.bind, pure, Except.pure]

end OutputRoot

namespace BatchContext

/-- A part of the package is refused on the way to the place of the file. -/
def RefusedPackage (context : BatchContext) (failure : Failure) : Prop :=
  ∃ fault, failure = .input (.badRoot fault) ∧
    FirstFailure (fun part fault => context.root.checkPart part = .error fault)
      (Surface.packagePath context.settings.packageName) fault

/-- The causes of a failure that lie in the document and in the settings of the method, in the order
in which they are looked for. -/
def causesOfMethod (context : BatchContext) (schemas : List (String × Schema)) (method : Method) :
    List (Failure → Prop) :=
  [method.UndeclaredParameter context.settings, method.UnresolvableParameter,
    method.MissingPlaceholder, method.UnknownBody schemas, method.UnresolvableBody]

/-- All causes for which a method is not lowered, in the order in which they are looked for. -/
def causes (context : BatchContext) (schemas : List (String × Schema)) (method : Method) :
    List (Failure → Prop) :=
  context.causesOfMethod schemas method ++ [context.RefusedPackage]

variable {context : BatchContext} {schemas : List (String × Schema)} {method : Method}
  {table : ImportTable} {failure : Failure}

/-- There is no place for the file of a class exactly when the package is refused. -/
theorem pathFor_eq_error_iff {fault : OutputRoot.Fault} {raw : String} :
    OutputUnit.pathFor context.surface context.settings.packageName context.root
        (context.surface.className raw) = .error fault ↔
      FirstFailure (fun part fault => context.root.checkPart part = .error fault)
        (Surface.packagePath context.settings.packageName) fault := by
  have accepted := context.root.checkPart_of_isFileName (context.surface.isFileName_fileName raw)
  rw [OutputUnit.pathFor, OutputRoot.place_eq_error_iff, FirstFailure.append_iff,
    FirstFailure.singleton_iff, accepted]
  simp

/-- A method is not lowered exactly for the first of its causes, whatever table it starts with. -/
theorem lowerMethod_eq_error_iff :
    (context.lowerMethod schemas method table).result = .error failure ↔
      FirstCause (context.causes schemas method) failure := by
  let building := [method.UnresolvableParameter, method.MissingPlaceholder] ++
    [method.UnknownBody schemas, method.UnresolvableBody]
  have stages : context.causes schemas method =
      [method.UndeclaredParameter context.settings] ++ (building ++ [context.RefusedPackage]) := rfl
  have built (flattening : Flattening) (other : Failure) :
      ((context.requestContext schemas).build method flattening table).1 = .error other ↔
        FirstCause building other := RequestContext.build_eq_error_iff
  rw [stages]
  simp only [firstCause_append_iff, firstCause_singleton_iff, ← Flattening.ofSettings_eq_error_iff]
  cases flattened : Flattening.ofSettings context.settings method with
  | error other => simp [lowerMethod, flattened]
  | ok flattening =>
      simp only [← built flattening]
      rcases outcome : (context.requestContext schemas).build method flattening table with
        ⟨result, spelled⟩
      cases result with
      | error other => simp [lowerMethod, flattened, outcome]
      | ok request =>
          obtain ⟨drafts, bodyDraft, parts⟩ := RequestContext.exists_built outcome
          have placing (fault : OutputRoot.Fault) :
              OutputUnit.pathFor context.surface context.settings.packageName context.root
                  request.message.typeName = .error fault ↔
                FirstFailure (fun part fault => context.root.checkPart part = .error fault)
                  (Surface.packagePath context.settings.packageName) fault := by
            rw [parts.typeName]
            exact pathFor_eq_error_iff
          simp only [reduceCtorEq, not_false_eq_true, implies_true, true_and, false_or,
            RefusedPackage, ← placing]
          cases placed : OutputUnit.pathFor context.surface context.settings.packageName
              context.root request.message.typeName with
          | error fault =>
              simp [lowerMethod, flattened, outcome, OutputUnit.assemble, placed, Except.map,
                Except.mapError, eq_comm]
          | ok path =>
              simp [lowerMethod, flattened, outcome, OutputUnit.assemble, placed, Except.map,
                Except.mapError]

end BatchContext

end RequestSurface
