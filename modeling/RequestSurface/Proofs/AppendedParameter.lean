import Mathlib
import RequestSurface.Proofs.FinishedProperties

/-!
# Appending a parameter to a method

A parameter that is appended to a method is drafted behind the standard and the other declared
parameters, so it cannot change what these are called or how their types are written. Only the
resource identifier is drafted behind it: it can lose its name to the new property, and it is
documented by the parameter that it stands for.
-/

namespace RequestSurface

namespace Method

/-- A method with one more parameter at the end. -/
def appendParameter (method : Method) (name : String) (schema : Schema) : Method :=
  { method with parameters := method.parameters ++ [(name, schema)] }

section

variable {surface : Surface} {package name : String} {method : Method} {schema : Schema}

/-- A parameter of another name is found as before. -/
theorem parameter?_appendParameter {other : String} (differ : other ≠ name) :
    (method.appendParameter name schema).parameter? other = method.parameter? other := by
  have notLast : (other == name) = false := beq_false_of_ne differ
  simp [parameter?, appendParameter, List.lookup_append, List.lookup, notLast]

/-- The standard parameters are drafted as before. -/
theorem standardDrafts_appendParameter (notStandard : name ∉ standardParameters.map Prod.fst) :
    (method.appendParameter name schema).standardDrafts surface =
      method.standardDrafts surface := by
  have sameFilter : (standardParameters.filter fun entry =>
      ((method.appendParameter name schema).parameter? entry.1).isNone) =
      standardParameters.filter fun entry => (method.parameter? entry.1).isNone := by
    refine List.filter_congr fun entry listed => ?_
    have differ : entry.1 ≠ name := by
      rintro rfl
      exact notStandard (List.mem_map_of_mem listed)
    rw [parameter?_appendParameter differ]
  rw [standardDrafts, standardDrafts, sameFilter]

/-- The declared parameters are drafted as before, and the new one behind them unless it is part of
the path. -/
theorem declaredDrafts_appendParameter :
    (method.appendParameter name schema).declaredDrafts surface package =
      method.declaredDrafts surface package ++
        if schema.location = some .path then []
        else
          let field := Field.ofSchema schema (some name)
          [PropertyDraft.declared surface package field field.name] := by
  by_cases inPath : schema.location = some .path
  · simp [declaredDrafts, fields, appendParameter, Field.inPath, Field.ofSchema, inPath]
  · simp [declaredDrafts, fields, appendParameter, Field.inPath, Field.ofSchema, inPath]

/-- The resource identifier is drafted as before, but for its documentation. -/
theorem identifier_appendParameter {parameter : Option ResourceNameParameter}
    {draft later : PropertyDraft}
    (drafted : PropertyDraft.identifier surface method parameter = .ok draft)
    (laterDrafted : PropertyDraft.identifier surface (method.appendParameter name schema)
      parameter = .ok later) :
    later = { draft with docLines := later.docLines } := by
  cases placeholder : resourceIdentifier method.path with
  | none => simp [PropertyDraft.identifier, placeholder] at drafted
  | some identifier =>
      have samePlaceholder :
          resourceIdentifier (method.appendParameter name schema).path = some identifier :=
        placeholder
      simp only [PropertyDraft.identifier, placeholder, Except.ok.injEq] at drafted
      simp only [PropertyDraft.identifier, samePlaceholder, Except.ok.injEq] at laterDrafted
      subst drafted
      subst laterDrafted
      rfl

/-- The drafts of a method stay when a parameter is appended, but for the documentation of the
resource identifier. In front of that the new parameter is drafted, unless it is part of the
path. -/
theorem exists_drafts_appendParameter {parameter : Option ResourceNameParameter}
    {drafts longerDrafts : List PropertyDraft}
    (notStandard : name ∉ standardParameters.map Prod.fst)
    (drafted : method.drafts surface package parameter = (drafts, none))
    (longerDrafted :
      (method.appendParameter name schema).drafts surface package parameter =
        (longerDrafts, none)) :
    ∃ front added draft later, drafts = front ++ [draft] ∧
      longerDrafts = front ++ added ++ [later] ∧ draft.types = .string surface ∧
      later = { draft with docLines := later.docLines } ∧
      added.length = if schema.location = some .path then 0 else 1 := by
  obtain ⟨declared, draft, draftedAs, rfl⟩ := exists_draftedAs drafted
  obtain ⟨longerDeclared, later, longerAs, rfl⟩ := exists_draftedAs longerDrafted
  have newDeclared := longerAs.declared
  rw [declaredDrafts_appendParameter, draftedAs.declared] at newDeclared
  obtain ⟨kept, added, rfl, isKept, isAdded⟩ := List.map_eq_append_iff.mp newDeclared.symm
  obtain rfl := map_ok_injective isKept
  refine ⟨method.standardDrafts surface ++ kept, added, draft, later, rfl, ?_,
    (PropertyDraft.identifier_eq_ok draftedAs.identifier).1,
    identifier_appendParameter draftedAs.identifier longerAs.identifier, ?_⟩
  · rw [standardDrafts_appendParameter notStandard, List.append_assoc _ kept added]
  · have sameLength := congrArg List.length isAdded
    rw [List.length_map] at sameLength
    rw [sameLength]
    split <;> rfl

end

end Method

/-- If what succeeds for an item succeeds in another way with the same result, this is so for
several items. -/
theorem mapM_eq_ok_of_imp {ε α β : Type} {bind other : α → Except ε β} {items : List α}
    {results : List β}
    (agrees : ∀ item result, bind item = .ok result → other item = .ok result)
    (success : items.mapM bind = .ok results) : items.mapM other = .ok results := by
  induction items generalizing results with
  | nil => exact success
  | cons item rest inductionHypothesis =>
      rw [List.mapM_cons] at success ⊢
      cases first : bind item with
      | error failure => simp [first, Bind.bind, Except.bind] at success
      | ok result =>
          cases others : rest.mapM bind with
          | error failure => simp [first, others, Bind.bind, Except.bind] at success
          | ok laterResults =>
              rw [agrees item result first, inductionHypothesis others]
              rwa [first, others] at success

/-- Settings that can be bound to a method are bound in the same way when a parameter is
appended. -/
theorem Flattening.ofSettings_appendParameter {settings : DocumentSettings} {method : Method}
    {flattening : Flattening} (name : String) (schema : Schema)
    (bound : ofSettings settings method = .ok flattening) :
    ofSettings settings (method.appendParameter name schema) = .ok flattening := by
  have sameId : (method.appendParameter name schema).id = method.id := rfl
  rw [ofSettings] at bound ⊢
  rw [sameId]
  cases configured : settings.methods.lookup method.id with
  | none => rwa [configured] at bound
  | some own =>
      rw [configured] at bound
      have agrees (parameter : String) (flattened : FlattenedField)
          (found : bindField own method parameter = .ok flattened) :
          bindField own (method.appendParameter name schema) parameter = .ok flattened := by
        rw [bindField] at found ⊢
        cases declared : method.parameter? parameter with
        | none => simp [declared] at found
        | some field =>
            have stillDeclared :
                (method.appendParameter name schema).parameter? parameter = some field := by
              rw [Method.parameter?, Option.map_eq_some_iff] at declared ⊢
              obtain ⟨schema, isDeclared, rfl⟩ := declared
              exact ⟨schema, by simp [Method.appendParameter, List.lookup_append, isDeclared], rfl⟩
            rw [stillDeclared]
            rwa [declared] at found
      cases groups : own.flattening.mapM fun group => group.mapM (bindField own method) with
      | error failure => simp [groups, Bind.bind, Except.bind] at bound
      | ok fields =>
          have sameGroups := mapM_eq_ok_of_imp
            (fun group _ success => mapM_eq_ok_of_imp agrees success) groups
          simp only [groups] at bound
          simp only [sameGroups]
          exact bound

/-- What becomes of the properties of a message when a parameter is appended to its method: all but
the resource identifier are kept as they are, one is added unless the parameter is part of the path,
and the identifier may change its name and its documentation. -/
structure RequestMessage.KeepsProperties (surface : Surface) (flattening : Flattening)
    (method : Method) (name : String) (schema : Schema) (message longer : RequestMessage)
    (kept added : List Property) (identifier later : Property) : Prop where
  before : message.properties.Perm (kept ++ [identifier])
  after : longer.properties.Perm (kept ++ added ++ [later])
  sources : List.Forall₂ (Property.ComesFrom surface) (kept ++ [identifier])
    (method.propertySources flattening)
  laterSources : List.Forall₂ (Property.ComesFrom surface) (kept ++ added ++ [later])
    ((method.appendParameter name schema).propertySources flattening)
  sameIdentifier : later = { identifier with name := later.name, docLines := later.docLines }
  count : added.length = if schema.location = some .path then 0 else 1

/-- What stays as it is when a parameter is appended to a method: what the request and its class are
called, the properties of the message, and how settings are bound to the method. -/
structure RequestContext.KeptWhenAppended (context : RequestContext) (method : Method)
    (name : String) (schema : Schema) (flattening : Flattening)
    (message longer : RequestMessage) : Prop where
  sameRawName : longer.rawName = message.rawName
  sameName : longer.name = message.name
  sameTypeName : longer.typeName = message.typeName
  properties : ∃ kept added identifier later,
    message.KeepsProperties context.surface flattening method name schema longer kept added
      identifier later
  settings : ∀ settings, Flattening.ofSettings settings method = .ok flattening →
    Flattening.ofSettings settings (method.appendParameter name schema) = .ok flattening

/-- A parameter that is appended to a method and is not called like a standard one changes neither
what the request and its class are called nor any property of the message but the resource
identifier. -/
theorem kept_when_appended (context : RequestContext) (method : Method) (name : String)
    (schema : Schema) (flattening : Flattening) (table : ImportTable) (built longer : BuiltRequest)
    (notStandard : name ∉ standardParameters.map Prod.fst)
    (success : (context.build method flattening table).1 = .ok built)
    (longerSuccess :
      (context.build (method.appendParameter name schema) flattening table).1 = .ok longer) :
    context.KeptWhenAppended method name schema flattening built.message longer.message := by
  obtain ⟨drafts, bodyDraft, parts⟩ := RequestContext.exists_built (Prod.ext success rfl)
  obtain ⟨longerDrafts, longerBody, longerParts⟩ :=
    RequestContext.exists_built (Prod.ext longerSuccess rfl)
  have sameParameter : longer.parameter = built.parameter :=
    longerParts.parameter.trans parts.parameter.symm
  obtain ⟨front, addedDrafts, draft, later, rfl, rfl, isString, sameDraft, count⟩ :=
    Method.exists_drafts_appendParameter notStandard parts.drafted
      (sameParameter ▸ longerParts.drafted)
  have laterString : later.types = .string context.surface := by
    rw [sameDraft]
    exact isString
  have before := parts.properties_perm
  have sources := parts.finishAll_comesFrom
  rw [finishAll_concat_string isString] at before sources
  -- Both methods have one name, so their properties start with the same symbol table.
  have after := longerParts.properties_perm
  have laterSources := longerParts.finishAll_comesFrom
  have sameSymbols : context.propertySymbols (method.appendParameter name schema) =
      context.propertySymbols method := rfl
  rw [sameSymbols, finishAll_concat_string laterString, finishAll_append] at after laterSources
  refine ⟨longerParts.rawName.trans parts.rawName.symm, longerParts.name.trans parts.name.symm,
    longerParts.typeName.trans parts.typeName.symm,
    ⟨_, _, _, _, before, after, sources, laterSources, ?_, ?_⟩,
    fun settings => Flattening.ofSettings_appendParameter name schema⟩
  · rw [sameDraft]
    rfl
  · rw [length_finishAll, count]

/-- A method with a parameter that imports a type. -/
def zoneMethod : Method where
  id := "compute.zones.get"
  path := "projects/{project}/zones/{zone}"
  parameters :=
    [("since", { type := some "string", format := some "date", location := some .query })]

/-- What builds the messages of a package with zones. -/
def zoneRequests : RequestContext where
  surface := .python
  packageName := "compute"

/-- An appended parameter that is called like the resource identifier takes its name. -/
theorem kept_when_appended_zone :
    ∃ built longer, (zoneRequests.build zoneMethod {} {}).1 = .ok built ∧
      (zoneRequests.build (zoneMethod.appendParameter "zone"
        { type := some "string", description := some "The zone." }) {} {}).1 = .ok longer ∧
      zoneRequests.KeptWhenAppended zoneMethod "zone"
        { type := some "string", description := some "The zone." } {} built.message
        longer.message := by
  obtain ⟨built, success⟩ := exists_eq_ok_of_isOk
    (show (zoneRequests.build zoneMethod {} {}).1.isOk = true by decide +kernel)
  obtain ⟨longer, longerSuccess⟩ := exists_eq_ok_of_isOk
    (show (zoneRequests.build (zoneMethod.appendParameter "zone"
      { type := some "string", description := some "The zone." }) {} {}).1.isOk = true by
        decide +kernel)
  have notStandard : "zone" ∉ standardParameters.map Prod.fst := by decide
  exact ⟨built, longer, success, longerSuccess,
    kept_when_appended _ _ _ _ _ _ _ _ notStandard success longerSuccess⟩

end RequestSurface
