import Mathlib
import RequestSurface.Proofs.MethodFailure
import RequestSurface.Proofs.PropertyNames
import RequestSurface.Proofs.PropertyTypes

/-!
# Where the properties of a message come from

Every property of a message has a source: a standard parameter that the method does not declare
itself, a declared parameter outside the path, or the resource identifier. Sorting aside, a message
has one property for each source and no other. What a property says beside its names and types is
the content of its source and does not depend on the surface; its types are written as those of a
string, or differ from each other exactly if a declared parameter holds a list.
-/

namespace RequestSurface

/-- What a property says about its value, whatever it is called and however its types are
written. -/
structure PropertyContent where
  rawName : String
  isRequired : Bool
  isRepeated : Bool
  adds : Bool
  docLines : List String
  deriving DecidableEq, Repr

/-- The content of a property. -/
def Property.content (property : Property) : PropertyContent where
  rawName := property.rawName
  isRequired := property.isRequired
  isRepeated := property.isRepeated
  adds := property.adder.isSome
  docLines := property.docLines

/-- The content that a property is drafted with. -/
def PropertyDraft.content (draft : PropertyDraft) : PropertyContent where
  rawName := draft.rawName
  isRequired := draft.isRequired
  isRepeated := draft.isRepeated
  adds := draft.adder.isSome
  docLines := draft.docLines

/-- What a property of a message stands for. -/
inductive PropertySource where
  | standard (parameter description : String)
  | declared (field : Field)
  | identifier (rawName description : String)

namespace PropertySource

/-- The content of the property of a source. Standard parameters are optional and the resource
identifier is required; both are single values without an adder. -/
def content : PropertySource → PropertyContent
  | standard parameter description => ⟨parameter, false, false, false, Text.docLines description⟩
  | declared field =>
      ⟨field.name, field.schema.required,
        field.schema.repeated || field.schema.type == some "array", true,
        Text.docLines field.description⟩
  | identifier rawName description => ⟨rawName, true, false, false, Text.docLines description⟩

/-- The types that the property of a source has: those of one string, or a list around its element
where a declared parameter is repeated, and one type twice where it is not. -/
def HasTypes (surface : Surface) (types : FieldType) : PropertySource → Prop
  | declared field =>
      types.whole = if (declared field).content.isRepeated then .list types.inner else types.inner
  | standard .. => types = .string surface
  | identifier .. => types = .string surface

/-- How the types of the property of a source are written: as the string type of the surface, or as
two different types exactly where a declared parameter is repeated. -/
def IsWritten (surface : Surface) (text : SpelledType) : PropertySource → Prop
  | declared field => text.whole ≠ text.inner ↔ (declared field).content.isRepeated = true
  | standard .. => text = ⟨shortName surface.stringType, shortName surface.stringType⟩
  | identifier .. => text = ⟨shortName surface.stringType, shortName surface.stringType⟩

end PropertySource

/-- A property has a source: it has the content of the source, and its types are written
accordingly. -/
structure Property.ComesFrom (surface : Surface) (property : Property) (source : PropertySource) :
    Prop where
  content : property.content = source.content
  written : source.IsWritten surface property.spelling

/-- The sources of the properties of the request message of a method: every standard parameter that
is not a key of its parameters, every declared parameter outside the path, and the resource
identifier. -/
def Method.propertySources (method : Method) (flattening : Flattening) : List PropertySource :=
  ((standardParameters.filter fun entry => entry.1 ∉ method.parameters.map Prod.fst).map
      fun entry => .standard entry.1 entry.2) ++
    (method.fields.filter (!·.inPath)).map .declared ++
    [.identifier (method.identifierName flattening)
      (PropertyDraft.identifierDescription method ((resourceIdentifier method.path).getD ""))]

section Writing

variable {surface : Surface} {types : FieldType} {text : SpelledType}

/-- A container applied to a type is not written like that type. -/
theorem Surface.generic_ne (surface : Surface) (container inner : String) :
    surface.generic container [inner] ≠ inner := by
  intro same
  have lengths := congrArg String.length same
  cases surface with
  | java =>
      simp only [generic, String.intercalate_singleton, String.length_append,
        show "<".length = 1 from rfl] at lengths
      omega
  | python =>
      simp only [generic, String.intercalate_singleton, String.length_append,
        show "[".length = 1 from rfl] at lengths
      omega

/-- The string type is in an implicit module. -/
theorem Surface.isImplicit_stringType (surface : Surface) :
    moduleName surface.stringType ∈ surface.implicitModules := by
  cases surface <;> decide +kernel

/-- The string type is written by its short name, which is not recorded. -/
theorem ImportTable.nickname_stringType (surface : Surface) (table : ImportTable) :
    table.nickname surface surface.stringType = (shortName surface.stringType, table) := by
  rw [nickname, if_pos surface.isImplicit_stringType]

/-- What some table writes for the types of a field. -/
def Surface.Writes (surface : Surface) (types : FieldType) (text : SpelledType) : Prop :=
  ∃ table : ImportTable, text = (table.spellTypes surface types).1

/-- The types of several fields are each written by the table that the ones before them left. -/
theorem ImportTable.writes_spellAll (table : ImportTable) (types : List FieldType) :
    List.Forall₂ surface.Writes types (table.spellAll surface types).1 := by
  induction types generalizing table with
  | nil => exact .nil
  | cons first rest inductionHypothesis => exact .cons ⟨table, rfl⟩ (inductionHypothesis _)

/-- The string type is written by its short name. -/
theorem Surface.Writes.string (writes : surface.Writes (.string surface) text) :
    text = ⟨shortName surface.stringType, shortName surface.stringType⟩ := by
  obtain ⟨table, rfl⟩ := writes
  simp only [ImportTable.spellTypes, FieldType.string, ImportTable.spell,
    ImportTable.nickname_stringType]

/-- A type that stands twice is written twice in the same way. -/
theorem Surface.Writes.single (writes : surface.Writes types text)
    (same : types.whole = types.inner) : text.whole = text.inner := by
  obtain ⟨table, rfl⟩ := writes
  simp only [ImportTable.spellTypes, same]
  exact table.spell_eq_of_extends surface (.refl _)

/-- A list is not written like its element. -/
theorem Surface.Writes.list (writes : surface.Writes types text)
    (isList : types.whole = .list types.inner) : text.whole ≠ text.inner := by
  obtain ⟨table, rfl⟩ := writes
  let afterInner := (table.spell surface types.inner).2
  have sameInner : (afterInner.spell surface types.inner).1 =
      (table.spell surface types.inner).1 := table.spell_eq_of_extends surface (.refl _)
  simp only [ImportTable.spellTypes, isList, ImportTable.spell]
  change surface.generic _ [(afterInner.spell surface types.inner).1] ≠ _
  rw [sameInner]
  exact surface.generic_ne _ _

/-- Types that a source has are written as they are for that source. -/
theorem PropertySource.HasTypes.isWritten {source : PropertySource}
    (hasTypes : source.HasTypes surface types) (writes : surface.Writes types text) :
    source.IsWritten surface text := by
  cases source with
  | standard parameter description =>
      obtain rfl : types = .string surface := hasTypes
      exact writes.string
  | identifier rawName description =>
      obtain rfl : types = .string surface := hasTypes
      exact writes.string
  | declared field =>
      simp only [PropertySource.HasTypes] at hasTypes
      cases repeated : (PropertySource.declared field).content.isRepeated with
      | true =>
          rw [repeated, if_pos rfl] at hasTypes
          simp only [PropertySource.IsWritten, repeated, iff_true]
          exact writes.list hasTypes
      | false =>
          rw [repeated, if_neg Bool.false_ne_true] at hasTypes
          simp [PropertySource.IsWritten, repeated, writes.single hasTypes]

end Writing

/-- The types of a repeated field are a list and its element, those of any other field are one type
twice. -/
theorem Field.types_eq_ok {surface : Surface} {package : String} {field : Field}
    {types : FieldType} (resolved : field.types surface package = .ok types) :
    types.whole = if field.isRepeated then .list types.inner else types.inner := by
  rw [Field.types] at resolved
  cases repeated : field.isRepeated with
  | true =>
      rw [repeated, if_pos rfl] at resolved
      cases element : (field.element?.getD field).surfaceType surface package with
      | error unknown => simp [element, Except.map] at resolved
      | ok inner =>
          simp only [element, Except.map, Except.ok.injEq] at resolved
          rw [← resolved, if_pos rfl]
  | false =>
      rw [repeated, if_neg Bool.false_ne_true] at resolved
      cases single : field.surfaceType surface package with
      | error unknown => simp [single, Except.map] at resolved
      | ok whole =>
          simp only [single, Except.map, Except.ok.injEq] at resolved
          rw [← resolved, if_neg Bool.false_ne_true]

/-- A draft has a source: it has its content and types that fit it. -/
structure PropertyDraft.DraftedFrom (surface : Surface) (draft : PropertyDraft)
    (source : PropertySource) : Prop where
  content : draft.content = source.content
  types : source.HasTypes surface draft.types

section Drafting

variable {surface : Surface} {package : String} {method : Method} {flattening : Flattening}
  {draft : PropertyDraft} {drafts : List PropertyDraft}

/-- A declared field is drafted from itself. -/
theorem PropertyDraft.draftedFrom_declared {field : Field}
    (drafted : PropertyDraft.declared surface package field field.name = .ok draft) :
    draft.DraftedFrom surface (.declared field) := by
  obtain ⟨types, resolved, rfl⟩ := PropertyDraft.exists_types_of_declared drafted
  exact ⟨rfl, Field.types_eq_ok resolved⟩

/-- The resource identifier is drafted under its raw name. -/
theorem PropertyDraft.draftedFrom_identifier
    (drafted : PropertyDraft.identifier surface method
      (ResourceNameParameter.ofFlattening surface flattening) = .ok draft) :
    draft.DraftedFrom surface (.identifier (method.identifierName flattening)
      (PropertyDraft.identifierDescription method
        ((resourceIdentifier method.path).getD ""))) := by
  rw [PropertyDraft.eq_of_identifier drafted]
  exact ⟨rfl, rfl⟩

/-- The drafts of a method are related to its sources one by one, if each draft is to the source it
is drafted from. -/
theorem Method.forall₂_propertySources {Related : PropertyDraft → PropertySource → Prop}
    (drafted : method.drafts surface package
      (ResourceNameParameter.ofFlattening surface flattening) = (drafts, none))
    (eachStandard : ∀ parameter description,
      Related (.standard surface parameter description) (.standard parameter description))
    (eachDeclared : ∀ field draft,
      PropertyDraft.declared surface package field field.name = .ok draft →
        Related draft (.declared field))
    (forIdentifier : ∀ draft,
      PropertyDraft.identifier surface method
        (ResourceNameParameter.ofFlattening surface flattening) = .ok draft →
        Related draft (.identifier (method.identifierName flattening)
          (PropertyDraft.identifierDescription method
            ((resourceIdentifier method.path).getD "")))) :
    List.Forall₂ Related drafts (method.propertySources flattening) := by
  have undeclared (entry : String × String) : (method.parameter? entry.1).isNone =
      decide (entry.1 ∉ method.parameters.map Prod.fst) := by
    rw [Bool.eq_iff_iff, decide_eq_true_eq, ← lookup_eq_none_iff_not_mem, Method.parameter?,
      Option.isNone_iff_eq_none, Option.map_eq_none_iff]
  have each := forall₂_drafts Related (fun entry => .standard entry.1 entry.2) drafted
    (fun entry => eachStandard entry.1 entry.2) eachDeclared forIdentifier
  simp only [undeclared] at each
  exact each

/-- The drafts of a method are drafted from its sources, one by one. -/
theorem Method.draftedFrom_propertySources
    (drafted : method.drafts surface package
      (ResourceNameParameter.ofFlattening surface flattening) = (drafts, none)) :
    List.Forall₂ (PropertyDraft.DraftedFrom surface) drafts
      (method.propertySources flattening) :=
  method.forall₂_propertySources drafted (fun _ _ => ⟨rfl, rfl⟩)
    (fun _ _ => PropertyDraft.draftedFrom_declared) (fun _ => PropertyDraft.draftedFrom_identifier)

end Drafting

namespace RequestContext

variable {context : RequestContext} {method : Method} {flattening : Flattening}
  {table last : ImportTable} {built : BuiltRequest} {drafts : List PropertyDraft}

/-- Drafts that are finished with names and with types that some table writes for them come from
what they are drafted from. -/
theorem comesFrom_finish {surface : Surface} {sources : List PropertySource} {names : List String}
    {texts : List SpelledType}
    (drafted : List.Forall₂ (PropertyDraft.DraftedFrom surface) drafts sources)
    (oneEach : names.length = drafts.length)
    (written : List.Forall₂ surface.Writes (drafts.map PropertyDraft.types) texts) :
    List.Forall₂ (Property.ComesFrom surface)
      ((drafts.zip (names.zip texts)).map fun entry => entry.1.finish entry.2.1 entry.2.2)
      sources := by
  induction drafted generalizing names texts with
  | nil => exact .nil
  | cons first others inductionHypothesis =>
      obtain ⟨text, laterTexts, writes, laterWritten, rfl⟩ :=
        List.forall₂_cons_left_iff.mp written
      cases names with
      | nil => cases oneEach
      | cons name laterNames =>
          exact .cons ⟨first.content, first.types.isWritten writes⟩
            (inductionHypothesis (Nat.succ.inj oneEach) laterWritten)

/-- The properties of a built message come from the sources of its method. -/
theorem Built.properties_comeFrom {bodyDraft : Option PropertyDraft}
    (parts : context.Built method flattening table built last drafts bodyDraft) :
    ∃ given, built.message.properties.Perm given ∧
      List.Forall₂ (Property.ComesFrom context.surface) given
        (method.propertySources flattening) := by
  obtain ⟨body, -, composed⟩ := parts.composed
  have drafted := parts.drafted
  rw [parts.parameter] at drafted
  refine ⟨_, ?_, comesFrom_finish (method.draftedFrom_propertySources drafted)
    (context.length_propertyNames method drafts) (table.writes_spellAll _)⟩
  rw [composed]
  exact context.properties_compose_perm method drafts _ body

end RequestContext

/-- However a request is built, its properties come from the sources of its method, one from each,
and it has required properties exactly if the method declares a required parameter, be it part of
the path or not. -/
theorem properties_from_sources (context : RequestContext) (method : Method)
    (flattening : Flattening) (table : ImportTable) (built : BuiltRequest)
    (success : (context.build method flattening table).1 = .ok built) :
    (∃ given, built.message.properties.Perm given ∧
      List.Forall₂ (Property.ComesFrom context.surface) given
        (method.propertySources flattening)) ∧
    (built.message.hasRequiredProperties = true ↔
      ∃ parameter ∈ method.parameters, parameter.2.required = true) := by
  obtain ⟨drafts, bodyDraft, parts⟩ := RequestContext.exists_built (Prod.ext success rfl)
  refine ⟨parts.properties_comeFrom, ?_⟩
  obtain ⟨body, -, composed⟩ := parts.composed
  rw [composed]
  simp [RequestContext.compose, Method.fields, Field.ofSchema]

/-- What builds the messages of a package with disks. -/
def diskRequests : RequestContext where
  surface := .java
  packageName := "com.example.compute"

/-- A method that declares a standard parameter, a list, an optional parameter and, in its path, a
required one that the identifier stands for. -/
def disksMethod : Method where
  id := "compute.disks.list"
  path := "projects/{project}/disks/{disk}"
  parameters :=
    [("disk", { type := some "string", required := true, location := some .path }),
      ("key", { type := some "array", items := some { type := some "integer" } }),
      ("disk_", { type := some "string", repeated := true, location := some .query }),
      ("filter", { reference := some "Filter", location := some .query })]

/-- Of the standard parameters of this method only the declared one has no property of its own, and
the only required parameter is in the path. -/
theorem properties_from_sources_of_disks :
    ∃ built, (diskRequests.build disksMethod {} {}).1 = .ok built ∧
      ((∃ given, built.message.properties.Perm given ∧
        List.Forall₂ (Property.ComesFrom .java) given (disksMethod.propertySources {})) ∧
      (built.message.hasRequiredProperties = true ↔
        ∃ parameter ∈ disksMethod.parameters, parameter.2.required = true)) ∧
      (disksMethod.propertySources {}).length = 10 := by
  obtain ⟨built, success⟩ := exists_eq_ok_of_isOk
    (show (diskRequests.build disksMethod {} {}).1.isOk = true by decide +kernel)
  exact ⟨built, success, properties_from_sources diskRequests disksMethod {} {} built success,
    by decide +kernel⟩

end RequestSurface
