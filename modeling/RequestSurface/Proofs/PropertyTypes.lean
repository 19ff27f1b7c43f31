import Mathlib
import RequestSurface.Proofs.BuiltRequest
import RequestSurface.Proofs.SortKey

/-!
# Types of the properties of a message

`Method.Presents` says what a property stands for, and so which types it has to have. The types that
a built request gives to its properties and to its body are written with the imports of the table
that is left in the end, although they were written while the table was still growing.
-/

namespace RequestSurface

/-- What a property of the message of a method stands for, with the types of it. A standard
parameter that the method does not declare itself and the resource identifier are strings; a
declared parameter outside the path has the types of its field. -/
inductive Method.Presents (surface : Surface) (package : String) (method : Method)
    (property : Property) : FieldType → Prop where
  | standard {description : String} (listed : (property.rawName, description) ∈ standardParameters)
      (undeclared : method.parameter? property.rawName = none)
      (documented : property.docLines = Text.docLines description)
      (isOptional : property.isRequired = false) (noAdder : property.adder = none) :
      method.Presents surface package property (.string surface)
  | declared {field : Field} {types : FieldType} (listed : field ∈ method.fields)
      (outside : field.inPath = false) (named : property.rawName = field.name)
      (required : property.isRequired = field.schema.required)
      (repeated : property.isRepeated = field.isRepeated)
      (documented : property.docLines = Text.docLines field.description)
      (hasAdder : property.adder.isSome) (resolved : field.types surface package = .ok types) :
      method.Presents surface package property types
  | identifier (isRequired : property.isRequired = true) (noAdder : property.adder = none) :
      method.Presents surface package property (.string surface)

/-- How the types of a property are written. -/
def Property.spelling (property : Property) : SpelledType where
  whole := property.typeName
  inner := property.innerTypeName

/-- The types of what the properties and the body of the message of a method stand for are written
in some way. -/
structure RequestMessage.TypesWritten (surface : Surface) (package : String)
    (schemas : List (String × Schema)) (method : Method) (Written : FieldType → SpelledType → Prop)
    (message : RequestMessage) : Prop where
  properties : ∀ property ∈ message.properties, ∃ types,
    method.Presents surface package property types ∧ Written types property.spelling
  body : ∀ property ∈ message.body, ∃ field types,
    method.body schemas = .ok (some field) ∧ field.types surface package = .ok types ∧
      Written types property.spelling

section

variable {surface : Surface} {package : String} {schemas : List (String × Schema)}
  {method : Method} {drafts : List PropertyDraft} {draft : PropertyDraft}

/-- What holds of the way types are written in a message may be weakened. -/
theorem RequestMessage.TypesWritten.imp {message : RequestMessage}
    {Written Weaker : FieldType → SpelledType → Prop}
    (weaken : ∀ types text, Written types text → Weaker types text)
    (written : message.TypesWritten surface package schemas method Written) :
    message.TypesWritten surface package schemas method Weaker where
  properties := by
    intro property member
    obtain ⟨types, presents, typesWritten⟩ := written.properties property member
    exact ⟨types, presents, weaken _ _ typesWritten⟩
  body := by
    intro property member
    obtain ⟨field, types, taken, resolved, typesWritten⟩ := written.body property member
    exact ⟨field, types, taken, resolved, weaken _ _ typesWritten⟩

/-- A declared field is drafted when it has types, and it is drafted as declared. -/
theorem PropertyDraft.declared_eq_ok {field : Field} {preferred : String}
    (drafted : PropertyDraft.declared surface package field preferred = .ok draft) :
    field.types surface package = .ok draft.types ∧ draft.rawName = preferred ∧
      draft.isRequired = field.schema.required ∧ draft.isRepeated = field.isRepeated ∧
      draft.docLines = Text.docLines field.description ∧ draft.adder.isSome := by
  obtain ⟨types, resolved, rfl⟩ := PropertyDraft.exists_types_of_declared drafted
  exact ⟨resolved, rfl, rfl, rfl, rfl, rfl⟩

/-- The resource identifier is drafted as a required string. -/
theorem PropertyDraft.identifier_eq_ok {parameter : Option ResourceNameParameter}
    (drafted : PropertyDraft.identifier surface method parameter = .ok draft) :
    draft.types = .string surface ∧ draft.isRequired = true ∧ draft.adder = none := by
  cases placeholder : resourceIdentifier method.path with
  | none => simp [PropertyDraft.identifier, placeholder] at drafted
  | some identifier =>
      simp only [PropertyDraft.identifier, placeholder, Except.ok.injEq] at drafted
      subst drafted
      exact ⟨rfl, rfl, rfl⟩

/-- Whatever name and spelling a draft is finished with, it stands for what it was drafted from. -/
theorem Method.presents_of_mem_drafts {parameter : Option ResourceNameParameter}
    (drafted : method.drafts surface package parameter = (drafts, none)) (member : draft ∈ drafts)
    (name : String) (text : SpelledType) :
    method.Presents surface package (draft.finish name text) draft.types := by
  have attempts := eq_map_ok_of_untilFailure drafted
  have attempted : Except.ok draft ∈ (method.standardDrafts surface).map .ok ++
      method.declaredDrafts surface package ++
      [PropertyDraft.identifier surface method parameter] := by
    rw [attempts]
    exact List.mem_map_of_mem member
  rcases List.mem_append.mp attempted with fromParameters | fromPath
  · rcases List.mem_append.mp fromParameters with fromStandard | fromDeclared
    · obtain ⟨_, isDraft, same⟩ := List.mem_map.mp fromStandard
      cases same
      obtain ⟨parameter, kept, rfl⟩ := List.mem_map.mp isDraft
      obtain ⟨listed, undeclared⟩ := List.mem_filter.mp kept
      exact .standard listed (Option.isNone_iff_eq_none.mp undeclared) rfl rfl rfl
    · obtain ⟨field, kept, drafted⟩ := List.mem_map.mp fromDeclared
      obtain ⟨listed, outside⟩ := List.mem_filter.mp kept
      obtain ⟨resolved, named, required, repeated, documented, hasAdder⟩ :=
        PropertyDraft.declared_eq_ok drafted
      exact .declared listed (by simpa using outside) named required repeated documented hasAdder
        resolved
  · obtain ⟨types, isRequired, noAdder⟩ :=
      PropertyDraft.identifier_eq_ok (List.mem_singleton.mp fromPath).symm
    rw [types]
    exact .identifier isRequired noAdder

end

namespace RequestContext

variable {context : RequestContext} {method : Method} {drafts : List PropertyDraft}
  {types : List SpelledType} {body : Option Property} {flattening : Flattening}
  {table last : ImportTable} {built : BuiltRequest} {bodyDraft : Option PropertyDraft}

/-- Every property of a message is one of its drafts, finished with the types at the place of that
draft. -/
theorem exists_draft_of_mem_properties {property : Property}
    (member : property ∈ (context.compose method drafts types body).properties) :
    ∃ draft name text, (draft, text) ∈ drafts.zip types ∧ property = draft.finish name text := by
  have unsorted := (Text.SortKey.sort_perm Property.sortKey _).mem_iff.mp member
  obtain ⟨⟨draft, name, text⟩, zipped, rfl⟩ := List.mem_map.mp unsorted
  refine ⟨draft, name, text, ?_, rfl⟩
  obtain ⟨index, bound, atIndex⟩ := List.getElem_of_mem zipped
  simp only [List.getElem_zip, Prod.mk.injEq] at atIndex
  obtain ⟨rfl, -, rfl⟩ := atIndex
  simp only [List.length_zip, lt_inf_iff] at bound
  have inZip : index < (drafts.zip types).length := by
    simp only [List.length_zip, lt_inf_iff]
    exact ⟨bound.1, bound.2.2⟩
  simpa using List.getElem_mem inZip

/-- Writing the body extends the table. -/
theorem BodySpelled.extends_table {surface : Surface} {spelled : ImportTable}
    (bodySpelled : BodySpelled surface spelled bodyDraft body last) : spelled.Extends last := by
  cases bodySpelled with
  | absent => exact .refl _
  | present draft => exact spelled.extends_spellTypes surface draft.types

namespace Built

/-- Building a request extends the table. -/
theorem extends_table (parts : context.Built method flattening table built last drafts bodyDraft) :
    table.Extends last := by
  obtain ⟨body, bodySpelled, -⟩ := parts.composed
  exact (table.extends_spellAll context.surface _).trans bodySpelled.extends_table

/-- All types of a built message are written with the imports that are recorded in the end. -/
theorem typesWritten (parts : context.Built method flattening table built last drafts bodyDraft) :
    built.message.TypesWritten context.surface context.packageName context.schemas method
      (SpelledWith context.surface last.entries) := by
  obtain ⟨body, bodySpelled, composed⟩ := parts.composed
  rw [composed]
  constructor
  · intro property member
    obtain ⟨draft, name, text, zipped, rfl⟩ := exists_draft_of_mem_properties member
    have draftMember : draft ∈ drafts := (List.of_mem_zip zipped).1
    have spelled := table.spelledWith_spellAll context.surface (drafts.map PropertyDraft.types)
    have written := List.forall₂_zip (List.forall₂_map_left_iff.mp spelled) zipped
    exact ⟨draft.types, method.presents_of_mem_drafts parts.drafted draftMember name text,
      written.mono bodySpelled.extends_table.entries_subset⟩
  · intro property member
    have present : body = some property := member
    subst present
    cases bodySpelled with
    | present draft =>
        cases Method.bodyDrafted_of_eq_ok parts.bodyDrafted with
        | named isNamed taken declared =>
            exact ⟨_, draft.types, taken, (PropertyDraft.declared_eq_ok declared).1,
              ImportTable.spelledWith_spellTypes context.surface _ draft.types⟩

end Built

end RequestContext

end RequestSurface
