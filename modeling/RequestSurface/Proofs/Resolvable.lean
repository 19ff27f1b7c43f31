import Mathlib
import RequestSurface.Field.Basic

/-!
# Types that can be written

Whether the type of a field can be written does not depend on the surface: every surface has names
for the same primitive types, and a format that it has no name for is ignored. Following the items
of lists and the values of objects from a field, one arrives at a schema that names a message, which
can be written whatever stands beside the name, or at one with a primitive type, which can be
written if surfaces have a name for it.
-/

namespace RequestSurface

/-- The primitive types that surfaces have names for. -/
def primitiveTypes : List String := ["string", "integer", "number", "boolean", "any", "object"]

namespace Surface

/-- Every type in the table of a surface is among the primitive types. -/
theorem mem_primitiveTypes {surface : Surface} {type : String} {format : Option String}
    (listed : (surface.primitives.lookup ⟨type, format⟩).isSome) : type ∈ primitiveTypes := by
  have all : ∀ entry ∈ surface.primitives, entry.1.type ∈ primitiveTypes := by
    cases surface <;> decide
  obtain ⟨entry, isEntry, same⟩ := List.lookup_isSome_iff.mp listed
  have inTable := all entry isEntry
  rwa [← beq_iff_eq.mp same] at inTable

/-- The table of a surface has every primitive type without a format. -/
theorem isSome_lookup_of_mem (surface : Surface) {type : String} (known : type ∈ primitiveTypes) :
    (surface.primitives.lookup ⟨type, none⟩).isSome := by
  have all : ∀ type ∈ primitiveTypes, (surface.primitives.lookup ⟨type, none⟩).isSome := by
    cases surface <;> decide
  exact all type known

/-- Surfaces have names for the same primitive types, whatever the format. -/
theorem primitiveType?_eq_none_iff {surface : Surface} {type format : Option String} :
    surface.primitiveType? type format = none ↔ ∀ known ∈ primitiveTypes, type ≠ some known := by
  cases type with
  | none => simp [primitiveType?]
  | some type =>
      simp only [primitiveType?, Option.bind_some, Option.or_eq_none_iff, ne_eq, Option.some.injEq]
      constructor
      · rintro ⟨-, unlisted⟩ known isKnown rfl
        have listed := surface.isSome_lookup_of_mem isKnown
        rw [unlisted] at listed
        cases listed
      · intro unknown
        have unlisted (format : Option String) :
            surface.primitives.lookup ⟨type, format⟩ = none := by
          rw [← Option.not_isSome_iff_eq_none]
          exact fun listed => unknown type (mem_primitiveTypes listed) rfl
        exact ⟨unlisted format, unlisted none⟩

/-- A primitive type cannot be written exactly when surfaces have no name for it. -/
theorem primitive_eq_error_iff {surface : Surface} {field : String} {type format : Option String}
    {unknown : UnknownPrimitive} :
    surface.primitive field type format = .error unknown ↔
      (∀ known ∈ primitiveTypes, type ≠ some known) ∧ unknown = ⟨type, format, field⟩ := by
  rw [← @primitiveType?_eq_none_iff surface type format, primitive]
  cases surface.primitiveType? type format with
  | none => simp [eq_comm]
  | some name => simp

end Surface

/-- A result that is made into another one comes from a failure when it is one. -/
theorem map_eq_error_iff {ε α β : Type} {outcome : Except ε α} {f : α → β} {error : ε} :
    outcome.map f = .error error ↔ outcome = .error error := by
  cases outcome <;> simp [Except.map]

/-- A result that is made of another one comes from one when it is there. -/
theorem exists_of_map_eq_ok {ε α β : Type} {outcome : Except ε α} {f : α → β} {result : β}
    (success : outcome.map f = .ok result) : ∃ given, outcome = .ok given ∧ result = f given := by
  cases outcome with
  | error failure => cases success
  | ok given => exact ⟨given, rfl, (Except.ok.inj success).symm⟩

namespace Schema

/-- The schema that decides the type of one with a container type: that of the items of a list or
of the values of an object. -/
def inner? (schema : Schema) : Option Schema :=
  if schema.type = some "array" then schema.items
  else if schema.type = some "object" then schema.additional
  else none

/-- What is inside of a schema is smaller. -/
theorem sizeOf_lt_of_inner? {schema inner : Schema} (isInner : schema.inner? = some inner) :
    sizeOf inner < sizeOf schema := by
  obtain ⟨id, type, reference, description, format, required, repeated, location, items,
    additional⟩ := schema
  simp only [inner?] at isInner
  split at isInner
  · subst isInner
    simp
    omega
  · split at isInner
    · subst isInner
      simp
      omega
    · cases isInner

/-- A schema without a name leads, through what is inside of it, to a primitive type that surfaces
have no name for. The field at which this is noticed goes by the id of its schema if it has no name
from outside. -/
inductive EndsInUnknown : String → Schema → UnknownPrimitive → Prop where
  | primitive {field : String} {schema : Schema}
      (anonymous : referenceName? schema.reference = none) (bare : schema.inner? = none)
      (unknown : ∀ known ∈ primitiveTypes, schema.type ≠ some known) :
      EndsInUnknown field schema ⟨schema.type, schema.format, field⟩
  | inside {field : String} {schema inner : Schema} {unknown : UnknownPrimitive}
      (anonymous : referenceName? schema.reference = none) (isInner : schema.inner? = some inner)
      (endsInUnknown : EndsInUnknown (nameOr field inner) inner unknown) :
      EndsInUnknown field schema unknown

/-- A schema that names a message can be written, whatever stands beside the name. -/
theorem EndsInUnknown.anonymous {field : String} {schema : Schema} {unknown : UnknownPrimitive}
    (endsInUnknown : EndsInUnknown field schema unknown) :
    referenceName? schema.reference = none := by
  cases endsInUnknown with
  | primitive anonymous => exact anonymous
  | inside anonymous => exact anonymous

/-- The surface type of a schema with nothing inside is primitive, and that of any other schema is
made of what is inside. -/
theorem surfaceType_eq_error_iff_inner {surface : Surface} {package field : String}
    {schema : Schema} {unknown : UnknownPrimitive} :
    schema.surfaceType surface package field = .error unknown ↔
      referenceName? schema.reference = none ∧
        match schema.inner? with
        | some inner => inner.surfaceType surface package (nameOr field inner) = .error unknown
        | none => surface.primitive field schema.type schema.format = .error unknown := by
  obtain ⟨id, type, reference, description, format, required, repeated, location, items,
    additional⟩ := schema
  rw [surfaceType.eq_def]
  cases named : referenceName? reference with
  | some name => simp [named]
  | none =>
      by_cases isArray : type = some "array"
      · cases items <;> simp [named, inner?, isArray, map_eq_error_iff]
      · cases additional with
        | none => cases repeated <;> simp [named, inner?, isArray, map_eq_error_iff]
        | some values =>
            by_cases isObject : type = some "object" <;> cases repeated <;>
              simp [named, inner?, isArray, isObject, map_eq_error_iff]

/-- The type of a schema cannot be written exactly when the schema leads to a primitive type without
a name. -/
theorem surfaceType_eq_error_iff (surface : Surface) (package field : String) (schema : Schema)
    (unknown : UnknownPrimitive) :
    schema.surfaceType surface package field = .error unknown ↔
      EndsInUnknown field schema unknown := by
  rw [surfaceType_eq_error_iff_inner]
  cases isInner : schema.inner? with
  | none =>
      simp only [Surface.primitive_eq_error_iff]
      constructor
      · rintro ⟨anonymous, unknown, rfl⟩
        exact .primitive anonymous isInner unknown
      · rintro (⟨anonymous, bare, unknown⟩ | ⟨anonymous, other, endsInUnknown⟩)
        · exact ⟨anonymous, unknown, rfl⟩
        · simp [isInner] at other
  | some inner =>
      have smaller := sizeOf_lt_of_inner? isInner
      simp only [surfaceType_eq_error_iff surface package (nameOr field inner) inner unknown]
      constructor
      · rintro ⟨anonymous, endsInUnknown⟩
        exact .inside anonymous isInner endsInUnknown
      · rintro (⟨anonymous, bare, unknown⟩ | ⟨anonymous, other, endsInUnknown⟩)
        · simp [isInner] at bare
        · rw [isInner, Option.some.injEq] at other
          subst other
          exact ⟨anonymous, endsInUnknown⟩
termination_by sizeOf schema

end Schema

namespace Field

/-- A field without a type leads to a primitive type without a name. A list is followed from its
element, even where the list names a message itself; anything else is followed from the field. -/
def Unresolvable (field : Field) (unknown : UnknownPrimitive) : Prop :=
  let one := field.element?.getD field
  Schema.EndsInUnknown one.name one.schema unknown

/-- A field that names a message is unresolvable exactly when it is a list with an element that
is. -/
theorem unresolvable_iff_of_reference {field : Field} {unknown : UnknownPrimitive}
    (named : field.reference?.isSome) :
    field.Unresolvable unknown ↔ field.schema.type = some "array" ∧
      ∃ element, field.element? = some element ∧
        Schema.EndsInUnknown element.name element.schema unknown := by
  have resolved {schema : Schema} {name : String}
      (same : schema.reference = field.schema.reference) :
      ¬ Schema.EndsInUnknown name schema unknown := by
    intro endsInUnknown
    have anonymous := endsInUnknown.anonymous
    rw [same] at anonymous
    rw [reference?, anonymous] at named
    cases named
  rw [Unresolvable]
  cases isElement : field.element? with
  | none => simp [resolved]
  | some element =>
      by_cases isArray : field.schema.type = some "array"
      · simp [isArray]
      · -- The element of any other field is the field itself, taken once.
        have sameReference : element.schema.reference = field.schema.reference := by
          rw [element?, if_neg isArray] at isElement
          split at isElement
          · rw [← Option.some.inj isElement]
          · cases isElement
        simp [isArray, resolved sameReference]

/-- Only repeated fields have elements. -/
theorem element?_eq_none {field : Field} (single : field.isRepeated = false) :
    field.element? = none := by
  rw [isRepeated, Bool.or_eq_false_iff] at single
  obtain ⟨once, noArray⟩ := single
  have notArray : field.schema.type ≠ some "array" := by simpa using noArray
  simp [element?, notArray, once]

/-- A field has no types on a surface exactly when it is unresolvable, which does not depend on the
surface. -/
theorem types_eq_error_iff {surface : Surface} {package : String} {field : Field}
    {unknown : UnknownPrimitive} :
    field.types surface package = .error unknown ↔ field.Unresolvable unknown := by
  rw [types, Unresolvable]
  cases repeated : field.isRepeated with
  | true => simp [map_eq_error_iff, surfaceType, Schema.surfaceType_eq_error_iff]
  | false =>
      simp [map_eq_error_iff, surfaceType, Schema.surfaceType_eq_error_iff,
        element?_eq_none repeated]

end Field

end RequestSurface
