import Mathlib
import RequestSurface.Proofs.QualifiedNames
import RequestSurface.Proofs.Resolvable

/-!
# Names that types mention

The types of fields mention few names: those of messages, and names that are fixed for a surface.
The fixed names are told apart by their short names, and none of these ends in a digit. Without its
containers, the type of a field is one name that types mention.
-/

namespace RequestSurface

namespace Surface

/-- The names that the types of fields mention on a surface beside those of messages, and those that
units import. -/
def fixedNames (surface : Surface) : List String :=
  surface.stringType :: surface.listContainer :: surface.mapContainer ::
    surface.primitives.map Prod.snd ++ java.coreImports ++ python.coreImports

/-- Fixed names are told apart by their short names. -/
theorem eq_of_mem_fixedNames {surface : Surface} {name other : String}
    (listed : name ∈ surface.fixedNames) (otherListed : other ∈ surface.fixedNames)
    (same : shortName name = shortName other) : name = other := by
  have distinct : (surface.fixedNames.dedup.map shortName).Nodup := by
    cases surface <;> decide +kernel
  exact List.inj_on_of_nodup_map distinct (List.mem_dedup.mpr listed)
    (List.mem_dedup.mpr otherListed) same

/-- The short name of a fixed name consists of letters and digits and does not end in a digit, and
that of what is built into Python begins with a small letter. -/
theorem shape_of_mem_fixedNames {surface : Surface} {name : String}
    (listed : name ∈ surface.fixedNames) :
    IsPlainWord (shortName name).toList ∧ ¬ EndsInDigit (shortName name) ∧
      (surface = .python → surface.needsImport name = false →
        (shortName name).toList.head?.any Char.isLower = true) := by
  have shaped : ∀ name ∈ surface.fixedNames,
      (shortName name).toList.all Char.isAlphanum = true ∧ ¬ EndsInDigit (shortName name) ∧
        (surface = .python → surface.needsImport name = false →
          (shortName name).toList.head?.any Char.isLower = true) := by
    cases surface <;> decide +kernel
  exact (shaped name listed).imp_left List.all_eq_true.mp

/-- What units import on one surface has to be imported on every surface. -/
theorem needsImport_of_mem_coreImports {surface other : Surface} {name : String}
    (listed : name ∈ other.coreImports) : surface.needsImport name = true := by
  have explicit : ∀ name ∈ other.coreImports, surface.needsImport name = true := by
    cases surface <;> cases other <;> decide +kernel
  exact explicit name listed

/-- A name that the types of fields mention or that units import. -/
inductive Mentionable (surface : Surface) (package : String) : String → Prop where
  | message (reference : String) :
      Mentionable surface package (surface.messageName package (surface.className reference))
  | fixed {name : String} (listed : name ∈ surface.fixedNames) : Mentionable surface package name

/-- Types may mention the type of strings. -/
theorem mentionable_stringType (surface : Surface) (package : String) :
    surface.Mentionable package surface.stringType :=
  .fixed (by simp [fixedNames])

/-- Types may mention the container of lists. -/
theorem mentionable_listContainer (surface : Surface) (package : String) :
    surface.Mentionable package surface.listContainer :=
  .fixed (by simp [fixedNames])

/-- Types may mention the container of maps. -/
theorem mentionable_mapContainer (surface : Surface) (package : String) :
    surface.Mentionable package surface.mapContainer :=
  .fixed (by simp [fixedNames])

/-- The short names of what types mention consist of letters and digits. -/
theorem Mentionable.isPlainWord_shortName {surface : Surface} {package name : String}
    (mentionable : surface.Mentionable package name) : IsPlainWord (shortName name).toList := by
  cases mentionable with
  | message reference =>
      rw [shortName_messageName]
      exact surface.isPlainWord_className reference
  | fixed listed => exact (shape_of_mem_fixedNames listed).1

end Surface

/-- What values are contained in. -/
inductive Container where
  | list
  | map
  deriving DecidableEq, Repr

namespace SurfaceType

/-- The containers of a type, the outermost first. -/
def containers : SurfaceType → List Container
  | .named _ => []
  | .list element => .list :: element.containers
  | .map value => .map :: value.containers

/-- The name that is left of a type without its containers. -/
def leaf : SurfaceType → String
  | .named qualifiedName => qualifiedName
  | .list element => element.leaf
  | .map value => value.leaf

/-- A type is known from its containers and its leaf. -/
theorem eq_iff {type other : SurfaceType} :
    type = other ↔ type.containers = other.containers ∧ type.leaf = other.leaf := by
  induction type generalizing other with
  | named qualifiedName => cases other <;> simp [containers, leaf]
  | list element inductionHypothesis =>
      cases other with
      | list otherElement => simp [containers, leaf, inductionHypothesis]
      | named | map => simp [containers]
  | map value inductionHypothesis =>
      cases other with
      | map otherValue => simp [containers, leaf, inductionHypothesis]
      | named | list => simp [containers]

/-- A type mentions its leaf, and beside it only what its containers are made of. -/
theorem mentionable_of_mem_mentions {surface : Surface} {package : String} {type : SurfaceType}
    (mentionable : surface.Mentionable package type.leaf) {name : String}
    (member : name ∈ type.mentions surface) : surface.Mentionable package name := by
  induction type with
  | named qualifiedName =>
      rw [List.mem_singleton.mp member]
      exact mentionable
  | list element inductionHypothesis =>
      rcases List.mem_append.mp member with inElement | isContainer
      · exact inductionHypothesis mentionable inElement
      · rw [List.mem_singleton.mp isContainer]
        exact surface.mentionable_listContainer package
  | map value inductionHypothesis =>
      rcases List.mem_append.mp member with inFront | isContainer
      · rcases List.mem_cons.mp inFront with rfl | inValue
        · exact surface.mentionable_stringType package
        · exact inductionHypothesis mentionable inValue
      · rw [List.mem_singleton.mp isContainer]
        exact surface.mentionable_mapContainer package

end SurfaceType

/-- The leaf of a primitive type is a fixed name. -/
theorem Surface.mentionable_of_primitive {surface : Surface} {package field : String}
    {type format : Option String} {resolved : SurfaceType}
    (success : surface.primitive field type format = .ok resolved) :
    surface.Mentionable package resolved.leaf := by
  have isValue {primitive : Primitive} {name : String}
      (found : surface.primitives.lookup primitive = some name) :
      surface.Mentionable package name := by
    obtain ⟨front, back, table, -⟩ := List.lookup_eq_some_iff.mp found
    exact .fixed (by simp [fixedNames, table])
  rw [primitive] at success
  cases found : surface.primitiveType? type format with
  | none => simp [found] at success
  | some name =>
      simp only [found, Except.ok.injEq] at success
      subst success
      obtain ⟨given, -, listed⟩ := Option.bind_eq_some_iff.mp found
      rcases Option.or_eq_some_iff.mp listed with ofFormat | ⟨-, ofType⟩
      · exact isValue ofFormat
      · exact isValue ofType

namespace Schema

variable {surface : Surface} {package field : String} {schema : Schema} {type : SurfaceType}

/-- A repeated schema has the leaf of what it would be otherwise. -/
theorem exists_once {single : Except UnknownPrimitive SurfaceType} {repeated : Bool}
    (resolved : (if repeated = true then single.map .list else single) = .ok type) :
    ∃ once, single = .ok once ∧ type.leaf = once.leaf := by
  cases repeated with
  | false => exact ⟨type, resolved, rfl⟩
  | true =>
      obtain ⟨once, isOnce, rfl⟩ := exists_of_map_eq_ok resolved
      exact ⟨once, isOnce, rfl⟩

/-- The leaf of a schema's type is a message that the schema names, the leaf of what is inside, or a
primitive type. -/
theorem leaf_of_surfaceType (resolved : schema.surfaceType surface package field = .ok type) :
    (∃ reference, type.leaf = surface.messageName package (surface.className reference)) ∨
    (∃ inner given, schema.inner? = some inner ∧
      inner.surfaceType surface package (nameOr field inner) = .ok given ∧
      type.leaf = given.leaf) ∨
    ∃ given, surface.primitive field schema.type schema.format = .ok given ∧
      type.leaf = given.leaf := by
  obtain ⟨id, given, reference, description, format, required, repeated, location, items,
    additional⟩ := schema
  rw [surfaceType.eq_def] at resolved
  cases named : referenceName? reference with
  | some name =>
      simp only [named, Except.ok.injEq] at resolved
      exact .inl ⟨name, by rw [← resolved, Surface.messageType, SurfaceType.leaf]⟩
  | none =>
      by_cases isArray : given = some "array"
      · simp only [named, isArray, if_true] at resolved
        cases items with
        | none => exact .inr (.inr ⟨type, by simpa [isArray] using resolved, rfl⟩)
        | some inner =>
            obtain ⟨element, isElement, rfl⟩ := exists_of_map_eq_ok resolved
            exact .inr (.inl ⟨inner, element, by simp [inner?, isArray], isElement, rfl⟩)
      · simp only [named, isArray, if_false] at resolved
        obtain ⟨once, isOnce, same⟩ := exists_once resolved
        cases additional with
        | none => exact .inr (.inr ⟨once, isOnce, same⟩)
        | some values =>
            by_cases isObject : given = some "object"
            · simp only [isObject, if_true] at isOnce
              obtain ⟨value, isValue, rfl⟩ := exists_of_map_eq_ok isOnce
              exact .inr (.inl ⟨values, value, by simp [inner?, isObject], isValue, same⟩)
            · simp only [isObject, if_false] at isOnce
              exact .inr (.inr ⟨once, isOnce, same⟩)

/-- The leaf of a schema's type is a name that types mention. -/
theorem mentionable_leaf (surface : Surface) (package field : String) (schema : Schema)
    (type : SurfaceType) (resolved : schema.surfaceType surface package field = .ok type) :
    surface.Mentionable package type.leaf := by
  rcases leaf_of_surfaceType resolved with ⟨reference, same⟩ |
    ⟨inner, given, isInner, isGiven, same⟩ | ⟨given, isGiven, same⟩
  · rw [same]
    exact .message reference
  · have smaller := sizeOf_lt_of_inner? isInner
    rw [same]
    exact mentionable_leaf surface package (nameOr field inner) inner given isGiven
  · rw [same]
    exact Surface.mentionable_of_primitive isGiven
termination_by sizeOf schema

end Schema

/-- Both types of a field have the same leaf, which is a name that types mention. -/
theorem Field.mentionable_leaf {surface : Surface} {package : String} {field : Field}
    {types : FieldType} (resolved : field.types surface package = .ok types) :
    types.inner.leaf = types.whole.leaf ∧ surface.Mentionable package types.whole.leaf := by
  rw [Field.types] at resolved
  cases repeated : field.isRepeated with
  | true =>
      simp only [repeated, if_true] at resolved
      obtain ⟨inner, isInner, rfl⟩ := exists_of_map_eq_ok resolved
      exact ⟨rfl, Schema.mentionable_leaf _ _ _ _ inner isInner⟩
  | false =>
      simp only [repeated, Bool.false_eq_true, if_false] at resolved
      obtain ⟨whole, isWhole, rfl⟩ := exists_of_map_eq_ok resolved
      exact ⟨rfl, Schema.mentionable_leaf _ _ _ _ whole isWhole⟩

end RequestSurface
