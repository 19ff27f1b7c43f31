import Mathlib
import RequestSurface.Proofs.ImportHistory
import RequestSurface.Proofs.MentionedNames
import RequestSurface.Proofs.PropertySources

/-!
# What resolving a field records

A field is followed to its leaf: through the elements of lists and the values of maps, up to a name
or a primitive type. Names are recorded on the way there and on the way back, so a leaf that cannot
be written is found when some names may be recorded already. `ImportTable.resolveInTurn` records in
this order; it agrees with resolving at once, since the only name in front of a leaf is that of the
key of a map, which is never imported.
-/

namespace RequestSurface

namespace Container

/-- A container around a type. -/
def around : Container → SurfaceType → SurfaceType
  | .list => .list
  | .map => .map

end Container

namespace Field

/-- What is inside of a field that names no message, and the container that it is in: an element of
a repeated field that has one, and a value of a map that is not repeated. -/
def inside? (field : Field) : Option (Container × Field) :=
  if field.reference?.isSome then none
  else if field.isRepeated then field.element?.map fun element => (Container.list, element)
  else field.mapValue?.map fun value => (Container.map, value)

/-- How far a field is from its leaf at most. A repeated schema weighs more than the same schema
taken once. -/
noncomputable def weight (field : Field) : Nat :=
  2 * sizeOf field.schema + field.schema.repeated.toNat

/-- What a field holds in a list weighs less than the field. -/
theorem weight_lt_of_element? {field element : Field} (isElement : field.element? = some element) :
    element.weight < field.weight := by
  obtain ⟨name, id, type, reference, description, format, required, repeated, location, items,
    additional⟩ := field
  simp only [element?] at isElement
  split at isElement
  · obtain ⟨inner, rfl, rfl⟩ := Option.map_eq_some_iff.mp isElement
    have flag := Bool.toNat_le inner.repeated
    simp only [weight, ofSchema, Schema.mk.sizeOf_spec, Option.some.sizeOf_spec]
    omega
  · split at isElement
    · rename_i isRepeated
      obtain rfl := Option.some.inj isElement
      simp [weight, isRepeated]
    · cases isElement

/-- What a field holds in a map weighs less than the field. -/
theorem weight_lt_of_mapValue? {field value : Field} (isValue : field.mapValue? = some value) :
    value.weight < field.weight := by
  obtain ⟨name, id, type, reference, description, format, required, repeated, location, items,
    additional⟩ := field
  simp only [mapValue?] at isValue
  split at isValue
  · cases isValue
  · obtain ⟨inner, rfl, rfl⟩ := Option.map_eq_some_iff.mp isValue
    have flag := Bool.toNat_le inner.repeated
    simp only [weight, ofSchema, Schema.mk.sizeOf_spec, Option.some.sizeOf_spec]
    omega

/-- What is inside of a field weighs less than the field. -/
theorem weight_lt_of_inside? {field inner : Field} {container : Container}
    (isInside : field.inside? = some (container, inner)) : inner.weight < field.weight := by
  rw [inside?] at isInside
  split at isInside
  · cases isInside
  · split at isInside
    · obtain ⟨element, isElement, same⟩ := Option.map_eq_some_iff.mp isInside
      obtain ⟨-, rfl⟩ := Prod.mk.inj same
      exact weight_lt_of_element? isElement
    · obtain ⟨value, isValue, same⟩ := Option.map_eq_some_iff.mp isInside
      obtain ⟨-, rfl⟩ := Prod.mk.inj same
      exact weight_lt_of_mapValue? isValue

/-- The field at the end of the way inside. -/
def leaf (field : Field) : Field :=
  match _isInside : field.inside? with
  | some (_, inner) => inner.leaf
  | none => field
termination_by field.weight
decreasing_by exact weight_lt_of_inside? _isInside

/-- The field that is written to resolve a field: its element if it is repeated and has one. -/
def single (field : Field) : Field :=
  if field.isRepeated then field.element?.getD field else field

/-- A field with nothing inside is its own leaf. -/
theorem leaf_of_bare {field : Field} (bare : field.inside? = none) : field.leaf = field := by
  rw [leaf.eq_def]
  split
  · rename_i isInside
    rw [bare] at isInside
    cases isInside
  · rfl

/-- The leaf of any other field is that of what is inside. -/
theorem leaf_of_inside? {field inner : Field} {container : Container}
    (isInside : field.inside? = some (container, inner)) : field.leaf = inner.leaf := by
  rw [leaf.eq_def]
  split
  · rename_i same
    rw [isInside] at same
    obtain ⟨-, rfl⟩ := Prod.mk.inj (Option.some.inj same)
    rfl
  · rename_i bare
    rw [isInside] at bare
    cases bare

section Types

variable {surface : Surface} {package : String} {field : Field}

/-- The type of a field that names a message is that message. -/
theorem surfaceType_of_reference {reference : String}
    (named : field.reference? = some reference) :
    field.surfaceType surface package = .ok (surface.messageType package reference) := by
  obtain ⟨name, id, type, _, description, format, required, repeated, location, items,
    additional⟩ := field
  rw [surfaceType, Schema.surfaceType.eq_def]
  rw [reference?] at named
  simp only [named]

/-- The type of a field that names no message but has an element is a list of that element. -/
theorem surfaceType_of_element? {element : Field} (unnamed : field.reference? = none)
    (isElement : field.element? = some element) :
    field.surfaceType surface package = (element.surfaceType surface package).map .list := by
  obtain ⟨name, id, type, reference, description, format, required, repeated, location, items,
    additional⟩ := field
  have anonymous : Schema.referenceName? reference = none := unnamed
  rw [surfaceType, surfaceType, Schema.surfaceType.eq_def]
  simp only [element?] at isElement
  split at isElement
  · rename_i isArray
    obtain ⟨inner, rfl, rfl⟩ := Option.map_eq_some_iff.mp isElement
    simp [anonymous, isArray, ofSchema]
  · rename_i notArray
    split at isElement
    · rename_i isRepeated
      obtain rfl := Option.some.inj isElement
      conv_rhs => rw [Schema.surfaceType.eq_def]
      simp only [anonymous, notArray, isRepeated, if_true, if_false, Bool.false_eq_true]
    · cases isElement

/-- The type of a field that is not repeated and has values is a map to these values. -/
theorem surfaceType_of_mapValue? {value : Field} (single : field.isRepeated = false)
    (isValue : field.mapValue? = some value) :
    field.surfaceType surface package = (value.surfaceType surface package).map .map := by
  obtain ⟨name, id, type, reference, description, format, required, repeated, location, items,
    additional⟩ := field
  rw [surfaceType, surfaceType, Schema.surfaceType.eq_def]
  simp only [mapValue?] at isValue
  split at isValue
  · cases isValue
  · rename_i isMap
    obtain ⟨unnamed, isObject⟩ := not_or.mp isMap
    obtain ⟨inner, rfl, rfl⟩ := Option.map_eq_some_iff.mp isValue
    have anonymous : Schema.referenceName? reference = none := by
      simpa [reference?] using unnamed
    have once : repeated = false := (Bool.or_eq_false_iff.mp single).1
    simp [anonymous, not_not.mp isObject, once, ofSchema]

/-- The type of a field with nothing inside that names no message is primitive. -/
theorem surfaceType_of_bare (unnamed : field.reference? = none) (bare : field.inside? = none) :
    field.surfaceType surface package =
      surface.primitive field.name field.schema.type field.schema.format := by
  rw [inside?, unnamed, Option.isSome_none, if_neg Bool.false_ne_true] at bare
  obtain ⟨name, id, type, reference, description, format, required, repeated, location, items,
    additional⟩ := field
  have anonymous : Schema.referenceName? reference = none := unnamed
  rw [surfaceType, Schema.surfaceType.eq_def]
  by_cases isArray : type = some "array"
  · cases items with
    | none => simp [anonymous, isArray]
    | some items => simp [isRepeated, element?, isArray] at bare
  · cases repeated with
    | true => simp [isRepeated, element?, isArray] at bare
    | false =>
        cases additional with
        | none => simp [anonymous, isArray]
        | some values =>
            by_cases isObject : type = some "object"
            · subst isObject
              simp [isRepeated, mapValue?, unnamed] at bare
            · simp [anonymous, isArray, isObject]

/-- The type of a field is that of what is inside, in its container. -/
theorem surfaceType_of_inside? {inner : Field} {container : Container}
    (isInside : field.inside? = some (container, inner)) :
    field.surfaceType surface package =
      (inner.surfaceType surface package).map container.around := by
  rw [inside?] at isInside
  split at isInside
  · cases isInside
  · rename_i unnamed
    split at isInside
    · obtain ⟨element, isElement, same⟩ := Option.map_eq_some_iff.mp isInside
      obtain ⟨rfl, rfl⟩ := Prod.mk.inj same
      exact surfaceType_of_element? (by simpa using unnamed) isElement
    · rename_i single
      obtain ⟨value, isValue, same⟩ := Option.map_eq_some_iff.mp isInside
      obtain ⟨rfl, rfl⟩ := Prod.mk.inj same
      exact surfaceType_of_mapValue? (by simpa using single) isValue

/-- A field cannot be written exactly when its leaf names no message and has a type that is not
primitive. The type that is told is that of the leaf. -/
theorem surfaceType_eq_error_iff_leaf (surface : Surface) (package : String) (field : Field)
    (unknown : UnknownPrimitive) :
    field.surfaceType surface package = .error unknown ↔
      (field.leaf.reference? = none ∧
        ∀ known ∈ primitiveTypes, field.leaf.schema.type ≠ some known) ∧
      unknown = ⟨field.leaf.schema.type, field.leaf.schema.format, field.leaf.name⟩ := by
  cases isInside : field.inside? with
  | none =>
      rw [leaf_of_bare isInside]
      cases named : field.reference? with
      | some reference => simp [surfaceType_of_reference named]
      | none => simp [surfaceType_of_bare named isInside, Surface.primitive_eq_error_iff]
  | some entry =>
      obtain ⟨container, inner⟩ := entry
      have lighter := weight_lt_of_inside? isInside
      rw [leaf_of_inside? isInside, surfaceType_of_inside? isInside, map_eq_error_iff]
      exact surfaceType_eq_error_iff_leaf surface package inner unknown
termination_by field.weight

/-- The types of a field are those of its element, in a list if the field is repeated. -/
theorem types_eq_map_single :
    field.types surface package =
      (field.single.surfaceType surface package).map fun inner =>
        ⟨if field.isRepeated then .list inner else inner, inner⟩ := by
  rw [types, single]
  cases field.isRepeated <;> rfl

end Types

end Field

namespace ImportTable

variable {surface : Surface} {package : String} {table : ImportTable} {field : Field}

/-- Write the type of a field on the way to its leaf and back: a key is recorded before the values
of its map, a container after what is inside. -/
def writeInTurn (surface : Surface) (package : String) (table : ImportTable) (field : Field) :
    Except UnknownPrimitive String × ImportTable :=
  match field.reference? with
  | some reference =>
      let (name, next) :=
        table.nickname surface (surface.messageName package (surface.className reference))
      (.ok name, next)
  | none =>
      match _isInside : field.inside? with
      | some (.list, element) =>
          match table.writeInTurn surface package element with
          | (.error unknown, left) => (.error unknown, left)
          | (.ok inner, left) =>
              let (container, last) := left.nickname surface surface.listContainer
              (.ok (surface.generic container [inner]), last)
      | some (.map, value) =>
          let (key, afterKey) := table.nickname surface surface.stringType
          match afterKey.writeInTurn surface package value with
          | (.error unknown, left) => (.error unknown, left)
          | (.ok inner, left) =>
              let (container, last) := left.nickname surface surface.mapContainer
              (.ok (surface.generic container [key, inner]), last)
      | none =>
          match surface.primitiveType? field.schema.type field.schema.format with
          | some qualifiedName =>
              let (name, next) := table.nickname surface qualifiedName
              (.ok name, next)
          | none => (.error ⟨field.schema.type, field.schema.format, field.name⟩, table)
termination_by field.weight
decreasing_by all_goals exact Field.weight_lt_of_inside? _isInside

/-- Resolve a field, recording names in turn. The container of a repeated field is recorded last. -/
def resolveInTurn (surface : Surface) (package : String) (table : ImportTable) (field : Field) :
    Except UnknownPrimitive SpelledType × ImportTable :=
  match table.writeInTurn surface package field.single with
  | (.error unknown, left) => (.error unknown, left)
  | (.ok inner, left) =>
      if field.isRepeated then
        let (container, last) := left.nickname surface surface.listContainer
        (.ok ⟨surface.generic container [inner], inner⟩, last)
      else (.ok ⟨inner, inner⟩, left)

/-- A type that can be written is written in turn as it is at once, and one that cannot be written
leaves the table as it was. -/
theorem writeInTurn_eq (surface : Surface) (package : String) (table : ImportTable)
    (field : Field) :
    table.writeInTurn surface package field =
      match field.surfaceType surface package with
      | .error unknown => (.error unknown, table)
      | .ok type => (.ok (table.spell surface type).1, (table.spell surface type).2) := by
  rw [writeInTurn.eq_def]
  cases named : field.reference? with
  | some reference =>
      rw [Field.surfaceType_of_reference named]
      rfl
  | none =>
      dsimp only
      split
      · rename_i element isInside
        have lighter := Field.weight_lt_of_inside? isInside
        rw [Field.surfaceType_of_inside? isInside, writeInTurn_eq surface package table element]
        cases element.surfaceType surface package <;> rfl
      · rename_i value isInside
        have lighter := Field.weight_lt_of_inside? isInside
        -- Nothing is left of the key if the value cannot be written.
        rw [Field.surfaceType_of_inside? isInside, writeInTurn_eq surface package _ value]
        cases value.surfaceType surface package with
        | error unknown => simp [nickname_stringType, Except.map]
        | ok type => rfl
      · rename_i bare
        rw [Field.surfaceType_of_bare named bare, Surface.primitive]
        cases surface.primitiveType? field.schema.type field.schema.format <;> rfl
termination_by field.weight

/-- Recording names that are recorded already changes nothing. -/
theorem insertAll_of_known {names : List String}
    (known : ∀ name ∈ names, table.contains name = true) : table.insertAll names = table := by
  induction names with
  | nil => rfl
  | cons name rest inductionHypothesis =>
      obtain ⟨localName, isKnown⟩ := Option.isSome_iff_exists.mp (known name List.mem_cons_self)
      rw [insertAll, List.foldl_cons, insert_of_known isKnown]
      exact inductionHypothesis fun other member => known other (List.mem_cons_of_mem _ member)

/-- When names are recorded, they are there beside those that were there. -/
theorem contains_insertAll_iff {names : List String} {name : String} :
    (table.insertAll names).contains name = true ↔ table.contains name = true ∨ name ∈ names := by
  induction names generalizing table with
  | nil => simp [insertAll]
  | cons first rest inductionHypothesis =>
      have one : (table.insert first).2.contains name = true ↔
          table.contains name = true ∨ name = first := by
        simp only [contains_iff]
        cases known : table.localName? first with
        | some localName =>
            have isThere := List.mem_map_of_mem (f := Import.qualifiedName) (mem_of_localName? known)
            rw [insert_of_known known]
            constructor
            · exact .inl
            · rintro (isOld | rfl)
              · exact isOld
              · exact isThere
        | none => simp [insert_of_new known, or_comm]
      rw [insertAll, List.foldl_cons]
      change ((table.insert first).2.insertAll rest).contains name = true ↔ _
      rw [inductionHypothesis, one, List.mem_cons, or_assoc]

/-- A type that was just spelled is spelled again in the same way, and nothing is left to record. -/
theorem spell_again (surface : Surface) (table : ImportTable) (type : SurfaceType) :
    (table.spell surface type).2.spell surface type = table.spell surface type := by
  refine Prod.ext (table.spell_eq_of_extends surface (.refl _)) ?_
  rw [spell_table, spell_table]
  exact insertAll_of_known fun name member => contains_insertAll_iff.mpr (.inr member)

/-- Resolving a field in turn is resolving it at once. -/
theorem resolve_eq_resolveInTurn (surface : Surface) (package : String) (table : ImportTable)
    (field : Field) :
    table.resolve surface package field = table.resolveInTurn surface package field := by
  rw [resolve, resolveInTurn, writeInTurn_eq, Field.types_eq_map_single]
  cases field.single.surfaceType surface package with
  | error unknown => rfl
  | ok inner =>
      cases field.isRepeated with
      | true => simp only [Except.map, spellTypes, if_true, spell, spell_again]
      | false => simp only [Except.map, spellTypes, Bool.false_eq_true, if_false, spell_again]

/-- Writing the types of a field records what has to be imported of the names that stand in the
whole type. -/
theorem contains_spellTypes_iff {types : FieldType} {name : String}
    (within : types.inner.mentions surface ⊆ types.whole.mentions surface) :
    (table.spellTypes surface types).2.contains name = true ↔
      table.contains name = true ∨
        name ∈ types.whole.mentions surface ∧ moduleName name ∉ surface.implicitModules := by
  simp only [spellTypes, spell_table, contains_insertAll_iff, List.mem_filter,
    Surface.needsImport, decide_eq_true_eq]
  constructor
  · rintro ((isOld | ⟨inInner, explicit⟩) | isNew)
    · exact .inl isOld
    · exact .inr ⟨within inInner, explicit⟩
    · exact .inr isNew
  · rintro (isOld | isNew)
    · exact .inl (.inl isOld)
    · exact .inr isNew

end ImportTable

/-- The names that stand in the inner type of a field stand in the whole one. -/
theorem Field.mentions_inner_subset {surface : Surface} {package : String} {field : Field}
    {types : FieldType} (resolved : field.types surface package = .ok types) :
    types.inner.mentions surface ⊆ types.whole.mentions surface := by
  rw [Field.types_eq_ok resolved]
  cases field.isRepeated with
  | true => exact List.subset_append_left _ _
  | false => exact List.Subset.refl _

/-- Resolving a field fails exactly when its leaf names no message and has a type that is not
primitive, whatever its format and whatever is around it. Although names are recorded in turn on the
way to the leaf and back, a failure leaves the table as it was. A success spells the types of the
field with the imports that it leaves, and records, beside what was there, what has to be imported
of the names that stand in its type. -/
theorem resolve_atomic (surface : Surface) (package : String) (table : ImportTable)
    (field : Field) :
    let outcome := table.resolve surface package field
    let leaf := field.single.leaf
    outcome = table.resolveInTurn surface package field ∧
    ((∃ unknown, outcome.1 = .error unknown) ↔
      leaf.reference? = none ∧ ∀ known ∈ primitiveTypes, leaf.schema.type ≠ some known) ∧
    (∀ unknown, outcome.1 = .error unknown → outcome.2 = table) ∧
    ∀ text, outcome.1 = .ok text →
      ∃ types, field.types surface package = .ok types ∧
        SpelledWith surface outcome.2.entries types text ∧ table.Extends outcome.2 ∧
        ∀ name, outcome.2.contains name = true ↔
          table.contains name = true ∨
            name ∈ types.whole.mentions surface ∧ moduleName name ∉ surface.implicitModules := by
  intro outcome leaf
  refine ⟨table.resolve_eq_resolveInTurn surface package field, ?_⟩
  have atLeaf (unknown : UnknownPrimitive) := Field.surfaceType_eq_error_iff_leaf surface package
    field.single unknown
  cases typed : field.types surface package with
  | error unknown =>
      have isOutcome : outcome = (.error unknown, table) := by
        simp only [outcome, ImportTable.resolve, typed]
      rw [Field.types_eq_map_single, map_eq_error_iff, atLeaf] at typed
      rw [isOutcome]
      exact ⟨iff_of_true ⟨unknown, rfl⟩ typed.1, by simp, by simp⟩
  | ok types =>
      have isOutcome : outcome = (.ok (table.spellTypes surface types).1,
          (table.spellTypes surface types).2) := by
        simp only [outcome, ImportTable.resolve, typed]
      have resolvable : ¬ (leaf.reference? = none ∧
          ∀ known ∈ primitiveTypes, leaf.schema.type ≠ some known) := by
        intro unresolvable
        have failed := (atLeaf _).mpr ⟨unresolvable, rfl⟩
        rw [Field.types_eq_map_single, failed] at typed
        cases typed
      rw [isOutcome]
      refine ⟨iff_of_false (by simp) resolvable, by simp, fun text success => ?_⟩
      obtain rfl := Except.ok.inj success
      exact ⟨types, rfl, table.spelledWith_spellTypes surface types,
        table.extends_spellTypes surface types,
        fun name => ImportTable.contains_spellTypes_iff (Field.mentions_inner_subset typed)⟩

end RequestSurface
