import Mathlib
import RequestSurface.Proofs.Footprint
import RequestSurface.Proofs.WrittenTypes

/-!
# Types of what a field holds

A repeated field holds its element and a map its values. Resolving such a field puts a container
around what resolving the held field alone would give, from the same table and to the same table. A
held field that names a message although it is repeated is the only exception: alone it is a list,
while inside of a container the name goes before everything else, so that one list is lost.
-/

namespace RequestSurface

namespace Container

/-- The types of a field that holds a type in a container. One value of a map is the map itself. -/
def types : Container → SurfaceType → FieldType
  | .list, type => ⟨.list type, type⟩
  | .map, type => ⟨.map type, .map type⟩

/-- Put a container around what was resolved, in the table that this left. A key is written before
the container, and a failure stays as it is. -/
def enclose (surface : Surface) (container : Container) :
    Except UnknownPrimitive SpelledType × ImportTable →
      Except UnknownPrimitive SpelledType × ImportTable
  | (.error unknown, left) => (.error unknown, left)
  | (.ok text, left) =>
      match container with
      | .list =>
          let (name, last) := left.nickname surface surface.listContainer
          (.ok ⟨surface.generic name [text.whole], text.whole⟩, last)
      | .map =>
          let (key, afterKey) := left.nickname surface surface.stringType
          let (name, last) := afterKey.nickname surface surface.mapContainer
          let whole := surface.generic name [key, text.whole]
          (.ok ⟨whole, whole⟩, last)

end Container

/-- A container around a failure is that failure, and a container fails only for this reason. -/
theorem Container.enclose_eq_error_iff {surface : Surface} {container : Container}
    {outcome : Except UnknownPrimitive SpelledType × ImportTable} {unknown : UnknownPrimitive} :
    (container.enclose surface outcome).1 = .error unknown ↔ outcome.1 = .error unknown := by
  rcases outcome with ⟨unknown | text, left⟩
  · exact Iff.rfl
  · cases container <;> simp [enclose]

namespace Field

/-- What a field holds, with the container it is held in: the element of a repeated field that has
one, and the values of a map that is not repeated. A field that names a message can hold an element
too. -/
def held? (field : Field) : Option (Container × Field) :=
  if field.isRepeated then field.element?.map fun element => (Container.list, element)
  else field.mapValue?.map fun value => (Container.map, value)

/-- A field that names a message although it is repeated. -/
def IsRepeatedMessage (field : Field) : Prop :=
  field.isRepeated = true ∧ field.reference?.isSome = true

/-- A field taken as the message that it names. -/
def message (field : Field) : Field where
  name := field.name
  schema := { reference := field.schema.reference }

section Types

variable {surface : Surface} {package : String} {field inner : Field} {container : Container}

/-- The types of a field are made of the type that is written for what it holds. -/
theorem types_of_held? (held : field.held? = some (container, inner)) :
    field.types surface package = (inner.surfaceType surface package).map container.types := by
  rw [held?] at held
  split at held
  · rename_i isRepeated
    obtain ⟨element, isElement, same⟩ := Option.map_eq_some_iff.mp held
    obtain ⟨rfl, rfl⟩ := Prod.mk.inj same
    rw [types, if_pos isRepeated, isElement]
    rfl
  · rename_i isSingle
    obtain ⟨value, isValue, same⟩ := Option.map_eq_some_iff.mp held
    obtain ⟨rfl, rfl⟩ := Prod.mk.inj same
    rw [types, if_neg isSingle, surfaceType_of_mapValue? (by simpa using isSingle) isValue]
    cases value.surfaceType surface package <;> rfl

/-- A repeated field without an element is a list of nothing known. -/
theorem surfaceType_of_no_element (repeats : field.isRepeated = true)
    (unnamed : field.reference? = none) (noElement : field.element? = none) :
    field.surfaceType surface package =
      .error ⟨field.schema.type, field.schema.format, field.name⟩ := by
  have isArray : field.schema.type = some "array" := by
    by_contra notArray
    have flagged : field.schema.repeated = true := by simpa [isRepeated, notArray] using repeats
    simp [element?, notArray, flagged] at noElement
  have bare : field.inside? = none := by simp [inside?, unnamed, repeats, noElement]
  rw [surfaceType_of_bare unnamed bare, Surface.primitive_eq_error_iff, isArray]
  exact ⟨by decide, rfl⟩

/-- The type that is written for a field inside of a container is its whole type, unless the field
names a message although it is repeated. -/
theorem surfaceType_eq_map_whole (proper : ¬ inner.IsRepeatedMessage) :
    inner.surfaceType surface package = (inner.types surface package).map FieldType.whole := by
  cases repeats : inner.isRepeated with
  | false =>
      rw [types, repeats, if_neg Bool.false_ne_true]
      cases inner.surfaceType surface package <;> rfl
  | true =>
      have unnamed : inner.reference? = none := by
        rw [← Option.not_isSome_iff_eq_none]
        exact fun named => proper ⟨repeats, named⟩
      rw [types, repeats, if_pos rfl]
      cases isElement : inner.element? with
      | some element =>
          rw [surfaceType_of_element? unnamed isElement, Option.getD_some]
          cases element.surfaceType surface package <;> rfl
      | none =>
          rw [Option.getD_none, surfaceType_of_no_element repeats unnamed isElement]
          rfl

end Types

end Field

namespace ImportTable

variable {surface : Surface} {package : String} {field inner : Field} {container : Container}

/-- Writing the types of a field is writing its whole type. -/
theorem spellTypes_eq_spell_whole (table : ImportTable) {types : FieldType}
    (resolved : field.types surface package = .ok types) :
    (table.spellTypes surface types).1.whole = (table.spell surface types.whole).1 ∧
      (table.spellTypes surface types).2 = (table.spell surface types.whole).2 := by
  have shape := Field.types_eq_ok resolved
  cases repeats : field.isRepeated with
  | true =>
      rw [repeats, if_pos rfl] at shape
      simp only [spellTypes, shape, spell, spell_again, and_self]
  | false =>
      rw [repeats, if_neg Bool.false_ne_true] at shape
      simp only [spellTypes, shape, spell_again, and_self]

/-- Writing the types of a field that holds a type in a container puts the container around what is
written for that type. -/
theorem enclose_spell (table : ImportTable) (container : Container) (type : SurfaceType)
    {text : SpelledType} (written : text.whole = (table.spell surface type).1) :
    container.enclose surface (.ok text, (table.spell surface type).2) =
      (.ok (table.spellTypes surface (container.types type)).1,
        (table.spellTypes surface (container.types type)).2) := by
  cases container with
  | list => simp only [spellTypes, Container.types, Container.enclose, spell, spell_again, written]
  | map =>
      simp only [spellTypes, Container.types, Container.enclose, spell_again]
      simp only [spell, nickname_stringType, written]

/-- A field that holds something is resolved to the container around what is written for it. -/
theorem resolve_of_held? (table : ImportTable) (held : field.held? = some (container, inner)) :
    table.resolve surface package field =
      match inner.surfaceType surface package with
      | .error unknown => (.error unknown, table)
      | .ok type =>
          (.ok (table.spellTypes surface (container.types type)).1,
            (table.spellTypes surface (container.types type)).2) := by
  rw [resolve, Field.types_of_held? held]
  cases inner.surfaceType surface package <;> rfl

/-- Putting a container around a field that is resolved is writing the container with the type that
is written for the field, unless the field names a message although it is repeated. -/
theorem enclose_resolve (table : ImportTable) (container : Container)
    (proper : ¬ inner.IsRepeatedMessage) :
    container.enclose surface (table.resolve surface package inner) =
      match inner.surfaceType surface package with
      | .error unknown => (.error unknown, table)
      | .ok type =>
          (.ok (table.spellTypes surface (container.types type)).1,
            (table.spellTypes surface (container.types type)).2) := by
  rw [Field.surfaceType_eq_map_whole proper]
  cases resolved : inner.types surface package with
  | error unknown => simp only [resolve, resolved, Except.map, Container.enclose]
  | ok types =>
      obtain ⟨written, left⟩ := table.spellTypes_eq_spell_whole resolved
      simp only [resolve, resolved, Except.map, left]
      exact table.enclose_spell container types.whole written

/-- A field is resolved to the container around what it holds, unless what it holds names a message
although it is repeated. -/
theorem resolve_eq_enclose (table : ImportTable) (held : field.held? = some (container, inner))
    (proper : ¬ inner.IsRepeatedMessage) :
    table.resolve surface package field =
      container.enclose surface (table.resolve surface package inner) := by
  rw [resolve_of_held? table held, enclose_resolve table container proper]

/-- A field that holds one that names a message is resolved to the container around the message. -/
theorem resolve_eq_enclose_message (table : ImportTable)
    (held : field.held? = some (container, inner)) (named : inner.reference?.isSome = true) :
    table.resolve surface package field =
      container.enclose surface (table.resolve surface package inner.message) := by
  obtain ⟨reference, isReference⟩ := Option.isSome_iff_exists.mp named
  have sameReference : inner.message.reference? = some reference := isReference
  have proper : ¬ inner.message.IsRepeatedMessage := fun improper => by cases improper.1
  rw [resolve_of_held? table held, enclose_resolve table container proper,
    Field.surfaceType_of_reference isReference, Field.surfaceType_of_reference sameReference]

end ImportTable

section Brackets

variable {surface : Surface} {package text : String} {table : ImportTable} {type : SurfaceType}

/-- There is no bracket among letters and digits. -/
theorem IsPlainWord.count_bracket (surface : Surface) {word : List Char}
    (plain : IsPlainWord word) : word.count surface.brackets.1 = 0 := by
  rw [List.count_eq_zero]
  intro isThere
  have isPlain := plain _ isThere
  rw [surface.isAlphanum_bracket] at isPlain
  cases isPlain

/-- The text of a type has an opening bracket for each of its containers. -/
theorem Spelled.count_bracket (valid : table.OneToOne)
    (spelled : Spelled surface table.entries type text)
    (mentionable : surface.Mentionable package type.leaf) :
    text.toList.count surface.brackets.1 = type.containers.length := by
  have comma : ',' ≠ surface.brackets.1 := by cases surface <;> decide
  have blank : ' ' ≠ surface.brackets.1 := by cases surface <;> decide
  have closing : surface.brackets.2 ≠ surface.brackets.1 := by cases surface <;> decide
  induction spelled with
  | named name => exact (name.isPlainWord valid mentionable).count_bracket surface
  | list _ container inductionHypothesis =>
      have plain := container.isPlainWord valid (surface.mentionable_listContainer package)
      have inside := inductionHypothesis mentionable
      simp [Surface.toList_generic, SurfaceType.containers, plain.count_bracket, inside, closing]
  | map key _ container inductionHypothesis =>
      have plain := container.isPlainWord valid (surface.mentionable_mapContainer package)
      have keyPlain := key.isPlainWord valid (surface.mentionable_stringType package)
      have inside := inductionHypothesis mentionable
      simp [Surface.toList_generic, SurfaceType.containers, plain.count_bracket,
        keyPlain.count_bracket, comma, blank, inside, closing]

end Brackets

namespace ImportTable

variable {surface : Surface} {package : String} {field inner : Field} {container : Container}

/-- The text of a container has a bracket more than the type it is put around has containers. -/
theorem count_bracket_spellTypes {table : ImportTable} (valid : table.OneToOne)
    (container : Container) {type : SurfaceType}
    (mentionable : surface.Mentionable package type.leaf) :
    (table.spellTypes surface (container.types type)).1.whole.toList.count surface.brackets.1 =
      type.containers.length + 1 := by
  have spelled := (table.spelledWith_spellTypes surface (container.types type)).whole
  have later := (table.extends_spellTypes surface (container.types type)).oneToOne valid
  cases container <;> exact spelled.count_bracket later mentionable

/-- If what a field holds names a message although it is repeated, then the field is not resolved to
the container around it, since a list is missing. -/
theorem resolve_ne_enclose {table : ImportTable} (valid : table.OneToOne)
    (held : field.held? = some (container, inner)) (improper : inner.IsRepeatedMessage) :
    table.resolve surface package field ≠
      container.enclose surface (table.resolve surface package inner) := by
  obtain ⟨repeats, named⟩ := improper
  obtain ⟨reference, isReference⟩ := Option.isSome_iff_exists.mp named
  rw [resolve_of_held? table held, Field.surfaceType_of_reference isReference]
  intro same
  cases resolved : inner.types surface package with
  | error unknown => simp [resolve, resolved, Container.enclose] at same
  | ok types =>
      have isList := Field.types_eq_ok resolved
      rw [repeats, if_pos rfl] at isList
      obtain ⟨written, left⟩ := table.spellTypes_eq_spell_whole resolved
      simp only [resolve, resolved, left] at same
      rw [table.enclose_spell container types.whole written] at same
      have sameText := congrArg SpelledType.whole (Except.ok.inj (congrArg Prod.fst same))
      have message : surface.Mentionable package (surface.messageType package reference).leaf :=
        .message reference
      have messageCount := count_bracket_spellTypes valid container message
      have wholeCount := count_bracket_spellTypes valid container (Field.mentionable_leaf resolved).2
      rw [← sameText, messageCount, isList] at wholeCount
      simp [SurfaceType.containers, Surface.messageType] at wholeCount

end ImportTable

/-- Whatever was called on a table before, a field that holds another one is resolved to the
container around what resolving the held field gives, and fails exactly if that fails, unless the
held field names a message although it is repeated. In that case, and only then, it is not: it is
resolved to the container around the message, and never fails. -/
theorem resolve_composes_iff (surface : Surface) (package : String)
    (calls : List ImportTable.Call) (field inner : Field) (container : Container)
    (held : field.held? = some (container, inner)) :
    let table := ImportTable.performAll surface package {} calls
    let outcome := table.resolve surface package field
    let innerOutcome := table.resolve surface package inner
    (outcome = container.enclose surface innerOutcome ↔ ¬ inner.IsRepeatedMessage) ∧
    (¬ inner.IsRepeatedMessage →
      ∀ unknown, outcome.1 = .error unknown ↔ innerOutcome.1 = .error unknown) ∧
    (inner.IsRepeatedMessage →
      outcome = container.enclose surface (table.resolve surface package inner.message) ∧
      ∃ text, outcome.1 = .ok text) := by
  intro table outcome innerOutcome
  have valid : table.OneToOne :=
    (ImportTable.extends_performAll surface package {} calls).oneToOne .empty
  refine ⟨⟨fun same improper => ?_, fun proper => ?_⟩, fun proper unknown => ?_, fun improper => ?_⟩
  · exact table.resolve_ne_enclose valid held improper same
  · exact table.resolve_eq_enclose held proper
  · have same : outcome = container.enclose surface innerOutcome :=
      table.resolve_eq_enclose held proper
    rw [same, Container.enclose_eq_error_iff]
  · refine ⟨table.resolve_eq_enclose_message held improper.2, ?_⟩
    obtain ⟨reference, isReference⟩ := Option.isSome_iff_exists.mp improper.2
    have resolved : outcome = _ := table.resolve_of_held? held
    rw [Field.surfaceType_of_reference isReference] at resolved
    exact ⟨_, congrArg Prod.fst resolved⟩

/-- A map to lists of dates. -/
def datesByName : Field where
  name := "dates"
  schema :=
    { type := some "object",
      additional := some { type := some "string", format := some "date", repeated := true } }

/-- After something else was imported as a date, the values of this map are lists of dates under
another name, and so they are in the map. -/
theorem resolve_composes_iff_dates :
    ∃ values, datesByName.held? = some (.map, values) ∧
      let table := ImportTable.performAll .python "calendar" {} [.insert "pendulum.date"]
      let outcome := table.resolve .python "calendar" datesByName
      let valuesOutcome := table.resolve .python "calendar" values
      valuesOutcome.1 = .ok ⟨"list[date2]", "date2"⟩ ∧
      outcome.1 = .ok ⟨"dict[str, list[date2]]", "dict[str, list[date2]]"⟩ ∧
      (outcome = Container.map.enclose .python valuesOutcome ↔ ¬ values.IsRepeatedMessage) ∧
      (¬ values.IsRepeatedMessage →
        ∀ unknown, outcome.1 = .error unknown ↔ valuesOutcome.1 = .error unknown) ∧
      (values.IsRepeatedMessage →
        outcome = Container.map.enclose .python
          (table.resolve .python "calendar" values.message) ∧
        ∃ text, outcome.1 = .ok text) := by
  refine ⟨_, rfl, by decide +kernel, by decide +kernel, ?_⟩
  exact resolve_composes_iff .python "calendar" [.insert "pendulum.date"] datesByName _ .map rfl

/-- An array of repeated disks. -/
def diskLists : Field where
  name := "disks"
  schema :=
    { type := some "array", items := some { reference := some "Disk", repeated := true } }

/-- An array whose items name a message although they are repeated is written as a list of messages,
while its items alone are such a list already. -/
theorem repeated_messages_lose_a_list :
    ¬ ∀ (surface : Surface) (package : String) (calls : List ImportTable.Call)
        (field inner : Field) (container : Container), field.held? = some (container, inner) →
        let table := ImportTable.performAll surface package {} calls
        table.resolve surface package field =
          container.enclose surface (table.resolve surface package inner) := by
  intro composes
  have same := composes .python "compute_v1" [] diskLists _ .list rfl
  have flat : (({} : ImportTable).resolve .python "compute_v1" diskLists).1 =
      .ok ⟨"list[Disk]", "Disk"⟩ := by decide +kernel
  have nested : (Container.list.enclose .python
      (({} : ImportTable).resolve .python "compute_v1"
        (.ofSchema { reference := some "Disk", repeated := true } (some "disks")))).1 =
      .ok ⟨"list[list[Disk]]", "list[Disk]"⟩ := by decide +kernel
  have sameText := flat.symm.trans ((congrArg Prod.fst same).trans nested)
  simp at sameText

end RequestSurface
