import Mathlib
import RequestSurface.OutputUnit
import RequestSurface.Proofs.ImportTable

/-!
# How types are spelled

`Spelled` says how a surface type is written in a file with some imports, without a table that
grows on the way: every name of an implicit module by its short name, every other name by an alias
it is imported under. What is spelled with some imports stays spelled when imports are added, so the
types that a table spelled along the way are spelled with the imports of any later state.
-/

namespace RequestSurface

/-- How a qualified name is written in a file with some imports. -/
inductive WrittenName (surface : Surface) (imports : List Import) (qualifiedName : String) :
    String → Prop where
  | implicit (isImplicit : moduleName qualifiedName ∈ surface.implicitModules) :
      WrittenName surface imports qualifiedName (shortName qualifiedName)
  | imported {localName : String}
      (isExplicit : moduleName qualifiedName ∉ surface.implicitModules)
      (entry : ⟨qualifiedName, localName⟩ ∈ imports) :
      WrittenName surface imports qualifiedName localName

/-- How a surface type is written in a file with some imports. -/
inductive Spelled (surface : Surface) (imports : List Import) : SurfaceType → String → Prop where
  | named {qualifiedName text : String}
      (name : WrittenName surface imports qualifiedName text) :
      Spelled surface imports (.named qualifiedName) text
  | list {element : SurfaceType} {inner container : String}
      (elementSpelled : Spelled surface imports element inner)
      (containerName : WrittenName surface imports surface.listContainer container) :
      Spelled surface imports (.list element) (surface.generic container [inner])
  | map {value : SurfaceType} {key inner container : String}
      (keyName : WrittenName surface imports surface.stringType key)
      (valueSpelled : Spelled surface imports value inner)
      (containerName : WrittenName surface imports surface.mapContainer container) :
      Spelled surface imports (.map value) (surface.generic container [key, inner])

/-- Both types of a field are written as they are in a file with some imports. -/
structure SpelledWith (surface : Surface) (imports : List Import) (types : FieldType)
    (text : SpelledType) : Prop where
  whole : Spelled surface imports types.whole text.whole
  inner : Spelled surface imports types.inner text.inner

section Monotone

variable {surface : Surface} {imports more : List Import}

/-- A name is written the same way when imports are added. -/
theorem WrittenName.mono {qualifiedName text : String} (added : imports ⊆ more)
    (written : WrittenName surface imports qualifiedName text) :
    WrittenName surface more qualifiedName text := by
  cases written with
  | implicit isImplicit => exact .implicit isImplicit
  | imported isExplicit entry => exact .imported isExplicit (added entry)

/-- A type is spelled the same way when imports are added. -/
theorem Spelled.mono {type : SurfaceType} {text : String} (added : imports ⊆ more)
    (spelled : Spelled surface imports type text) : Spelled surface more type text := by
  induction spelled with
  | named name => exact .named (name.mono added)
  | list _ containerName inductionHypothesis =>
      exact .list inductionHypothesis (containerName.mono added)
  | map keyName _ containerName inductionHypothesis =>
      exact .map (keyName.mono added) inductionHypothesis (containerName.mono added)

/-- The types of a field are spelled the same way when imports are added. -/
theorem SpelledWith.mono {types : FieldType} {text : SpelledType} (added : imports ⊆ more)
    (spelled : SpelledWith surface imports types text) : SpelledWith surface more types text :=
  ⟨spelled.whole.mono added, spelled.inner.mono added⟩

end Monotone

section Unique

variable {surface : Surface} {imports : List Import}
  (distinct : (imports.map Import.qualifiedName).Nodup)
include distinct

/-- If no name is imported twice, a name is written in one way only. -/
theorem WrittenName.unique {qualifiedName text other : String}
    (written : WrittenName surface imports qualifiedName text)
    (otherWritten : WrittenName surface imports qualifiedName other) : text = other := by
  cases written with
  | implicit isImplicit =>
      cases otherWritten with
      | implicit _ => rfl
      | imported isExplicit _ => exact absurd isImplicit isExplicit
  | imported isExplicit entry =>
      cases otherWritten with
      | implicit isImplicit => exact absurd isImplicit isExplicit
      | imported _ otherEntry =>
          have same := List.inj_on_of_nodup_map distinct entry otherEntry rfl
          exact congrArg Import.localName same

/-- If no name is imported twice, a type is spelled in one way only. -/
theorem Spelled.unique {type : SurfaceType} {text other : String}
    (spelled : Spelled surface imports type text)
    (otherSpelled : Spelled surface imports type other) : text = other := by
  induction spelled generalizing other with
  | named name =>
      cases otherSpelled with
      | named otherName => exact name.unique distinct otherName
  | list _ container inductionHypothesis =>
      cases otherSpelled with
      | list otherElement otherContainer =>
          rw [inductionHypothesis otherElement, container.unique distinct otherContainer]
  | map key _ container inductionHypothesis =>
      cases otherSpelled with
      | map otherKey otherValue otherContainer =>
          rw [key.unique distinct otherKey, inductionHypothesis otherValue,
            container.unique distinct otherContainer]

/-- If no name is imported twice, the types of a field are spelled in one way only. -/
theorem SpelledWith.unique {types : FieldType} {text other : SpelledType}
    (spelled : SpelledWith surface imports types text)
    (otherSpelled : SpelledWith surface imports types other) : text = other := by
  obtain ⟨whole, inner⟩ := text
  obtain ⟨otherWhole, otherInner⟩ := other
  rw [SpelledType.mk.injEq]
  exact ⟨spelled.whole.unique distinct otherSpelled.whole,
    spelled.inner.unique distinct otherSpelled.inner⟩

end Unique

/-- The qualified names that stand in a surface type, in the order in which they are recorded. -/
def SurfaceType.mentions (surface : Surface) : SurfaceType → List String
  | .named qualifiedName => [qualifiedName]
  | .list element => element.mentions surface ++ [surface.listContainer]
  | .map value => surface.stringType :: value.mentions surface ++ [surface.mapContainer]

/-- Whether a type has to be imported to be written. -/
def Surface.needsImport (surface : Surface) (qualifiedName : String) : Bool :=
  decide (moduleName qualifiedName ∉ surface.implicitModules)

namespace ImportTable

variable (surface : Surface) (table : ImportTable)

/-- Writing a name records it if it has to be imported. -/
theorem nickname_table (qualifiedName : String) :
    (table.nickname surface qualifiedName).2 =
      table.insertAll ([qualifiedName].filter surface.needsImport) := by
  by_cases isImplicit : moduleName qualifiedName ∈ surface.implicitModules
  · simp [nickname, Surface.needsImport, isImplicit, insertAll]
  · simp [nickname, Surface.needsImport, isImplicit, insertAll]

/-- Spelling a type records the names that stand in it and have to be imported. -/
theorem spell_table (type : SurfaceType) :
    (table.spell surface type).2 =
      table.insertAll ((type.mentions surface).filter surface.needsImport) := by
  induction type generalizing table with
  | named qualifiedName => exact nickname_table surface table qualifiedName
  | list element inductionHypothesis =>
      simp only [spell, SurfaceType.mentions, nickname_table, inductionHypothesis,
        List.filter_append, insertAll_append]
  | map value inductionHypothesis =>
      rw [SurfaceType.mentions, List.cons_append, ← List.singleton_append]
      simp only [spell, nickname_table, inductionHypothesis, List.filter_append, insertAll_append]

/-- Writing a name extends a table. -/
theorem extends_nickname (qualifiedName : String) :
    table.Extends (table.nickname surface qualifiedName).2 :=
  ⟨_, nickname_table surface table qualifiedName⟩

/-- Spelling a type extends a table. -/
theorem extends_spell (type : SurfaceType) : table.Extends (table.spell surface type).2 :=
  ⟨_, spell_table surface table type⟩

/-- Spelling the types of a field extends a table. -/
theorem extends_spellTypes (types : FieldType) :
    table.Extends (table.spellTypes surface types).2 :=
  (table.extends_spell surface types.inner).trans (extends_spell surface _ types.whole)

/-- Spelling the types of several fields extends a table. -/
theorem extends_spellAll (types : List FieldType) :
    table.Extends (table.spellAll surface types).2 := by
  induction types generalizing table with
  | nil => exact .refl table
  | cons first rest inductionHypothesis =>
      exact (table.extends_spellTypes surface first).trans (inductionHypothesis _)

/-- A name that has been written is written the same way in every extension of the table. -/
theorem nickname_eq_of_extends {later : ImportTable} {qualifiedName : String}
    (extension : (table.nickname surface qualifiedName).2.Extends later) :
    (later.nickname surface qualifiedName).1 = (table.nickname surface qualifiedName).1 := by
  by_cases isImplicit : moduleName qualifiedName ∈ surface.implicitModules
  · simp only [nickname, isImplicit, if_true]
  · simp only [nickname, isImplicit, if_false] at extension ⊢
    have known := extension.localName?_eq (localName?_insert table qualifiedName)
    rw [insert_of_known known]

/-- A type that has been spelled is spelled the same way in every extension of the table. -/
theorem spell_eq_of_extends {later : ImportTable} {type : SurfaceType}
    (extension : (table.spell surface type).2.Extends later) :
    (later.spell surface type).1 = (table.spell surface type).1 := by
  induction type generalizing table later with
  | named qualifiedName => exact nickname_eq_of_extends surface table extension
  | list element inductionHypothesis =>
      have afterElement := extends_nickname surface (table.spell surface element).2
        surface.listContainer
      have sameElement := inductionHypothesis table (afterElement.trans extension)
      have sameContainer := nickname_eq_of_extends surface (table.spell surface element).2
        (extension.trans (later.extends_spell surface element))
      simp only [spell, sameElement, sameContainer]
  | map value inductionHypothesis =>
      let afterKey := (table.nickname surface surface.stringType).2
      have afterValue := extends_spell surface afterKey value
      have last := extends_nickname surface (afterKey.spell surface value).2 surface.mapContainer
      have fromValue := last.trans extension
      have sameKey := nickname_eq_of_extends surface table (afterValue.trans fromValue)
      let laterKey := (later.nickname surface surface.stringType).2
      have onlyLater := later.extends_nickname surface surface.stringType
      have sameValue := inductionHypothesis afterKey (fromValue.trans onlyLater)
      have sameContainer := nickname_eq_of_extends surface (afterKey.spell surface value).2
        (extension.trans (onlyLater.trans (laterKey.extends_spell surface value)))
      simp only [spell, sameKey, afterKey, laterKey, sameValue, sameContainer]

/-- A name is written with the imports that are recorded once it is written. -/
theorem writtenName_nickname (qualifiedName : String) :
    WrittenName surface (table.nickname surface qualifiedName).2.entries qualifiedName
      (table.nickname surface qualifiedName).1 := by
  by_cases isImplicit : moduleName qualifiedName ∈ surface.implicitModules
  · simp only [nickname, isImplicit, if_true]
    exact .implicit isImplicit
  · simp only [nickname, isImplicit, if_false]
    exact .imported isImplicit (mem_of_localName? (localName?_insert table qualifiedName))

/-- A type is spelled with the imports that are recorded once it is spelled. -/
theorem spelled_spell (type : SurfaceType) :
    Spelled surface (table.spell surface type).2.entries type (table.spell surface type).1 := by
  induction type generalizing table with
  | named qualifiedName => exact .named (table.writtenName_nickname surface qualifiedName)
  | list element inductionHypothesis =>
      -- The element is spelled before its container is recorded.
      have later := extends_nickname surface (table.spell surface element).2 surface.listContainer
      exact .list ((inductionHypothesis table).mono later.entries_subset)
        (writtenName_nickname surface _ surface.listContainer)
  | map value inductionHypothesis =>
      let afterKey := (table.nickname surface surface.stringType).2
      have afterValue := extends_spell surface afterKey value
      have last := extends_nickname surface (afterKey.spell surface value).2 surface.mapContainer
      have keyName := table.writtenName_nickname surface surface.stringType
      exact .map (keyName.mono (afterValue.trans last).entries_subset)
        ((inductionHypothesis afterKey).mono last.entries_subset)
        (writtenName_nickname surface _ surface.mapContainer)

/-- The types of a field are spelled with the imports that are recorded once they are spelled. -/
theorem spelledWith_spellTypes (types : FieldType) :
    SpelledWith surface (table.spellTypes surface types).2.entries types
      (table.spellTypes surface types).1 := by
  have inner := table.spelled_spell surface types.inner
  have later := extends_spell surface (table.spell surface types.inner).2 types.whole
  exact ⟨spelled_spell surface _ types.whole, inner.mono later.entries_subset⟩

/-- The types of several fields are spelled with the imports that are recorded in the end. -/
theorem spelledWith_spellAll (types : List FieldType) :
    List.Forall₂ (SpelledWith surface (table.spellAll surface types).2.entries) types
      (table.spellAll surface types).1 := by
  induction types generalizing table with
  | nil => exact .nil
  | cons first rest inductionHypothesis =>
      have later := extends_spellAll surface (table.spellTypes surface first).2 rest
      exact .cons ((table.spelledWith_spellTypes surface first).mono later.entries_subset)
        (inductionHypothesis _)

end ImportTable

end RequestSurface
