import Mathlib
import RequestSurface.Proofs.BuiltRequest
import RequestSurface.Proofs.SortKey

/-!
# Names of the properties of a message

The variable of a request and all properties of its message take their names from one symbol table,
whatever the names are made from. So no two of them share a name and none has a reserved one. Since
the name is part of what properties are sorted by, their order is strict.
-/

namespace RequestSurface

namespace RequestContext

variable {context : RequestContext} {method : Method} {drafts : List PropertyDraft}
  {types : List SpelledType} {body : Option Property}

/-- The names that properties are given, in the order of their drafts. The variable of the request
has its name before them. -/
def propertyNames (context : RequestContext) (method : Method) (drafts : List PropertyDraft) :
    List String :=
  let symbols := (context.symbols.allocate (context.surface.fieldName method.requestName)).2
  (symbols.allocateAll (drafts.map PropertyDraft.candidate)).1

/-- Sorting aside, the properties of a message are their drafts with names and types filled in. -/
theorem properties_compose_perm (context : RequestContext) (method : Method)
    (drafts : List PropertyDraft) (types : List SpelledType) (body : Option Property) :
    (context.compose method drafts types body).properties.Perm
      ((drafts.zip ((context.propertyNames method drafts).zip types)).map fun entry =>
        entry.1.finish entry.2.1 entry.2.2) :=
  Text.SortKey.sort_perm Property.sortKey _

/-- There is a name for each draft. -/
theorem length_propertyNames (context : RequestContext) (method : Method)
    (drafts : List PropertyDraft) :
    (context.propertyNames method drafts).length = drafts.length := by
  simp [propertyNames]

/-- Sorting aside, the properties of a message have the names that are given to their drafts. -/
theorem map_name_properties_perm (oneEach : types.length = drafts.length) :
    ((context.compose method drafts types body).properties.map Property.name).Perm
      (context.propertyNames method drafts) := by
  let names := context.propertyNames method drafts
  have nameEach : names.length = drafts.length := context.length_propertyNames method drafts
  have named : ((drafts.zip (names.zip types)).map fun entry =>
      entry.1.finish entry.2.1 entry.2.2).map Property.name = names := by
    calc
      ((drafts.zip (names.zip types)).map fun entry =>
          entry.1.finish entry.2.1 entry.2.2).map Property.name
          = ((drafts.zip (names.zip types)).map Prod.snd).map Prod.fst := by
            simp [PropertyDraft.finish]
      _ = (names.zip types).map Prod.fst := by
            rw [List.map_snd_zip (by simp [nameEach, oneEach])]
      _ = names := List.map_fst_zip (by omega)
  have finished := (context.properties_compose_perm method drafts types body).map Property.name
  rw [named] at finished
  exact finished

/-- The names given to properties are all different. -/
theorem nodup_propertyNames (context : RequestContext) (method : Method)
    (drafts : List PropertyDraft) : (context.propertyNames method drafts).Nodup :=
  SymbolTable.nodup_allocateAll _ _

/-- No property is given a reserved name or the name of the variable of the request. -/
theorem propertyNames_free {name : String} (member : name ∈ context.propertyNames method drafts) :
    name ∉ context.symbols.taken ∧
      name ≠ (context.symbols.allocate (context.surface.fieldName method.requestName)).1 := by
  have isFree := SymbolTable.not_mem_taken_of_mem_allocateAll member
  constructor
  · intro isTaken
    exact isFree (SymbolTable.mem_taken_allocate.mpr (.inr isTaken))
  · intro isVariable
    exact isFree (SymbolTable.mem_taken_allocate.mpr (.inl isVariable))

/-- A name is reserved by the surface or by the settings. -/
def IsReserved (context : RequestContext) (name : String) : Prop :=
  name ∈ context.surface.reservedWords ∨ name ∈ context.reservedWords

/-- Nothing but the reserved words is taken in a table that a message starts with. -/
theorem mem_taken_symbols {name : String} :
    name ∈ context.symbols.taken ↔ context.IsReserved name := by
  simp [symbols, SymbolTable.taken, IsReserved]

/-- The names in a message are told apart from each other and from the reserved words, and its
properties stand in the strict order of their sort keys. -/
structure NamedApart (context : RequestContext) (message : RequestMessage) : Prop where
  distinct : (message.properties.map Property.name).Nodup
  unreserved : ∀ property ∈ message.properties, ¬ context.IsReserved property.name
  notVariable : ∀ property ∈ message.properties, property.name ≠ message.name
  variableUnreserved : ¬ context.IsReserved message.name
  increasing : (message.properties.map Property.sortKey).SortedLT

end RequestContext

/-- Properties with different names have different sort keys. -/
theorem Property.nodup_sortKey {properties : List Property}
    (distinct : (properties.map Property.name).Nodup) :
    (properties.map Property.sortKey).Nodup := by
  have different := List.pairwise_map.mp distinct
  refine List.pairwise_map.mpr (different.imp ?_)
  intro former latter otherName sameKey
  injection sameKey with _ rest
  injection rest with sameName _
  exact otherName sameName

/-- However a request is built, its properties have different names, none of them is reserved or is
the name of the request's own variable, which is not reserved either, and the properties stand in
the strict order of their sort keys. -/
theorem properties_named_apart (context : RequestContext) (method : Method)
    (flattening : Flattening) (table : ImportTable) (built : BuiltRequest)
    (success : (context.build method flattening table).1 = .ok built) :
    context.NamedApart built.message := by
  obtain ⟨drafts, bodyDraft, parts⟩ := RequestContext.exists_built (Prod.ext success rfl)
  obtain ⟨body, -, composed⟩ := parts.composed
  let fieldTypes := drafts.map PropertyDraft.types
  have oneEach : (table.spellAll context.surface fieldTypes).1.length = drafts.length := by
    rw [← (table.spelledWith_spellAll context.surface fieldTypes).length_eq, List.length_map]
  have named : (built.message.properties.map Property.name).Perm
      (context.propertyNames method drafts) := by
    rw [composed]
    exact RequestContext.map_name_properties_perm oneEach
  have variableName : built.message.name =
      (context.symbols.allocate (context.surface.fieldName method.requestName)).1 := by
    rw [composed]
    rfl
  have given {property : Property} (member : property ∈ built.message.properties) :
      property.name ∈ context.propertyNames method drafts :=
    named.mem_iff.mp (List.mem_map_of_mem member)
  have distinct : (built.message.properties.map Property.name).Nodup :=
    named.nodup_iff.mpr (context.nodup_propertyNames method drafts)
  refine ⟨distinct, ?_, ?_, ?_, ?_⟩
  · intro property member isReserved
    obtain ⟨isFree, -⟩ := RequestContext.propertyNames_free (given member)
    exact isFree (RequestContext.mem_taken_symbols.mpr isReserved)
  · intro property member
    rw [variableName]
    exact (RequestContext.propertyNames_free (given member)).2
  · intro isReserved
    rw [variableName] at isReserved
    exact context.symbols.freeName_not_mem_taken _ (RequestContext.mem_taken_symbols.mpr isReserved)
  · have inOrder : (built.message.properties.map Property.sortKey).SortedLE := by
      rw [composed]
      exact Text.SortKey.sortedLE_map_sort Property.sortKey _
    exact inOrder.sortedLT_of_nodup (Property.nodup_sortKey distinct)

/-- A context that reserves a word which looks like a numbered name. -/
def numberedWordContext : RequestContext where
  surface := .java
  packageName := "com.example"
  reservedWords := ["zone2"]

/-- A method whose identifier, one of its parameters and a reserved word go by one name. -/
def clashingMethod : Method where
  id := "compute.zones.get"
  path := "projects/{project}/zones/{zone}"
  parameters :=
    [("zone", { type := some "string", required := true, location := some .path }),
      ("Zone", { type := some "string", location := some .query }),
      ("class", { type := some "string", location := some .query }),
      ("zone2", { type := some "string", location := some .query })]

/-- Names stay apart when the identifier, a parameter and a numbered reserved word clash. -/
theorem properties_named_apart_clashing :
    ∃ built, (numberedWordContext.build clashingMethod {} {}).1 = .ok built ∧
      numberedWordContext.NamedApart built.message := by
  obtain ⟨built, success⟩ := exists_eq_ok_of_isOk
    (show (numberedWordContext.build clashingMethod {} {}).1.isOk = true by decide +kernel)
  exact ⟨built, success, properties_named_apart _ _ _ _ built success⟩

end RequestSurface
