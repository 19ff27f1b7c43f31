import Mathlib
import RequestSurface.Proofs.PropertyNames

/-!
# Accessors of a message

The accessors of a property are called by a verb, behind which the words that the property is named
after are written as one text. Names of properties are told apart by a symbol table, but accessors
are not: they are named before that. So the accessors of a message are different exactly when the
texts behind the verbs of its properties differ and, on the surface that says `add` for one value
and `addAll` for a whole list, the text of no property is `All` and the text of a repeated one.
Different words may well be written as one text.
-/

namespace RequestSurface

namespace Surface

/-- How words are written behind another word. -/
def tailOf : Surface → List String → String
  | java, words => String.join (words.map Name.capitalized)
  | python, words => String.join (words.map ("_" ++ ·))

/-- The casing of members writes the first word as it is. -/
theorem memberCase_cons (surface : Surface) (first : String) (rest : List String) :
    surface.memberCase ⟨first :: rest⟩ = first ++ surface.tailOf rest := by
  cases surface with
  | java => rfl
  | python =>
      change String.intercalate "_" (first :: rest) = first ++ String.join (rest.map ("_" ++ ·))
      induction rest generalizing first with
      | nil => simp
      | cons second others inductionHypothesis =>
          rw [String.intercalate_cons_cons, inductionHypothesis second, List.map_cons,
            String.join_cons, String.append_assoc, String.append_assoc]

/-- The verb of the accessor that writes a field. -/
def setterVerb (surface : Surface) (repeated : Bool) : String :=
  if repeated then surface.extendVerb else "set"

/-- What the accessors of a field have behind their verbs. -/
def accessorTail (surface : Surface) (raw : String) : String :=
  surface.tailOf (splitWords raw)

/-- A name of a word and an identifier is the word and the tail of the identifier. -/
theorem memberCase_ofPieces (surface : Surface) {verb : String} (raw : String)
    (oneWord : splitWords verb = [verb]) :
    surface.memberCase (.ofPieces [verb, raw]) = verb ++ surface.accessorTail raw := by
  rw [accessorTail, ← memberCase_cons]
  simp [Name.ofPieces, oneWord]

theorem getterName_eq (surface : Surface) (raw : String) :
    surface.getterName raw = "get" ++ surface.accessorTail raw :=
  surface.memberCase_ofPieces raw (by decide)

theorem adderName_eq (surface : Surface) (raw : String) :
    surface.adderName raw = "add" ++ surface.accessorTail raw :=
  surface.memberCase_ofPieces raw (by decide)

theorem setterName_eq (surface : Surface) (raw : String) (repeated : Bool) :
    surface.setterName raw repeated = surface.setterVerb repeated ++ surface.accessorTail raw := by
  cases repeated with
  | false =>
      have oneWord : splitWords "set" = ["set"] := by decide
      exact surface.memberCase_ofPieces raw oneWord
  | true =>
      cases surface with
      | python => exact memberCase_ofPieces .python raw (by decide)
      | java =>
          -- The verb has two words, the second of which is written behind the first.
          have words : Name.ofPieces ["addAll", raw] = ⟨"add" :: "all" :: splitWords raw⟩ := by
            have verb : splitWords "addAll" = ["add", "all"] := by decide
            simp [Name.ofPieces, verb]
          have all : Name.capitalized "all" = "All" := by decide
          change java.memberCase (.ofPieces ["addAll", raw]) = "addAll" ++ java.accessorTail raw
          rw [words, memberCase_cons, accessorTail, tailOf, tailOf, List.map_cons, String.join_cons,
            all, ← String.append_assoc]
          rfl

/-- The verbs of the accessors of a property. -/
def accessorVerbs (surface : Surface) (repeated adds : Bool) : List String :=
  "get" :: surface.setterVerb repeated :: if adds then ["add"] else []

/-- All verbs of accessors. -/
def allVerbs : List String := ["get", "set", "extend", "addAll", "add"]

variable {surface : Surface} {repeated adds : Bool}

/-- The verbs of a property are among all verbs. -/
theorem mem_allVerbs {verb : String} (isVerb : verb ∈ surface.accessorVerbs repeated adds) :
    verb ∈ allVerbs := by
  have inside : surface.accessorVerbs repeated adds ⊆ allVerbs := by
    cases surface <;> cases repeated <;> cases adds <;> decide
  exact inside isVerb

/-- The verbs of a property are different. -/
theorem nodup_accessorVerbs (surface : Surface) (repeated adds : Bool) :
    (surface.accessorVerbs repeated adds).Nodup := by
  cases surface <;> cases repeated <;> cases adds <;> decide

/-- Values can be added one by one to the properties that say so. -/
theorem add_mem_accessorVerbs_iff :
    "add" ∈ surface.accessorVerbs repeated adds ↔ adds = true := by
  cases surface <;> cases repeated <;> cases adds <;> decide

/-- On one surface, repeated properties take whole lists by a verb that begins like the one for a
single value. -/
theorem addAll_mem_accessorVerbs_iff :
    "addAll" ∈ surface.accessorVerbs repeated adds ↔ surface = .java ∧ repeated = true := by
  cases surface <;> cases repeated <;> cases adds <;> decide

/-- Names that are made of verbs are the same only if the verbs are, or if one of them is the front
of the other. -/
theorem verb_append_cases {verb other tail otherTail : String} (isVerb : verb ∈ allVerbs)
    (otherIsVerb : other ∈ allVerbs) (same : verb ++ tail = other ++ otherTail) :
    (verb = other ∧ tail = otherTail) ∨
      (verb = "add" ∧ other = "addAll" ∧ tail = "All" ++ otherTail) ∨
      (verb = "addAll" ∧ other = "add" ∧ otherTail = "All" ++ tail) := by
  simp only [allVerbs, List.mem_cons, List.not_mem_nil, or_false] at isVerb otherIsVerb
  rcases isVerb with rfl | rfl | rfl | rfl | rfl <;>
    rcases otherIsVerb with rfl | rfl | rfl | rfl | rfl <;>
    simp_all [← String.toList_inj]

end Surface

/-- What the accessors of a property are named after, whether the property is repeated, and whether
values can be added to it one by one. -/
structure AccessorSource where
  raw : String
  isRepeated : Bool := false
  adds : Bool := false
  deriving DecidableEq, Repr

namespace AccessorSource

/-- The verbs of the accessors. -/
def verbs (surface : Surface) (source : AccessorSource) : List String :=
  surface.accessorVerbs source.isRepeated source.adds

/-- The names of the accessors. -/
def accessors (surface : Surface) (source : AccessorSource) : List String :=
  (source.verbs surface).map (· ++ surface.accessorTail source.raw)

/-- Adding one value to a property is called what taking a whole list is called for another. -/
def Shadows (surface : Surface) (adding repeated : AccessorSource) : Prop :=
  surface = .java ∧ adding.adds = true ∧ repeated.isRepeated = true ∧
    surface.accessorTail adding.raw = "All" ++ surface.accessorTail repeated.raw

/-- The texts behind the verbs of the properties differ, and no accessor for one value is called
like one for a whole list. -/
def Apart (surface : Surface) (sources : List AccessorSource) : Prop :=
  (sources.map fun source => surface.accessorTail source.raw).Nodup ∧
    ∀ adding ∈ sources, ∀ repeated ∈ sources, ¬ Shadows surface adding repeated

instance (surface : Surface) (adding repeated : AccessorSource) :
    Decidable (Shadows surface adding repeated) :=
  inferInstanceAs (Decidable (_ ∧ _ ∧ _ ∧ _))

instance (surface : Surface) (sources : List AccessorSource) : Decidable (Apart surface sources) :=
  inferInstanceAs (Decidable (_ ∧ _))

variable {surface : Surface} {source other : AccessorSource}

/-- No property shadows itself, since the longer of the two verbs leaves a shorter rest. -/
theorem not_shadows_self (surface : Surface) (source : AccessorSource) :
    ¬ Shadows surface source source := by
  rintro ⟨-, -, -, same⟩
  have lengths := congrArg String.length same
  rw [String.length_append] at lengths
  have all : "All".length = 3 := rfl
  omega

/-- The accessors of one property are different. -/
theorem nodup_accessors (surface : Surface) (source : AccessorSource) :
    (source.accessors surface).Nodup :=
  (surface.nodup_accessorVerbs _ _).map fun _ _ same => (String.append_left_inj _).mp same

/-- A property whose adder is called like taking the whole list of another one shares this accessor
with it. -/
theorem Shadows.shares_accessor (shadows : Shadows surface source other) :
    ¬ List.Disjoint (source.accessors surface) (other.accessors surface) := by
  obtain ⟨isJava, adds, isRepeated, sameTail⟩ := shadows
  have adder : "add" ++ surface.accessorTail source.raw ∈ source.accessors surface :=
    List.mem_map_of_mem (Surface.add_mem_accessorVerbs_iff.mpr adds)
  have setter : "addAll" ++ surface.accessorTail other.raw ∈ other.accessors surface :=
    List.mem_map_of_mem (Surface.addAll_mem_accessorVerbs_iff.mpr ⟨isJava, isRepeated⟩)
  have same : "add" ++ surface.accessorTail source.raw =
      "addAll" ++ surface.accessorTail other.raw := by
    rw [sameTail, ← String.append_assoc]
    rfl
  exact fun disjoint => disjoint adder (same ▸ setter)

/-- Two properties share an accessor exactly when the texts behind their verbs are the same or when
adding to one of them is called like taking the whole list of the other. -/
theorem disjoint_accessors_iff :
    List.Disjoint (source.accessors surface) (other.accessors surface) ↔
      surface.accessorTail source.raw ≠ surface.accessorTail other.raw ∧
        ¬ Shadows surface source other ∧ ¬ Shadows surface other source := by
  constructor
  · intro disjoint
    have getter : "get" ++ surface.accessorTail source.raw ∈ source.accessors surface :=
      List.mem_cons_self
    have otherGetter : "get" ++ surface.accessorTail other.raw ∈ other.accessors surface :=
      List.mem_cons_self
    exact ⟨fun same => disjoint getter (same ▸ otherGetter),
      fun shadows => shadows.shares_accessor disjoint,
      fun shadows => shadows.shares_accessor disjoint.symm⟩
  · rintro ⟨differ, notSource, notOther⟩ name isName isOtherName
    obtain ⟨verb, isVerb, rfl⟩ := List.mem_map.mp isName
    obtain ⟨otherVerb, otherIsVerb, same⟩ := List.mem_map.mp isOtherName
    rcases Surface.verb_append_cases (Surface.mem_allVerbs isVerb)
        (Surface.mem_allVerbs otherIsVerb) same.symm with
      ⟨-, sameTail⟩ | ⟨rfl, rfl, shadowed⟩ | ⟨rfl, rfl, shadowed⟩
    · exact differ sameTail
    · obtain ⟨isJava, isRepeated⟩ := Surface.addAll_mem_accessorVerbs_iff.mp otherIsVerb
      exact notSource ⟨isJava, Surface.add_mem_accessorVerbs_iff.mp isVerb, isRepeated, shadowed⟩
    · obtain ⟨isJava, isRepeated⟩ := Surface.addAll_mem_accessorVerbs_iff.mp isVerb
      exact notOther
        ⟨isJava, Surface.add_mem_accessorVerbs_iff.mp otherIsVerb, isRepeated, shadowed⟩

/-- The accessors of several properties are different exactly when the properties are apart. -/
theorem nodup_flatMap_accessors_iff (surface : Surface) (sources : List AccessorSource) :
    (sources.flatMap (accessors surface)).Nodup ↔ Apart surface sources := by
  have pairwise : (sources.flatMap (accessors surface)).Nodup ↔
      sources.Pairwise fun source other =>
        surface.accessorTail source.raw ≠ surface.accessorTail other.raw ∧
          ¬ Shadows surface source other ∧ ¬ Shadows surface other source := by
    rw [List.nodup_flatMap, and_iff_right fun source _ => nodup_accessors surface source]
    exact List.Pairwise.iff fun _ _ => disjoint_accessors_iff
  rw [pairwise, List.pairwise_and_iff, Apart, List.Nodup, List.pairwise_map]
  refine and_congr_right fun _ => ⟨fun apart => ?_, fun apart => ?_⟩
  · have symmetric : Std.Symm fun source other =>
        ¬ Shadows surface source other ∧ ¬ Shadows surface other source := ⟨fun _ _ => And.symm⟩
    have unshadowed := apart.forall_of_forall fun source _ =>
      ⟨not_shadows_self surface source, not_shadows_self surface source⟩
    exact fun adding isAdding repeated isRepeated => (unshadowed isAdding isRepeated).1
  · exact List.pairwise_of_forall_mem_list fun source isSource other isOther =>
      ⟨apart source isSource other isOther, apart other isOther source isSource⟩

end AccessorSource

namespace PropertyDraft

/-- The accessors that a property is drafted with. -/
def accessors (draft : PropertyDraft) : List String :=
  draft.getter :: draft.setter :: draft.adder.toList

/-- If a property is drafted, its accessors are named after a source. -/
def NamedAfter (surface : Surface) (attempt : Except Failure PropertyDraft)
    (source : AccessorSource) : Prop :=
  ∀ draft, attempt = .ok draft → draft.accessors = source.accessors surface

/-- The accessors of a standard parameter are named after it. -/
theorem namedAfter_standard (surface : Surface) (parameter description : String) :
    NamedAfter surface (.ok (.standard surface parameter description)) { raw := parameter } := by
  rintro draft ⟨rfl⟩
  change [surface.getterName parameter, surface.setterName parameter false] = _
  rw [surface.getterName_eq, surface.setterName_eq]
  rfl

/-- The accessors of a declared field are named after its name on the surface. -/
theorem namedAfter_declared (surface : Surface) (package : String) (field : Field)
    (preferred : String) :
    NamedAfter surface (declared surface package field preferred)
      { raw := surface.fieldName preferred, isRepeated := field.isRepeated, adds := true } := by
  intro draft drafted
  obtain ⟨types, -, rfl⟩ := exists_types_of_declared drafted
  rw [accessors, surface.getterName_eq, surface.setterName_eq, surface.adderName_eq]
  rfl

end PropertyDraft

namespace Method

/-- The accessors of the resource identifier are named after the parameter that stands for the
resource name, or else after the placeholder. -/
def identifierSource (method : Method) (flattening : Flattening) : AccessorSource :=
  match flattening.resourceName? with
  | some flattened => { raw := flattened.field.name }
  | none => { raw := (resourceIdentifier method.path).getD "" }

/-- What the accessors of the request message of a method are named after. -/
def accessorSources (surface : Surface) (method : Method) (flattening : Flattening) :
    List AccessorSource :=
  ((standardParameters.filter fun parameter => (method.parameter? parameter.1).isNone).map
      fun parameter => { raw := parameter.1 }) ++
    ((method.fields.filter (!·.inPath)).map fun field =>
      { raw := surface.fieldName field.name, isRepeated := field.isRepeated, adds := true }) ++
    [method.identifierSource flattening]

theorem namedAfter_identifier (surface : Surface) (method : Method) (flattening : Flattening) :
    PropertyDraft.NamedAfter surface
      (PropertyDraft.identifier surface method
        (ResourceNameParameter.ofFlattening surface flattening))
      (method.identifierSource flattening) := by
  intro draft drafted
  have source : method.identifierSource flattening = { raw := method.identifierName flattening } := by
    rw [identifierSource, identifierName]
    cases flattening.resourceName? <;> rfl
  rw [PropertyDraft.eq_of_identifier drafted, source, PropertyDraft.accessors,
    surface.getterName_eq, surface.setterName_eq]
  rfl

/-- The accessors of drafts are named after the sources of their method. -/
theorem flatMap_accessors_of_drafts {surface : Surface} {package : String} {method : Method}
    {flattening : Flattening} {drafts : List PropertyDraft}
    (drafted : method.drafts surface package
      (ResourceNameParameter.ofFlattening surface flattening) = (drafts, none)) :
    drafts.flatMap PropertyDraft.accessors =
      (method.accessorSources surface flattening).flatMap (AccessorSource.accessors surface) := by
  have each : List.Forall₂ (fun draft source =>
      PropertyDraft.accessors draft = AccessorSource.accessors surface source)
      drafts (method.accessorSources surface flattening) :=
    forall₂_drafts _ _ drafted
      (fun entry => PropertyDraft.namedAfter_standard surface entry.1 entry.2 _ rfl)
      (fun field => PropertyDraft.namedAfter_declared surface package field field.name)
      (namedAfter_identifier surface method flattening)
  have same : drafts.map PropertyDraft.accessors =
      (method.accessorSources surface flattening).map (AccessorSource.accessors surface) := by
    rw [← List.forall₂_eq_eq_eq, List.forall₂_map_left_iff, List.forall₂_map_right_iff]
    exact each
  rw [List.flatMap_def, same, ← List.flatMap_def]

end Method

/-- The accessors of a property. -/
def Property.accessors (property : Property) : List String :=
  property.getter :: property.setter :: property.adder.toList

/-- The accessors of all properties of a message. -/
def RequestMessage.accessors (message : RequestMessage) : List String :=
  message.properties.flatMap Property.accessors

/-- Sorting aside, the accessors of a message are those that its properties are drafted with. -/
theorem RequestContext.accessors_compose_perm {context : RequestContext} {method : Method}
    {drafts : List PropertyDraft} {types : List SpelledType} {body : Option Property}
    (oneEach : types.length = drafts.length) :
    (context.compose method drafts types body).accessors.Perm
      (drafts.flatMap PropertyDraft.accessors) := by
  let names := context.propertyNames method drafts
  have nameEach : names.length = drafts.length := context.length_propertyNames method drafts
  have accessed : ((drafts.zip (names.zip types)).map fun entry =>
      entry.1.finish entry.2.1 entry.2.2).flatMap Property.accessors =
      drafts.flatMap PropertyDraft.accessors := by
    calc
      ((drafts.zip (names.zip types)).map fun entry =>
          entry.1.finish entry.2.1 entry.2.2).flatMap Property.accessors
          = ((drafts.zip (names.zip types)).map Prod.fst).flatMap PropertyDraft.accessors := by
            rw [List.flatMap_map, List.flatMap_map]
            rfl
      _ = drafts.flatMap PropertyDraft.accessors := by
            rw [List.map_fst_zip (by simp [nameEach, oneEach])]
  have finished :=
    (context.properties_compose_perm method drafts types body).flatMap_right Property.accessors
  rw [accessed] at finished
  exact finished

/-- The accessors of a built message are those of the sources of its method. -/
theorem BuiltRequest.accessors_perm {context : RequestContext} {method : Method}
    {flattening : Flattening} {table : ImportTable} {built : BuiltRequest}
    (success : (context.build method flattening table).1 = .ok built) :
    built.message.accessors.Perm ((method.accessorSources context.surface flattening).flatMap
      (AccessorSource.accessors context.surface)) := by
  obtain ⟨drafts, bodyDraft, parts⟩ := RequestContext.exists_built (Prod.ext success rfl)
  obtain ⟨body, -, composed⟩ := parts.composed
  have oneEach : (table.spellAll context.surface (drafts.map PropertyDraft.types)).1.length =
      drafts.length := by
    rw [← (table.spelledWith_spellAll context.surface _).length_eq, List.length_map]
  have drafted := parts.drafted
  rw [parts.parameter] at drafted
  rw [composed, ← Method.flatMap_accessors_of_drafts drafted]
  exact RequestContext.accessors_compose_perm oneEach

/-- The accessors of a message are different exactly when the texts behind the verbs of its
properties differ and none of them adds single values as another takes a whole list. -/
theorem accessors_nodup_iff (context : RequestContext) (method : Method) (flattening : Flattening)
    (table : ImportTable) (built : BuiltRequest)
    (success : (context.build method flattening table).1 = .ok built) :
    built.message.accessors.Nodup ↔
      AccessorSource.Apart context.surface (method.accessorSources context.surface flattening) := by
  rw [(BuiltRequest.accessors_perm success).nodup_iff]
  exact AccessorSource.nodup_flatMap_accessors_iff _ _

/-- A method with a list of items, and with a parameter that is called as if it were about all of
them. -/
def itemsMethod : Method where
  id := "store.carts.update"
  path := "carts/{cart}"
  parameters :=
    [("cart", { type := some "string", required := true, location := some .path }),
      ("items", { type := some "string", repeated := true, location := some .query }),
      ("allItems", { type := some "boolean", location := some .query })]

/-- What builds messages for one surface. -/
def storeContext (surface : Surface) : RequestContext where
  surface := surface
  packageName := "com.example.store"

/-- Where the verb for a whole list begins otherwise than the one for a single value, the accessors
of items and of all items are different. -/
theorem accessors_nodup_iff_items :
    ∃ built, ((storeContext .python).build itemsMethod {} {}).1 = .ok built ∧
      (built.message.accessors.Nodup ↔
        AccessorSource.Apart .python (itemsMethod.accessorSources .python {})) ∧
      built.message.accessors.Nodup := by
  obtain ⟨built, success⟩ := exists_eq_ok_of_isOk
    (show ((storeContext .python).build itemsMethod {} {}).1.isOk = true by decide +kernel)
  have apart := accessors_nodup_iff (storeContext .python) itemsMethod {} {} built success
  exact ⟨built, success, apart, apart.mpr (by decide +kernel)⟩

/-- A method that declares a parameter which is called almost like a standard one. -/
def addressMethod : Method where
  id := "store.carts.get"
  path := "carts/{cart}"
  parameters :=
    [("cart", { type := some "string", required := true, location := some .path }),
      ("userIP", { type := some "string", location := some .query })]

/-- Accessors of a message can clash: a declared parameter is given a name of its own beside a
standard one of the same words, but its accessors are called like those of the standard one. -/
theorem accessors_clash :
    ¬ ∀ (context : RequestContext) (settings : DocumentSettings) (method : Method)
      (flattening : Flattening) (table : ImportTable) (built : BuiltRequest),
      Flattening.ofSettings settings method = .ok flattening →
      (context.build method flattening table).1 = .ok built → built.message.accessors.Nodup := by
  intro apart
  obtain ⟨built, success⟩ := exists_eq_ok_of_isOk
    (show ((storeContext .java).build addressMethod {} {}).1.isOk = true by decide +kernel)
  let settings : DocumentSettings :=
    { source := "store.json", output := "out", packageName := "com.example.store" }
  have distinct := apart (storeContext .java) settings addressMethod {} {} built rfl success
  rw [(BuiltRequest.accessors_perm success).nodup_iff] at distinct
  exact absurd distinct (by decide +kernel)

end RequestSurface
