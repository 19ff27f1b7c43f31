import Mathlib
import RequestSurface.Proofs.FinishedProperties
import RequestSurface.Proofs.NameVariants
import RequestSurface.Proofs.WordEndings

/-!
# Properties of standard parameters

A standard parameter gets its name after the variable of the request and after some of the other
standard parameters, which depend on the method. But the standard parameters are apart from each
other, and from the variable too, since that is called a request and none of them is. So what a
standard parameter is called depends on the reserved words alone, and its property is the same in
every message.
-/

namespace RequestSurface

/-- Strings whose candidates are apart are finished with the names that the table gives to each of
them alone. -/
theorem finishAll_strings {surface : Surface} {symbols : SymbolTable} {table : ImportTable}
    {drafts : List PropertyDraft} (strings : ∀ draft ∈ drafts, draft.types = .string surface)
    (apart : drafts.Pairwise fun draft later => CandidatesApart draft.candidate later.candidate) :
    finishAll surface symbols table drafts =
      drafts.map fun draft =>
        draft.finish (symbols.freeName draft.candidate) surface.stringText := by
  induction drafts generalizing symbols with
  | nil => rfl
  | cons draft rest inductionHypothesis =>
      obtain ⟨apartFirst, apartRest⟩ := List.pairwise_cons.mp apart
      have laterStrings : ∀ later ∈ rest, later.types = .string surface :=
        fun later member => strings later (List.mem_cons_of_mem _ member)
      rw [finishAll_cons_string (strings draft List.mem_cons_self),
        inductionHypothesis laterStrings apartRest, List.map_cons, List.cons.injEq]
      refine ⟨rfl, List.map_congr_left fun later member => ?_⟩
      rw [SymbolTable.freeName_allocate (apartFirst later member)]

section Candidates

variable {surface : Surface} {method : Method}

/-- What ends like a request does not end in a digit. -/
theorem not_endsInDigit_of_suffix {text : String}
    (ends : ['q', 'u', 'e', 's', 't'] <:+ text.toList) : ¬ EndsInDigit text := by
  obtain ⟨front, whole⟩ := ends
  rw [EndsInDigit, ← whole, List.getLast?_append_of_ne_nil _ (List.cons_ne_nil _ _)]
  decide

/-- The standard parameters are named differently, and none of the names ends in a digit or like a
request. -/
theorem Surface.fieldName_standardParameters (surface : Surface) :
    (standardParameters.map fun entry => surface.fieldName entry.1).Nodup ∧
      ∀ entry ∈ standardParameters, ¬ EndsInDigit (surface.fieldName entry.1) ∧
        ¬ ['q', 'u', 'e', 's', 't'] <:+ (surface.fieldName entry.1).toList := by
  cases surface <;> decide +kernel

/-- The standard parameters are apart from each other. -/
theorem Method.pairwise_standardDrafts :
    (method.standardDrafts surface).Pairwise fun draft later =>
      CandidatesApart draft.candidate later.candidate := by
  obtain ⟨distinct, endings⟩ := surface.fieldName_standardParameters
  have apart : standardParameters.Pairwise fun entry later =>
      CandidatesApart (surface.fieldName entry.1) (surface.fieldName later.1) :=
    (List.pairwise_map.mp distinct).imp_of_mem fun listed laterListed differ =>
      apart_of_not_endsInDigit differ (endings _ listed).1 (endings _ laterListed).1
  exact List.pairwise_map.mpr (apart.sublist List.filter_sublist)

/-- The standard parameters are apart from the variable of every request. -/
theorem Method.variable_apart {entry : String × String} (listed : entry ∈ standardParameters) :
    CandidatesApart (surface.fieldName method.requestName) (surface.fieldName entry.1) := by
  obtain ⟨noDigit, notRequest⟩ := surface.fieldName_standardParameters.2 entry listed
  have isRequest := surface.suffix_fieldName_requestName method
  refine apart_of_not_endsInDigit ?_ (not_endsInDigit_of_suffix isRequest) noDigit
  intro same
  exact notRequest (same ▸ isRequest)

end Candidates

/-- A property is the one of a standard parameter that the method does not declare: it goes by that
name, it may be left out, and no values are added to it. -/
structure Property.IsStandard (parameter : String) (property : Property) : Prop where
  named : property.rawName = parameter
  isOptional : property.isRequired = false
  noAdder : property.adder = none

namespace RequestContext

variable {context : RequestContext} {method : Method} {flattening : Flattening}
  {table last : ImportTable} {built : BuiltRequest} {drafts : List PropertyDraft}
  {bodyDraft : Option PropertyDraft}

/-- The property of a standard parameter, with the name that is free for it among the reserved words
alone. -/
def standardProperty (context : RequestContext) (entry : String × String) : Property :=
  (PropertyDraft.standard context.surface entry.1 entry.2).finish
    (context.symbols.freeName (context.surface.fieldName entry.1)) context.surface.stringText

/-- Neither the variable of the request nor the other standard parameters change the property of a
standard parameter. -/
theorem finishAll_standardDrafts (context : RequestContext) (method : Method)
    (table : ImportTable) :
    finishAll context.surface (context.propertySymbols method) table
        (method.standardDrafts context.surface) =
      (standardParameters.filter fun entry => (method.parameter? entry.1).isNone).map
        context.standardProperty := by
  have strings : ∀ draft ∈ method.standardDrafts context.surface,
      draft.types = .string context.surface := by
    intro draft member
    obtain ⟨entry, -, rfl⟩ := List.mem_map.mp member
    rfl
  rw [finishAll_strings strings Method.pairwise_standardDrafts, Method.standardDrafts, List.map_map]
  refine List.map_congr_left fun entry member => ?_
  have listed : entry ∈ standardParameters := List.mem_of_mem_filter member
  have sameName : (context.propertySymbols method).freeName (context.surface.fieldName entry.1) =
      context.symbols.freeName (context.surface.fieldName entry.1) :=
    SymbolTable.freeName_allocate (Method.variable_apart listed)
  exact congrArg (fun name => PropertyDraft.finish _ name _) sameName

/-- A message has one property for a standard parameter that its method does not declare, and that
is the same for all methods. -/
theorem Built.isStandard_iff
    (parts : context.Built method flattening table built last drafts bodyDraft)
    {entry : String × String} (listed : entry ∈ standardParameters)
    (undeclared : method.parameter? entry.1 = none) {property : Property} :
    property ∈ built.message.properties ∧ property.IsStandard entry.1 ↔
      property = context.standardProperty entry := by
  obtain ⟨declared, identifier, draftedAs, rfl⟩ := method.exists_draftedAs parts.drafted
  have perm := parts.properties_perm
  rw [List.append_assoc, finishAll_append, finishAll_standardDrafts] at perm
  rw [perm.mem_iff, List.mem_append]
  constructor
  · rintro ⟨isStandard | isOther, named, isOptional, noAdder⟩
    · obtain ⟨other, kept, rfl⟩ := List.mem_map.mp isStandard
      have otherListed : other ∈ standardParameters := List.mem_of_mem_filter kept
      have distinct : (standardParameters.map Prod.fst).Nodup := by decide
      rw [List.inj_on_of_nodup_map distinct otherListed listed named]
    · obtain ⟨draft, member, name, text, rfl⟩ := exists_draft_of_mem_finishAll isOther
      rcases List.mem_append.mp member with isDeclared | isIdentifier
      · have hasAdder := draftedAs.adder_isSome isDeclared
        rw [show draft.adder = none from noAdder] at hasAdder
        cases hasAdder
      · obtain rfl := List.mem_singleton.mp isIdentifier
        have isRequired := (PropertyDraft.identifier_eq_ok draftedAs.identifier).2.1
        rw [show draft.isRequired = false from isOptional] at isRequired
        cases isRequired
  · rintro rfl
    exact ⟨.inl (List.mem_map_of_mem (List.mem_filter.mpr ⟨listed, by simp [undeclared]⟩)),
      rfl, rfl, rfl⟩

end RequestContext

/-- Whatever two methods are called and declare, and however far the import tables have grown, a
standard parameter that neither of them declares has one and the same property in both messages, as
long as the surface and the reserved words are the same. -/
theorem standard_property_unique (context other : RequestContext) (method otherMethod : Method)
    (flattening otherFlattening : Flattening) (table otherTable : ImportTable)
    (built otherBuilt : BuiltRequest) (parameter : String)
    (sameSurface : other.surface = context.surface)
    (sameWords : other.reservedWords = context.reservedWords)
    (success : (context.build method flattening table).1 = .ok built)
    (otherSuccess : (other.build otherMethod otherFlattening otherTable).1 = .ok otherBuilt)
    (listed : parameter ∈ standardParameters.map Prod.fst)
    (undeclared : parameter ∉ method.parameters.map Prod.fst)
    (otherUndeclared : parameter ∉ otherMethod.parameters.map Prod.fst) :
    ∃ injected, (∀ property, property ∈ built.message.properties ∧
        property.IsStandard parameter ↔ property = injected) ∧
      ∀ property, property ∈ otherBuilt.message.properties ∧
        property.IsStandard parameter ↔ property = injected := by
  obtain ⟨drafts, bodyDraft, parts⟩ := RequestContext.exists_built (Prod.ext success rfl)
  obtain ⟨otherDrafts, otherBody, otherParts⟩ :=
    RequestContext.exists_built (Prod.ext otherSuccess rfl)
  obtain ⟨entry, isEntry, rfl⟩ := List.mem_map.mp listed
  have sameProperty : other.standardProperty entry = context.standardProperty entry := by
    simp only [RequestContext.standardProperty, RequestContext.symbols, sameSurface, sameWords]
  have isNone {method : Method} (absent : entry.1 ∉ method.parameters.map Prod.fst) :
      method.parameter? entry.1 = none := by
    rw [Method.parameter?, Option.map_eq_none_iff]
    exact lookup_eq_none_iff_not_mem.mpr absent
  refine ⟨context.standardProperty entry, fun property => ?_, fun property => ?_⟩
  · exact parts.isStandard_iff isEntry (isNone undeclared)
  · rw [← sameProperty]
    exact otherParts.isStandard_iff isEntry (isNone otherUndeclared)

/-- A builder that reserves a standard parameter together with its first number, another standard
parameter, and the variable of a request. -/
def keyRequests (package : String) : RequestContext where
  surface := .java
  packageName := package
  reservedWords := ["key", "key2", "userIp", "keyHttpRequest"]

/-- A method whose request has a reserved name. -/
def keyMethod : Method where
  id := "key."
  path := "keys/{key}"

/-- A method that declares a standard parameter, and others that are called like numbered ones. -/
def numberedKeysMethod : Method where
  id := "compute.keys.list"
  path := "projects/{project}"
  parameters :=
    [("key3", { type := some "string", location := some .query }),
      ("key_4", { type := some "integer", location := some .query }),
      ("callback", { type := some "string", location := some .query })]

/-- An import table in which the short name of the string type is an alias. -/
def stringAliasTable : ImportTable :=
  ImportTable.insertAll {} ["com.example.String"]

/-- The key is called the same in the messages of both methods. -/
theorem standard_property_unique_key :
    ∃ built otherBuilt,
      ((keyRequests "com.example").build keyMethod {} {}).1 = .ok built ∧
      ((keyRequests "org.example").build numberedKeysMethod {} stringAliasTable).1 =
        .ok otherBuilt ∧
      "key" ∈ standardParameters.map Prod.fst ∧ "key" ∉ keyMethod.parameters.map Prod.fst ∧
      "key" ∉ numberedKeysMethod.parameters.map Prod.fst ∧
      ∃ injected, (∀ property, property ∈ built.message.properties ∧
          property.IsStandard "key" ↔ property = injected) ∧
        ∀ property, property ∈ otherBuilt.message.properties ∧
          property.IsStandard "key" ↔ property = injected := by
  obtain ⟨built, success⟩ := exists_eq_ok_of_isOk
    (show ((keyRequests "com.example").build keyMethod {} {}).1.isOk = true by decide +kernel)
  obtain ⟨otherBuilt, otherSuccess⟩ := exists_eq_ok_of_isOk
    (show ((keyRequests "org.example").build numberedKeysMethod {}
      stringAliasTable).1.isOk = true by decide +kernel)
  have listed : "key" ∈ standardParameters.map Prod.fst := by decide
  have undeclared : "key" ∉ keyMethod.parameters.map Prod.fst := by decide
  have otherUndeclared : "key" ∉ numberedKeysMethod.parameters.map Prod.fst := by decide
  exact ⟨built, otherBuilt, success, otherSuccess, listed, undeclared, otherUndeclared,
    standard_property_unique (keyRequests "com.example") (keyRequests "org.example") keyMethod
      numberedKeysMethod {} {} {} stringAliasTable built otherBuilt "key" rfl rfl success
      otherSuccess listed undeclared otherUndeclared⟩

end RequestSurface
