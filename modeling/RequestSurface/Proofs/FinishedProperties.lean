import Mathlib
import RequestSurface.Proofs.PropertySources

/-!
# Finishing properties one after the other

`finishAll` follows the drafts of a message with both tables: every property takes its name and the
spelling of its types from what the ones before it left. So what stands behind a property has no
influence on it. The drafts themselves are those of the standard parameters, of the declared
parameters and of the resource identifier, in this order.
-/

namespace RequestSurface

/-- Finish drafts one after the other, with a symbol table for their names and an import table for
their types. -/
def finishAll (surface : Surface) (symbols : SymbolTable) (table : ImportTable) :
    List PropertyDraft → List Property
  | [] => []
  | draft :: rest =>
      draft.finish (symbols.allocate draft.candidate).1 (table.spellTypes surface draft.types).1 ::
        finishAll surface (symbols.allocate draft.candidate).2
          (table.spellTypes surface draft.types).2 rest

section

variable {surface : Surface} {symbols : SymbolTable} {table : ImportTable}

/-- Finishing drafts gives them the names and the spellings that both tables give to all of them. -/
theorem finishAll_eq_map_zip (drafts : List PropertyDraft) :
    finishAll surface symbols table drafts =
      (drafts.zip ((symbols.allocateAll (drafts.map PropertyDraft.candidate)).1.zip
        (table.spellAll surface (drafts.map PropertyDraft.types)).1)).map fun entry =>
          entry.1.finish entry.2.1 entry.2.2 := by
  induction drafts generalizing symbols table with
  | nil => rfl
  | cons draft rest inductionHypothesis =>
      rw [finishAll, inductionHypothesis]
      rfl

/-- Drafts that stand behind others are finished with what these left in the tables. -/
theorem finishAll_append (drafts others : List PropertyDraft) :
    finishAll surface symbols table (drafts ++ others) =
      finishAll surface symbols table drafts ++
        finishAll surface (symbols.allocateAll (drafts.map PropertyDraft.candidate)).2
          (table.spellAll surface (drafts.map PropertyDraft.types)).2 others := by
  induction drafts generalizing symbols table with
  | nil => rfl
  | cons draft rest inductionHypothesis =>
      rw [List.cons_append, finishAll, inductionHypothesis]
      rfl

/-- There is a property for each draft. -/
@[simp] theorem length_finishAll (drafts : List PropertyDraft) :
    (finishAll surface symbols table drafts).length = drafts.length := by
  induction drafts generalizing symbols table with
  | nil => rfl
  | cons draft rest inductionHypothesis => simp [finishAll, inductionHypothesis]

/-- What the properties of a draft are, however it is finished, the finished drafts are one by one. -/
theorem forall₂_finishAll {β : Type} {Related : Property → β → Prop} {drafts : List PropertyDraft}
    {sources : List β}
    (each : List.Forall₂ (fun draft source => ∀ name text, Related (draft.finish name text) source)
      drafts sources) :
    List.Forall₂ Related (finishAll surface symbols table drafts) sources := by
  induction each generalizing symbols table with
  | nil => exact .nil
  | cons first _ inductionHypothesis => exact .cons (first _ _) inductionHypothesis

/-- Every property is a draft with some name and some spelling of its types. -/
theorem exists_draft_of_mem_finishAll {drafts : List PropertyDraft} {property : Property}
    (member : property ∈ finishAll surface symbols table drafts) :
    ∃ draft ∈ drafts, ∃ name text, property = draft.finish name text := by
  induction drafts generalizing symbols table with
  | nil => cases member
  | cons draft rest inductionHypothesis =>
      rcases List.mem_cons.mp member with rfl | later
      · exact ⟨draft, List.mem_cons_self, _, _, rfl⟩
      · obtain ⟨other, isOther, finished⟩ := inductionHypothesis later
        exact ⟨other, List.mem_cons_of_mem _ isOther, finished⟩

/-- How the string type is written for a property, which is the same in every file. -/
def Surface.stringText (surface : Surface) : SpelledType where
  whole := shortName surface.stringType
  inner := shortName surface.stringType

/-- Writing the string type records nothing. -/
theorem ImportTable.spellTypes_string (surface : Surface) (table : ImportTable) :
    table.spellTypes surface (.string surface) = (surface.stringText, table) := by
  simp only [spellTypes, FieldType.string, spell, nickname_stringType]
  rfl

/-- A string is finished with the name that is free for it and leaves the import table alone. -/
theorem finishAll_cons_string {draft : PropertyDraft} (isString : draft.types = .string surface)
    (rest : List PropertyDraft) :
    finishAll surface symbols table (draft :: rest) =
      draft.finish (symbols.freeName draft.candidate) surface.stringText ::
        finishAll surface (symbols.allocate draft.candidate).2 table rest := by
  rw [finishAll, isString, table.spellTypes_string surface]
  rfl

/-- A string at the end is finished with a name that is free behind the others. -/
theorem finishAll_concat_string {draft : PropertyDraft} (isString : draft.types = .string surface)
    (drafts : List PropertyDraft) :
    finishAll surface symbols table (drafts ++ [draft]) =
      finishAll surface symbols table drafts ++
        [draft.finish ((symbols.allocateAll (drafts.map PropertyDraft.candidate)).2.freeName
          draft.candidate) surface.stringText] := by
  rw [finishAll_append, finishAll_cons_string isString, finishAll]

end

/-- Successes are the same one by one only if their results are. -/
theorem map_ok_injective {ε α : Type} :
    Function.Injective (List.map (Except.ok : α → Except ε α)) :=
  List.map_injective_iff.mpr fun _ _ => Except.ok.inj

namespace Method

variable {surface : Surface} {package : String} {method : Method}
  {parameter : Option ResourceNameParameter} {drafts : List PropertyDraft}

/-- Drafts that all succeed are those of the standard parameters, those of the declared parameters
and that of the resource identifier. -/
structure DraftedAs (surface : Surface) (package : String) (method : Method)
    (parameter : Option ResourceNameParameter) (declared : List PropertyDraft)
    (identifier : PropertyDraft) : Prop where
  declared : method.declaredDrafts surface package = declared.map .ok
  identifier : PropertyDraft.identifier surface method parameter = .ok identifier

/-- Drafts that all succeed can be told apart by what they are drafted from. -/
theorem exists_draftedAs (drafted : method.drafts surface package parameter = (drafts, none)) :
    ∃ declared identifier, method.DraftedAs surface package parameter declared identifier ∧
      drafts = method.standardDrafts surface ++ declared ++ [identifier] := by
  have attempts := eq_map_ok_of_untilFailure drafted
  obtain ⟨front, last, rfl, isFront, isLast⟩ := List.map_eq_append_iff.mp attempts.symm
  obtain ⟨standard, declared, rfl, isStandard, isDeclared⟩ := List.map_eq_append_iff.mp isFront
  obtain ⟨identifier, rfl, isIdentifier⟩ := List.map_eq_singleton_iff.mp isLast
  obtain rfl := map_ok_injective isStandard
  exact ⟨declared, identifier, ⟨isDeclared.symm, isIdentifier.symm⟩, rfl⟩

/-- The property of a declared parameter is drafted with an adder. -/
theorem DraftedAs.adder_isSome {declared : List PropertyDraft} {identifier draft : PropertyDraft}
    (draftedAs : method.DraftedAs surface package parameter declared identifier)
    (isDeclared : draft ∈ declared) : draft.adder.isSome := by
  have attempted : Except.ok draft ∈ method.declaredDrafts surface package := by
    rw [draftedAs.declared]
    exact List.mem_map_of_mem isDeclared
  obtain ⟨field, -, drafted⟩ := List.mem_map.mp attempted
  obtain ⟨-, -, -, -, -, hasAdder⟩ := PropertyDraft.declared_eq_ok drafted
  exact hasAdder

end Method

namespace RequestContext

variable {context : RequestContext} {method : Method} {flattening : Flattening}
  {table last : ImportTable} {built : BuiltRequest} {drafts : List PropertyDraft}
  {bodyDraft : Option PropertyDraft}

/-- The symbol table that the properties of a message start with: the variable of the request has
its name already. -/
def propertySymbols (context : RequestContext) (method : Method) : SymbolTable :=
  (context.symbols.allocate (context.surface.fieldName method.requestName)).2

/-- Sorting aside, the properties of a built message are its drafts, finished one after the
other. -/
theorem Built.properties_perm
    (parts : context.Built method flattening table built last drafts bodyDraft) :
    built.message.properties.Perm
      (finishAll context.surface (context.propertySymbols method) table drafts) := by
  obtain ⟨body, -, composed⟩ := parts.composed
  rw [composed, finishAll_eq_map_zip]
  exact context.properties_compose_perm method drafts _ body

/-- The finished drafts of a method come from its sources, one by one. -/
theorem Built.finishAll_comesFrom
    (parts : context.Built method flattening table built last drafts bodyDraft) :
    List.Forall₂ (Property.ComesFrom context.surface)
      (finishAll context.surface (context.propertySymbols method) table drafts)
      (method.propertySources flattening) := by
  have drafted := parts.drafted
  rw [parts.parameter] at drafted
  rw [finishAll_eq_map_zip]
  exact comesFrom_finish (method.draftedFrom_propertySources drafted)
    (context.length_propertyNames method drafts) (table.writes_spellAll _)

end RequestContext

end RequestSurface
