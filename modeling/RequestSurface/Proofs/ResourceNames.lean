import Mathlib
import RequestSurface.Proofs.FinishedProperties

/-!
# Which parameter gives the resource name

The flattening groups of a method list parameters, and those of them that have a pattern may take
the form of a resource name. The first one decides: it gives the parameter of the flattened call and
names the resource identifier. Without one the identifier is named after the placeholder of the
path. `DocumentSettings.FirstPattern` says which parameter is the first one in terms of the settings
alone.
-/

namespace RequestSurface

namespace DocumentSettings

/-- The settings of a method, which are the default ones if none are given under its id. -/
def ofMethod (settings : DocumentSettings) (method : Method) : MethodSettings :=
  (settings.methods.lookup method.id).getD {}

/-- The parameters of a method's flattening groups, group by group. -/
def flattened (settings : DocumentSettings) (method : Method) : List String :=
  (settings.ofMethod method).flattening.flatten

/-- The parameters that a pattern is given for. -/
def patterned (settings : DocumentSettings) (method : Method) : List String :=
  (settings.ofMethod method).patterns.map Prod.fst

/-- Parameters of a method take the form of resource names: they are enabled for the document, and
the method is treated so. -/
structure TreatsResourceNames (settings : DocumentSettings) (method : Method) : Prop where
  enabled : settings.resourceNames = true
  treated : (settings.ofMethod method).treatment = .staticTypes

/-- A parameter takes the form of a resource name, and it is the first one in the groups to do
so. -/
structure FirstPattern (settings : DocumentSettings) (method : Method)
    (parameter pattern : String) : Prop where
  treats : settings.TreatsResourceNames method
  first : ∃ before after, settings.flattened method = before ++ parameter :: after ∧
    ∀ other ∈ before, other ∉ settings.patterned method
  found : (settings.ofMethod method).patterns.lookup parameter = some pattern

/-- There is a first parameter with a pattern exactly when there is one. -/
theorem exists_firstPattern_iff {settings : DocumentSettings} {method : Method} :
    (∃ parameter pattern, settings.FirstPattern method parameter pattern) ↔
      settings.TreatsResourceNames method ∧
        ∃ parameter ∈ settings.flattened method, parameter ∈ settings.patterned method := by
  constructor
  · rintro ⟨parameter, pattern, treats, ⟨before, after, order, -⟩, found⟩
    exact ⟨treats, parameter, by simp [order], isSome_lookup_iff_mem.mp (by rw [found]; rfl)⟩
  · rintro ⟨treats, parameter, listed, hasPattern⟩
    have isThere : ((settings.flattened method).find? (· ∈ settings.patterned method)).isSome :=
      List.find?_isSome.mpr ⟨parameter, listed, decide_eq_true hasPattern⟩
    obtain ⟨first, isFirst⟩ := Option.isSome_iff_exists.mp isThere
    obtain ⟨suits, before, after, order, unsuited⟩ := List.find?_eq_some_iff_append.mp isFirst
    obtain ⟨pattern, found⟩ :=
      Option.isSome_iff_exists.mp (isSome_lookup_iff_mem.mpr (of_decide_eq_true suits))
    exact ⟨first, pattern, treats, ⟨before, after, order, by simpa using unsuited⟩, found⟩

end DocumentSettings

/-- A property is that of the resource identifier: it is required, and no values are added to it. -/
structure Property.IsIdentifier (property : Property) : Prop where
  isRequired : property.isRequired = true
  noAdder : property.adder = none

/-- A property goes by the parameter of a flattened call. -/
structure Property.GoesBy (property : Property) (parameter : ResourceNameParameter) : Prop where
  rawName : property.rawName = parameter.fieldName
  getter : property.getter = parameter.getter
  setter : property.setter = parameter.setter

/-- A property and its accessors are named after a placeholder. -/
structure Property.GoesByPlaceholder (surface : Surface) (property : Property)
    (placeholder : String) : Prop where
  rawName : property.rawName = placeholder
  getter : property.getter = surface.getterName placeholder
  setter : property.setter = surface.setterName placeholder false

namespace Flattening

variable {settings : DocumentSettings} {method : Method} {flattening : Flattening}

/-- Settings that can be bound to a method give the parameters of its groups one by one. -/
theorem forall₂_of_ofSettings (bound : ofSettings settings method = .ok flattening) :
    flattening.resourceNames = settings.resourceNames ∧
      List.Forall₂ (fun parameter given =>
          bindField (settings.ofMethod method) method parameter = .ok given)
        (settings.flattened method) flattening.groups.flatten := by
  rw [ofSettings] at bound
  rw [DocumentSettings.flattened, DocumentSettings.ofMethod]
  cases configured : settings.methods.lookup method.id with
  | none =>
      simp only [configured, Except.ok.injEq] at bound
      subst bound
      exact ⟨rfl, .nil⟩
  | some own =>
      simp only [configured] at bound
      cases groups : own.flattening.mapM fun group => group.mapM (bindField own method) with
      | error failure => simp [groups, bind, Except.bind] at bound
      | ok given =>
          simp only [groups, bind, Except.bind, pure, Except.pure, Except.ok.injEq] at bound
          subst bound
          have eachGroup := (mapM_eq_ok_iff.mp groups).imp fun group given => mapM_eq_ok_iff.mp
          exact ⟨rfl, List.rel_flatten eachGroup⟩

/-- A parameter that is bound is declared. It takes the form of a resource name if parameters of the
method do and it has a pattern. -/
theorem bindField_eq_ok {own : MethodSettings} {parameter : String} {given : FlattenedField}
    (bound : bindField own method parameter = .ok given) :
    method.parameter? parameter = some given.field ∧ given.pattern = own.patterns.lookup parameter ∧
      (∀ enabled, given.isResourceName enabled = true ↔
        enabled = true ∧ own.treatment = .staticTypes ∧
          parameter ∈ own.patterns.map Prod.fst) := by
  rw [bindField] at bound
  cases declared : method.parameter? parameter with
  | none => simp [declared] at bound
  | some field =>
      cases found : own.patterns.lookup parameter with
      | none =>
          have absent := lookup_eq_none_iff_not_mem.mp found
          simp only [declared, found, Except.ok.injEq] at bound
          subst bound
          exact ⟨rfl, rfl, fun enabled => by simp [FlattenedField.isResourceName, absent]⟩
      | some pattern =>
          have present : parameter ∈ own.patterns.map Prod.fst :=
            isSome_lookup_iff_mem.mp (by rw [found]; rfl)
          simp only [declared, found, Except.ok.injEq] at bound
          subst bound
          exact ⟨rfl, rfl, fun enabled => by simp [FlattenedField.isResourceName, present]⟩

/-- The first result of some attempts that fits is that of the first item that fits. -/
theorem find?_results_eq_some_iff {α β ε : Type} {attempt : α → Except ε β} {fits : β → Bool}
    {suits : α → Prop} (agree : ∀ item result, attempt item = .ok result →
      (fits result = true ↔ suits item)) {items : List α} {results : List β}
    (each : List.Forall₂ (fun item result => attempt item = .ok result) items results)
    {result : β} :
    results.find? fits = some result ↔
      ∃ before item after, items = before ++ item :: after ∧ (∀ other ∈ before, ¬ suits other) ∧
        suits item ∧ attempt item = .ok result := by
  induction each with
  | nil => simp
  | @cons item first rest later made _ inductionHypothesis =>
      cases fit : fits first with
      | true =>
          have suit := (agree item first made).mp fit
          rw [List.find?_cons_of_pos fit, Option.some.injEq]
          constructor
          · rintro rfl
            exact ⟨[], item, rest, rfl, by simp, suit, made⟩
          · rintro ⟨before, other, after, order, unsuited, -, madeOther⟩
            cases before with
            | nil =>
                obtain ⟨rfl, -⟩ := List.cons.inj order
                exact Except.ok.inj (made.symm.trans madeOther)
            | cons front others =>
                obtain ⟨rfl, -⟩ := List.cons.inj order
                exact absurd suit (unsuited item List.mem_cons_self)
      | false =>
          have unsuit : ¬ suits item := fun suit => by
            rw [(agree item first made).mpr suit] at fit
            cases fit
          rw [List.find?_cons_of_neg (by simp [fit]), inductionHypothesis]
          constructor
          · rintro ⟨before, other, after, rfl, unsuited, suit, madeOther⟩
            exact ⟨item :: before, other, after, rfl,
              List.forall_mem_cons.mpr ⟨unsuit, unsuited⟩, suit, madeOther⟩
          · rintro ⟨before, other, after, order, unsuited, suit, madeOther⟩
            cases before with
            | nil =>
                obtain ⟨rfl, -⟩ := List.cons.inj order
                exact absurd suit unsuit
            | cons front others =>
                obtain ⟨rfl, rfl⟩ := List.cons.inj order
                exact ⟨others, other, after, rfl,
                  fun earlier member => unsuited earlier (List.mem_cons_of_mem _ member), suit,
                  madeOther⟩

/-- The field that gives the resource name is the one of the first parameter with a pattern. -/
theorem resourceName?_eq_some_iff (bound : ofSettings settings method = .ok flattening)
    {given : FlattenedField} :
    flattening.resourceName? = some given ↔
      ∃ parameter pattern, settings.FirstPattern method parameter pattern ∧
        bindField (settings.ofMethod method) method parameter = .ok given := by
  obtain ⟨sameSwitch, each⟩ := forall₂_of_ofSettings bound
  rw [resourceName?, sameSwitch, find?_results_eq_some_iff
    (fun parameter given made => (bindField_eq_ok made).2.2 settings.resourceNames) each]
  constructor
  · rintro ⟨before, parameter, after, order, unsuited, ⟨enabled, treated, hasPattern⟩, made⟩
    obtain ⟨pattern, found⟩ :=
      Option.isSome_iff_exists.mp (isSome_lookup_iff_mem.mpr hasPattern)
    refine ⟨parameter, pattern, ⟨⟨enabled, treated⟩, ⟨before, after, order, ?_⟩, found⟩, made⟩
    exact fun other member isPatterned => unsuited other member ⟨enabled, treated, isPatterned⟩
  · rintro ⟨parameter, pattern, ⟨treats, ⟨before, after, order, unpatterned⟩, found⟩, made⟩
    have hasPattern : parameter ∈ settings.patterned method :=
      isSome_lookup_iff_mem.mp (by rw [found]; rfl)
    exact ⟨before, parameter, after, order,
      fun other member suit => unpatterned other member suit.2.2,
      ⟨treats.enabled, treats.treated, hasPattern⟩, made⟩

/-- Every parameter in the groups of settings that can be bound is declared. -/
theorem exists_bound_of_mem (bound : ofSettings settings method = .ok flattening)
    {parameter : String} (listed : parameter ∈ settings.flattened method) :
    ∃ given, bindField (settings.ofMethod method) method parameter = .ok given := by
  have each := (forall₂_of_ofSettings bound).2
  generalize settings.flattened method = parameters at each listed
  generalize flattening.groups.flatten = fields at each
  induction each with
  | nil => cases listed
  | cons made _ inductionHypothesis =>
      rcases List.mem_cons.mp listed with rfl | later
      · exact ⟨_, made⟩
      · exact inductionHypothesis later

/-- The first parameter with a pattern gives the parameter of the flattened call: that goes by the
name of the declared field and has the pattern. -/
theorem ofFlattening_of_firstPattern (surface : Surface) {parameter pattern : String}
    (bound : ofSettings settings method = .ok flattening)
    (first : settings.FirstPattern method parameter pattern) :
    ∃ field, method.parameter? parameter = some field ∧
      ResourceNameParameter.ofFlattening surface flattening = some
        { name := surface.fieldName field.name, fieldName := field.name,
          getter := surface.getterName field.name,
          setter := surface.setterName field.name false, pattern := some pattern } := by
  obtain ⟨before, after, order, -⟩ := first.first
  have listed : parameter ∈ settings.flattened method := by simp [order]
  obtain ⟨given, made⟩ := exists_bound_of_mem bound listed
  obtain ⟨declared, hasPattern, -⟩ := bindField_eq_ok made
  have isFirst := (resourceName?_eq_some_iff bound).mpr ⟨parameter, pattern, first, made⟩
  refine ⟨given.field, declared, ?_⟩
  rw [ResourceNameParameter.ofFlattening, isFirst, Option.map_some, hasPattern, first.found]

/-- Without a parameter with a pattern there is no parameter of a flattened call. -/
theorem ofFlattening_of_unpatterned {surface : Surface}
    (bound : ofSettings settings method = .ok flattening)
    (unpatterned : ∀ parameter pattern, ¬ settings.FirstPattern method parameter pattern) :
    ResourceNameParameter.ofFlattening surface flattening = none := by
  have absent : flattening.resourceName? = none := by
    refine Option.eq_none_iff_forall_ne_some.mpr fun given found => ?_
    obtain ⟨parameter, pattern, first, -⟩ := (resourceName?_eq_some_iff bound).mp found
    exact unpatterned parameter pattern first
  rw [ResourceNameParameter.ofFlattening, absent, Option.map_none]

/-- The parameter of the flattened call depends on nothing in the settings but the first parameter
with a pattern, and on that pattern. -/
theorem ofFlattening_congr {surface : Surface} {other : DocumentSettings}
    {otherFlattening : Flattening} (bound : ofSettings settings method = .ok flattening)
    (otherBound : ofSettings other method = .ok otherFlattening)
    (same : ∀ parameter pattern,
      other.FirstPattern method parameter pattern ↔ settings.FirstPattern method parameter pattern) :
    ResourceNameParameter.ofFlattening surface otherFlattening =
      ResourceNameParameter.ofFlattening surface flattening := by
  by_cases patterned : ∃ parameter pattern, settings.FirstPattern method parameter pattern
  · obtain ⟨parameter, pattern, first⟩ := patterned
    obtain ⟨field, declared, isField⟩ := ofFlattening_of_firstPattern surface bound first
    obtain ⟨otherField, otherDeclared, isOtherField⟩ :=
      ofFlattening_of_firstPattern surface otherBound ((same parameter pattern).mpr first)
    obtain rfl := Option.some.inj (declared.symm.trans otherDeclared)
    rw [isField, isOtherField]
  · have unpatterned : ∀ parameter pattern, ¬ settings.FirstPattern method parameter pattern := by
      simpa using patterned
    rw [ofFlattening_of_unpatterned bound unpatterned, ofFlattening_of_unpatterned otherBound]
    exact fun parameter pattern => mt (same parameter pattern).mp (unpatterned parameter pattern)

end Flattening

namespace RequestContext

variable {context : RequestContext} {method : Method} {flattening : Flattening}
  {table last : ImportTable} {built : BuiltRequest} {drafts : List PropertyDraft}
  {bodyDraft : Option PropertyDraft}

/-- A message has one property for the resource identifier, finished from its draft. -/
theorem Built.exists_identifier
    (parts : context.Built method flattening table built last drafts bodyDraft) :
    ∃ draft name, PropertyDraft.identifier context.surface method built.parameter = .ok draft ∧
      ∀ property, property ∈ built.message.properties ∧ property.IsIdentifier ↔
        property = draft.finish name context.surface.stringText := by
  obtain ⟨declared, identifier, draftedAs, rfl⟩ := method.exists_draftedAs parts.drafted
  obtain ⟨isString, isRequired, noAdder⟩ := PropertyDraft.identifier_eq_ok draftedAs.identifier
  obtain ⟨name, perm⟩ : ∃ name, built.message.properties.Perm
      (finishAll context.surface (context.propertySymbols method) table
        (method.standardDrafts context.surface ++ declared) ++
          [identifier.finish name context.surface.stringText]) := by
    have perm := parts.properties_perm
    rw [finishAll_concat_string isString] at perm
    exact ⟨_, perm⟩
  refine ⟨identifier, name, draftedAs.identifier, fun property => ?_⟩
  rw [perm.mem_iff, List.mem_append, List.mem_singleton]
  constructor
  · rintro ⟨isOther | isLast, needed, alone⟩
    · obtain ⟨draft, member, name, text, rfl⟩ := exists_draft_of_mem_finishAll isOther
      rcases List.mem_append.mp member with isStandard | isDeclared
      · obtain ⟨entry, -, rfl⟩ := List.mem_map.mp isStandard
        cases needed
      · have hasAdder := draftedAs.adder_isSome isDeclared
        rw [show draft.adder = none from alone] at hasAdder
        cases hasAdder
    · exact isLast
  · rintro rfl
    exact ⟨.inr rfl, isRequired, noAdder⟩

/-- Nothing of a flattening but the parameter of its call has an influence on what is built. -/
theorem build_congr {other : Flattening}
    (same : ResourceNameParameter.ofFlattening context.surface other =
      ResourceNameParameter.ofFlattening context.surface flattening) :
    context.build method other table = context.build method flattening table := by
  rw [build, build, same]

end RequestContext

namespace PropertyDraft

variable {surface : Surface} {method : Method} {draft : PropertyDraft}

/-- The resource identifier is drafted with what the parameter of the flattened call is called. -/
theorem goesBy_of_identifier {parameter : ResourceNameParameter}
    (drafted : identifier surface method (some parameter) = .ok draft) (name : String)
    (text : SpelledType) : (draft.finish name text).GoesBy parameter := by
  cases placeholder : resourceIdentifier method.path with
  | none => simp [identifier, placeholder] at drafted
  | some found =>
      simp only [identifier, placeholder, Except.ok.injEq] at drafted
      subst drafted
      exact ⟨rfl, rfl, rfl⟩

/-- Without such a parameter the resource identifier is drafted with what the last placeholder of the
path is called. -/
theorem goesByPlaceholder_of_identifier (drafted : identifier surface method none = .ok draft)
    (name : String) (text : SpelledType) :
    ∃ placeholder, resourceIdentifier method.path = some placeholder ∧
      (draft.finish name text).GoesByPlaceholder surface placeholder := by
  cases placeholder : resourceIdentifier method.path with
  | none => simp [identifier, placeholder] at drafted
  | some found =>
      simp only [identifier, placeholder, Except.ok.injEq] at drafted
      subst drafted
      exact ⟨found, rfl, rfl, rfl, rfl⟩

end PropertyDraft

/-- If parameters of a method take the form of resource names and one in its groups has a pattern,
then the first such parameter gives the parameter of the flattened call: that goes by the name of the
declared field and has the pattern, and the one resource identifier of the message goes by it.
Otherwise there is no such parameter, and the resource identifier goes by the last placeholder of the
path. Beside the first parameter and its pattern nothing in the settings of the method has an
influence on what is built. -/
theorem resource_name_of_first_pattern (settings : DocumentSettings) (context : RequestContext)
    (method : Method) (flattening : Flattening) (table : ImportTable) (built : BuiltRequest)
    (bound : Flattening.ofSettings settings method = .ok flattening)
    (success : (context.build method flattening table).1 = .ok built) :
    let isUsed := settings.TreatsResourceNames method ∧
      ∃ parameter ∈ settings.flattened method, parameter ∈ settings.patterned method
    (∃ identifier,
      (∀ property, property ∈ built.message.properties ∧ property.IsIdentifier ↔
        property = identifier) ∧
      (isUsed → ∃ parameter pattern field view, settings.FirstPattern method parameter pattern ∧
        method.parameter? parameter = some field ∧ built.parameter = some view ∧
        view.fieldName = field.name ∧ view.pattern = some pattern ∧ identifier.GoesBy view) ∧
      (¬ isUsed → built.parameter = none ∧
        ∃ placeholder, resourceIdentifier method.path = some placeholder ∧
          identifier.GoesByPlaceholder context.surface placeholder)) ∧
    ∀ (other : DocumentSettings) (otherFlattening : Flattening),
      Flattening.ofSettings other method = .ok otherFlattening →
      (∀ parameter pattern, other.FirstPattern method parameter pattern ↔
        settings.FirstPattern method parameter pattern) →
      context.build method otherFlattening table = context.build method flattening table := by
  intro isUsed
  obtain ⟨drafts, bodyDraft, parts⟩ := RequestContext.exists_built (Prod.ext success rfl)
  obtain ⟨draft, name, drafted, sole⟩ := parts.exists_identifier
  have isUsed_iff : (∃ parameter pattern, settings.FirstPattern method parameter pattern) ↔ isUsed :=
    DocumentSettings.exists_firstPattern_iff
  refine ⟨⟨_, sole, ?_, ?_⟩, ?_⟩
  · intro used
    obtain ⟨parameter, pattern, first⟩ := isUsed_iff.mpr used
    obtain ⟨field, declared, isView⟩ :=
      Flattening.ofFlattening_of_firstPattern context.surface bound first
    rw [← parts.parameter] at isView
    rw [isView] at drafted
    exact ⟨parameter, pattern, field, _, first, declared, isView, rfl, rfl,
      PropertyDraft.goesBy_of_identifier drafted _ _⟩
  · intro unused
    have noView : built.parameter = none := by
      rw [parts.parameter]
      exact Flattening.ofFlattening_of_unpatterned bound fun parameter pattern first =>
        unused (isUsed_iff.mp ⟨parameter, pattern, first⟩)
    rw [noView] at drafted
    exact ⟨noView, PropertyDraft.goesByPlaceholder_of_identifier drafted _ _⟩
  · intro other otherFlattening otherBound same
    exact RequestContext.build_congr (Flattening.ofFlattening_congr bound otherBound same)

/-- Settings with two groups. Of their parameters the second and the last one have patterns, the
former twice in the groups. -/
def patternedSettings : DocumentSettings where
  source := "s"
  output := "o"
  packageName := "com.example.compute"
  surface := .java
  methods :=
    [("compute.instances.get",
      { flattening := [["zone", "my_project"], ["my_project", "instance"]],
        treatment := .staticTypes,
        patterns := [("instance", "instances/\x7binstance\x7d"),
          ("my_project", "projects/\x7bmy_project\x7d")] })]

/-- What builds the messages of the package of these settings. -/
def patternedRequests : RequestContext where
  surface := .java
  packageName := "com.example.compute"

/-- A method whose last placeholder is not the parameter that gives its resource name. -/
def patternedMethod : Method where
  id := "compute.instances.get"
  path := "projects/\x7bmy_project\x7d/instances/\x7binstance\x7d"
  parameters :=
    [("my_project", { type := some "string", location := some .path }),
      ("zone", { type := some "string", location := some .query }),
      ("instance", { type := some "string", location := some .path })]

/-- The project gives the resource name, although a parameter stands in front of it and another one
with a pattern behind it. -/
theorem resource_name_of_first_pattern_project :
    ∃ flattening built,
      Flattening.ofSettings patternedSettings patternedMethod = .ok flattening ∧
      (patternedRequests.build patternedMethod flattening {}).1 = .ok built ∧
      patternedSettings.FirstPattern patternedMethod "my_project" "projects/\x7bmy_project\x7d" ∧
      ∃ identifier,
        (∀ property, property ∈ built.message.properties ∧ property.IsIdentifier ↔
          property = identifier) ∧
        ∃ parameter pattern field view,
          patternedSettings.FirstPattern patternedMethod parameter pattern ∧
          patternedMethod.parameter? parameter = some field ∧ built.parameter = some view ∧
          view.fieldName = field.name ∧ view.pattern = some pattern ∧ identifier.GoesBy view := by
  have runs : ((Flattening.ofSettings patternedSettings patternedMethod).bind fun flattening =>
      (patternedRequests.build patternedMethod flattening {}).1).isOk = true := by decide +kernel
  obtain ⟨flattening, bound⟩ := exists_eq_ok_of_isOk
    (show (Flattening.ofSettings patternedSettings patternedMethod).isOk = true by decide +kernel)
  rw [bound] at runs
  obtain ⟨built, success⟩ := exists_eq_ok_of_isOk runs
  have treats : patternedSettings.TreatsResourceNames patternedMethod := ⟨rfl, by decide⟩
  have first : patternedSettings.FirstPattern patternedMethod "my_project"
      "projects/\x7bmy_project\x7d" :=
    ⟨treats, ⟨["zone"], ["my_project", "instance"], by decide, by decide⟩, by decide⟩
  obtain ⟨⟨identifier, sole, used, -⟩, -⟩ := resource_name_of_first_pattern patternedSettings
    patternedRequests patternedMethod flattening {} built bound success
  exact ⟨flattening, built, bound, success, first, identifier, sole,
    used ⟨treats, "my_project", by decide, by decide⟩⟩

end RequestSurface
