import Mathlib
import RequestSurface.Proofs.BatchFailure
import RequestSurface.Proofs.MethodUnits
import RequestSurface.Proofs.PropertySources

/-!
# Surfaces agree on what a document says

The surface decides how things are called and how types are written, but neither whether a document
is lowered nor what its messages say. The causes of a failure do not mention the surface, and the
content of a message is that of the sources of its method. So on two surfaces a document is not
lowered for the same method and cause, or it is lowered to messages that say the same, method by
method, although their properties and files stand in different orders.
-/

namespace RequestSurface

/-- Settings for another surface. -/
def DocumentSettings.on (settings : DocumentSettings) (surface : Surface) : DocumentSettings :=
  { settings with surface := surface }

/-- Two messages say the same: their properties have the same contents, in whatever order, and the
rest is the same as far as it does not depend on how things are called. -/
structure RequestMessage.SameContent (message other : RequestMessage) : Prop where
  properties :
    (message.properties.map Property.content).Perm (other.properties.map Property.content)
  required : message.hasRequiredProperties = other.hasRequiredProperties
  fieldMask : message.hasFieldMask = other.hasFieldMask
  docLines : message.docLines = other.docLines
  body : message.body.map Property.rawName = other.body.map Property.rawName

/-- A message says what its method, under a flattening, has to say. -/
structure RequestMessage.Tells (method : Method) (flattening : Flattening)
    (message : RequestMessage) : Prop where
  properties : (message.properties.map Property.content).Perm
    ((method.propertySources flattening).map PropertySource.content)
  required : message.hasRequiredProperties = method.fields.any fun field => field.schema.required
  fieldMask : message.hasFieldMask = method.hasFieldMask
  docLines : message.docLines = Text.docLines
    ("Request object for method " ++ method.id ++ ". " ++ method.description.getD "")
  body : message.body.map Property.rawName = method.bodyReference?.map fun _ => method.bodyName

/-- Messages of one method say the same. -/
theorem RequestMessage.Tells.sameContent {method : Method} {flattening : Flattening}
    {message other : RequestMessage} (tells : message.Tells method flattening)
    (otherTells : other.Tells method flattening) : message.SameContent other where
  properties := tells.properties.trans otherTells.properties.symm
  required := tells.required.trans otherTells.required.symm
  fieldMask := tells.fieldMask.trans otherTells.fieldMask.symm
  docLines := tells.docLines.trans otherTells.docLines.symm
  body := tells.body.trans otherTells.body.symm

/-- A body is drafted exactly if the request names a schema, and then under the name of the body. -/
theorem Method.rawName_bodyDraft {surface : Surface} {package : String} {method : Method}
    {schemas : List (String × Schema)} {draft : Option PropertyDraft}
    (drafted : method.bodyDraft surface package schemas = .ok draft) :
    draft.map PropertyDraft.rawName = method.bodyReference?.map fun _ => method.bodyName := by
  cases bodyDrafted_of_eq_ok drafted with
  | unnamed isUnnamed => rw [isUnnamed, Option.map_none, Option.map_none]
  | named isNamed taken declared =>
      rw [isNamed, Option.map_some, Option.map_some, (PropertyDraft.declared_eq_ok declared).2.1]

/-- The body that is written has the raw name of its draft. -/
theorem RequestContext.BodySpelled.map_rawName {surface : Surface} {spelled last : ImportTable}
    {bodyDraft : Option PropertyDraft} {body : Option Property}
    (bodySpelled : BodySpelled surface spelled bodyDraft body last) :
    body.map Property.rawName = bodyDraft.map PropertyDraft.rawName := by
  cases bodySpelled with
  | absent => rfl
  | present draft => rfl

/-- A built message says what its method has to say. -/
theorem RequestContext.Built.tells {context : RequestContext} {method : Method}
    {flattening : Flattening} {table last : ImportTable} {built : BuiltRequest}
    {drafts : List PropertyDraft} {bodyDraft : Option PropertyDraft}
    (parts : context.Built method flattening table built last drafts bodyDraft) :
    built.message.Tells method flattening := by
  obtain ⟨given, rearranged, comeFrom⟩ := parts.properties_comeFrom
  have contents : given.map Property.content =
      (method.propertySources flattening).map PropertySource.content := by
    rw [← List.forall₂_eq_eq_eq, List.forall₂_map_left_iff, List.forall₂_map_right_iff]
    exact comeFrom.imp fun _ _ comesFrom => comesFrom.content
  obtain ⟨body, bodySpelled, composed⟩ := parts.composed
  refine ⟨contents ▸ rearranged.map Property.content, ?_, ?_, ?_, ?_⟩
  · rw [composed, compose]
  · rw [composed, compose]
  · rw [composed, compose]
  · rw [composed, compose, bodySpelled.map_rawName, Method.rawName_bodyDraft parts.bodyDrafted]

/-- Things that are related to one list one by one are related to each other one by one. -/
theorem forall₂_of_common {α β γ : Type} {Left : α → γ → Prop} {Right : β → γ → Prop}
    {Related : α → β → Prop} {lefts : List α} {rights : List β} {common : List γ}
    (join : ∀ left right item, Left left item → Right right item → Related left right)
    (leftEach : List.Forall₂ Left lefts common) (rightEach : List.Forall₂ Right rights common) :
    List.Forall₂ Related lefts rights := by
  induction leftEach generalizing rights with
  | nil =>
      cases rightEach with
      | nil => exact .nil
  | cons first others inductionHypothesis =>
      cases rightEach with
      | cons otherFirst otherOthers =>
          exact .cons (join _ _ _ first otherFirst) (inductionHypothesis otherOthers)

namespace BatchContext

/-- Two batches of units for one document are paired method by method: each unit of a batch is the
one of a method of the document, and the units of one method have messages that say the same. -/
structure PairedByMethod (left right : BatchContext) (document : Document)
    (units others : List OutputUnit) : Prop where
  count : units.length = others.length
  methods : (left.starts document).map Prod.fst = (right.starts document).map Prod.fst
  paired : ∃ given otherGiven, given.Perm units ∧ otherGiven.Perm others ∧
    List.Forall₂ (left.IsUnitOf document.schemas) given (left.starts document) ∧
    List.Forall₂ (right.IsUnitOf document.schemas) otherGiven (right.starts document) ∧
    List.Forall₂ (fun unit other => unit.message.SameContent other.message) given otherGiven

/-- A unit says what a method has to say under the flattening that settings give to it. -/
def TellsOf (settings : DocumentSettings) (unit : OutputUnit) (method : Method) : Prop :=
  ∃ flattening, Flattening.ofSettings settings method = .ok flattening ∧
    unit.message.Tells method flattening

/-- The unit of a method says what the method has to say. -/
theorem IsUnitOf.tells {context : BatchContext} {schemas : List (String × Schema)}
    {unit : OutputUnit} {start : Method × ImportTable}
    (isUnit : context.IsUnitOf schemas unit start) : TellsOf context.settings unit start.1 := by
  obtain ⟨flattening, built, spelled, lowered⟩ := isUnit
  obtain ⟨drafts, bodyDraft, parts⟩ := RequestContext.exists_built lowered.requested
  refine ⟨flattening, lowered.flattened, ?_⟩
  rw [lowered.message]
  exact parts.tells

variable {settings : DocumentSettings} {surface : Surface} {context : BatchContext}

/-- The context of a batch on a surface is made of the settings for it and of their root. -/
theorem eq_of_ofSettings (made : ofSettings surface (settings.on surface) = .ok context) :
    ∃ root, OutputRoot.read settings.output = .ok root ∧
      context = ⟨surface, settings.on surface, root⟩ := by
  rw [ofSettings, DocumentSettings.on] at made
  cases read : OutputRoot.read settings.output with
  | error fault => simp [read] at made
  | ok root =>
      simp only [read, Except.ok.injEq] at made
      exact ⟨root, rfl, made.symm⟩

/-- Whether settings have a context does not depend on the surface, nor does the fault. -/
theorem ofSettings_eq_error_iff {failure : Failure} :
    ofSettings surface (settings.on surface) = .error failure ↔
      ∃ fault, OutputRoot.read settings.output = .error fault ∧
        failure = .input (.badRoot fault) := by
  rw [ofSettings, DocumentSettings.on]
  cases OutputRoot.read settings.output with
  | error fault => simp [eq_comm]
  | ok root => simp

/-- The causes of a failure speak of the settings without their surface. -/
theorem methodFails_on (other : Surface) {root : OutputRoot} {schemas : List (String × Schema)} :
    (mk surface (settings.on surface) root).MethodFails schemas =
      (mk other (settings.on other) root).MethodFails schemas :=
  rfl

/-- The units that a batch on some surface gives to the methods of a document say what these have to
say under their flattenings, which do not depend on the surface. -/
theorem forall₂_tellsOf {document : Document} {root : OutputRoot} {units : List OutputUnit}
    (each : List.Forall₂ ((mk surface (settings.on surface) root).IsUnitOf document.schemas) units
      ((mk surface (settings.on surface) root).starts document)) :
    List.Forall₂ (TellsOf settings) units document.allMethods := by
  rw [← map_fst_starts, List.forall₂_map_right_iff]
  exact each.imp fun unit start isUnit => isUnit.tells

/-- Units that say what the same methods have to say, one by one, say the same. -/
theorem sameContent_of_tellsOf {methods : List Method} {units others : List OutputUnit}
    (each : List.Forall₂ (TellsOf settings) units methods)
    (otherEach : List.Forall₂ (TellsOf settings) others methods) :
    List.Forall₂ (fun unit other => unit.message.SameContent other.message) units others := by
  refine forall₂_of_common (fun unit other method => ?_) each otherEach
  rintro ⟨flattening, flattened, tells⟩ ⟨_, otherFlattened, otherTells⟩
  obtain rfl := Except.ok.inj (flattened.symm.trans otherFlattened)
  exact tells.sameContent otherTells

end BatchContext

/-- On every surface, settings have a usable root or the same fault. With one, a document is not
lowered for the same reason on two surfaces, or it is lowered to units that are paired method by
method and say the same. -/
theorem lower_agrees_on_surfaces (settings : DocumentSettings) (document : Document)
    (surface other : Surface) :
    (∀ failure, BatchContext.ofSettings surface (settings.on surface) = .error failure ↔
      BatchContext.ofSettings other (settings.on other) = .error failure) ∧
    ∀ context otherContext, BatchContext.ofSettings surface (settings.on surface) = .ok context →
      BatchContext.ofSettings other (settings.on other) = .ok otherContext →
      (∀ failure, (context.lower document).1 = .error failure ↔
        (otherContext.lower document).1 = .error failure) ∧
      ∀ units others, (context.lower document).1 = .ok units →
        (otherContext.lower document).1 = .ok others →
        context.PairedByMethod otherContext document units others := by
  refine ⟨fun failure => ?_, ?_⟩
  · rw [BatchContext.ofSettings_eq_error_iff, BatchContext.ofSettings_eq_error_iff]
  intro context otherContext made otherMade
  obtain ⟨root, read, rfl⟩ := BatchContext.eq_of_ofSettings made
  obtain ⟨otherRoot, otherRead, rfl⟩ := BatchContext.eq_of_ofSettings otherMade
  obtain rfl := Except.ok.inj (read.symm.trans otherRead)
  constructor
  · intro failure
    rw [BatchContext.lower_eq_error_iff, BatchContext.lower_eq_error_iff,
      BatchContext.methodFails_on other]
  · intro units others success otherSuccess
    obtain ⟨complete, rfl⟩ := BatchContext.lower_eq_ok_iff.mp success
    obtain ⟨otherComplete, rfl⟩ := BatchContext.lower_eq_ok_iff.mp otherSuccess
    have each := BatchContext.forall₂_unitsOf complete
    have otherEach := BatchContext.forall₂_unitsOf otherComplete
    have same := BatchContext.sameContent_of_tellsOf (BatchContext.forall₂_tellsOf each)
      (BatchContext.forall₂_tellsOf otherEach)
    have sorted := (OutputUnit.sortedFrom_sort
      (BatchContext.unitsOf ⟨surface, settings.on surface, root⟩ document.schemas
        document.interfaces)).rearranged
    have otherSorted := (OutputUnit.sortedFrom_sort
      (BatchContext.unitsOf ⟨other, settings.on other, root⟩ document.schemas
        document.interfaces)).rearranged
    refine ⟨?_, ?_, _, _, sorted.symm, otherSorted.symm, each, otherEach, same⟩
    · rw [sorted.length_eq, otherSorted.length_eq, same.length_eq]
    · rw [BatchContext.map_fst_starts, BatchContext.map_fst_starts]

/-- Settings with a resource name in a flattening group. -/
def snapshotSettings : DocumentSettings where
  source := "snapshots"
  output := "out"
  packageName := "com.example"
  methods :=
    [("compute.snapshots.insert",
      { flattening := [["snapshot"]], treatment := .staticTypes,
        patterns := [("snapshot", "projects/{project}")] })]

/-- A document with a type that only one surface has a format for, names that the surfaces order
differently, a list of numbers, a body, and methods that share their files. -/
def snapshotDocument : Document where
  name := "compute"
  version := "v1"
  schemas := [("Snapshot", {})]
  resources :=
    [("snapshots",
      { methods :=
          [("insert",
              { id := "compute.snapshots.insert", path := "projects/{project}/snapshots/{snapshot}"
                parameters :=
                  [("snapshot",
                      { type := some "string", required := true, location := some .path }),
                    ("created_at", { type := some "string", format := some "date-time" }),
                    ("createdBy",
                      { type := some "array", items := some { type := some "integer" } })]
                request := some { reference := some "Snapshot" } }),
            ("get", { id := "compute.snapshots.get", path := "snapshots/{snapshot}" }),
            ("find", { id := "compute.snapshots.get", path := "{snapshot}" })] })]

/-- The document with snapshots is lowered on both surfaces, to units that say the same. -/
theorem lower_agrees_on_surfaces_snapshots :
    ∃ context otherContext units others,
      BatchContext.ofSettings .java (snapshotSettings.on .java) = .ok context ∧
      BatchContext.ofSettings .python (snapshotSettings.on .python) = .ok otherContext ∧
      (context.lower snapshotDocument).1 = .ok units ∧
      (otherContext.lower snapshotDocument).1 = .ok others ∧
      context.PairedByMethod otherContext snapshotDocument units others := by
  let context : BatchContext := ⟨.java, snapshotSettings.on .java, .disk (.ofText "out")⟩
  let otherContext : BatchContext := ⟨.python, snapshotSettings.on .python, .disk (.ofText "out")⟩
  have made : BatchContext.ofSettings .java (snapshotSettings.on .java) = .ok context := rfl
  have otherMade : BatchContext.ofSettings .python (snapshotSettings.on .python) =
      .ok otherContext := rfl
  obtain ⟨units, success⟩ := exists_eq_ok_of_isOk
    (show (context.lower snapshotDocument).1.isOk = true by decide +kernel)
  obtain ⟨others, otherSuccess⟩ := exists_eq_ok_of_isOk
    (show (otherContext.lower snapshotDocument).1.isOk = true by decide +kernel)
  have agree := lower_agrees_on_surfaces snapshotSettings snapshotDocument .java .python
  exact ⟨context, otherContext, units, others, made, otherMade, success, otherSuccess,
    (agree.2 context otherContext made otherMade).2 units others success otherSuccess⟩

end RequestSurface
