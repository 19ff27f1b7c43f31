import Mathlib
import RequestSurface.Proofs.Batch
import RequestSurface.Proofs.ImportHistory
import RequestSurface.Proofs.PropertyTypes

/-!
# The imports of a unit are closed

Types are written while a table grows, and the imports of a unit are taken from it later, after the
core types are added. `OutputUnit.Closed` says that they agree nevertheless: every type in the
message of a unit is written with the imports of that unit, in the only way that they allow. Along
the methods of an interface the imports only grow.
-/

namespace RequestSurface

/-- The one way in which the types of a field are written in a file with some imports. -/
def OnlySpelling (surface : Surface) (imports : List Import) (types : FieldType)
    (text : SpelledType) : Prop :=
  ∀ other, SpelledWith surface imports types other ↔ other = text

/-- If no name is imported twice, a way to write the types of a field is the only one. -/
theorem SpelledWith.onlySpelling {surface : Surface} {imports : List Import} {types : FieldType}
    {text : SpelledType} (distinct : (imports.map Import.qualifiedName).Nodup)
    (spelled : SpelledWith surface imports types text) :
    OnlySpelling surface imports types text := by
  intro other
  constructor
  · intro otherSpelled
    exact otherSpelled.unique distinct spelled
  · rintro rfl
    exact spelled

/-- A unit for a method with imports that account for everything it mentions. -/
structure OutputUnit.Closed (surface : Surface) (package : String)
    (schemas : List (String × Schema)) (method : Method) (unit : OutputUnit) : Prop where
  message : unit.message.TypesWritten surface package schemas method
    (OnlySpelling surface unit.imports)
  core : ∀ qualifiedName ∈ surface.coreImports, ∃ localName,
    ⟨qualifiedName, localName⟩ ∈ unit.imports
  distinct : (unit.imports.map Import.qualifiedName).Nodup

namespace BatchContext

variable {context : BatchContext} {schemas : List (String × Schema)} {method : Method}
  {table : ImportTable} {unit : OutputUnit}

namespace Lowered

variable {flattening : Flattening} {built : BuiltRequest} {spelled : ImportTable}
  (lowered : context.Lowered schemas method table unit flattening built spelled)
include lowered

/-- Lowering a method extends the table. -/
theorem extends_table : table.Extends (context.lowerMethod schemas method table).table := by
  rw [lowered.complete]
  obtain ⟨drafts, bodyDraft, parts⟩ := RequestContext.exists_built lowered.requested
  exact parts.extends_table.trans (.insertAll spelled context.surface.coreImports)

/-- A unit imports what is recorded once its method is lowered. -/
theorem mem_imports {entry : Import} :
    entry ∈ unit.imports ↔ entry ∈ (context.lowerMethod schemas method table).table.entries := by
  rw [lowered.imports, lowered.complete]
  exact (ImportTable.imports_perm _).mem_iff

/-- A method that starts with a one-to-one table is lowered to a closed unit. -/
theorem closed (valid : table.OneToOne) :
    unit.Closed context.surface context.settings.packageName schemas method := by
  obtain ⟨drafts, bodyDraft, parts⟩ := RequestContext.exists_built lowered.requested
  have complete := lowered.extends_table.oneToOne valid
  have distinct : (unit.imports.map Import.qualifiedName).Nodup := by
    rw [lowered.imports, ← lowered.complete]
    exact (ImportTable.sortedLT_imports complete.names).nodup
  -- The message is written before the core types are recorded.
  have added : spelled.entries ⊆ unit.imports := by
    intro entry member
    rw [lowered.mem_imports, lowered.complete]
    exact (ImportTable.Extends.insertAll spelled _).entries_subset member
  refine ⟨?_, ?_, distinct⟩
  · rw [lowered.message]
    exact parts.typesWritten.imp fun types text written =>
      (written.mono added).onlySpelling distinct
  · intro qualifiedName isCore
    obtain ⟨localName, recorded⟩ := ImportTable.exists_mem_insertAll isCore
    refine ⟨localName, ?_⟩
    rw [lowered.mem_imports, lowered.complete]
    exact recorded

end Lowered

/-- Methods that are lowered one after the other, starting with a one-to-one table, give closed
units, which import what the table had recorded and what the units before them import. -/
theorem Chain.closed {methods : List Method} {units : List OutputUnit}
    (chain : context.Chain schemas table methods units) (valid : table.OneToOne) :
    List.Forall₂ (OutputUnit.Closed context.surface context.settings.packageName schemas)
        methods units ∧
      (∀ unit ∈ units, table.entries ⊆ unit.imports) ∧
      units.Pairwise fun earlier later => earlier.imports ⊆ later.imports := by
  induction chain with
  | nil => exact ⟨.nil, by simp, .nil⟩
  | cons first others inductionHypothesis =>
      obtain ⟨flattening, built, spelled, lowered⟩ := exists_lowered first
      have extension := lowered.extends_table
      obtain ⟨closed, kept, growing⟩ := inductionHypothesis (extension.oneToOne valid)
      refine ⟨.cons (lowered.closed valid) closed, ?_, ?_⟩
      · intro unit member entry isEntry
        have recorded := extension.entries_subset isEntry
        rcases List.mem_cons.mp member with rfl | isLater
        · exact lowered.mem_imports.mpr recorded
        · exact kept unit isLater recorded
      · refine List.pairwise_cons.mpr ⟨?_, growing⟩
        intro later isLater entry isImported
        exact kept later isLater (lowered.mem_imports.mp isImported)

end BatchContext

/-- An interface whose units, one for each method, are closed. What a unit imports is imported under
the same alias by the units of the later methods. -/
structure BatchContext.ClosedInterface (context : BatchContext) (schemas : List (String × Schema))
    (interface : Interface) : Prop where
  units : List.Forall₂
    (OutputUnit.Closed context.surface context.settings.packageName schemas)
    interface.methods (context.lowerInterface schemas interface).units
  growing : (context.lowerInterface schemas interface).units.Pairwise fun earlier later =>
    earlier.imports ⊆ later.imports

/-- The units of a document that is lowered are those of its interfaces, and every interface is
closed. -/
theorem lower_closed (context : BatchContext) (document : Document) (units : List OutputUnit)
    (success : (context.lower document).1 = .ok units) :
    units.Perm (context.unitsOf document.schemas document.interfaces) ∧
    ∀ interface ∈ document.interfaces, context.ClosedInterface document.schemas interface := by
  obtain ⟨complete, rfl⟩ := BatchContext.lower_eq_ok_iff.mp success
  refine ⟨Text.SortKey.sort_perm _ _, ?_⟩
  intro interface member
  have chain := BatchContext.chain_lowerMethods (complete interface member)
  obtain ⟨closed, -, growing⟩ := chain.closed .empty
  exact ⟨closed, growing⟩

/-- A context with a package of its own and a place in memory. -/
def memoryContext : BatchContext where
  surface := .java
  settings := { source := "", output := "", packageName := "com.example", surface := .java }
  root := .memory "out".toList

/-- A document with schemas that share their short names with the containers. -/
def containerNamesakes : Document where
  name := "compute"
  version := "v1"
  schemas := [("List", {}), ("Map", {})]
  resources :=
    [("zones",
      { methods :=
          [("insert",
              { id := "compute.zones.insert", path := "zones/{zone}"
                parameters := [("filter", { type := some "string", repeated := true })]
                request := some { reference := some "List" } }),
            ("patch",
              { id := "compute.zones.patch", path := "zones/{zone}"
                parameters :=
                  [("labels",
                    { type := some "object", additional := some { reference := some "List" } })]
                request := some { reference := some "Map" } })] })]

/-- A namesake of a container gets an alias, and later methods keep it. -/
theorem lower_closed_namesakes :
    ∃ units, (memoryContext.lower containerNamesakes).1 = .ok units ∧
      units.Perm (memoryContext.unitsOf containerNamesakes.schemas containerNamesakes.interfaces) ∧
      ∀ interface ∈ containerNamesakes.interfaces,
        memoryContext.ClosedInterface containerNamesakes.schemas interface := by
  obtain ⟨units, success⟩ := exists_eq_ok_of_isOk
    (show (memoryContext.lower containerNamesakes).1.isOk = true by decide +kernel)
  exact ⟨units, success, lower_closed _ _ units success⟩

end RequestSurface
