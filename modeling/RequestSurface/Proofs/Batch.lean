import Mathlib
import RequestSurface.Batch
import RequestSurface.Proofs.BuiltRequest
import RequestSurface.Proofs.SortKey

/-!
# What a batch consists of

A batch succeeds when every interface succeeds, and then its units are those of the interfaces, each
lowered with a table of its own, in the order of their paths. `BatchContext.Chain` says how the
methods of one interface hand their table on, and `BatchContext.Lowered` what a unit is made of.
-/

namespace RequestSurface

namespace BatchContext

variable {context : BatchContext} {schemas : List (String × Schema)} {method : Method}
  {table : ImportTable} {unit : OutputUnit}

/-- What a unit is made of: the request built for its method, and the imports recorded by then. -/
structure Lowered (context : BatchContext) (schemas : List (String × Schema)) (method : Method)
    (table : ImportTable) (unit : OutputUnit) (flattening : Flattening) (built : BuiltRequest)
    (spelled : ImportTable) : Prop where
  flattened : Flattening.ofSettings context.settings method = .ok flattening
  requested : (context.requestContext schemas).build method flattening table = (.ok built, spelled)
  complete : (context.lowerMethod schemas method table).table =
    spelled.insertAll context.surface.coreImports
  placed : OutputUnit.pathFor context.surface context.settings.packageName context.root
    built.message.typeName = .ok unit.path
  message : unit.message = built.message
  imports : unit.imports = (spelled.insertAll context.surface.coreImports).imports

/-- A method that is lowered to a unit is flattened, built and placed without a failure. -/
theorem exists_lowered (success : (context.lowerMethod schemas method table).result = .ok unit) :
    ∃ flattening built spelled,
      context.Lowered schemas method table unit flattening built spelled := by
  cases flattened : Flattening.ofSettings context.settings method with
  | error failure => simp [lowerMethod, flattened] at success
  | ok flattening =>
      rcases outcome : (context.requestContext schemas).build method flattening table with
        ⟨result, spelled⟩
      cases result with
      | error failure => simp [lowerMethod, flattened, outcome] at success
      | ok built =>
          refine ⟨flattening, built, spelled, ?_⟩
          cases placed : OutputUnit.pathFor context.surface context.settings.packageName
              context.root built.message.typeName with
          | error fault =>
              simp [lowerMethod, flattened, outcome, OutputUnit.assemble, placed, Except.map,
                Except.mapError] at success
          | ok path =>
              simp only [lowerMethod, flattened, outcome, OutputUnit.assemble, placed, Except.map,
                Except.mapError, Except.ok.injEq] at success
              subst success
              exact ⟨flattened, outcome, by simp [lowerMethod, flattened, outcome,
                OutputUnit.assemble], placed, rfl, rfl⟩

/-- Methods that are lowered one after the other, each starting with the table that the one before
it left. -/
inductive Chain (context : BatchContext) (schemas : List (String × Schema)) :
    ImportTable → List Method → List OutputUnit → Prop where
  | nil {table : ImportTable} : Chain context schemas table [] []
  | cons {table : ImportTable} {method : Method} {unit : OutputUnit} {methods : List Method}
      {units : List OutputUnit}
      (first : (context.lowerMethod schemas method table).result = .ok unit)
      (others : Chain context schemas (context.lowerMethod schemas method table).table methods
        units) :
      Chain context schemas table (method :: methods) (unit :: units)

/-- Methods among which none fails are lowered one after the other. -/
theorem chain_lowerMethods {interface : String} {methods : List Method}
    (complete : (context.lowerMethods schemas interface methods table).failure = none) :
    context.Chain schemas table methods
      (context.lowerMethods schemas interface methods table).units := by
  induction methods generalizing table with
  | nil => exact .nil
  | cons method rest inductionHypothesis =>
      cases first : (context.lowerMethod schemas method table).result with
      | error failure => simp [lowerMethods, first] at complete
      | ok unit =>
          simp only [lowerMethods, first] at complete ⊢
          exact .cons first (inductionHypothesis complete)

/-- The units of several interfaces one after the other, each of them lowered on its own. -/
def unitsOf (context : BatchContext) (schemas : List (String × Schema))
    (interfaces : List Interface) : List OutputUnit :=
  interfaces.flatMap fun interface => (context.lowerInterface schemas interface).units

/-- Rearranged interfaces have rearranged units, since no table outlives its interface. -/
theorem unitsOf_perm (context : BatchContext) (schemas : List (String × Schema))
    {left right : List Interface} (rearranged : left.Perm right) :
    (context.unitsOf schemas left).Perm (context.unitsOf schemas right) :=
  rearranged.flatMap_right _

/-- A batch of interfaces succeeds when each of them succeeds. -/
theorem failure_lowerInterfaces_eq_none_iff {interfaces : List Interface} :
    (context.lowerInterfaces schemas interfaces).failure = none ↔
      ∀ interface ∈ interfaces, (context.lowerInterface schemas interface).failure = none := by
  induction interfaces with
  | nil => simp [lowerInterfaces]
  | cons interface rest inductionHypothesis =>
      cases first : (context.lowerInterface schemas interface).failure with
      | some failure => simp [lowerInterfaces, first]
      | none => simp [lowerInterfaces, first, inductionHypothesis]

/-- The units of a batch that succeeds are those of its interfaces, one after the other. -/
theorem units_lowerInterfaces {interfaces : List Interface}
    (complete : (context.lowerInterfaces schemas interfaces).failure = none) :
    (context.lowerInterfaces schemas interfaces).units = context.unitsOf schemas interfaces := by
  induction interfaces with
  | nil => rfl
  | cons interface rest inductionHypothesis =>
      have each := failure_lowerInterfaces_eq_none_iff.mp complete
      have first := each interface List.mem_cons_self
      have others := failure_lowerInterfaces_eq_none_iff.mpr fun other member =>
        each other (List.mem_cons_of_mem _ member)
      simp [lowerInterfaces, unitsOf, first, inductionHypothesis others]

/-- A document is lowered when each of its interfaces is, to the sorted units of all of them. -/
theorem lower_eq_ok_iff {document : Document} {units : List OutputUnit} :
    (context.lower document).1 = .ok units ↔
      (∀ interface ∈ document.interfaces,
        (context.lowerInterface document.schemas interface).failure = none) ∧
      units = OutputUnit.sort (context.unitsOf document.schemas document.interfaces) := by
  rw [← failure_lowerInterfaces_eq_none_iff]
  cases outcome : (context.lowerInterfaces document.schemas document.interfaces).failure with
  | some failure => simp [lower, outcome]
  | none =>
      simp only [lower, outcome, Except.ok.injEq, units_lowerInterfaces outcome, true_and]
      exact eq_comm

/-- The units of a document that is lowered are those of its interfaces, in another order. -/
theorem perm_unitsOf {document : Document} {units : List OutputUnit}
    (success : (context.lower document).1 = .ok units) :
    units.Perm (context.unitsOf document.schemas document.interfaces) := by
  obtain ⟨-, rfl⟩ := lower_eq_ok_iff.mp success
  exact Text.SortKey.sort_perm _ _

end BatchContext

end RequestSurface
