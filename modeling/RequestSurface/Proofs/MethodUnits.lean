import Mathlib
import RequestSurface.Proofs.Batch
import RequestSurface.Proofs.DocumentMethods

/-!
# One unit for each method

A batch that succeeds lowers every method of a document exactly once. `BatchContext.starts` says
which table each method is lowered with, and the units stand in the order of the methods until they
are sorted by their places. Sorting only changes the order between different places.
-/

namespace RequestSurface

namespace BatchContext

/-- Methods of one interface, each with the table it is lowered with: what the methods before it
left. -/
def startsFrom (context : BatchContext) (schemas : List (String × Schema)) (table : ImportTable) :
    List Method → List (Method × ImportTable)
  | [] => []
  | method :: rest =>
      (method, table) ::
        context.startsFrom schemas (context.lowerMethod schemas method table).table rest

/-- All methods of a document, each with the table it is lowered with. Every interface starts with
an empty one. -/
def starts (context : BatchContext) (document : Document) : List (Method × ImportTable) :=
  document.interfaces.flatMap fun interface =>
    context.startsFrom document.schemas {} interface.methods

/-- A unit is the one of a method and of the table that the method is lowered with: it holds the
message that is built for the method with this table, at the place of the message's class. -/
def IsUnitOf (context : BatchContext) (schemas : List (String × Schema)) (unit : OutputUnit)
    (start : Method × ImportTable) : Prop :=
  ∃ flattening built spelled,
    context.Lowered schemas start.1 start.2 unit flattening built spelled

variable {context : BatchContext} {schemas : List (String × Schema)} {table : ImportTable}
  {methods : List Method} {units : List OutputUnit}

/-- Giving methods their tables leaves none out. -/
@[simp] theorem map_fst_startsFrom :
    (context.startsFrom schemas table methods).map Prod.fst = methods := by
  induction methods generalizing table with
  | nil => rfl
  | cons method rest inductionHypothesis => simp [startsFrom, inductionHypothesis]

/-- The methods that a document starts with are all of its methods. -/
theorem map_fst_starts (context : BatchContext) (document : Document) :
    (context.starts document).map Prod.fst = document.allMethods := by
  rw [starts, List.map_flatMap, document.allMethods_eq]
  congr 1
  funext interface
  exact map_fst_startsFrom

/-- Methods that are lowered one after the other give a unit each. -/
theorem Chain.forall₂_isUnitOf (chain : context.Chain schemas table methods units) :
    List.Forall₂ (context.IsUnitOf schemas) units (context.startsFrom schemas table methods) := by
  induction chain with
  | nil => exact .nil
  | cons first others inductionHypothesis => exact .cons (exists_lowered first) inductionHypothesis

/-- The units of interfaces, before they are sorted, are those of their methods in their order. -/
theorem forall₂_unitsOf {interfaces : List Interface}
    (complete : ∀ interface ∈ interfaces,
      (context.lowerInterface schemas interface).failure = none) :
    List.Forall₂ (context.IsUnitOf schemas) (context.unitsOf schemas interfaces)
      (interfaces.flatMap fun interface => context.startsFrom schemas {} interface.methods) := by
  induction interfaces with
  | nil => exact .nil
  | cons interface rest inductionHypothesis =>
      have first := chain_lowerMethods (complete interface List.mem_cons_self)
      have others := inductionHypothesis fun other member =>
        complete other (List.mem_cons_of_mem _ member)
      exact List.rel_append first.forall₂_isUnitOf others

/-- Every unit of a document that is lowered is the one of a method. -/
theorem exists_isUnitOf {document : Document} {unit : OutputUnit}
    (success : (context.lower document).1 = .ok units) (member : unit ∈ units) :
    ∃ start, context.IsUnitOf document.schemas unit start := by
  have each := forall₂_unitsOf (lower_eq_ok_iff.mp success).1
  obtain ⟨position, inRange, rfl⟩ :=
    List.mem_iff_getElem.mp ((perm_unitsOf success).mem_iff.mp member)
  exact ⟨_, each.get inRange (each.length_eq ▸ inRange)⟩

end BatchContext

/-- Units in the order of their places. They are a rearrangement of given ones, their places stand
in order, first without regard to case, and units at one place keep the order they had. -/
structure OutputUnit.SortedFrom (given units : List OutputUnit) : Prop where
  rearranged : units.Perm given
  inOrder : (units.map fun unit => [Text.caseFold unit.path, unit.path]).SortedLE
  stable : ∀ path, units.filter (·.path == path) = given.filter (·.path == path)

/-- Sorting units puts them in the order of their places. -/
theorem OutputUnit.sortedFrom_sort (given : List OutputUnit) : SortedFrom given (sort given) where
  rearranged := Text.SortKey.sort_perm _ given
  inOrder := Text.SortKey.sortedLE_map_sort _ given
  stable := by
    intro path
    refine Text.SortKey.filter_sort fun first _ second _ atFirst atSecond => ?_
    rw [beq_iff_eq.mp atFirst, beq_iff_eq.mp atSecond]

/-- A document that is lowered has one unit for each of its methods, built for this method with what
the methods before it in its interface left recorded. The units come in the order of the methods and
are then sorted by their places; those at one place stay in the order of their methods. -/
theorem lower_unit_for_each_method (context : BatchContext) (document : Document)
    (units : List OutputUnit) (success : (context.lower document).1 = .ok units) :
    (context.starts document).map Prod.fst = document.allMethods ∧
    ∃ given,
      List.Forall₂ (context.IsUnitOf document.schemas) given (context.starts document) ∧
      OutputUnit.SortedFrom given units := by
  obtain ⟨complete, rfl⟩ := BatchContext.lower_eq_ok_iff.mp success
  exact ⟨context.map_fst_starts document, _, BatchContext.forall₂_unitsOf complete,
    OutputUnit.sortedFrom_sort _⟩

/-- A context with a surface whose files are named in lower case. -/
def moduleContext : BatchContext where
  surface := .python
  settings := { source := "", output := "", packageName := "library_v1" }
  root := .disk (.ofText "out")

/-- A method on a shelf with a type that has to be imported. -/
def shelfMethod (id : String) : Method where
  id := id
  path := "shelves/{shelf}"
  parameters := [("since", { type := some "string", format := some "date" })]

/-- A document with methods of its own, an empty resource and resources at two depths, two of whose
methods share a place. -/
def shelfDocument : Document where
  name := "library"
  version := "v1"
  methods := [("ping", { id := "library.ping", path := "ping/{target}" })]
  resources :=
    [("projects",
      { resources :=
          [("shelves",
              { methods := [("get", shelfMethod "library.projects.shelves.get"),
                  ("list", shelfMethod "library.projects.shelves.list")] })] }),
      ("shelves", { methods := [("get", shelfMethod "library.shelves.get")] })]

/-- Nothing is wrong with the methods on shelves. -/
theorem exists_lower_shelfDocument :
    ∃ units, (moduleContext.lower shelfDocument).1 = .ok units :=
  exists_eq_ok_of_isOk (by decide +kernel)

/-- All four methods are lowered, also the two that share a place. -/
theorem lower_unit_for_each_method_of_shelves :
    ∃ units, (moduleContext.lower shelfDocument).1 = .ok units ∧
      (moduleContext.starts shelfDocument).map Prod.fst = shelfDocument.allMethods ∧
      ∃ given,
        List.Forall₂ (moduleContext.IsUnitOf shelfDocument.schemas) given
          (moduleContext.starts shelfDocument) ∧
        OutputUnit.SortedFrom given units := by
  obtain ⟨units, success⟩ := exists_lower_shelfDocument
  exact ⟨units, success, lower_unit_for_each_method _ _ units success⟩

end RequestSurface
