import Mathlib
import RequestSurface.Proofs.Batch

/-!
# The order of resources does not matter

Documents that differ only in the order of their resources, at any depth, have the same interfaces
in another order. No import table outlives its interface, so every interface gives the same units in
both, and sorting them by path leaves no choice but among units at one path.
-/

namespace RequestSurface

/-- Named resources that differ only in their order and in the order of the resources beneath them,
at any depth. -/
inductive Resource.EntriesReordered :
    List (String × Resource) → List (String × Resource) → Prop where
  | nil : Resource.EntriesReordered [] []
  | cons {name : String} {methods : List (String × Method)}
      {left right lefts rights : List (String × Resource)}
      (beneath : Resource.EntriesReordered left right)
      (rest : Resource.EntriesReordered lefts rights) :
      Resource.EntriesReordered ((name, ⟨methods, left⟩) :: lefts)
        ((name, ⟨methods, right⟩) :: rights)
  | swap (first second : String × Resource) (rest : List (String × Resource)) :
      Resource.EntriesReordered (first :: second :: rest) (second :: first :: rest)
  | trans {left middle right : List (String × Resource)}
      (former : Resource.EntriesReordered left middle)
      (latter : Resource.EntriesReordered middle right) :
      Resource.EntriesReordered left right

/-- Documents that differ only in the order of their resources, at any depth. -/
structure Document.Reordered (left right : Document) : Prop where
  name : left.name = right.name
  version : left.version = right.version
  schemas : left.schemas = right.schemas
  methods : left.methods = right.methods
  resources : Resource.EntriesReordered left.resources right.resources

/-- Reordered resources have the same interfaces in another order. -/
theorem Resource.EntriesReordered.childInterfaces_perm {left right : List (String × Resource)}
    (reordered : Resource.EntriesReordered left right) (path : List String) :
    (Resource.childInterfaces path left).Perm (Resource.childInterfaces path right) := by
  induction reordered generalizing path with
  | nil => exact .refl _
  | cons beneath rest beneathHypothesis restHypothesis =>
      simp only [Resource.childInterfaces, Resource.interfaces]
      exact ((beneathHypothesis _).append_left _).append (restHypothesis path)
  | swap first second rest =>
      simp only [Resource.childInterfaces]
      exact List.perm_append_comm_assoc _ _ _
  | trans former latter formerHypothesis latterHypothesis =>
      exact (formerHypothesis path).trans (latterHypothesis path)

/-- Reordered documents have the same interfaces in another order. -/
theorem Document.Reordered.interfaces_perm {left right : Document}
    (reordered : left.Reordered right) : left.interfaces.Perm right.interfaces := by
  unfold Document.interfaces
  rw [reordered.name, reordered.methods]
  exact (reordered.resources.childInterfaces_perm []).append_left _

/-- The key that places are sorted by tells different places apart. -/
theorem OutputUnit.pathKey_injective : Function.Injective OutputUnit.pathKey := by
  intro path other sameKey
  injection sameKey with _ rest
  injection rest

/-- Units with the same sort keys are at the same places. -/
theorem OutputUnit.map_path_eq {left right : List OutputUnit}
    (sameKeys : left.map (fun unit => pathKey unit.path) =
      right.map (fun unit => pathKey unit.path)) :
    left.map OutputUnit.path = right.map OutputUnit.path := by
  apply pathKey_injective.list_map
  rw [List.map_map, List.map_map]
  exact sameKeys

/-- Lowering succeeds for both of two documents that differ in the order of resources, or for
neither. If it succeeds, it gives the same units as often, at the same places one after the other,
and the same list if no two units share a place. -/
theorem lower_eq_of_reordered (context : BatchContext) (left right : Document)
    (reordered : left.Reordered right) :
    ((∃ units, (context.lower left).1 = .ok units) ↔
      ∃ units, (context.lower right).1 = .ok units) ∧
    ∀ units others, (context.lower left).1 = .ok units → (context.lower right).1 = .ok others →
      units.Perm others ∧
      units.map OutputUnit.path = others.map OutputUnit.path ∧
      ((units.map OutputUnit.path).Nodup → units = others) := by
  have interfaces := reordered.interfaces_perm
  constructor
  · simp only [BatchContext.lower_eq_ok_iff, reordered.schemas, interfaces.mem_iff,
      exists_and_left, exists_eq, and_true]
  · intro units others success otherSuccess
    obtain ⟨-, rfl⟩ := BatchContext.lower_eq_ok_iff.mp success
    obtain ⟨-, rfl⟩ := BatchContext.lower_eq_ok_iff.mp otherSuccess
    rw [← reordered.schemas]
    have rearranged := context.unitsOf_perm left.schemas interfaces
    refine ⟨Text.SortKey.sort_perm_sort _ rearranged, ?_, ?_⟩
    · exact OutputUnit.map_path_eq (Text.SortKey.map_sort_eq_of_perm rearranged)
    · intro distinct
      have sorted := Text.SortKey.sort_perm (fun unit : OutputUnit => OutputUnit.pathKey unit.path)
        (context.unitsOf left.schemas left.interfaces)
      have keys := ((sorted.map OutputUnit.path).nodup_iff.mp distinct).map
        OutputUnit.pathKey_injective
      rw [List.map_map] at keys
      exact Text.SortKey.sort_eq_of_perm rearranged keys

/-- A context with a package of its own and a place on disk. -/
def diskContext : BatchContext where
  surface := .java
  settings := { source := "", output := "", packageName := "com.example", surface := .java }
  root := .disk (.ofText "out")

/-- A method that mentions the list container. -/
def listing (collection : String) : String × Method :=
  ("list",
    { id := "compute." ++ collection ++ ".list", path := collection ++ "/{name}"
      parameters := [("filter", { type := some "string", repeated := true })] })

/-- A method whose body is a message with the short name of the list container. -/
def replacing (collection : String) : String × Method :=
  ("replace",
    { id := "compute." ++ collection ++ ".replace", path := collection ++ "/{name}"
      request := some { reference := some "List" } })

/-- A document with some resources. -/
def computeDocument (resources : List (String × Resource)) : Document :=
  { name := "compute", version := "v1", schemas := [("List", {})], resources := resources }

/-- Resources in one order at two depths. -/
def zonesFirst : List (String × Resource) :=
  [("zones", ⟨[listing "zones"], [("disks", ⟨[listing "disks"], []⟩),
      ("images", ⟨[replacing "images"], []⟩)]⟩),
    ("regions", ⟨[replacing "regions"], []⟩)]

/-- The same resources in the opposite order at both depths. -/
def regionsFirst : List (String × Resource) :=
  [("regions", ⟨[replacing "regions"], []⟩),
    ("zones", ⟨[listing "zones"], [("images", ⟨[replacing "images"], []⟩),
      ("disks", ⟨[listing "disks"], []⟩)]⟩)]

/-- Both orders give the same units, although the list container and a message claim the same alias
in different interfaces. -/
theorem lower_eq_of_reordered_zones :
    (computeDocument zonesFirst).Reordered (computeDocument regionsFirst) ∧
    ∃ units others,
      (diskContext.lower (computeDocument zonesFirst)).1 = .ok units ∧
      (diskContext.lower (computeDocument regionsFirst)).1 = .ok others ∧
      units.Perm others ∧ units.map OutputUnit.path = others.map OutputUnit.path ∧
      ((units.map OutputUnit.path).Nodup → units = others) := by
  have reordered : (computeDocument zonesFirst).Reordered (computeDocument regionsFirst) :=
    ⟨rfl, rfl, rfl, rfl, .trans (.swap _ _ []) (.cons .nil (.cons (.swap _ _ []) .nil))⟩
  obtain ⟨bothOrNeither, agree⟩ := lower_eq_of_reordered diskContext _ _ reordered
  obtain ⟨units, success⟩ := exists_eq_ok_of_isOk
    (show (diskContext.lower (computeDocument zonesFirst)).1.isOk = true by decide +kernel)
  obtain ⟨others, otherSuccess⟩ := bothOrNeither.mp ⟨units, success⟩
  exact ⟨reordered, units, others, success, otherSuccess, agree units others success otherSuccess⟩

end RequestSurface
