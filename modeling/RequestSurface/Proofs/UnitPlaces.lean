import Mathlib
import RequestSurface.Proofs.MethodUnits
import RequestSurface.Proofs.Places

/-!
# When two units share a place

All units of a batch are put behind one directory, so they are at different places exactly when
their methods have different file names. A file name says no more of the id of a method than its
last two pieces, and those only in the casing of the surface.
-/

namespace RequestSurface

/-- The name of the file that holds the request message of a method. -/
def Method.fileName (surface : Surface) (method : Method) : String :=
  surface.fileName (surface.className method.requestName)

/-- Methods with one action on one collection have one file, wherever the collection is. -/
theorem Method.fileName_eq_of_last_pieces {method other : Method} (surface : Surface)
    (action : method.action = other.action) (collection : method.collection = other.collection) :
    method.fileName surface = other.fileName surface := by
  have plural : method.isPlural = other.isPlural := by rw [isPlural, isPlural, action]
  rw [fileName, fileName, requestName, requestName, plural, action, collection]

namespace BatchContext

/-- The unit of a method is at the place for the file of the method. -/
theorem IsUnitOf.placed {context : BatchContext} {schemas : List (String × Schema)}
    {unit : OutputUnit} {start : Method × ImportTable}
    (isUnit : context.IsUnitOf schemas unit start) :
    context.root.place (Surface.packagePath context.settings.packageName ++
      [start.1.fileName context.surface]) = .ok unit.path := by
  obtain ⟨flattening, built, spelled, lowered⟩ := isUnit
  obtain ⟨drafts, bodyDraft, parts⟩ := RequestContext.exists_built lowered.requested
  have placed := lowered.placed
  rw [OutputUnit.pathFor, parts.typeName] at placed
  exact placed

/-- Units are put behind one directory, each under the file name of its method. -/
theorem exists_directory (context : BatchContext) (schemas : List (String × Schema)) :
    ∃ directory : String, ∀ units starts,
      List.Forall₂ (context.IsUnitOf schemas) units starts →
      units.map OutputUnit.path =
        (starts.map Prod.fst).map fun method => directory ++ method.fileName context.surface := by
  obtain ⟨directory, behind⟩ :=
    context.root.exists_place (Surface.packagePath context.settings.packageName)
  refine ⟨directory, fun units starts each => ?_⟩
  rw [List.map_map]
  induction each with
  | nil => rfl
  | cons isUnit others inductionHypothesis =>
      have path := behind _ _ (Surface.isFileName_fileName _ _) isUnit.placed
      rw [List.map_cons, List.map_cons, inductionHypothesis, path]
      rfl

/-- The units of all interfaces are at different places exactly when the file names of their methods
are different. -/
theorem nodup_places_unitsOf_iff {context : BatchContext} {document : Document}
    (complete : ∀ interface ∈ document.interfaces,
      (context.lowerInterface document.schemas interface).failure = none) :
    ((context.unitsOf document.schemas document.interfaces).map OutputUnit.path).Nodup ↔
      (document.allMethods.map (Method.fileName context.surface)).Nodup := by
  obtain ⟨directory, behind⟩ := context.exists_directory document.schemas
  have paths := behind _ _ (forall₂_unitsOf complete)
  have apart : Function.Injective fun name : String => directory ++ name :=
    fun name other same => (String.append_right_inj directory).mp same
  calc ((context.unitsOf document.schemas document.interfaces).map OutputUnit.path).Nodup
      ↔ (((context.starts document).map Prod.fst).map
          fun method => directory ++ method.fileName context.surface).Nodup := by
        rw [paths, starts]
    _ ↔ ((document.allMethods.map (Method.fileName context.surface)).map
          fun name => directory ++ name).Nodup := by
        rw [context.map_fst_starts, List.map_map, Function.comp_def]
    _ ↔ (document.allMethods.map (Method.fileName context.surface)).Nodup :=
        List.nodup_map_iff apart

end BatchContext

/-- The units of a document that is lowered are at different places exactly when the file names of
its methods are different. -/
theorem lower_places_nodup_iff (context : BatchContext) (document : Document)
    (units : List OutputUnit) (success : (context.lower document).1 = .ok units) :
    (units.map OutputUnit.path).Nodup ↔
      (document.allMethods.map (Method.fileName context.surface)).Nodup := by
  have sorted := (BatchContext.perm_unitsOf success).map OutputUnit.path
  rw [sorted.nodup_iff]
  exact BatchContext.nodup_places_unitsOf_iff (BatchContext.lower_eq_ok_iff.mp success).1

/-- Zones of two kinds, with methods for both. -/
def zoneDocument : Document where
  name := "compute"
  version := "v1"
  resources :=
    [("zones",
      { methods := [("get", { id := "compute.zones.get", path := "zones/{zone}" })]
        resources :=
          [("policies",
              { methods := [("list", { id := "compute.zones.policies.list", path := "{zone}" }),
                  ("get", { id := "compute.zones.policies.get", path := "{zone}" })] })] })]

/-- Methods of one resource and of one beneath it have different files. -/
theorem lower_places_nodup_iff_zones :
    ∃ units, (moduleContext.lower zoneDocument).1 = .ok units ∧
      ((units.map OutputUnit.path).Nodup ↔
        (zoneDocument.allMethods.map (Method.fileName .python)).Nodup) ∧
      (units.map OutputUnit.path).Nodup := by
  obtain ⟨units, success⟩ := exists_eq_ok_of_isOk
    (show (moduleContext.lower zoneDocument).1.isOk = true by decide +kernel)
  have apart := lower_places_nodup_iff moduleContext zoneDocument units success
  exact ⟨units, success, apart, apart.mpr (by decide +kernel)⟩

/-- Different ids do not keep the files of methods apart: of two methods with one action on one
collection at different depths, the file of the later one overwrites that of the other. -/
theorem nodup_ids_share_place :
    ¬ ∀ (context : BatchContext) (document : Document) (units : List OutputUnit),
      (document.allMethods.map Method.id).Nodup → (context.lower document).1 = .ok units →
      (units.map OutputUnit.path).Nodup := by
  intro apart
  obtain ⟨units, success⟩ := exists_lower_shelfDocument
  have distinct := apart moduleContext shelfDocument units (by decide +kernel) success
  have sorted := (BatchContext.perm_unitsOf success).map OutputUnit.path
  rw [sorted.nodup_iff, BatchContext.nodup_places_unitsOf_iff
    (BatchContext.lower_eq_ok_iff.mp success).1] at distinct
  -- The ids of the methods that get a shelf differ in front of their last two pieces only.
  let inner := shelfMethod "library.projects.shelves.get"
  let outer := shelfMethod "library.shelves.get"
  have sameFile : inner.fileName .python = outer.fileName .python :=
    Method.fileName_eq_of_last_pieces .python (by decide) (by decide)
  have isInner : shelfDocument.allMethods[1]? = some inner := by rfl
  have isOuter : shelfDocument.allMethods[3]? = some outer := by rfl
  have same : inner = outer := List.inj_on_of_nodup_map distinct (List.mem_of_getElem? isInner)
    (List.mem_of_getElem? isOuter) sameFile
  exact absurd (congrArg Method.id same) (by decide)

end RequestSurface
