import Mathlib
import RequestSurface.Proofs.BatchFailure
import RequestSurface.Proofs.NormalPaths
import RequestSurface.Proofs.UnitPlaces

/-!
# Files beneath the output directory

The file of a unit is put into the directory that the output root and the parts of the package lead
to. A part has no dot in it, so it never leads upwards. But it may begin with a slash, and then it
starts over: the output root has no say in where the file goes.
-/

namespace RequestSurface

/-- A path leads to something beneath a root: it goes on from the root by at least one segment, and
never upwards. -/
def Path.IsBeneath (path root : Path) : Prop :=
  ∃ more, more ≠ [] ∧ ".." ∉ more ∧ path = { root with segments := root.segments ++ more }

/-- A package leads out of a root: one of its parts starts over, and where the last such part and
those behind it lead is neither the root nor beneath it. -/
def Path.LeavesFrom (package : String) (root : Path) : Prop :=
  ∃ front part behind, Surface.packagePath package = front ++ part :: behind ∧ StartsOver part ∧
    (∀ later ∈ behind, ¬ StartsOver later) ∧
    ¬ ((ofText part).root = root.root ∧ root.segments <+: segmentsOfAll (part :: behind))

section Packages

variable {package part segment : String}

/-- No part of a package has a dot in it. -/
theorem Surface.dot_notMem_packagePath (member : part ∈ packagePath package) :
    '.' ∉ part.toList := by
  obtain ⟨piece, isPiece, rfl⟩ := List.mem_map.mp (List.mem_filter.mp member).1
  rw [String.toList_ofList]
  intro isDot
  have noDot := Text.not_separates_of_mem_piecesBy isPiece '.' isDot
  simp at noDot

/-- No segment of parts of a package leads upwards. -/
theorem Surface.up_notMem_segmentsOfAll {parts : List String}
    (areParts : parts ⊆ packagePath package) : ".." ∉ Path.segmentsOfAll parts := by
  intro isUp
  obtain ⟨part, isPart, isSegment⟩ := List.mem_flatMap.mp isUp
  obtain ⟨piece, isPiece, same⟩ := List.mem_map.mp (List.mem_filter.mp isSegment).1
  refine Surface.dot_notMem_packagePath (areParts isPart) (Text.subset_of_mem_piecesBy isPiece ?_)
  have characters := congrArg String.toList same
  rw [String.toList_ofList] at characters
  simp [characters]

end Packages

section Leaving

variable {package part : String} {front behind : List String}

/-- A package none of whose parts starts over does not lead out of a root. -/
theorem Path.not_leavesFrom (goOn : ∀ part ∈ Surface.packagePath package, ¬ StartsOver part)
    (root : Path) : ¬ LeavesFrom package root := by
  rintro ⟨front, part, behind, split, startsOver, -⟩
  exact goOn part (by simp [split]) startsOver

/-- Whether a package leads out of a root is seen where one of its parts starts over last. -/
theorem Path.leavesFrom_iff (split : Surface.packagePath package = front ++ part :: behind)
    (startsOver : StartsOver part) (goOn : ∀ later ∈ behind, ¬ StartsOver later) (root : Path) :
    LeavesFrom package root ↔
      ¬ ((ofText part).root = root.root ∧ root.segments <+: segmentsOfAll (part :: behind)) := by
  constructor
  · rintro ⟨otherFront, otherPart, otherBehind, otherSplit, otherStarts, othersGoOn, leads⟩
    -- Wherever the package is cut, its parts lead to one directory.
    have oneDirectory := calc
      (⟨(ofText part).root, segmentsOfAll (part :: behind)⟩ : Path)
          = (Surface.packagePath package).foldl join root := by
            rw [split, foldl_join_of_startsOver startsOver goOn]
        _ = ⟨(ofText otherPart).root, segmentsOfAll (otherPart :: otherBehind)⟩ := by
            rw [otherSplit, foldl_join_of_startsOver otherStarts othersGoOn]
    obtain ⟨sameRoot, sameSegments⟩ := Path.mk.inj oneDirectory
    rwa [sameRoot, sameSegments]
  · exact fun leads => ⟨front, part, behind, split, startsOver, goOn, leads⟩

end Leaving

section Beneath

variable {path root : Path} {name : String}

/-- A file in a directory is beneath a root exactly if the directory is the root or leads there
without going upwards. -/
theorem Path.isBeneath_concat_iff (notUp : name ≠ "..") :
    IsBeneath { path with segments := path.segments ++ [name] } root ↔
      path.root = root.root ∧ ∃ rest, ".." ∉ rest ∧ path.segments = root.segments ++ rest := by
  constructor
  · rintro ⟨more, nonempty, noUp, same⟩
    obtain ⟨sameRoot, sameSegments⟩ := Path.mk.inj same
    rcases List.eq_nil_or_concat' more with rfl | ⟨rest, last, rfl⟩
    · exact absurd rfl nonempty
    · rw [← List.append_assoc] at sameSegments
      obtain ⟨inFront, -⟩ := List.append_inj' sameSegments rfl
      exact ⟨sameRoot, rest, fun isUp => noUp (List.mem_append_left _ isUp), inFront⟩
  · rintro ⟨sameRoot, rest, noUp, sameSegments⟩
    refine ⟨rest ++ [name], by simp, ?_, ?_⟩
    · simp only [List.mem_append, List.mem_singleton, not_or]
      exact ⟨noUp, notUp.symm⟩
    · rw [sameRoot, sameSegments, List.append_assoc]

/-- The file of a package is beneath a root exactly if the package does not lead out of the root. -/
theorem Path.isBeneath_file_iff (notUp : name ≠ "..") (package : String) (root : Path) :
    let directory := (Surface.packagePath package).foldl Path.join root
    IsBeneath { directory with segments := directory.segments ++ [name] } root ↔
      ¬ LeavesFrom package root := by
  intro directory
  rw [isBeneath_concat_iff notUp]
  rcases exists_last_startsOver (Surface.packagePath package) with
    goOn | ⟨front, part, behind, split, startsOver, goOn⟩
  · have joined : directory = _ := foldl_join_of_not_startsOver goOn root
    refine iff_of_true ?_ (not_leavesFrom goOn root)
    rw [joined]
    exact ⟨rfl, _, Surface.up_notMem_segmentsOfAll (List.Subset.refl _), rfl⟩
  · have joined : directory = ⟨(ofText part).root, segmentsOfAll (part :: behind)⟩ := by
      rw [← foldl_join_of_startsOver startsOver goOn front root, ← split]
    have isPart : part :: behind ⊆ Surface.packagePath package :=
      split ▸ List.subset_append_right front _
    rw [leavesFrom_iff split startsOver goOn, not_not, joined]
    constructor
    · rintro ⟨sameRoot, rest, -, sameSegments⟩
      exact ⟨sameRoot, rest, sameSegments.symm⟩
    · rintro ⟨sameRoot, rest, sameSegments⟩
      refine ⟨sameRoot, rest, fun isUp => ?_, sameSegments.symm⟩
      refine Surface.up_notMem_segmentsOfAll isPart ?_
      rw [← sameSegments]
      exact List.mem_append_right _ isUp

/-- A file on a disk is read again as one more segment in the directory that its way leads to. -/
theorem OutputRoot.ofText_of_place_disk {directories : List String} {written : String}
    (normal : root.IsNormal) (valid : IsFileName name)
    (placed : (OutputRoot.disk root).place (directories ++ [name]) = .ok written) :
    let directory := directories.foldl Path.join root
    Path.ofText written = { directory with segments := directory.segments ++ [name] } := by
  simp only [place, checked_of_place placed, bind, Except.bind, pure, Except.pure,
    Except.ok.injEq, List.foldl_append, List.foldl_cons, List.foldl_nil] at placed
  rw [← placed, ((normal.foldl_join directories).join name).ofText_text]
  exact valid.join_eq _

end Beneath

namespace BatchContext

variable {context : BatchContext} {schemas : List (String × Schema)} {unit : OutputUnit}

/-- The file of a unit is beneath a normal root on a disk exactly if the package does not lead out
of the root. -/
theorem IsUnitOf.isBeneath_iff {start : Method × ImportTable} {root : Path}
    (isUnit : context.IsUnitOf schemas unit start) (onDisk : context.root = .disk root)
    (normal : root.IsNormal) :
    (Path.ofText unit.path).IsBeneath root ↔
      ¬ Path.LeavesFrom context.settings.packageName root := by
  have placed := isUnit.placed
  rw [onDisk] at placed
  rw [OutputRoot.ofText_of_place_disk normal (Surface.isFileName_fileName _ _) placed]
  exact Path.isBeneath_file_iff (Surface.fileName_ne (by decide)) _ root

/-- A local output is put on a disk. -/
theorem ofSettings_of_isLocal {settings : DocumentSettings}
    (isLocal : OutputRoot.splitProtocol? settings.output.toList = none) (surface : Surface) :
    ofSettings surface settings = .ok ⟨surface, settings, .disk (.ofText settings.output)⟩ := by
  simp only [ofSettings, OutputRoot.read, isLocal]

end BatchContext

/-- With a local output, the files of a document that is lowered are beneath the output directory
unless the package leads out of it, which it does not as long as none of its parts begins with a
slash. If it does, every one of the files is elsewhere. -/
theorem lower_beneath_output_iff (surface : Surface) (settings : DocumentSettings)
    (context : BatchContext) (document : Document) (units : List OutputUnit)
    (isLocal : OutputRoot.splitProtocol? settings.output.toList = none)
    (begun : BatchContext.ofSettings surface settings = .ok context)
    (success : (context.lower document).1 = .ok units) :
    (∀ unit ∈ units, (Path.ofText unit.path).IsBeneath (.ofText settings.output) ↔
      ¬ Path.LeavesFrom settings.packageName (.ofText settings.output)) ∧
    ((∀ part ∈ Surface.packagePath settings.packageName, ¬ Path.StartsOver part) →
      ∀ unit ∈ units, (Path.ofText unit.path).IsBeneath (.ofText settings.output)) := by
  rw [BatchContext.ofSettings_of_isLocal isLocal, Except.ok.injEq] at begun
  subst begun
  have each : ∀ unit ∈ units, (Path.ofText unit.path).IsBeneath (.ofText settings.output) ↔
      ¬ Path.LeavesFrom settings.packageName (.ofText settings.output) := by
    intro unit member
    obtain ⟨start, isUnit⟩ := BatchContext.exists_isUnitOf success member
    exact isUnit.isBeneath_iff rfl (Path.isNormal_ofText _)
  exact ⟨each, fun goOn unit member => (each unit member).mpr (Path.not_leavesFrom goOn _)⟩

/-- Settings with a package of two parts and an output directory that is not written in order. -/
def nestedSettings : DocumentSettings where
  source := "s"
  output := "gen//./src/"
  packageName := "com.example"

/-- The file of a method is beneath such a directory. -/
theorem lower_beneath_output_iff_nested :
    ∃ context units, BatchContext.ofSettings .java nestedSettings = .ok context ∧
      (context.lower plainDocument).1 = .ok units ∧
      (∀ unit ∈ units, (Path.ofText unit.path).IsBeneath (.ofText nestedSettings.output) ↔
        ¬ Path.LeavesFrom nestedSettings.packageName (.ofText nestedSettings.output)) ∧
      ∀ unit ∈ units, (Path.ofText unit.path).IsBeneath (.ofText nestedSettings.output) := by
  let context : BatchContext := ⟨.java, nestedSettings, .disk (.ofText nestedSettings.output)⟩
  have isLocal : OutputRoot.splitProtocol? nestedSettings.output.toList = none := by
    decide +kernel
  have begun := BatchContext.ofSettings_of_isLocal isLocal .java
  obtain ⟨units, success⟩ := exists_eq_ok_of_isOk
    (show (context.lower plainDocument).1.isOk = true by decide +kernel)
  obtain ⟨each, beneath⟩ := lower_beneath_output_iff .java nestedSettings context plainDocument
    units isLocal begun success
  exact ⟨context, units, begun, success, each, beneath (by decide +kernel)⟩

/-- A configuration whose package begins with a slash. -/
def rootedConfiguration : Value :=
  .mapping
    [(.text "language", .scalar (.text "python")), (.text "output", .scalar (.text "out")),
      (.text "package_name", .scalar (.text "/etc")), (.text "source", .scalar (.text "s"))]

/-- Not all files stay beneath a local output directory: where the package begins with a slash, it
is accepted, and the file is put into a directory at the root of the disk. -/
theorem lower_leaves_output :
    ¬ ∀ (given : Value) (settings : DocumentSettings) (context : BatchContext)
      (document : Document) (units : List OutputUnit),
      (DocumentSettings.read given).accept = .ok settings →
      OutputRoot.splitProtocol? settings.output.toList = none →
      BatchContext.ofSettings settings.surface settings = .ok context →
      (context.lower document).1 = .ok units →
      ∀ unit ∈ units, (Path.ofText unit.path).IsBeneath (.ofText settings.output) := by
  intro beneath
  let settings : DocumentSettings := { source := "s", output := "out", packageName := "/etc" }
  let context : BatchContext := ⟨.python, settings, .disk (.ofText settings.output)⟩
  have isLocal : OutputRoot.splitProtocol? settings.output.toList = none := by decide +kernel
  have noFaults : (DocumentSettings.read rootedConfiguration).faults.isEmpty = true := by
    decide +kernel
  have result : (DocumentSettings.read rootedConfiguration).result = settings := by
    decide +kernel
  have accepted : (DocumentSettings.read rootedConfiguration).accept = .ok settings := by
    rw [Reading.accept, if_pos noFaults, result]
  obtain ⟨units, success⟩ := exists_eq_ok_of_isOk
    (show (context.lower plainDocument).1.isOk = true by decide +kernel)
  have all := beneath _ settings context plainDocument units accepted isLocal
    (BatchContext.ofSettings_of_isLocal isLocal .python) success
  have written : "/etc/get_b_http_request.py" ∈ (context.unitsOf plainDocument.schemas
      plainDocument.interfaces).map OutputUnit.path := by decide +kernel
  obtain ⟨unit, isGiven, atRoot⟩ := List.mem_map.mp written
  have member : unit ∈ units := (BatchContext.perm_unitsOf success).mem_iff.mpr isGiven
  obtain ⟨more, -, -, same⟩ := all unit member
  rw [atRoot] at same
  have sameRoot : (Path.ofText "/etc/get_b_http_request.py").root = (Path.ofText "out").root := by
    rw [same]
  exact absurd sameRoot (by decide +kernel)

end RequestSurface
