import Mathlib
import RequestSurface.Path
import RequestSurface.Proofs.Pieces

/-!
# Paths that are written and read again

A path that was read, or joined from texts that were read, is normal: it has one of the three roots,
and its segments are not empty, no single dots, and have no slash in them. A normal path can be read
off the text that is written for it. Joining several texts goes on from a path as long as none of
them begins with a slash; the last one that does is where the path starts over, whatever it was.
-/

namespace RequestSurface

namespace Path

/-- A segment that is kept where a path is read. -/
structure IsSegment (segment : String) : Prop where
  nonempty : segment ≠ ""
  notDot : segment ≠ "."
  noSlash : '/' ∉ segment.toList

/-- A path as reading gives it. -/
structure IsNormal (path : Path) : Prop where
  root : path.root ∈ ["", "/", "//"]
  segments : ∀ segment ∈ path.segments, IsSegment segment

/-- A text that a path starts over with. -/
def StartsOver (part : String) : Prop :=
  part.toList.head? = some '/'

instance (part : String) : Decidable (StartsOver part) :=
  inferInstanceAs (Decidable (_ = _))

/-- The segments of several parts, one after the other. -/
def segmentsOfAll (parts : List String) : List String :=
  parts.flatMap fun part => segmentsOf part.toList

section Reading

variable {path : Path} {segment : String} {characters : List Char}

/-- Of a text that begins with a root and goes on without a slash, this is the root. -/
theorem rootOf_append {root : String} (isRoot : root ∈ ["", "/", "//"])
    (goesOn : characters.head? ≠ some '/') : rootOf (root.toList ++ characters) = root := by
  have stops : characters.takeWhile (· == '/') = [] := by
    cases characters with
    | nil => rfl
    | cons head tail => simp_all
  have taken : (root.toList ++ characters).takeWhile (· == '/') = root.toList := by
    rw [List.takeWhile_append_of_pos, stops, List.append_nil]
    fin_cases isRoot <;> simp
  rw [rootOf, taken]
  fin_cases isRoot <;> rfl

/-- A text has no root exactly if it does not begin with a slash. -/
theorem rootOf_eq_empty_iff : rootOf characters = "" ↔ characters.head? ≠ some '/' := by
  constructor
  · rintro noRoot isSlash
    obtain ⟨rest, rfl⟩ := List.head?_eq_some_iff.mp isSlash
    rw [rootOf, List.takeWhile_cons_of_pos (by simp), List.length_cons] at noRoot
    split at noRoot
    · omega
    · exact absurd noRoot (by decide)
    · exact absurd noRoot (by decide)
  · intro goesOn
    have noRoot : "" ∈ ["", "/", "//"] := by simp
    exact rootOf_append noRoot goesOn

/-- A slash in front of a text adds no segment. -/
theorem segmentsOf_cons_slash (characters : List Char) :
    segmentsOf ('/' :: characters) = segmentsOf characters := by
  rw [segmentsOf, Text.piecesAt, Text.piecesBy_cons_of_separates (by simp), List.map_cons,
    List.filter_cons_of_neg (by simp)]
  rfl

/-- Reading a text gives segments. -/
theorem isSegment_of_mem_segmentsOf (member : segment ∈ segmentsOf characters) :
    IsSegment segment := by
  obtain ⟨isPiece, kept⟩ := List.mem_filter.mp member
  obtain ⟨piece, inPieces, rfl⟩ := List.mem_map.mp isPiece
  obtain ⟨nonempty, notDot⟩ := by simpa using kept
  refine ⟨by simpa using nonempty, notDot, ?_⟩
  rw [String.toList_ofList]
  intro isSlash
  have noSlash := Text.not_separates_of_mem_piecesBy inPieces '/' isSlash
  simp at noSlash

/-- What is read is normal. -/
theorem isNormal_ofText (text : String) : IsNormal (ofText text) where
  root := by
    rw [ofText, rootOf]
    split <;> simp
  segments := fun _ => isSegment_of_mem_segmentsOf

/-- Joining a text keeps a path normal. -/
theorem IsNormal.join (normal : IsNormal path) (text : String) : IsNormal (path.join text) := by
  rw [Path.join]
  split
  · refine ⟨normal.root, fun segment member => ?_⟩
    rcases List.mem_append.mp member with inPath | inText
    · exact normal.segments segment inPath
    · exact (isNormal_ofText text).segments segment inText
  · exact isNormal_ofText text

/-- Segments that are written between slashes are read again. -/
theorem segmentsOf_intercalate {segments : List String}
    (valid : ∀ segment ∈ segments, IsSegment segment) :
    segmentsOf (['/'].intercalate (segments.map String.toList)) = segments := by
  by_cases isEmpty : segments = []
  · subst isEmpty
    rfl
  · have plain : ∀ piece ∈ segments.map String.toList, ∀ character ∈ piece,
        (character == '/') = false := by
      refine List.forall_mem_map.mpr fun segment member character inSegment => ?_
      rw [beq_eq_false_iff_ne]
      rintro rfl
      exact (valid segment member).noSlash inSegment
    have nonempty : segments.map String.toList ≠ [] := by simpa using isEmpty
    rw [segmentsOf, Text.piecesAt, Text.piecesBy_intercalate (by simp) nonempty plain,
      List.map_map]
    simp only [Function.comp_def, String.ofList_toList, List.map_id']
    refine List.filter_eq_self.mpr fun segment member => ?_
    simpa using ⟨(valid segment member).nonempty, (valid segment member).notDot⟩

/-- Segments that are written between slashes do not begin with one. -/
theorem head?_intercalate_segments {segments : List String}
    (valid : ∀ segment ∈ segments, IsSegment segment) :
    (['/'].intercalate (segments.map String.toList)).head? ≠ some '/' := by
  cases segments with
  | nil => simp
  | cons first others =>
      have isSegment := valid first List.mem_cons_self
      rw [List.map_cons, Text.head?_intercalate (by simpa using isSegment.nonempty)]
      exact fun isSlash => isSegment.noSlash (List.mem_of_head? isSlash)

/-- A normal path is read again from the text that is written for it. -/
theorem IsNormal.ofText_text (normal : IsNormal path) : ofText path.text = path := by
  obtain ⟨root, segments⟩ := path
  obtain ⟨isRoot, valid⟩ := normal
  let written := root ++ "/".intercalate segments
  have characters : written.toList =
      root.toList ++ ['/'].intercalate (segments.map String.toList) := by
    rw [String.toList_append, String.toList_intercalate]
    rfl
  have readRoot : rootOf written.toList = root := by
    rw [characters]
    exact rootOf_append isRoot (head?_intercalate_segments valid)
  have readSegments : segmentsOf written.toList = segments := by
    rw [characters]
    fin_cases isRoot
    · exact segmentsOf_intercalate valid
    · exact (segmentsOf_cons_slash _).trans (segmentsOf_intercalate valid)
    · exact ((segmentsOf_cons_slash _).trans (segmentsOf_cons_slash _)).trans
        (segmentsOf_intercalate valid)
  by_cases isEmpty : written = ""
  · -- A path without root and segments is written as a dot, which has neither.
    rw [isEmpty] at readRoot readSegments
    subst readRoot readSegments
    rfl
  · have sameText : Path.text ⟨root, segments⟩ = written := by
      simp [Path.text, written, isEmpty]
    rw [sameText, ofText, readRoot, readSegments]

end Reading

section Joining

variable {path : Path} {part : String} {parts front behind : List String}

/-- A part that starts over has a root. -/
theorem root_ofText_eq_empty_iff : (ofText part).root = "" ↔ ¬ StartsOver part :=
  rootOf_eq_empty_iff

/-- A part that starts over is where a path goes on from. -/
theorem join_of_startsOver (startsOver : StartsOver part) (path : Path) :
    path.join part = ofText part := by
  rw [join, if_neg]
  rw [String.isEmpty_iff, root_ofText_eq_empty_iff]
  exact not_not.mpr startsOver

/-- A part that does not start over adds its segments. -/
theorem join_of_not_startsOver (goesOn : ¬ StartsOver part) (path : Path) :
    path.join part = { path with segments := path.segments ++ segmentsOf part.toList } := by
  rw [join, if_pos]
  · rfl
  · rw [String.isEmpty_iff, root_ofText_eq_empty_iff]
    exact goesOn

/-- Parts of which none starts over add their segments. -/
theorem foldl_join_of_not_startsOver (goOn : ∀ part ∈ parts, ¬ StartsOver part) (path : Path) :
    parts.foldl join path =
      { path with segments := path.segments ++ segmentsOfAll parts } := by
  induction parts generalizing path with
  | nil => simp [segmentsOfAll]
  | cons part others inductionHypothesis =>
      obtain ⟨goesOn, othersGoOn⟩ := List.forall_mem_cons.mp goOn
      rw [List.foldl_cons, inductionHypothesis othersGoOn, join_of_not_startsOver goesOn]
      simp [segmentsOfAll]

/-- The last part that starts over leads on with the parts behind it, wherever one was before. -/
theorem foldl_join_of_startsOver (startsOver : StartsOver part)
    (goOn : ∀ later ∈ behind, ¬ StartsOver later) (front : List String) (path : Path) :
    (front ++ part :: behind).foldl join path =
      ⟨(ofText part).root, segmentsOfAll (part :: behind)⟩ := by
  rw [List.foldl_append, List.foldl_cons, join_of_startsOver startsOver,
    foldl_join_of_not_startsOver goOn]
  rfl

/-- Of several parts none starts over, or there is a last one that does. -/
theorem exists_last_startsOver (parts : List String) :
    (∀ part ∈ parts, ¬ StartsOver part) ∨
      ∃ front part behind, parts = front ++ part :: behind ∧ StartsOver part ∧
        ∀ later ∈ behind, ¬ StartsOver later := by
  induction parts with
  | nil => exact .inl (by simp)
  | cons first others inductionHypothesis =>
      rcases inductionHypothesis with goOn | ⟨front, part, behind, rfl, startsOver, goOn⟩
      · by_cases startsOver : StartsOver first
        · exact .inr ⟨[], first, others, rfl, startsOver, goOn⟩
        · exact .inl (List.forall_mem_cons.mpr ⟨startsOver, goOn⟩)
      · exact .inr ⟨first :: front, part, behind, rfl, startsOver, goOn⟩

/-- Joining several texts keeps a path normal. -/
theorem IsNormal.foldl_join (normal : IsNormal path) (parts : List String) :
    IsNormal (parts.foldl Path.join path) := by
  induction parts generalizing path with
  | nil => exact normal
  | cons part others inductionHypothesis => exact inductionHypothesis (normal.join part)

end Joining

end Path

end RequestSurface
