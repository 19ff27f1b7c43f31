import Mathlib
import RequestSurface.Proofs.WordCharacters
import RequestSurface.OutputUnit

/-!
# Places of files

Whatever kind of place a root is, a file name that takes up one segment is only put behind the place
of its directory. So files of one directory are at different places when their names differ.
-/

namespace RequestSurface

/-- A text occurs within another one when it is a part of it without gaps. -/
theorem Text.occursIn_iff {part text : List Char} :
    occursIn part text = true ↔ part <:+: text := by
  induction text with
  | nil => simp [occursIn]
  | cons head rest inductionHypothesis =>
      rw [occursIn, Bool.or_eq_true, List.isPrefixOf_iff_prefix, inductionHypothesis,
        List.infix_cons_iff]

/-- What ends in a character that a text lacks occurs in front of the text or not at all. -/
theorem Text.occursIn_append_of_not_mem {part front back : List Char} {last : Char}
    (absent : last ∉ back) :
    occursIn (part ++ [last]) (front ++ back) = occursIn (part ++ [last]) front := by
  rw [Bool.eq_iff_iff, occursIn_iff, occursIn_iff]
  constructor
  · rintro ⟨before, after, whole⟩
    rcases List.append_eq_append_iff.mp whole with ⟨between, inFront, -⟩ | ⟨excess, reaches, inBack⟩
    · exact ⟨before, between, inFront.symm⟩
    · rcases List.eq_nil_or_concat excess with rfl | ⟨kept, final, rfl⟩
      · exact ⟨before, [], by simpa using reaches⟩
      · -- The part reaches into the text, and so does its last character.
        have sameLast : last = final := by simpa using congrArg List.getLast? reaches
        exact absurd (by simp [inBack, sameLast]) absent
  · exact fun within => within.trans (List.prefix_append front back).isInfix

/-- A file name that takes up one segment of a path and names no protocol. -/
structure IsFileName (name : String) : Prop where
  noSlash : '/' ∉ name.toList
  noColon : ':' ∉ name.toList
  nonempty : name ≠ ""
  notDot : name ≠ "."

/-- The name of a file is longer than its ending, which has at least three characters. -/
theorem Surface.two_lt_length_fileName (surface : Surface) (typeName : String) :
    2 < (surface.fileName typeName).length := by
  cases surface with
  | java =>
      rw [fileName, String.length_append, show ".java".length = 5 from rfl]
      omega
  | python =>
      rw [fileName, String.length_append, show ".py".length = 3 from rfl]
      omega

/-- The file of a class is not named by a text of at most two characters. -/
theorem Surface.fileName_ne {surface : Surface} {typeName text : String} (short : text.length ≤ 2) :
    surface.fileName typeName ≠ text := by
  rintro rfl
  exact absurd short (surface.two_lt_length_fileName typeName).not_ge

/-- The file of a class that is named by words has a file name. -/
theorem Surface.isFileName_fileName (surface : Surface) (raw : String) :
    IsFileName (surface.fileName (surface.className raw)) where
  noSlash member := by simpa using surface.mem_fileName raw member
  noColon member := by simpa using surface.mem_fileName raw member
  nonempty := fileName_ne (by decide)
  notDot := fileName_ne (by decide)

namespace IsFileName

variable {name : String} (valid : IsFileName name)
include valid

/-- A file name has a first character. -/
theorem toList_ne_nil : name.toList ≠ [] := by
  simpa using valid.nonempty

/-- A file name does not begin with a slash. -/
theorem head?_ne : name.toList.head? ≠ some '/' := by
  intro isSlash
  exact valid.noSlash (List.mem_of_head? isSlash)

/-- No slashes stand in front of a file name. -/
theorem takeWhile_eq : name.toList.takeWhile (· == '/') = [] := by
  cases characters : name.toList with
  | nil => rfl
  | cons head tail =>
      have isOther : head ≠ '/' := by simpa [characters] using valid.head?_ne
      simp [isOther]

/-- No slash is dropped in front of a file name. -/
theorem dropWhile_eq : name.toList.dropWhile (· == '/') = name.toList := by
  have whole := List.takeWhile_append_dropWhile (p := (· == '/')) (l := name.toList)
  rwa [valid.takeWhile_eq, List.nil_append] at whole

/-- No slash is dropped behind a file name. -/
theorem trim_append (front : List Char) :
    ((front ++ name.toList).reverse.dropWhile (· == '/')).reverse = front ++ name.toList := by
  cases characters : name.toList.reverse with
  | nil => exact absurd (List.reverse_eq_nil_iff.mp characters) valid.toList_ne_nil
  | cons last rest =>
      have isOther : last ≠ '/' := by
        rintro rfl
        exact valid.noSlash (List.mem_reverse.mp (by simp [characters]))
      rw [List.reverse_append, characters, List.cons_append,
        List.dropWhile_cons_of_neg (by simpa using isOther), ← List.cons_append, ← characters,
        ← List.reverse_append, List.reverse_reverse]

/-- A file name is a path of one segment. -/
theorem ofText_eq : Path.ofText name = ⟨"", [name]⟩ := by
  have onePiece : Text.piecesAt '/' name.toList = [name.toList] := by
    refine Text.piecesBy_of_plain fun character member => ?_
    rw [beq_eq_false_iff_ne]
    rintro rfl
    exact valid.noSlash member
  simp [Path.ofText, Path.rootOf, Path.segmentsOf, onePiece, valid.takeWhile_eq, valid.nonempty,
    valid.notDot]

/-- Joining a file name adds one segment. -/
theorem join_eq (path : Path) :
    path.join name = { path with segments := path.segments ++ [name] } := by
  simp [Path.join, valid.ofText_eq]

end IsFileName

/-- A file is put behind the path of its directory. -/
theorem Path.exists_text_join (path : Path) :
    ∃ front : String, ∀ name, IsFileName name → (path.join name).text = front ++ name := by
  let front := if path.segments = [] then path.root
    else path.root ++ String.intercalate "/" path.segments ++ "/"
  refine ⟨front, fun name valid => ?_⟩
  have written : path.root ++ String.intercalate "/" (path.segments ++ [name]) = front ++ name := by
    by_cases isEmpty : path.segments = []
    · simp [front, isEmpty]
    · rw [String.intercalate_append_of_ne_nil isEmpty (by simp)]
      simp [front, isEmpty, String.append_assoc]
  rw [valid.join_eq, text, written]
  simp [valid.nonempty]

namespace OutputRoot

/-- A file is joined to a path behind a slash. -/
theorem exists_joinPart (path : List Char) :
    ∃ front, ∀ name, IsFileName name → joinPart path name.toList = front ++ name.toList := by
  by_cases isOpen : (path.isEmpty || path.getLast? == some '/') = true
  · refine ⟨path, fun name valid => ?_⟩
    rw [joinPart, if_neg valid.head?_ne, if_pos isOpen]
  · refine ⟨path ++ ['/'], fun name valid => ?_⟩
    rw [joinPart, if_neg valid.head?_ne, if_neg isOpen]
    simp

/-- The path of a file in memory, without the slash in front. -/
def memoryKey (path : List Char) : List Char :=
  if (memoryPath path).head? = some '/' then (memoryPath path).drop 1 else memoryPath path

/-- A file in memory is put behind the path of its directory. -/
theorem exists_memoryKey (front : List Char) :
    ∃ directory, ∀ name, IsFileName name →
      memoryKey (front ++ name.toList) = directory ++ name.toList := by
  -- Whether the path names a protocol itself does not depend on the file.
  have named (name : String) (valid : IsFileName name) :
      (Text.occursIn "::".toList (front ++ name.toList) ||
        Text.occursIn "://".toList (front ++ name.toList)) =
      (Text.occursIn "::".toList front || Text.occursIn "://".toList front) := by
    rw [show "::".toList = [':'] ++ [':'] from rfl,
      show "://".toList = [':', '/'] ++ ['/'] from rfl,
      Text.occursIn_append_of_not_mem valid.noColon, Text.occursIn_append_of_not_mem valid.noSlash]
  cases isNamed : Text.occursIn "::".toList front || Text.occursIn "://".toList front with
  | true =>
      refine ⟨if front.head? = some '/' then front.drop 1 else front, fun name valid => ?_⟩
      have whole : memoryPath (front ++ name.toList) = front ++ name.toList := by
        rw [memoryPath, named name valid, isNamed, if_pos rfl, valid.trim_append]
      rw [memoryKey, whole]
      cases front with
      | nil => simp [valid.head?_ne]
      | cons head tail => by_cases isSlash : head = '/' <;> simp [isSlash]
  | false =>
      refine ⟨front.dropWhile (· == '/'), fun name valid => ?_⟩
      have kept : (front ++ name.toList).dropWhile (· == '/') =
          front.dropWhile (· == '/') ++ name.toList := by
        rw [List.dropWhile_append, valid.dropWhile_eq]
        split
        · rename_i isEmpty
          simp [List.isEmpty_iff.mp isEmpty]
        · rfl
      have whole : memoryPath (front ++ name.toList) =
          '/' :: (front.dropWhile (· == '/') ++ name.toList) := by
        rw [memoryPath, named name valid, isNamed, if_neg (by simp), valid.trim_append, kept]
        split
        · rename_i isEmpty
          exact absurd (List.append_eq_nil_iff.mp isEmpty).2 valid.toList_ne_nil
        · rfl
      rw [memoryKey, whole]
      simp

/-- Joining one more part puts it behind a separator. -/
theorem intercalate_concat (separator first last : List Char) (rest : List (List Char)) :
    separator.intercalate (first :: rest ++ [last]) =
      separator.intercalate (first :: rest) ++ separator ++ last := by
  induction rest generalizing first with
  | nil => simp
  | cons second others inductionHypothesis =>
      have behind := inductionHypothesis second
      simp only [List.cons_append, List.intercalate_cons_cons, List.append_assoc] at behind ⊢
      rw [behind]

/-- Where there is a place, every part of the way to it has been checked. -/
theorem checked_of_place {root : OutputRoot} {segments : List String} {written : String}
    (placed : root.place segments = .ok written) : segments.forM root.checkPart = .ok () := by
  cases checked : segments.forM root.checkPart with
  | error fault => simp [place, checked, bind, Except.bind] at placed
  | ok _ => rfl

/-- A file with a place is put behind the place of its directory. -/
theorem exists_place (root : OutputRoot) (directories : List String) :
    ∃ front : String, ∀ name written, IsFileName name →
      root.place (directories ++ [name]) = .ok written → written = front ++ name := by
  cases root with
  | disk path =>
      obtain ⟨front, joined⟩ := (directories.foldl Path.join path).exists_text_join
      refine ⟨front, fun name written valid placed => ?_⟩
      simp only [place, checked_of_place placed, bind, Except.bind, pure, Except.pure,
        Except.ok.injEq, List.foldl_append, List.foldl_cons, List.foldl_nil] at placed
      rw [← placed, joined name valid]
  | memory path =>
      let start := if path.isEmpty then ['/'] else path
      obtain ⟨slashed, joined⟩ :=
        exists_joinPart ((directories.map String.toList).foldl joinPart start)
      obtain ⟨directory, keyed⟩ := exists_memoryKey slashed
      refine ⟨"memory://" ++ String.ofList directory, fun name written valid placed => ?_⟩
      simp only [place, checked_of_place placed, bind, Except.bind, pure, Except.pure,
        Except.ok.injEq, List.map_append, List.map_cons, List.map_nil, List.foldl_append,
        List.foldl_cons, List.foldl_nil] at placed
      have key := keyed name valid
      rw [← joined name valid, memoryKey] at key
      rw [← placed, key, String.ofList_append, String.ofList_toList, String.append_assoc]
  | files protocol path =>
      obtain ⟨front, joined⟩ :=
        exists_joinPart ((directories.map String.toList).foldl joinPart path)
      refine ⟨String.ofList (protocol ++ "://".toList ++ front),
        fun name written valid placed => ?_⟩
      simp only [place, checked_of_place placed, bind, Except.bind, pure, Except.pure,
        Except.ok.injEq, List.map_append, List.map_cons, List.map_nil, List.foldl_append,
        List.foldl_cons, List.foldl_nil, joined name valid] at placed
      rw [← placed, ← List.append_assoc, String.ofList_append, String.ofList_toList]
  | keys anchor key =>
      let start := if key.getLast? = some '/' then key.dropLast else key
      let directory := ['/'].intercalate (start :: directories.map String.toList) ++ ['/']
      let isBare := key.isEmpty && anchor.getLast? == some '/'
      refine ⟨String.ofList (anchor ++ if isBare then directory.drop 1 else directory),
        fun name written valid placed => ?_⟩
      have joined : ['/'].intercalate (start :: (directories.map String.toList ++ [name.toList])) =
          directory ++ name.toList := intercalate_concat _ _ _ _
      simp only [place, checked_of_place placed, bind, Except.bind, pure, Except.pure,
        Except.ok.injEq, List.map_append, List.map_cons, List.map_nil] at placed
      have behind : (if isBare then (directory ++ name.toList).drop 1
          else directory ++ name.toList) =
          (if isBare then directory.drop 1 else directory) ++ name.toList := by
        have room : 1 ≤ directory.length := by simp [directory]
        cases isBare with
        | true => exact List.drop_append_of_le_length room
        | false => rfl
      rw [← placed]
      change String.ofList (anchor ++ if isBare then _ else _) = _
      rw [joined, behind, ← List.append_assoc, String.ofList_append, String.ofList_toList]

end OutputRoot

end RequestSurface
