import Mathlib
import RequestSurface.Text.Pieces

/-!
# What stands between separators

A text without separators is one piece. In any other text the last piece is what stands after the
last separator. No piece has a separator in it, and joining the pieces gives the text again. So what
stands before and after the last separator can be read off a text that is put together from both.
-/

namespace RequestSurface.Text

/-- A text is one piece without separators, or its last piece stands after a separator and has none
in it. -/
theorem piecesBy_cases (separates : Char → Bool) (text : List Char) :
    (piecesBy separates text = [text] ∧ ∀ character ∈ text, separates character = false) ∨
      ∃ front separator last first others,
        text = front ++ separator :: last ∧ separates separator = true ∧
          (∀ character ∈ last, separates character = false) ∧
          piecesBy separates text = first :: (others ++ [last]) := by
  induction text with
  | nil => exact .inl ⟨rfl, by simp⟩
  | cons head tail inductionHypothesis =>
      rcases inductionHypothesis with ⟨onePiece, plain⟩ |
        ⟨front, separator, last, first, others, rfl, isSeparator, plain, pieces⟩
      · cases isSeparator : separates head with
        | true =>
            exact .inr ⟨[], head, tail, [], [], rfl, isSeparator, plain, by
              simp [piecesBy, onePiece, isSeparator]⟩
        | false =>
            refine .inl ⟨by simp [piecesBy, onePiece, isSeparator], ?_⟩
            intro character member
            rcases List.mem_cons.mp member with rfl | inTail
            · exact isSeparator
            · exact plain character inTail
      · cases headSeparates : separates head with
        | true =>
            exact .inr ⟨head :: front, separator, last, [], first :: others, rfl, isSeparator,
              plain, by simp [piecesBy, pieces, headSeparates]⟩
        | false =>
            exact .inr ⟨head :: front, separator, last, head :: first, others, rfl, isSeparator,
              plain, by simp [piecesBy, pieces, headSeparates]⟩

/-- Cutting gives at least one piece. -/
theorem exists_piecesBy_eq_cons (separates : Char → Bool) (text : List Char) :
    ∃ first others, piecesBy separates text = first :: others := by
  rcases piecesBy_cases separates text with ⟨onePiece, -⟩ | ⟨_, _, _, _, _, -, -, -, pieces⟩
  · exact ⟨_, _, onePiece⟩
  · exact ⟨_, _, pieces⟩

/-- A separator cuts off what follows it. -/
theorem piecesBy_cons_of_separates {separates : Char → Bool} {head : Char}
    (isSeparator : separates head = true) (tail : List Char) :
    piecesBy separates (head :: tail) = [] :: piecesBy separates tail := by
  obtain ⟨first, others, rest⟩ := exists_piecesBy_eq_cons separates tail
  simp [piecesBy, rest, isSeparator]

/-- Any other character belongs to the first piece. -/
theorem piecesBy_cons_of_plain {separates : Char → Bool} {head : Char}
    (plain : separates head = false) (tail : List Char) :
    piecesBy separates (head :: tail) = (piecesBy separates tail).modifyHead (head :: ·) := by
  obtain ⟨first, others, rest⟩ := exists_piecesBy_eq_cons separates tail
  simp [piecesBy, rest, plain]

/-- No piece has a separator in it. -/
theorem not_separates_of_mem_piecesBy {separates : Char → Bool} {text piece : List Char}
    (member : piece ∈ piecesBy separates text) :
    ∀ character ∈ piece, separates character = false := by
  induction text generalizing piece with
  | nil =>
      rw [piecesBy, List.mem_singleton] at member
      simp [member]
  | cons head tail inductionHypothesis =>
      cases isSeparator : separates head with
      | true =>
          rw [piecesBy_cons_of_separates isSeparator] at member
          rcases List.mem_cons.mp member with rfl | inRest
          · simp
          · exact inductionHypothesis inRest
      | false =>
          obtain ⟨first, others, rest⟩ := exists_piecesBy_eq_cons separates tail
          rw [piecesBy_cons_of_plain isSeparator, rest, List.modifyHead_cons] at member
          rw [rest] at inductionHypothesis
          rcases List.mem_cons.mp member with rfl | isOther
          · exact List.forall_mem_cons.mpr ⟨isSeparator, inductionHypothesis List.mem_cons_self⟩
          · exact inductionHypothesis (List.mem_cons_of_mem _ isOther)

/-- The characters of a piece are characters of the text. -/
theorem subset_of_mem_piecesBy {separates : Char → Bool} {text piece : List Char}
    (member : piece ∈ piecesBy separates text) : piece ⊆ text := by
  induction text generalizing piece with
  | nil =>
      rw [piecesBy, List.mem_singleton] at member
      exact member ▸ List.Subset.refl _
  | cons head tail inductionHypothesis =>
      obtain ⟨first, others, rest⟩ := exists_piecesBy_eq_cons separates tail
      rw [rest] at inductionHypothesis
      cases isSeparator : separates head with
      | true =>
          rw [piecesBy_cons_of_separates isSeparator, rest] at member
          rcases List.mem_cons.mp member with rfl | inRest
          · exact List.nil_subset _
          · exact List.subset_cons_of_subset _ (inductionHypothesis inRest)
      | false =>
          rw [piecesBy_cons_of_plain isSeparator, rest, List.modifyHead_cons] at member
          rcases List.mem_cons.mp member with rfl | isOther
          · exact List.cons_subset_cons _ (inductionHypothesis List.mem_cons_self)
          · exact List.subset_cons_of_subset _
              (inductionHypothesis (List.mem_cons_of_mem _ isOther))

/-- A text without separators is one piece. -/
theorem piecesBy_of_plain {separates : Char → Bool} {text : List Char}
    (plain : ∀ character ∈ text, separates character = false) :
    piecesBy separates text = [text] := by
  rcases piecesBy_cases separates text with ⟨onePiece, -⟩ |
    ⟨front, separator, last, first, others, rfl, isSeparator, -, -⟩
  · exact onePiece
  · have isPlain := plain separator (by simp)
    rw [isSeparator] at isPlain
    cases isPlain

/-- What does not reach back to a character is at the end of what stands behind it. -/
theorem suffix_append_cons_iff {character : Char} {ending : List Char}
    (outside : character ∉ ending) (front back : List Char) :
    ending <:+ front ++ character :: back ↔ ending <:+ back := by
  constructor
  · intro ends
    rcases List.suffix_or_suffix_of_suffix ends (List.suffix_append front (character :: back)) with
      inside | around
    · rcases List.suffix_cons_iff.mp inside with rfl | inBack
      · exact absurd List.mem_cons_self outside
      · exact inBack
    · exact absurd (around.subset List.mem_cons_self) outside
  · intro ends
    exact ends.trans ((List.suffix_cons character back).trans (List.suffix_append front _))

/-- A text without separators at the end of a text stands at the end of its last piece. -/
theorem exists_last_piece {separates : Char → Bool} {text ending : List Char}
    (plain : ∀ character ∈ ending, separates character = false) (ends : ending <:+ text) :
    ∃ pieces last, piecesBy separates text = pieces ++ [last] ∧ ending <:+ last := by
  rcases piecesBy_cases separates text with ⟨onePiece, -⟩ |
    ⟨front, separator, last, first, others, rfl, isSeparator, -, pieces⟩
  · exact ⟨[], text, onePiece, ends⟩
  · refine ⟨first :: others, last, pieces, ?_⟩
    have notInside : separator ∉ ending := by
      intro member
      rw [plain separator member] at isSeparator
      cases isSeparator
    exact (suffix_append_cons_iff notInside front last).mp ends

/-- What stands after the last separator has no separator in it, and it is the whole text or follows
one. -/
theorem afterLast_cases (separator : Char) (text : String) :
    separator ∉ (afterLast separator text).toList ∧
      (text = afterLast separator text ∨
        ∃ front, text = front ++ String.singleton separator ++ afterLast separator text) := by
  rcases piecesBy_cases (· == separator) text.toList with ⟨onePiece, plain⟩ |
    ⟨front, found, last, first, others, whole, isSeparator, plain, pieces⟩
  · have same : afterLast separator text = text := by
      simp [afterLast, piecesAt, onePiece]
    rw [same]
    exact ⟨fun member => by simpa using plain separator member, .inl rfl⟩
  · have same : afterLast separator text = String.ofList last := by
      simp [afterLast, piecesAt, pieces, List.getLast?_cons]
    rw [same, String.toList_ofList]
    refine ⟨fun member => by simpa using plain separator member, .inr ⟨String.ofList front, ?_⟩⟩
    have isLast : found = separator := by simpa using isSeparator
    apply String.toList_injective
    simp [whole, isLast]

/-- A separator cuts a text into the pieces in front of it and those behind it. -/
theorem piecesBy_append_cons {separates : Char → Bool} {separator : Char}
    (isSeparator : separates separator = true) (front back : List Char) :
    piecesBy separates (front ++ separator :: back) =
      piecesBy separates front ++ piecesBy separates back := by
  induction front with
  | nil => exact piecesBy_cons_of_separates isSeparator back
  | cons head tail inductionHypothesis =>
      rw [List.cons_append]
      cases headSeparates : separates head with
      | true =>
          rw [piecesBy_cons_of_separates headSeparates, piecesBy_cons_of_separates headSeparates,
            inductionHypothesis, List.cons_append]
      | false =>
          obtain ⟨first, others, rest⟩ := exists_piecesBy_eq_cons separates tail
          rw [piecesBy_cons_of_plain headSeparates, piecesBy_cons_of_plain headSeparates,
            inductionHypothesis, rest]
          rfl

/-- Joining texts without separators by a separator and cutting what this gives are inverse. -/
theorem piecesBy_intercalate {separates : Char → Bool} {separator : Char}
    (isSeparator : separates separator = true) {pieces : List (List Char)} (nonempty : pieces ≠ [])
    (plain : ∀ piece ∈ pieces, ∀ character ∈ piece, separates character = false) :
    piecesBy separates ([separator].intercalate pieces) = pieces := by
  induction pieces with
  | nil => exact absurd rfl nonempty
  | cons first others inductionHypothesis =>
      obtain ⟨firstPlain, othersPlain⟩ := List.forall_mem_cons.mp plain
      cases others with
      | nil => simpa [List.intercalate] using piecesBy_of_plain firstPlain
      | cons second rest =>
          rw [List.intercalate_cons_cons, List.append_assoc, List.singleton_append,
            piecesBy_append_cons isSeparator, piecesBy_of_plain firstPlain,
            inductionHypothesis (List.cons_ne_nil _ _) othersPlain, List.singleton_append]

/-- Joined texts begin as the first one does. -/
theorem head?_intercalate {first : List Char} (nonempty : first ≠ []) (separator : List Char)
    (others : List (List Char)) :
    (separator.intercalate (first :: others)).head? = first.head? := by
  obtain ⟨head, tail, rfl⟩ := List.exists_cons_of_ne_nil nonempty
  cases others with
  | nil => simp
  | cons second rest => simp [List.intercalate_cons_cons]

/-- Joined texts end as the last one does. -/
theorem getLast?_intercalate {last : List Char} (nonempty : last ≠ []) (separator : List Char)
    (others : List (List Char)) :
    (separator.intercalate (others ++ [last])).getLast? = last.getLast? := by
  induction others with
  | nil => simp
  | cons first rest inductionHypothesis =>
      obtain ⟨second, more, split⟩ := List.exists_cons_of_ne_nil
        (show rest ++ [last] ≠ [] by simp)
      rw [split] at inductionHypothesis
      rw [List.cons_append, split, List.intercalate_cons_cons, List.getLast?_append,
        inductionHypothesis, List.getLast?_eq_some_getLast nonempty, Option.some_or]

/-- Joining the pieces of a text gives the text. -/
theorem intercalate_splitString (separator : Char) (text : String) :
    (String.singleton separator).intercalate (splitString separator text) = text := by
  have joined (letters : List Char) : (String.singleton separator).intercalate
      ((piecesBy (· == separator) letters).map String.ofList) = String.ofList letters := by
    induction letters with
    | nil => simp [piecesBy]
    | cons head tail inductionHypothesis =>
        obtain ⟨first, others, rest⟩ := exists_piecesBy_eq_cons (· == separator) tail
        rw [rest, List.map_cons] at inductionHypothesis
        have inFront (letters : List Char) : String.ofList (head :: letters) =
            String.singleton head ++ String.ofList letters := by
          apply String.toList_injective
          simp
        by_cases isSeparator : head = separator
        · simp [piecesBy, rest, isSeparator, String.intercalate_cons_cons, inductionHypothesis]
        · simp [piecesBy, rest, isSeparator, inFront, inductionHypothesis]
  rw [splitString, piecesAt, joined, String.ofList_toList]

/-- No part between separators has a separator in it. -/
theorem notMem_of_mem_splitString {separator : Char} {text piece : String}
    (member : piece ∈ splitString separator text) : separator ∉ piece.toList := by
  obtain ⟨letters, isPiece, rfl⟩ := List.mem_map.mp member
  rw [String.toList_ofList]
  intro inside
  simpa using not_separates_of_mem_piecesBy isPiece separator inside

/-- Parts without separators are what their joined text is cut into. -/
theorem splitString_intercalate {separator : Char} {parts : List String} (nonempty : parts ≠ [])
    (plain : ∀ part ∈ parts, separator ∉ part.toList) :
    splitString separator ((String.singleton separator).intercalate parts) = parts := by
  have cut : piecesAt separator ([separator].intercalate (parts.map String.toList)) =
      parts.map String.toList := by
    refine @piecesBy_intercalate (· == separator) separator (beq_self_eq_true separator) _
      (mt List.map_eq_nil_iff.mp nonempty) ?_
    intro piece isPiece character inside
    obtain ⟨part, isPart, rfl⟩ := List.mem_map.mp isPiece
    exact beq_false_of_ne fun same => plain part isPart (same ▸ inside)
  rw [splitString, String.toList_intercalate, String.toList_singleton, cut, List.map_map]
  simp [Function.comp_def]

/-- A text without the separator is one piece. -/
theorem piecesAt_of_notMem {separator : Char} {text : List Char} (plain : separator ∉ text) :
    piecesAt separator text = [text] := by
  refine piecesBy_of_plain fun character member => beq_false_of_ne ?_
  rintro rfl
  exact plain member

/-- What follows a separator and has none in it is the last piece. -/
theorem piecesAt_append_cons {separator : Char} {last : List Char} (plain : separator ∉ last)
    (front : List Char) :
    piecesAt separator (front ++ separator :: last) = piecesAt separator front ++ [last] := by
  have cut := @piecesBy_append_cons (· == separator) separator (beq_self_eq_true separator) front
    last
  rw [piecesAt, cut, ← piecesAt, ← piecesAt, piecesAt_of_notMem plain]

/-- The part after the last separator is what follows one and has none in it. -/
theorem afterLast_append {separator : Char} {last : String} (plain : separator ∉ last.toList)
    (front : String) :
    afterLast separator (front ++ String.singleton separator ++ last) = last := by
  simp [afterLast, piecesAt_append_cons plain]

/-- The part before the last separator is all that stands in front of it. -/
theorem beforeLast_append {separator : Char} {last : String} (plain : separator ∉ last.toList)
    (front : String) :
    beforeLast separator (front ++ String.singleton separator ++ last) = front := by
  have split : splitString separator (front ++ String.singleton separator ++ last) =
      splitString separator front ++ [last] := by
    simp [splitString, piecesAt_append_cons plain]
  rw [beforeLast, split, List.dropLast_concat, intercalate_splitString]

/-- The part after the last separator is the last one that the text is cut into. -/
theorem afterLast_of_splitString {separator : Char} {text last : String} {others : List String}
    (cut : splitString separator text = others ++ [last]) : afterLast separator text = last := by
  obtain ⟨front, back, pieces, -, isLast⟩ := List.map_eq_append_iff.mp cut
  obtain ⟨letters, rfl, rfl⟩ := List.map_eq_singleton_iff.mp isLast
  simp [afterLast, pieces]

/-- What stands before the last separator is cut into all parts but the last. -/
theorem splitString_beforeLast {separator : Char} {text last : String} {others : List String}
    (nonempty : others ≠ []) (cut : splitString separator text = others ++ [last]) :
    splitString separator (beforeLast separator text) = others := by
  have plain : ∀ part ∈ others, separator ∉ part.toList := fun part isPart =>
    notMem_of_mem_splitString (cut ▸ List.mem_append_left [last] isPart)
  rw [beforeLast, cut, List.dropLast_concat, splitString_intercalate nonempty plain]

/-- Without a separator, nothing stands before the last one. -/
theorem beforeLast_of_plain {separator : Char} {text : String} (plain : separator ∉ text.toList) :
    beforeLast separator text = "" := by
  simp [beforeLast, splitString, piecesAt_of_notMem plain]

end RequestSurface.Text
