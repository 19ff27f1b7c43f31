import Mathlib
import RequestSurface.Proofs.Pieces
import RequestSurface.Text.Lines

/-!
# Documentation lines

Characters that end a line are blank, but not every blank ends a line. A description therefore loses
nothing but blanks where it is cut into lines and where these lose their blanks at the end. The
lines that come out are exactly those that come out again when they are written one below the other.
-/

namespace RequestSurface.Text

/-- The characters of a text that are not blank, in order. -/
def visible (text : List Char) : List Char :=
  text.filter (!isBlank ·)

/-- Lines as documentation has them: none of them is broken or ends in a blank, and nothing but
blanks is missing in front of the first line or behind the last one. -/
structure AreDocLines (lines : List String) : Prop where
  unbroken : ∀ line ∈ lines, ∀ character ∈ line.toList, isLineBoundary character = false
  trimmed : ∀ line ∈ lines, ∀ character ∈ line.toList.getLast?, isBlank character = false
  begins : ∀ line ∈ lines.head?, ∃ character ∈ line.toList.head?, isBlank character = false
  ends : ∀ line ∈ lines.getLast?, line ≠ ""

section Blanks

variable {text : List Char}

/-- The visible characters of two texts stand side by side. -/
@[simp] theorem visible_append (text other : List Char) :
    visible (text ++ other) = visible text ++ visible other :=
  List.filter_append _ _

/-- A blank is not visible. -/
theorem visible_cons_of_isBlank {head : Char} (isBlank : Text.isBlank head = true)
    (tail : List Char) : visible (head :: tail) = visible tail :=
  List.filter_cons_of_neg (by simp [isBlank])

/-- A character that ends a line is blank. -/
theorem isBlank_of_isLineBoundary {character : Char}
    (isBoundary : isLineBoundary character = true) : isBlank character = true := by
  simp only [isLineBoundary, isBlank, Bool.or_eq_true, Bool.and_eq_true, decide_eq_true_eq,
    beq_iff_eq] at isBoundary ⊢
  omega

/-- What is not blank does not end a line. -/
theorem not_isLineBoundary_of_visible {character : Char} (isVisible : isBlank character = false) :
    isLineBoundary character = false := by
  rw [← Bool.not_eq_true] at isVisible ⊢
  exact fun isBoundary => isVisible (isBlank_of_isLineBoundary isBoundary)

/-- Of one more character at the end nothing is kept if it is blank, and all if it is not. -/
theorem trimEnd_concat (text : List Char) (last : Char) :
    trimEnd (text ++ [last]) = if isBlank last then trimEnd text else text ++ [last] := by
  induction text with
  | nil => rfl
  | cons head tail inductionHypothesis =>
      rw [List.cons_append, trimEnd, inductionHypothesis]
      by_cases isBlank : isBlank last = true
      · simp only [isBlank, ↓reduceIte]
        rfl
      · simp [isBlank]

/-- Dropping the blanks at the end is dropping characters from behind as long as they are blank. -/
theorem trimEnd_eq_rdropWhile (text : List Char) : trimEnd text = text.rdropWhile isBlank := by
  induction text using List.reverseRecOn with
  | nil => rfl
  | append_singleton text last inductionHypothesis =>
      rw [trimEnd_concat, List.rdropWhile_concat, inductionHypothesis]

/-- What is left has no blank at the end. -/
theorem not_isBlank_getLast_trimEnd :
    ∀ character ∈ (trimEnd text).getLast?, isBlank character = false := by
  intro character isLast
  rw [trimEnd_eq_rdropWhile] at isLast
  obtain ⟨nonempty, rfl⟩ := List.mem_getLast?_eq_getLast isLast
  simpa using List.rdropWhile_last_not isBlank text nonempty

/-- A text without a blank at the end stays as it is. -/
theorem trimEnd_of_not_isBlank
    (isTrimmed : ∀ character ∈ text.getLast?, isBlank character = false) : trimEnd text = text := by
  rw [trimEnd_eq_rdropWhile, List.rdropWhile_eq_self_iff]
  intro nonempty
  simpa using isTrimmed _ (List.getLast?_eq_some_getLast nonempty)

/-- Only blanks are dropped at the end of a text. -/
theorem visible_trimEnd (text : List Char) : visible (trimEnd text) = visible text := by
  induction text using List.reverseRecOn with
  | nil => rfl
  | append_singleton text last inductionHypothesis =>
      rw [trimEnd_concat]
      split
      · rename_i isBlank
        rw [inductionHypothesis, visible_append, visible_cons_of_isBlank isBlank]
        exact (List.append_nil _).symm
      · rfl

/-- Only blanks are dropped at both ends of a text. -/
theorem visible_trim (text : List Char) : visible (trim text) = visible text := by
  rw [trim, visible_trimEnd]
  induction text with
  | nil => rfl
  | cons head tail inductionHypothesis =>
      rw [List.dropWhile_cons]
      split
      · rename_i isBlank
        rw [inductionHypothesis, visible_cons_of_isBlank isBlank]
      · rfl

/-- Neither the first nor the last character of a text is blank. -/
structure IsTrimmed (text : List Char) : Prop where
  head : ∀ character ∈ text.head?, isBlank character = false
  last : ∀ character ∈ text.getLast?, isBlank character = false

/-- What is left of a text without its outer blanks has none. -/
theorem isTrimmed_trim (text : List Char) : IsTrimmed (trim text) where
  head := by
    intro character isFirst
    have kept : trim text <+: text.dropWhile isBlank := by
      rw [trim, trimEnd_eq_rdropWhile]
      exact List.rdropWhile_prefix _ _
    obtain ⟨rest, whole⟩ := kept
    have isHead : (text.dropWhile isBlank).head? = some character := by
      rw [← whole, List.head?_append, isFirst, Option.some_or]
    simpa [isHead] using List.head?_dropWhile_not isBlank text
  last := fun _ => not_isBlank_getLast_trimEnd _

/-- A text without outer blanks stays as it is. -/
theorem IsTrimmed.trim_eq (isTrimmed : IsTrimmed text) : trim text = text := by
  have kept : text.dropWhile isBlank = text := by
    cases text with
    | nil => rfl
    | cons head tail =>
        exact List.dropWhile_cons_of_neg (by simp [isTrimmed.head head rfl])
  rw [trim, kept, trimEnd_of_not_isBlank isTrimmed.last]

/-- Nothing is left of a text exactly if all of it is blank. -/
theorem trim_eq_nil_iff : trim text = [] ↔ ∀ character ∈ text, isBlank character = true := by
  constructor
  · intro isEmpty
    have nothing : visible text = [] := by rw [← visible_trim, isEmpty]; rfl
    simpa [visible] using nothing
  · intro allBlank
    rw [trim, trimEnd_eq_rdropWhile, List.rdropWhile_eq_nil_iff]
    exact fun character member => allBlank character ((List.dropWhile_sublist _).subset member)

end Blanks

section Cutting

variable {line text : List Char} {lines : List (List Char)}

/-- No line is broken once more. -/
theorem not_isLineBoundary_of_mem_linesFrom
    (unbroken : ∀ character ∈ line, isLineBoundary character = false) :
    ∀ cut ∈ linesFrom line text, ∀ character ∈ cut, isLineBoundary character = false := by
  fun_induction linesFrom line text with
  | case1 => simp
  | case2 => simpa using unbroken
  | case3 line rest inductionHypothesis =>
      refine List.forall_mem_cons.mpr ⟨by simpa using unbroken, inductionHypothesis (by simp)⟩
  | case4 line head rest _ isBoundary inductionHypothesis =>
      refine List.forall_mem_cons.mpr ⟨by simpa using unbroken, inductionHypothesis (by simp)⟩
  | case5 line head rest _ isPlain inductionHypothesis =>
      exact inductionHypothesis
        (List.forall_mem_cons.mpr ⟨by simpa using isPlain, unbroken⟩)

/-- Where a text is cut into lines it loses nothing but blanks. -/
theorem visible_flatten_linesFrom (line text : List Char) :
    visible (linesFrom line text).flatten = visible (line.reverse ++ text) := by
  fun_induction linesFrom line text with
  | case1 => simp_all
  | case2 => simp
  | case3 line rest inductionHypothesis =>
      have returnBlank : isBlank '\r' = true := rfl
      have feedBlank : isBlank '\n' = true := rfl
      simp only [List.flatten_cons, visible_append, inductionHypothesis,
        visible_cons_of_isBlank returnBlank, visible_cons_of_isBlank feedBlank]
      rfl
  | case4 line head rest _ isBoundary inductionHypothesis =>
      simp only [List.flatten_cons, visible_append, inductionHypothesis,
        visible_cons_of_isBlank (isBlank_of_isLineBoundary isBoundary)]
      rfl
  | case5 line head rest _ isPlain inductionHypothesis =>
      simpa using inductionHypothesis

/-- There are no lines only in a text without characters. -/
theorem linesFrom_eq_nil_iff : linesFrom line text = [] ↔ line = [] ∧ text = [] := by
  fun_induction linesFrom line text <;> simp_all

/-- Characters that do not end a line belong to the current one. -/
theorem linesFrom_append {front : List Char}
    (unbroken : ∀ character ∈ front, isLineBoundary character = false) (line rest : List Char) :
    linesFrom line (front ++ rest) = linesFrom (front.reverse ++ line) rest := by
  induction front generalizing line with
  | nil => rfl
  | cons head tail inductionHypothesis =>
      obtain ⟨headPlain, tailPlain⟩ := List.forall_mem_cons.mp unbroken
      have notReturn : head ≠ '\r' := by
        rintro rfl
        cases headPlain
      rw [List.cons_append, linesFrom, if_neg (by simp [headPlain]), inductionHypothesis tailPlain]
      · simp
      · intro _ isReturn
        exact absurd isReturn notReturn

/-- What was read of the current line stands in front of the first line. -/
theorem exists_linesFrom_eq_cons (nonempty : line ≠ []) :
    ∃ rest others, linesFrom line text = (line.reverse ++ rest) :: others := by
  fun_induction linesFrom line text with
  | case1 line isEmpty => exact absurd (List.isEmpty_iff.mp isEmpty) nonempty
  | case2 => exact ⟨[], [], by simp⟩
  | case3 => exact ⟨[], _, by rw [List.append_nil]⟩
  | case4 => exact ⟨[], _, by rw [List.append_nil]⟩
  | case5 line head rest _ _ inductionHypothesis =>
      obtain ⟨more, others, cut⟩ := inductionHypothesis (List.cons_ne_nil _ _)
      exact ⟨head :: more, others, by simpa using cut⟩

/-- The first line begins as the text does, if this does not begin with a blank. -/
theorem exists_lines_eq_cons {head : Char} (isVisible : isBlank head = false) (tail : List Char) :
    ∃ rest others, Text.lines (head :: tail) = (head :: rest) :: others := by
  have plain : ∀ character ∈ [head], isLineBoundary character = false :=
    List.forall_mem_singleton.mpr (not_isLineBoundary_of_visible isVisible)
  obtain ⟨rest, others, cut⟩ : ∃ rest others, linesFrom [head] tail = (head :: rest) :: others :=
    exists_linesFrom_eq_cons (List.cons_ne_nil head [])
  refine ⟨rest, others, ?_⟩
  rw [Text.lines, ← List.singleton_append, linesFrom_append plain]
  exact cut

/-- A text that does not end in a blank ends behind every blank in it. -/
theorem getLast?_behind_blank {front rest : List Char} {blank last : Char}
    (isBlank : Text.isBlank blank = true) (isVisible : Text.isBlank last = false)
    (isLast : (front ++ blank :: rest).getLast? = some last) : rest.getLast? = some last := by
  cases rest with
  | nil =>
      obtain rfl : blank = last := by simpa using isLast
      rw [isBlank] at isVisible
      cases isVisible
  | cons next others => simpa using isLast

/-- The last line ends as the text does, if this does not end in a blank. -/
theorem exists_linesFrom_eq_concat {last : Char} (isVisible : isBlank last = false)
    (isLast : (line.reverse ++ text).getLast? = some last) :
    ∃ others final, linesFrom line text = others ++ [final] ∧ final.getLast? = some last := by
  fun_induction linesFrom line text with
  | case1 line isEmpty => simp_all
  | case2 line => exact ⟨[], line.reverse, rfl, by simpa using isLast⟩
  | case3 line rest inductionHypothesis =>
      have behindReturn : ([] ++ '\n' :: rest).getLast? = some last :=
        getLast?_behind_blank (by decide) isVisible isLast
      have behind : rest.getLast? = some last :=
        getLast?_behind_blank (by decide) isVisible behindReturn
      obtain ⟨others, final, cut, isFinal⟩ := inductionHypothesis behind
      exact ⟨line.reverse :: others, final, by rw [cut, List.cons_append], isFinal⟩
  | case4 line head rest _ isBoundary inductionHypothesis =>
      have behind : rest.getLast? = some last :=
        getLast?_behind_blank (isBlank_of_isLineBoundary isBoundary) isVisible isLast
      obtain ⟨others, final, cut, isFinal⟩ := inductionHypothesis behind
      exact ⟨line.reverse :: others, final, by rw [cut, List.cons_append], isFinal⟩
  | case5 line head rest _ _ inductionHypothesis =>
      exact inductionHypothesis (by simpa using isLast)

/-- Lines that are written one below the other are cut apart again. -/
theorem lines_intercalate
    (unbroken : ∀ line ∈ lines, ∀ character ∈ line, isLineBoundary character = false)
    (ends : ∀ line ∈ lines.getLast?, line ≠ []) :
    Text.lines (['\n'].intercalate lines) = lines := by
  induction lines with
  | nil => rfl
  | cons first others inductionHypothesis =>
      obtain ⟨firstUnbroken, othersUnbroken⟩ := List.forall_mem_cons.mp unbroken
      cases others with
      | nil =>
          have nonempty : first ≠ [] := ends first rfl
          have alone := linesFrom_append firstUnbroken [] []
          rw [List.append_nil, List.append_nil] at alone
          simp [Text.lines, alone, linesFrom, nonempty]
      | cons second rest =>
          have behind := inductionHypothesis othersUnbroken (by simpa using ends)
          rw [Text.lines] at behind ⊢
          rw [List.intercalate_cons_cons, List.append_assoc, linesFrom_append firstUnbroken,
            List.singleton_append, linesFrom, if_pos (by decide), behind]
          · simp
          · intro _ isReturn
            cases isReturn

end Cutting

section Documentation

variable {lines : List String}

/-- Lines as documentation has them, written one below the other, are a text without outer
blanks. -/
theorem AreDocLines.isTrimmed (areDocLines : AreDocLines lines) :
    IsTrimmed (['\n'].intercalate (lines.map String.toList)) where
  head := by
    cases lines with
    | nil => simp
    | cons first others =>
        obtain ⟨head, isHead, isVisible⟩ := areDocLines.begins first rfl
        have nonempty : first.toList ≠ [] := by
          intro isEmpty
          rw [isEmpty] at isHead
          cases isHead
        intro character isFirst
        rw [List.map_cons, head?_intercalate nonempty, isHead] at isFirst
        rwa [← Option.some.inj isFirst]
  last := by
    rcases List.eq_nil_or_concat' lines with rfl | ⟨others, final, rfl⟩
    · simp
    · have isLast : final ∈ (others ++ [final]).getLast? := by simp
      have nonempty : final.toList ≠ [] := by simpa using areDocLines.ends final isLast
      rw [List.map_append, List.map_singleton, getLast?_intercalate nonempty]
      exact areDocLines.trimmed final (by simp)

/-- Lines as documentation has them are kept when they are written one below the other. -/
theorem AreDocLines.docLines_eq (areDocLines : AreDocLines lines) :
    docLines ("\n".intercalate lines) = lines := by
  have joined : ("\n".intercalate lines).toList = ['\n'].intercalate (lines.map String.toList) :=
    String.toList_intercalate
  have cut : Text.lines (['\n'].intercalate (lines.map String.toList)) =
      lines.map String.toList := by
    refine lines_intercalate (List.forall_mem_map.mpr areDocLines.unbroken) ?_
    intro line isLast
    obtain ⟨written, isWritten, rfl⟩ := Option.mem_map.mp (List.getLast?_map ▸ isLast)
    simpa using areDocLines.ends written isWritten
  rw [docLines, joined, areDocLines.isTrimmed.trim_eq, cut, List.map_map]
  conv_rhs => rw [← List.map_id lines]
  refine List.map_congr_left fun line member => ?_
  rw [Function.comp_apply, trimEnd_of_not_isBlank (areDocLines.trimmed line member),
    String.ofList_toList, id]

/-- What is not blank at the front of a line stays there. -/
theorem head?_trimEnd_cons {head : Char} (isVisible : isBlank head = false) (tail : List Char) :
    (trimEnd (head :: tail)).head? = some head := by
  rw [trimEnd]
  split
  · simp [isVisible]
  · rfl

/-- The lines of a description are as documentation has them. -/
theorem areDocLines_docLines (text : String) : AreDocLines (docLines text) where
  unbroken := by
    refine List.forall_mem_map.mpr fun line isLine character member => ?_
    rw [String.toList_ofList, trimEnd_eq_rdropWhile] at member
    exact not_isLineBoundary_of_mem_linesFrom (by simp) line isLine character
      ((List.rdropWhile_prefix _ _).subset member)
  trimmed := by
    refine List.forall_mem_map.mpr fun line _ => ?_
    rw [String.toList_ofList]
    exact not_isBlank_getLast_trimEnd
  begins := by
    intro line isFirst
    cases whole : trim text.toList with
    | nil =>
        rw [docLines, whole] at isFirst
        cases isFirst
    | cons head tail =>
        have isVisible := (isTrimmed_trim text.toList).head head (by rw [whole]; rfl)
        obtain ⟨rest, others, cut⟩ := exists_lines_eq_cons isVisible tail
        rw [docLines, whole, cut] at isFirst
        obtain rfl := Option.some.inj isFirst
        exact ⟨head, by simpa using head?_trimEnd_cons isVisible rest, isVisible⟩
  ends := by
    intro line isLast
    cases ending : (trim text.toList).getLast? with
    | none =>
        rw [docLines, List.getLast?_eq_none_iff.mp ending] at isLast
        cases isLast
    | some last =>
        have isVisible := (isTrimmed_trim text.toList).last last ending
        obtain ⟨others, final, cut, isFinal⟩ : ∃ others final,
            linesFrom [] (trim text.toList) = others ++ [final] ∧ final.getLast? = some last :=
          exists_linesFrom_eq_concat isVisible ending
        have kept : trimEnd final = final := by
          refine trimEnd_of_not_isBlank fun character isEnd => ?_
          rwa [← Option.some.inj (isFinal.symm.trans isEnd)]
        rw [docLines, Text.lines, cut, List.map_append, List.map_singleton,
          List.getLast?_concat] at isLast
        obtain rfl := Option.some.inj isLast
        rw [kept]
        intro isEmpty
        rw [String.ofList_eq_empty_iff] at isEmpty
        rw [isEmpty] at isFinal
        cases isFinal

/-- Lines come out again when they are written one below the other exactly if they are as
documentation has them. -/
theorem docLines_intercalate_iff :
    docLines ("\n".intercalate lines) = lines ↔ AreDocLines lines := by
  constructor
  · intro kept
    rw [← kept]
    exact areDocLines_docLines _
  · exact AreDocLines.docLines_eq

/-- The lines of a description have its visible characters. -/
theorem visible_docLines (text : String) :
    visible ((docLines text).flatMap String.toList) = visible text.toList := by
  have trimmedLines (lines : List (List Char)) :
      visible (lines.flatMap trimEnd) = visible lines.flatten := by
    induction lines with
    | nil => rfl
    | cons line others inductionHypothesis =>
        simp [visible_trimEnd, inductionHypothesis]
  calc visible ((docLines text).flatMap String.toList)
      = visible ((Text.lines (trim text.toList)).flatMap trimEnd) := by
        simp [docLines, List.flatMap_map]
    _ = visible (trim text.toList) := by
        rw [trimmedLines, Text.lines, visible_flatten_linesFrom]
        rfl
    _ = visible text.toList := visible_trim _

/-- A description has no lines exactly if it has no visible character. -/
theorem docLines_eq_nil_iff {text : String} :
    docLines text = [] ↔ ∀ character ∈ text.toList, isBlank character = true := by
  rw [docLines, List.map_eq_nil_iff, Text.lines, linesFrom_eq_nil_iff, trim_eq_nil_iff]
  exact and_iff_right rfl

/-- A description as documentation lines: no line has a line end in it or a blank at its end, and
the first and the last line are not empty. The lines have the visible characters of the description
in their order, so there are none exactly if it has none. Written one below the other they come out
again, as all lines do that documentation may have, and no others. -/
theorem docLines_keep_visible (text : String) :
    (∀ line ∈ docLines text, (∀ character ∈ line.toList, isLineBoundary character = false) ∧
      ∀ character ∈ line.toList.getLast?, isBlank character = false) ∧
    (∀ line ∈ (docLines text).head?, line ≠ "") ∧
    (∀ line ∈ (docLines text).getLast?, line ≠ "") ∧
    visible ((docLines text).flatMap String.toList) = visible text.toList ∧
    (docLines text = [] ↔ ∀ character ∈ text.toList, isBlank character = true) ∧
    docLines ("\n".intercalate (docLines text)) = docLines text ∧
    ∀ lines, docLines ("\n".intercalate lines) = lines ↔ AreDocLines lines := by
  have areDocLines := areDocLines_docLines text
  refine ⟨fun line member => ⟨areDocLines.unbroken line member, areDocLines.trimmed line member⟩,
    ?_, areDocLines.ends, visible_docLines text, docLines_eq_nil_iff,
    docLines_intercalate_iff.mpr areDocLines, fun _ => docLines_intercalate_iff⟩
  rintro line isFirst rfl
  obtain ⟨head, isHead, -⟩ := areDocLines.begins "" isFirst
  cases isHead

/-- A line feed behind a carriage return ends no further line, and one of two carriage returns in a
row leaves an empty line. -/
example : docLines "\t first \r\nsecond\r\r  third\u2028" = ["first", "second", "", "  third"] := by
  decide +kernel

end Documentation

end RequestSurface.Text
