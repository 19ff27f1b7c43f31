import Mathlib
import RequestSurface.Proofs.WordCharacters

/-!
# Endings in lower case

Lower case is written character by character, and a character outside ASCII may become several. Only
one of them, the sign of the unit kelvin, has a lower case that ends in an ASCII character. So
whether a text in lower case ends in ASCII characters other than a small k is seen from the ASCII
letters of the text alone.
-/

namespace RequestSurface.Text

section Rows

/-- What bisection finds stands in the rows. -/
theorem Replacements.mem_of_search {rows : Array (Nat × List Char)} {code low high : Nat}
    {images : List Char} (found : search rows code low high = some images) :
    (code, images) ∈ rows := by
  fun_induction search rows code low high with
  | case1 => cases found
  | case2 low high inside middle row isRow =>
      obtain rfl := Option.some.inj found
      exact Array.mem_of_getElem? isRow
  | case3 low high inside middle key row isRow other below inductionHypothesis =>
      exact inductionHypothesis found
  | case4 low high inside middle key row isRow other above inductionHypothesis =>
      exact inductionHypothesis found
  | case5 => cases found

/-- What a table puts in the place of a character is written in one of its rows. -/
theorem Replacements.exists_row_of_find? {lines : List String} {character : Char}
    {images : List Char} (found : (ofRows lines).find? character = some images) :
    ∃ line ∈ lines, ∃ row ∈ piecesAt ' ' line.toList,
      readRow row = (character.toNat, images) := by
  have isRow := mem_of_search found
  simpa [ofRows] using isRow

/-- An ASCII character that no character outside ASCII has at the end of its lower case. -/
def isUnshared (character : Char) : Bool :=
  character.toNat < 0x80 && character != 'k'

/-- No row for a lower case ends in an ASCII character other than a small k. -/
theorem shared_of_mem_lowercaseRows : ∀ line ∈ lowercaseRows, ∀ row ∈ piecesAt ' ' line.toList,
    ∃ last, (Replacements.readRow row).2.getLast? = some last ∧ isUnshared last = false := by
  -- The rows are evaluated as lists of characters: taking a string apart is slow in the kernel.
  have written : ∃ texts,
      List.Forall₂ (fun line text => line = String.ofList text) lowercaseRows texts ∧
        ∀ text ∈ texts, ∀ row ∈ piecesAt ' ' text,
          (Replacements.readRow row).2.getLast?.any (!isUnshared ·) = true := by
    constructor
    constructor
    · dsimp only [lowercaseRows]
      repeat' first | exact rfl | constructor
    · decide +kernel
  obtain ⟨texts, lines, shared⟩ := written
  have rows : lowercaseRows = texts.map String.ofList := by
    rw [← List.forall₂_eq_eq_eq, List.forall₂_map_right_iff]
    exact lines
  intro line isLine row isRow
  rw [rows] at isLine
  obtain ⟨text, isText, rfl⟩ := List.mem_map.mp isLine
  rw [String.toList_ofList] at isRow
  simpa using (Option.any_eq_true _ _).mp (shared text isText row isRow)

end Rows

section Endings

/-- Two texts that have the same ending, up to a character in each of them that is shared. -/
inductive SameEnding : List Char → List Char → Prop where
  | same (text : List Char) : SameEnding text text
  | apart {last other : Char} (shared : isUnshared last = false)
      (otherShared : isUnshared other = false) (front others ending : List Char) :
      SameEnding (front ++ last :: ending) (others ++ other :: ending)

/-- Texts with the same ending keep it behind such texts. -/
theorem SameEnding.append {front others text other : List Char} (inFront : SameEnding front others)
    (behind : SameEnding text other) : SameEnding (front ++ text) (others ++ other) := by
  cases behind with
  | same =>
      cases inFront with
      | same => exact .same _
      | apart shared otherShared front others ending =>
          simpa using SameEnding.apart shared otherShared front others (ending ++ text)
  | apart shared otherShared middle otherMiddle ending =>
      simpa using
        SameEnding.apart shared otherShared (front ++ middle) (others ++ otherMiddle) ending

/-- Unshared characters are at the end of both texts or of none. -/
theorem SameEnding.suffix_iff {text other ending : List Char} (same : SameEnding text other)
    (unshared : ∀ character ∈ ending, isUnshared character = true) :
    ending <:+ text ↔ ending <:+ other := by
  cases same with
  | same => rfl
  | apart shared otherShared front others common =>
      have notInside {character : Char} (isShared : isUnshared character = false) :
          character ∉ ending := by
        intro member
        rw [unshared character member] at isShared
        cases isShared
      rw [suffix_append_cons_iff (notInside shared), suffix_append_cons_iff (notInside otherShared)]

/-- A character ends in lower case as its ASCII letter does. -/
theorem sameEnding_lowerChar (character : Char) :
    SameEnding (lowerChar character) [character.toLower] := by
  by_cases ascii : character.toNat < 0x80
  · rw [lowerChar, if_pos ascii]
    exact .same _
  · have unchanged : character.toLower = character := by
      refine Char.toLower_eq_of_not_isUpper fun isUpper => ascii (toNat_lt_of_isAlphanum ?_)
      simp [Char.isAlphanum, Char.isAlpha, isUpper]
    rw [lowerChar, if_neg ascii, unchanged]
    cases found : lowercaseTable.find? character with
    | none => exact .same _
    | some images =>
        obtain ⟨line, isLine, row, isRow, read⟩ := Replacements.exists_row_of_find? found
        obtain ⟨last, isLast, shared⟩ := shared_of_mem_lowercaseRows line isLine row isRow
        rw [read] at isLast
        obtain ⟨front, rfl⟩ := List.getLast?_eq_some_iff.mp isLast
        exact .apart shared (by simp [isUnshared, ascii]) front [] []

/-- A text ends in lower case as its ASCII letters do. -/
theorem sameEnding_lowerFrom (before text : List Char) :
    SameEnding (lowerFrom before text) (text.map Char.toLower) := by
  fun_induction lowerFrom before text with
  | case1 => exact .same _
  | case2 before rest inductionHypothesis =>
      -- Both small forms of a sigma are outside ASCII, as the sigma is.
      have sigma : SameEnding [if startsCased before && !startsCased rest then 'ς' else 'σ']
          ['Σ'.toLower] := by
        split
        · exact .apart (by decide) (by decide) [] [] []
        · exact .apart (by decide) (by decide) [] [] []
      exact sigma.append inductionHypothesis
  | case3 before head rest notSigma inductionHypothesis =>
      exact (sameEnding_lowerChar head).append inductionHypothesis

/-- Whether a text in lower case ends in unshared characters can be seen from its ASCII letters. -/
theorem suffix_lowerCase_iff {ending : List Char}
    (unshared : ∀ character ∈ ending, isUnshared character = true) (text : List Char) :
    ending <:+ lowerCase text ↔ ending <:+ text.map Char.toLower :=
  (sameEnding_lowerFrom [] text).suffix_iff unshared

end Endings

end RequestSurface.Text
