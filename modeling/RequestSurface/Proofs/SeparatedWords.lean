import Mathlib
import RequestSurface.Proofs.WordBreaks

/-!
# Words on both sides of separators

An ASCII character that is no letter or digit ends a word, and nothing reaches over it: neither a
run of capitals nor a small letter on one side has to do with what stands on the other one. A mark
that stands behind such a character is dropped like any other mark. For this it does not matter in
which order the marks of a decomposed text are put, as letters keep their places.
-/

namespace RequestSurface

namespace Text

/-- A text is another one with its marks in another order, given the combining classes of
characters: characters of class zero are where they were. -/
structure MarksReordered (combining : Char → Nat) (text other : List Char) : Prop where
  perm : other.Perm text
  places : List.Forall₂ (fun before after =>
    before = after ∨ combining before ≠ 0 ∧ combining after ≠ 0) text other

section Marks

variable {combining : Char → Nat} {text other : List Char}

/-- Without marks, a text in which marks were reordered is what it was. -/
theorem MarksReordered.filter_eq (reordered : MarksReordered combining text other) :
    other.filter (combining · = 0) = text.filter (combining · = 0) := by
  obtain ⟨-, places⟩ := reordered
  induction places with
  | nil => rfl
  | cons same _ inductionHypothesis =>
      rcases same with rfl | ⟨isMark, otherIsMark⟩
      · rw [List.filter_cons, List.filter_cons, inductionHypothesis]
      · rw [List.filter_cons_of_neg (by simpa using otherIsMark),
          List.filter_cons_of_neg (by simpa using isMark), inductionHypothesis]

/-- A text is one with its marks in another order in which nothing was moved. -/
theorem MarksReordered.refl (combining : Char → Nat) (text : List Char) :
    MarksReordered combining text text :=
  ⟨.refl text, List.forall₂_same.mpr fun _ _ => .inl rfl⟩

/-- Removing the accents of a text is taking its characters apart, reordering the marks in any way,
and dropping them. -/
theorem removeAccents_eq_filter {images : Char → List Char}
    (left : ∀ character ∈ text, plain character = (images character).filter (combining · = 0))
    (reordered : MarksReordered combining (text.flatMap images) other) :
    removeAccents text = other.filter (combining · = 0) := by
  rw [reordered.filter_eq, List.filter_flatMap, removeAccents]
  exact List.flatMap_congr left

end Marks

end Text

section Separators

variable {front back gap : List Char} {separator : Char}

/-- An ASCII separator splits a text into words on both of its sides. -/
theorem wordsOf_append_cons (ascii : separator.toNat < 0x80)
    (separates : separator.isAlphanum = false) (front back : List Char) :
    wordsOf (front ++ separator :: back) = wordsOf front ++ wordsOf back := by
  have isSeparator : separatesWords separator = true := by simp [separatesWords, separates]
  have stripped : Text.removeAccents (front ++ separator :: back) =
      Text.removeAccents front ++ separator :: Text.removeAccents back := by
    rw [Text.removeAccents_append, Text.removeAccents, Text.removeAccents, List.flatMap_cons,
      Text.plain_of_ascii ascii, List.singleton_append]
    rfl
  rw [wordsOf_eq, wordsOf_eq, wordsOf_eq, stripped, Text.piecesBy_append_cons isSeparator,
    List.flatMap_append, List.map_append]

/-- Any number of ASCII separators splits a text like one of them. -/
theorem wordsOf_append_gap (nonempty : gap ≠ [])
    (separated : ∀ character ∈ gap, character.toNat < 0x80 ∧ character.isAlphanum = false)
    (front back : List Char) : wordsOf (front ++ gap ++ back) = wordsOf front ++ wordsOf back := by
  induction gap generalizing front with
  | nil => exact absurd rfl nonempty
  | cons head tail inductionHypothesis =>
      obtain ⟨⟨ascii, separates⟩, tailSeparated⟩ := List.forall_mem_cons.mp separated
      rw [List.append_assoc, List.cons_append, wordsOf_append_cons ascii separates]
      by_cases isLast : tail = []
      · rw [isLast, List.nil_append]
      · -- The other separators have no word in front of them.
        have behind : wordsOf (tail ++ back) = wordsOf back :=
          inductionHypothesis isLast tailSeparated []
        rw [behind]

/-- The words of texts that are joined by underscores are those of the texts, one after another. -/
theorem splitWords_intercalate_underscore (pieces : List String) :
    splitWords ("_".intercalate pieces) = pieces.flatMap splitWords := by
  induction pieces with
  | nil => rfl
  | cons first others inductionHypothesis =>
      cases others with
      | nil => simp
      | cons second rest =>
          have split : wordsOf (first.toList ++ '_' :: ("_".intercalate (second :: rest)).toList) =
              wordsOf first.toList ++ wordsOf ("_".intercalate (second :: rest)).toList :=
            wordsOf_append_cons (by decide) (by decide) _ _
          rw [List.flatMap_cons, ← inductionHypothesis, String.intercalate_cons_cons, splitWords,
            splitWords, splitWords, ← List.map_append, ← split]
          simp

/-- Whatever two identifiers look like, with one or more ASCII separators between them they have the
words of the one and then those of the other. So a name that is made of identifiers has the words of
the identifiers joined by underscores. Accents are removed in a way that no neighbour has a part in:
what is left is what a decomposition of each character leaves without its marks, in whatever order
these are put. -/
theorem splitWords_around_separators :
    (∀ front separators back : String, separators ≠ "" →
      (∀ character ∈ separators.toList,
        character.toNat < 0x80 ∧ character.isAlphanum = false) →
      splitWords (front ++ separators ++ back) = splitWords front ++ splitWords back) ∧
    (∀ pieces : List String, Name.ofPieces pieces = Name.ofPieces ["_".intercalate pieces]) ∧
    ∀ (combining : Char → Nat) (images : Char → List Char) (text form : List Char),
      (∀ character ∈ text,
        Text.plain character = (images character).filter (combining · = 0)) →
      Text.MarksReordered combining (text.flatMap images) form →
      Text.removeAccents text = form.filter (combining · = 0) := by
  refine ⟨fun front separators back nonempty separated => ?_, fun pieces => ?_,
    fun combining images text form => Text.removeAccents_eq_filter⟩
  · have split := wordsOf_append_gap (by simpa using nonempty) separated front.toList back.toList
    rw [splitWords, String.toList_append, String.toList_append, split, List.map_append]
    rfl
  · rw [Name.ofPieces, Name.ofPieces, List.flatMap_singleton, splitWords_intercalate_underscore]

/-- Capitals in front of separators do not go on behind them, and a syllable is taken apart into its
letters, none of which is a mark. -/
theorem splitWords_around_separators_capitals :
    ("-_" ≠ "" ∧
      (∀ character ∈ "-_".toList, character.toNat < 0x80 ∧ character.isAlphanum = false) ∧
      splitWords ("getHTTP" ++ "-_" ++ "Request") = splitWords "getHTTP" ++ splitWords "Request") ∧
    let combining (character : Char) : Nat := if character = '\u0301' then 0xE6 else 0
    let images (character : Char) : List Char :=
      if character = 'x' then ['x'] else ['\u1100', '\u1161', '\u11A8']
    (∀ character ∈ ['각', 'x'],
      Text.plain character = (images character).filter (combining · = 0)) ∧
    Text.MarksReordered combining (['각', 'x'].flatMap images) ['\u1100', '\u1161', '\u11A8', 'x'] ∧
    Text.removeAccents ['각', 'x'] =
      ['\u1100', '\u1161', '\u11A8', 'x'].filter (combining · = 0) := by
  have separated : ∀ character ∈ "-_".toList,
      character.toNat < 0x80 ∧ character.isAlphanum = false := by
    change ∀ character ∈ ['-', '_'], character.toNat < 0x80 ∧ character.isAlphanum = false
    exact List.forall_mem_cons.mpr ⟨by decide, List.forall_mem_singleton.mpr (by decide)⟩
  refine ⟨⟨by decide, separated, splitWords_around_separators.1 "getHTTP" "-_" "Request"
    (by decide) separated⟩, ?_⟩
  intro combining images
  have left : ∀ character ∈ ['각', 'x'],
      Text.plain character = (images character).filter (combining · = 0) :=
    List.forall_mem_cons.mpr
      ⟨by decide +kernel, List.forall_mem_singleton.mpr (by decide +kernel)⟩
  have reordered : Text.MarksReordered combining (['각', 'x'].flatMap images)
      ['\u1100', '\u1161', '\u11A8', 'x'] := .refl combining _
  exact ⟨left, reordered, splitWords_around_separators.2.2 combining images _ _ left reordered⟩

end Separators

end RequestSurface
