import Mathlib
import RequestSurface.Proofs.Pieces
import RequestSurface.Surface

/-!
# Characters of words and names

Whatever an identifier looks like, its words consist of ASCII letters and digits. So do the classes
that are named by words, and the names of their files have nothing but underscores and a dot beside
them.
-/

namespace RequestSurface

/-- What stands in a joined text stands in one of its parts or in what is put between them. -/
theorem Text.mem_intercalate {separator : String} {parts : List String} {character : Char}
    (member : character ∈ (separator.intercalate parts).toList) :
    character ∈ separator.toList ∨ ∃ part ∈ parts, character ∈ part.toList := by
  induction parts with
  | nil => simp at member
  | cons first rest inductionHypothesis =>
      cases rest with
      | nil => exact .inr ⟨first, List.mem_cons_self, by simpa using member⟩
      | cons second others =>
          rw [String.intercalate_cons_cons, String.toList_append, String.toList_append] at member
          rcases List.mem_append.mp member with atFront | inOthers
          · rcases List.mem_append.mp atFront with inFirst | inSeparator
            · exact .inr ⟨first, List.mem_cons_self, inFirst⟩
            · exact .inl inSeparator
          · rcases inductionHypothesis inOthers with inSeparator | ⟨part, isPart, inPart⟩
            · exact .inl inSeparator
            · exact .inr ⟨part, List.mem_cons_of_mem _ isPart, inPart⟩

/-- A letter or digit is ASCII. -/
theorem toNat_lt_of_isAlphanum {character : Char} (plain : character.isAlphanum = true) :
    character.toNat < 0x80 := by
  simp only [Char.isAlphanum, Char.isAlpha, Char.isUpper, Char.isLower, Char.isDigit,
    Bool.or_eq_true, Bool.and_eq_true, decide_eq_true_eq, ge_iff_le,
    UInt32.le_iff_toNat_le] at plain
  change (((65 ≤ character.toNat ∧ character.toNat ≤ 90) ∨
    (97 ≤ character.toNat ∧ character.toNat ≤ 122)) ∨
    (48 ≤ character.toNat ∧ character.toNat ≤ 57)) at plain
  omega

/-- A text without characters outside ASCII has no accents. -/
theorem Text.removeAccents_of_ascii {text : List Char}
    (ascii : ∀ character ∈ text, character.toNat < 0x80) : removeAccents text = text := by
  rw [removeAccents, List.flatMap_congr fun character member =>
    plain_of_ascii (ascii character member)]
  exact List.flatMap_singleton' text

/-- A letter or digit stays one in lower case. -/
theorem isAlphanum_toLower {character : Char} (plain : character.isAlphanum = true) :
    character.toLower.isAlphanum = true := by
  by_cases isUpper : character.isUpper = true
  · simp [Char.isAlphanum, Char.isAlpha, isUpper]
  · rw [Char.toLower_eq_of_not_isUpper isUpper]
    exact plain

/-- A letter or digit stays one in upper case. -/
theorem isAlphanum_toUpper {character : Char} (plain : character.isAlphanum = true) :
    character.toUpper.isAlphanum = true := by
  by_cases isLower : character.isLower = true
  · simp [Char.isAlphanum, Char.isAlpha, isLower]
  · rw [Char.toUpper_eq_of_not_isLower isLower]
    exact plain

/-- A text of letters and digits. -/
def IsPlainWord (word : List Char) : Prop :=
  ∀ character ∈ word, character.isAlphanum = true

/-- Words consist of letters and digits. -/
theorem isPlainWord_of_mem_wordsOf {text word : List Char} (member : word ∈ wordsOf text) :
    IsPlainWord word := by
  obtain ⟨piece, kept, rfl⟩ := List.mem_map.mp member
  have inside := Text.not_separates_of_mem_piecesBy (List.mem_filter.mp kept).1
  intro character isLowered
  obtain ⟨original, inPiece, rfl⟩ := List.mem_map.mp isLowered
  exact isAlphanum_toLower (by simpa using inside original inPiece)

/-- A capital in front leaves a text of letters and digits. -/
theorem IsPlainWord.capitalize {word : List Char} (plain : IsPlainWord word) :
    IsPlainWord (Text.capitalize word) := by
  cases word with
  | nil => exact plain
  | cons head tail =>
      have headPlain := plain head List.mem_cons_self
      rw [Text.capitalize, Text.upperChar, if_pos (toNat_lt_of_isAlphanum headPlain)]
      intro character member
      rcases List.mem_cons.mp member with rfl | inTail
      · exact isAlphanum_toUpper headPlain
      · exact plain character (List.mem_cons_of_mem _ inTail)

namespace Name

/-- The words of a name made of identifiers consist of letters and digits. -/
theorem isPlainWord_of_mem_ofPieces {pieces : List String} {word : String}
    (member : word ∈ (ofPieces pieces).words) : IsPlainWord word.toList := by
  obtain ⟨piece, -, isWord⟩ := List.mem_flatMap.mp member
  obtain ⟨letters, fromPiece, rfl⟩ := List.mem_map.mp isWord
  rw [String.toList_ofList]
  exact isPlainWord_of_mem_wordsOf fromPiece

/-- Words with capitals, run together, are letters and digits. -/
theorem isPlainWord_upperCamel (pieces : List String) :
    IsPlainWord (ofPieces pieces).upperCamel.toList := by
  intro character member
  rw [upperCamel, String.toList_join, List.mem_flatMap] at member
  obtain ⟨written, isWritten, inWritten⟩ := member
  obtain ⟨word, isWord, rfl⟩ := List.mem_map.mp isWritten
  rw [capitalized, String.toList_ofList] at inWritten
  exact (isPlainWord_of_mem_ofPieces isWord).capitalize character inWritten

/-- Words between underscores are letters, digits and underscores. -/
theorem mem_lowerUnderscore {pieces : List String} {character : Char}
    (member : character ∈ (ofPieces pieces).lowerUnderscore.toList) :
    character.isAlphanum = true ∨ character = '_' := by
  rcases Text.mem_intercalate member with isSeparator | ⟨word, isWord, inWord⟩
  · exact .inr (by simpa using isSeparator)
  · exact .inl (isPlainWord_of_mem_ofPieces isWord character inWord)

end Name

/-- The file of a class that is named by words has letters, digits, underscores and a dot in its
name. -/
theorem Surface.mem_fileName (surface : Surface) (raw : String) {character : Char}
    (member : character ∈ (surface.fileName (surface.className raw)).toList) :
    character.isAlphanum = true ∨ character = '_' ∨ character = '.' := by
  cases surface with
  | java =>
      rw [fileName, String.toList_append] at member
      rcases List.mem_append.mp member with inClass | inEnding
      · exact .inl (Name.isPlainWord_upperCamel [raw] character inClass)
      · have ending : character ∈ ['.', 'j', 'a', 'v', 'a'] := inEnding
        fin_cases ending <;> decide
  | python =>
      rw [fileName, String.toList_append] at member
      rcases List.mem_append.mp member with inModule | inEnding
      · exact (Name.mem_lowerUnderscore inModule).imp_right .inl
      · have ending : character ∈ ['.', 'p', 'y'] := inEnding
        fin_cases ending <;> decide

end RequestSurface
