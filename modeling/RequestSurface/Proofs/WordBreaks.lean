import Mathlib
import RequestSurface.Proofs.WordEndings

/-!
# Where words begin

Blanks are put into an identifier by two passes, the second of which sees those of the first. Still
the identifier itself says where they stand: before a capital behind a small letter or a digit, and
before one between a capital and a small letter. So the words of an identifier are what its runs of
letters and digits are cut into by one pass.
-/

namespace RequestSurface

/-- Whether a word begins with a character, given the one before it and what may follow. -/
def beginsWord (before character : Char) (after : Option Char) : Bool :=
  character.isUpper &&
    (before.isLower || before.isDigit || (before.isUpper && after.any Char.isLower))

/-- Put a blank before every character that a word begins with. -/
def breakWords : List Char → List Char
  | before :: character :: rest =>
      if beginsWord before character rest.head? then
        before :: ' ' :: breakWords (character :: rest)
      else before :: breakWords (character :: rest)
  | text => text

/-- Cut a run of letters and digits before every character that a word begins with. -/
def cutWords : List Char → List (List Char)
  | [] => []
  | [last] => [[last]]
  | before :: character :: rest =>
      if beginsWord before character rest.head? then [before] :: cutWords (character :: rest)
      else (cutWords (character :: rest)).modifyHead (before :: ·)

/-- Whether a character stands between words. -/
def separatesWords (character : Char) : Bool :=
  !character.isAlphanum

section Breaking

/-- A capital is not a digit. -/
theorem not_isDigit_of_isUpper {character : Char} (isUpper : character.isUpper = true) :
    character.isDigit = false := by
  simp only [Char.isUpper, decide_eq_true_eq, ge_iff_le, UInt32.le_iff_toNat_le] at isUpper
  simp only [Char.isDigit, Bool.and_eq_false_iff, decide_eq_false_iff_not, ge_iff_le,
    UInt32.le_iff_toNat_le]
  change 65 ≤ character.toNat ∧ character.toNat ≤ 90 at isUpper
  change ¬ 48 ≤ character.toNat ∨ ¬ character.toNat ≤ 57
  omega

/-- Breaking words leaves the first character in front. -/
theorem exists_breakWords_cons (head : Char) (tail : List Char) :
    ∃ rest, breakWords (head :: tail) = head :: rest := by
  cases tail with
  | nil => exact ⟨[], rfl⟩
  | cons character rest =>
      rw [breakWords]
      split <;> exact ⟨_, rfl⟩

/-- One pass puts blanks where the two passes put them. -/
theorem breakHumps_breakAcronyms (text : List Char) :
    breakHumps (breakAcronyms text) = breakWords text := by
  induction text with
  | nil => rfl
  | cons before tail inductionHypothesis =>
      rcases tail with - | ⟨character, rest⟩
      · rfl
      obtain ⟨gap, kept⟩ := exists_gap_breakAcronyms character rest
      rw [kept] at inductionHypothesis
      rw [breakWords, ← inductionHypothesis]
      by_cases acronym : (before.isUpper && character.isUpper && rest.head?.any Char.isLower) = true
      · -- The blank of the first pass stands behind a capital, so the second one adds none.
        have broken : breakAcronyms (before :: character :: rest) =
            before :: ' ' :: character :: (gap ++ breakAcronyms rest) := by
          rcases rest with - | ⟨after, others⟩
          · simp at acronym
          · rw [breakAcronyms, if_pos (by simpa using acronym), kept]
        simp only [Bool.and_eq_true] at acronym
        have begins : beginsWord before character rest.head? = true := by
          simp [beginsWord, acronym]
        rw [broken, begins, if_pos rfl, breakHumps, breakHumps]
        simp [Char.not_isLower_of_isUpper acronym.1.1, not_isDigit_of_isUpper acronym.1.1,
          show (' ').isLower = false from rfl, show (' ').isDigit = false from rfl,
          show (' ').isUpper = false from rfl]
      · have broken : breakAcronyms (before :: character :: rest) =
            before :: character :: (gap ++ breakAcronyms rest) := by
          rcases rest with - | ⟨after, others⟩
          · rw [← kept]
            rfl
          · rw [breakAcronyms, if_neg (by simpa using acronym), kept]
        have begins : beginsWord before character rest.head? =
            ((before.isLower || before.isDigit) && character.isUpper) := by
          rw [Bool.not_eq_true] at acronym
          rw [beginsWord]
          revert acronym
          generalize rest.head?.any Char.isLower = small
          cases before.isUpper <;> cases character.isUpper <;> cases small <;> simp
        rw [broken, begins, breakHumps]

end Breaking

section Cutting

variable {before character : Char} {after : Option Char} {text : List Char}

/-- What a word begins with and what stands before it are letters or digits. -/
theorem plain_of_beginsWord (begins : beginsWord before character after = true) :
    separatesWords before = false ∧ separatesWords character = false := by
  simp only [beginsWord, Bool.and_eq_true, Bool.or_eq_true] at begins
  obtain ⟨isUpper, behind⟩ := begins
  refine ⟨?_, by simp [separatesWords, Char.isAlphanum, Char.isAlpha, isUpper]⟩
  rcases behind with (isLower | isDigit) | ⟨isUpper, -⟩ <;>
    simp [separatesWords, Char.isAlphanum, Char.isAlpha, *]

/-- The first piece of a text begins with a small letter if the text does. -/
theorem any_isLower_head_piece {first : List Char} {others : List (List Char)}
    (pieces : Text.piecesBy separatesWords text = first :: others) :
    first.head?.any Char.isLower = text.head?.any Char.isLower := by
  cases text with
  | nil => simp_all [Text.piecesBy]
  | cons head tail =>
      cases isSeparator : separatesWords head with
      | true =>
          have notLower : head.isLower = false := by
            simp_all [separatesWords, Char.isAlphanum, Char.isAlpha]
          rw [Text.piecesBy_cons_of_separates isSeparator] at pieces
          simp [← (List.cons.inj pieces).1, notLower]
      | false =>
          rw [Text.piecesBy_cons_of_plain isSeparator] at pieces
          obtain ⟨piece, rest, cut⟩ := Text.exists_piecesBy_eq_cons separatesWords tail
          rw [cut, List.modifyHead_cons] at pieces
          simp [← (List.cons.inj pieces).1]

/-- The first word of a run begins like the run. -/
theorem exists_cutWords_cons (head : Char) (tail : List Char) :
    ∃ rest others, cutWords (head :: tail) = (head :: rest) :: others := by
  induction tail generalizing head with
  | nil => exact ⟨[], [], rfl⟩
  | cons character rest inductionHypothesis =>
      rw [cutWords]
      split
      · exact ⟨[], _, rfl⟩
      · obtain ⟨word, others, cut⟩ := inductionHypothesis character
        exact ⟨character :: word, others, by rw [cut, List.modifyHead_cons]⟩

/-- A run is cut into words of at least one character. -/
theorem ne_nil_of_mem_cutWords {run word : List Char} (isWord : word ∈ cutWords run) :
    word ≠ [] := by
  induction run generalizing word with
  | nil => cases isWord
  | cons before tail inductionHypothesis =>
      rcases tail with - | ⟨character, rest⟩
      · obtain rfl := List.mem_singleton.mp isWord
        exact List.cons_ne_nil _ _
      · rw [cutWords] at isWord
        split at isWord
        · rcases List.mem_cons.mp isWord with rfl | isOther
          · exact List.cons_ne_nil _ _
          · exact inductionHypothesis isOther
        · obtain ⟨first, others, cut⟩ := exists_cutWords_cons character rest
          rw [cut, List.modifyHead_cons] at isWord
          rcases List.mem_cons.mp isWord with rfl | isOther
          · exact List.cons_ne_nil _ _
          · exact inductionHypothesis (by rw [cut]; exact List.mem_cons_of_mem _ isOther)

/-- Nothing is lost where a run is cut. -/
theorem flatten_cutWords (run : List Char) : (cutWords run).flatten = run := by
  induction run with
  | nil => rfl
  | cons before tail inductionHypothesis =>
      rcases tail with - | ⟨character, rest⟩
      · rfl
      · rw [cutWords]
        split
        · rw [List.flatten_cons, inductionHypothesis]
          rfl
        · obtain ⟨word, others, cut⟩ := exists_cutWords_cons character rest
          rw [cut] at inductionHypothesis ⊢
          rw [List.modifyHead_cons, ← inductionHypothesis]
          rfl

/-- What stands between separators and blanks are the words that what stands between separators is
cut into. -/
theorem pieces_breakWords (text : List Char) :
    (Text.piecesBy separatesWords (breakWords text)).filter (!·.isEmpty) =
      (Text.piecesBy separatesWords text).flatMap cutWords := by
  induction text with
  | nil => rfl
  | cons before tail inductionHypothesis =>
      rcases tail with - | ⟨character, rest⟩
      · cases isSeparator : separatesWords before <;>
          simp [breakWords, Text.piecesBy, isSeparator, cutWords]
      obtain ⟨piece, pieces, cutRest⟩ := Text.exists_piecesBy_eq_cons separatesWords rest
      -- Whether a word begins here is the same for the piece and for the whole text.
      have sameAfter : beginsWord before character piece.head? =
          beginsWord before character rest.head? := by
        rw [beginsWord, any_isLower_head_piece cutRest, beginsWord]
      rw [breakWords]
      by_cases begins : beginsWord before character rest.head? = true
      · obtain ⟨plain, characterPlain⟩ := plain_of_beginsWord begins
        rw [if_pos begins, Text.piecesBy_cons_of_plain plain,
          Text.piecesBy_cons_of_separates (by decide), List.modifyHead_cons,
          List.filter_cons_of_pos (by simp), inductionHypothesis,
          Text.piecesBy_cons_of_plain plain, Text.piecesBy_cons_of_plain characterPlain, cutRest]
        simp [cutWords, sameAfter, begins]
      rw [if_neg begins]
      cases isSeparator : separatesWords before with
      | true =>
          rw [Text.piecesBy_cons_of_separates isSeparator,
            Text.piecesBy_cons_of_separates isSeparator, List.filter_cons_of_neg (by simp),
            inductionHypothesis]
          rfl
      | false =>
          obtain ⟨broken, breaks⟩ := exists_breakWords_cons character rest
          rw [breaks] at inductionHypothesis ⊢
          rw [Text.piecesBy_cons_of_plain isSeparator, Text.piecesBy_cons_of_plain isSeparator]
          cases characterSeparates : separatesWords character with
          | true =>
              simp only [Text.piecesBy_cons_of_separates characterSeparates]
                at inductionHypothesis ⊢
              simpa [cutWords] using inductionHypothesis
          | false =>
              simp only [Text.piecesBy_cons_of_plain characterSeparates] at inductionHypothesis ⊢
              obtain ⟨first, others, cutBroken⟩ :=
                Text.exists_piecesBy_eq_cons separatesWords broken
              obtain ⟨word, words, cutPiece⟩ := exists_cutWords_cons character piece
              have notBegins : ¬ beginsWord before character piece.head? = true := by
                rwa [sameAfter]
              simp_all [cutWords]

/-- The words of an identifier are those that its runs of letters and digits are cut into, in small
letters. -/
theorem wordsOf_eq (text : List Char) :
    wordsOf text =
      ((Text.piecesBy separatesWords (Text.removeAccents text)).flatMap cutWords).map
        (·.map Char.toLower) := by
  rw [← pieces_breakWords, ← breakHumps_breakAcronyms]
  rfl

/-- A run without capitals behind its first character is one word. -/
theorem cutWords_of_small_tail {head : Char}
    (small : ∀ character ∈ text, character.isUpper = false) :
    cutWords (head :: text) = [head :: text] := by
  induction text generalizing head with
  | nil => rfl
  | cons character rest inductionHypothesis =>
      obtain ⟨isSmall, restSmall⟩ := List.forall_mem_cons.mp small
      have goesOn : ¬ beginsWord head character rest.head? = true := by
        simp [beginsWord, isSmall]
      rw [cutWords, if_neg goesOn, inductionHypothesis restSmall, List.modifyHead_cons]

/-- A run of letters and digits without capitals is one word. -/
theorem cutWords_of_small (nonempty : text ≠ [])
    (small : ∀ character ∈ text, character.isUpper = false) : cutWords text = [text] := by
  obtain ⟨head, tail, rfl⟩ := List.exists_cons_of_ne_nil nonempty
  exact cutWords_of_small_tail (List.forall_mem_cons.mp small).2

/-- A text of letters and digits is cut into words as a whole. -/
theorem wordsOf_of_plain (plain : IsPlainWord text) :
    wordsOf text = (cutWords text).map (·.map Char.toLower) := by
  have noSeparator : ∀ character ∈ text, separatesWords character = false :=
    fun character member => by simp [separatesWords, plain character member]
  rw [wordsOf_eq, Text.removeAccents_of_ascii fun character member =>
    toNat_lt_of_isAlphanum (plain character member), Text.piecesBy_of_plain noSeparator,
    List.flatMap_singleton]

end Cutting

section Words

/-- What identifiers are split into: small letters and digits, at least one of them. -/
def IsSmallWord (word : List Char) : Prop :=
  word ≠ [] ∧ ∀ character ∈ word, character.isLower = true ∨ character.isDigit = true

variable {text word : List Char} {words : List (List Char)}

/-- The words of an identifier are small words. -/
theorem isSmallWord_of_mem_wordsOf (member : word ∈ wordsOf text) : IsSmallWord word := by
  have plain := isPlainWord_of_mem_wordsOf member
  obtain ⟨piece, kept, rfl⟩ := List.mem_map.mp member
  refine ⟨by simpa using (List.mem_filter.mp kept).2, fun character isLowered => ?_⟩
  have isPlain := plain character isLowered
  obtain ⟨original, -, rfl⟩ := List.mem_map.mp isLowered
  simpa [Char.isAlphanum, Char.isAlpha] using isPlain

/-- A small word has no capitals. -/
theorem IsSmallWord.not_isUpper (small : IsSmallWord word) :
    ∀ character ∈ word, character.isUpper = false := by
  intro character member
  rw [← Bool.not_eq_true]
  intro isUpper
  rcases small.2 character member with isLower | isDigit
  · exact Char.not_isLower_of_isUpper isUpper isLower
  · rw [not_isDigit_of_isUpper isUpper] at isDigit
    cases isDigit

/-- A small word consists of letters and digits. -/
theorem IsSmallWord.plain (small : IsSmallWord word) : IsPlainWord word := by
  intro character member
  rcases small.2 character member with isLower | isDigit <;>
    simp [Char.isAlphanum, Char.isAlpha, *]

/-- Small letters and digits stay as they are in small letters. -/
theorem IsSmallWord.map_toLower (small : IsSmallWord word) : word.map Char.toLower = word := by
  conv_rhs => rw [← List.map_id word]
  exact List.map_congr_left fun character member =>
    Char.toLower_eq_of_not_isUpper (by simp [small.not_isUpper character member])

/-- Cutting small words one by one leaves them as they are. -/
theorem map_toLower_flatMap_cutWords (small : ∀ word ∈ words, IsSmallWord word) :
    (words.flatMap cutWords).map (·.map Char.toLower) = words := by
  rw [List.flatMap_congr fun word isWord =>
    cutWords_of_small (small word isWord).1 (small word isWord).not_isUpper,
    List.flatMap_singleton']
  conv_rhs => rw [← List.map_id words]
  exact List.map_congr_left fun word isWord => (small word isWord).map_toLower

/-- An identifier is split into words exactly if its characters are. -/
theorem splitWords_eq_iff {identifier : String} {words : List String} :
    splitWords identifier = words ↔ wordsOf identifier.toList = words.map String.toList := by
  rw [splitWords]
  constructor
  · rintro rfl
    simp [Function.comp_def]
  · intro same
    rw [same]
    simp [Function.comp_def]

/-- The words of a name that is made of identifiers are small. -/
theorem Name.isSmallWord_of_mem_ofPieces {pieces : List String} {word : String}
    (isWord : word ∈ (ofPieces pieces).words) : IsSmallWord word.toList := by
  obtain ⟨piece, -, inPiece⟩ := List.mem_flatMap.mp isWord
  obtain ⟨letters, isLetters, rfl⟩ := List.mem_map.mp inPiece
  rw [String.toList_ofList]
  exact isSmallWord_of_mem_wordsOf isLetters

/-- Small words that are joined by underscores are split again. -/
theorem Name.splitWords_lowerUnderscore {name : Name}
    (small : ∀ word ∈ name.words, IsSmallWord word.toList) :
    splitWords name.lowerUnderscore = name.words := by
  have ascii : ∀ character ∈ name.lowerUnderscore.toList, character.toNat < 0x80 := by
    intro character member
    rcases Text.mem_intercalate member with isSeparator | ⟨word, isWord, inWord⟩
    · obtain rfl : character = '_' := by simpa using isSeparator
      decide
    · exact toNat_lt_of_isAlphanum ((small word isWord).plain character inWord)
  have joined : name.lowerUnderscore.toList =
      ['_'].intercalate (name.words.map String.toList) := String.toList_intercalate
  have smallTexts : ∀ word ∈ name.words.map String.toList, IsSmallWord word :=
    List.forall_mem_map.mpr small
  have split : wordsOf name.lowerUnderscore.toList = name.words.map String.toList := by
    rw [wordsOf_eq, Text.removeAccents_of_ascii ascii, joined]
    by_cases noWord : name.words.map String.toList = []
    · rw [noWord]
      rfl
    · have plain : ∀ word ∈ name.words.map String.toList, ∀ character ∈ word,
          separatesWords character = false := fun word isWord character member => by
        simp [separatesWords, (smallTexts word isWord).plain character member]
      rw [Text.piecesBy_intercalate (by decide) noWord plain,
        map_toLower_flatMap_cutWords smallTexts]
  exact splitWords_eq_iff.mpr split

end Words

end RequestSurface
