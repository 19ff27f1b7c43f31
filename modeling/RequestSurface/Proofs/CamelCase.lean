import Mathlib
import RequestSurface.Proofs.WordBreaks

/-!
# Camel case

Words that are run together with capitals can be told apart as long as every capital begins a word
again. It does so behind a small letter or a digit. Behind another capital, which is all there is of
a word of one letter, it does so only if a small letter follows: otherwise the two capitals look
like the front of an acronym.
-/

namespace RequestSurface

/-- A word that is a single letter. -/
def isInitial : List Char → Bool
  | [letter] => letter.isLower
  | _ => false

/-- A word whose first character is a letter and whose second one is not. -/
def startsAlone : List Char → Bool
  | [] => false
  | first :: rest => first.isLower && !rest.head?.any Char.isLower

/-- Words that can be told apart again where they are run together with capitals behind another
word: none of them is a single letter before a word that starts with a letter and has no letter for
its second character. -/
def KeepsCapitals (words : List (List Char)) : Prop :=
  words.IsChain fun word next => ¬ (isInitial word = true ∧ startsAlone next = true)

instance (words : List (List Char)) : Decidable (KeepsCapitals words) :=
  inferInstanceAs (Decidable (List.IsChain _ _))

/-- A text of letters and digits as it is when it was cut into words and these were run together
with capitals again, behind a character. -/
def recased (before : Char) : List Char → List Char
  | [] => []
  | character :: rest =>
      (if beginsWord before character rest.head? then character else character.toLower) ::
        recased character rest

section Recasing

variable {before : Char} {words : List (List Char)}

/-- A letter or digit in front is written in upper case. -/
theorem Text.capitalize_cons {head : Char} (plain : head.isAlphanum = true) (tail : List Char) :
    capitalize (head :: tail) = head.toUpper :: tail := by
  rw [capitalize, upperChar, if_pos (toNat_lt_of_isAlphanum plain), List.singleton_append]

/-- Cutting a text into words and running these together with capitals changes the case of its
letters only. -/
theorem flatMap_capitalize_cutWords {first : Char} {rest : List Char}
    (plain : IsPlainWord (first :: rest)) :
    ((cutWords (first :: rest)).map (·.map Char.toLower)).flatMap Text.capitalize =
      first.toUpper :: recased first rest := by
  induction rest generalizing first with
  | nil =>
      simp [cutWords, recased, Text.capitalize_cons (isAlphanum_toLower (plain first (by simp)))]
  | cons character others inductionHypothesis =>
      obtain ⟨firstPlain, restPlain⟩ := List.forall_mem_cons.mp plain
      have same := inductionHypothesis restPlain
      rw [cutWords, recased]
      split
      · rename_i begins
        have isUpper : character.isUpper = true := by
          simp_all [beginsWord]
        have notLower := Char.not_isLower_of_isUpper isUpper
        simp_all [Text.capitalize_cons (isAlphanum_toLower firstPlain),
          Char.toUpper_eq_of_not_isLower]
      · obtain ⟨word, words, cut⟩ := exists_cutWords_cons character others
        have characterPlain := (List.forall_mem_cons.mp restPlain).1
        rw [cut] at same ⊢
        simp_all [Text.capitalize_cons (isAlphanum_toLower firstPlain),
          Text.capitalize_cons (isAlphanum_toLower characterPlain)]

/-- Small letters and digits are kept. -/
theorem recased_append_small {word : List Char}
    (small : ∀ character ∈ word, character.isUpper = false) (rest : List Char) :
    recased before (word ++ rest) =
      word ++ recased ((before :: word).getLast (List.cons_ne_nil _ _)) rest := by
  induction word generalizing before with
  | nil => rfl
  | cons head tail inductionHypothesis =>
      obtain ⟨headSmall, tailSmall⟩ := List.forall_mem_cons.mp small
      have same : head.toLower = head := Char.toLower_eq_of_not_isUpper (by simp [headSmall])
      rw [List.cons_append, recased, inductionHypothesis tailSmall, List.getLast_cons_cons]
      simp [same]

/-- Words with capitals do not start with a small letter. -/
theorem not_isLower_head_flatMap_capitalize (small : ∀ word ∈ words, IsSmallWord word) :
    (words.flatMap Text.capitalize).head?.any Char.isLower = false := by
  rcases words with - | ⟨word, others⟩
  · rfl
  · have isSmall := small word List.mem_cons_self
    obtain ⟨head, tail, rfl⟩ := List.exists_cons_of_ne_nil isSmall.1
    simp [Text.capitalize_cons (isSmall.plain head List.mem_cons_self)]

/-- Whether a small letter follows the front of a word is a matter of the word, whatever words with
capitals stand behind it. -/
theorem any_isLower_head_append (rest : List Char) (small : ∀ word ∈ words, IsSmallWord word) :
    (rest ++ words.flatMap Text.capitalize).head?.any Char.isLower =
      rest.head?.any Char.isLower := by
  cases rest with
  | nil => exact not_isLower_head_flatMap_capitalize small
  | cons => rfl

/-- A word with a capital in front ends with a letter or digit. -/
theorem isAlphanum_getLast_capitalized {head : Char} {tail : List Char}
    (small : IsSmallWord (head :: tail)) :
    ((head.toUpper :: tail).getLast (List.cons_ne_nil _ _)).isAlphanum = true := by
  apply small.plain.capitalize
  simp only [Text.capitalize_cons (small.plain head List.mem_cons_self), List.getLast_mem]

/-- The last character of a word with a capital in front is the capital exactly if the word is a
single letter. -/
theorem isUpper_getLast_capitalized {head : Char} {tail : List Char}
    (small : IsSmallWord (head :: tail)) :
    ((head.toUpper :: tail).getLast (List.cons_ne_nil _ _)).isUpper = isInitial (head :: tail) := by
  have headSmall := small.not_isUpper head List.mem_cons_self
  rcases tail with - | ⟨second, rest⟩
  · simp [isInitial, Char.isAlpha, headSmall]
  · rw [List.getLast_cons_cons]
    exact small.not_isUpper _ (List.mem_cons_of_mem _ (List.getLast_mem _))

/-- Behind a letter or digit, a word begins with the upper case of a small letter or digit exactly
if that is a letter and, behind a capital, a small letter follows. -/
theorem beginsWord_toUpper_iff {head : Char} {after : Option Char}
    (plain : before.isAlphanum = true) (small : head.isLower = true ∨ head.isDigit = true) :
    beginsWord before head.toUpper after = true ↔
      head.isLower = true ∧ (before.isUpper = true → after.any Char.isLower = true) := by
  cases isLower : head.isLower with
  | false =>
      have notUpper : head.isUpper = false := by
        rw [← Bool.not_eq_true]
        intro isUpper
        simp [isLower, not_isDigit_of_isUpper isUpper] at small
      have same : head.toUpper = head := Char.toUpper_eq_of_not_isLower (by simp [isLower])
      simp [beginsWord, same, notUpper]
  | true =>
      have isUpper : head.toUpper.isUpper = true := by simp [Char.isAlpha, isLower]
      cases capital : before.isUpper with
      | true =>
          have notLower := Char.not_isLower_of_isUpper capital
          simp [beginsWord, isUpper, capital, notLower, not_isDigit_of_isUpper capital]
      | false =>
          have behindSmall : (before.isLower || before.isDigit) = true := by
            simpa [Char.isAlphanum, Char.isAlpha, capital] using plain
          simp [beginsWord, isUpper, behindSmall]

/-- A character in front of a word keeps its upper case, unless it is a letter behind a capital and
before no small letter. -/
theorem capital_kept_iff {head : Char} {after : Option Char} (plain : before.isAlphanum = true)
    (small : head.isLower = true ∨ head.isDigit = true) :
    (if beginsWord before head.toUpper after then head.toUpper else head.toUpper.toLower) =
        head.toUpper ↔
      (before.isUpper = true → (head.isLower && !after.any Char.isLower) = false) := by
  have begins : beginsWord before head.toUpper after = true ↔ _ :=
    beginsWord_toUpper_iff plain small
  cases isLower : head.isLower with
  | false =>
      have same : head.toUpper = head := Char.toUpper_eq_of_not_isLower (by simp [isLower])
      have notUpper : ¬ head.isUpper = true := fun isUpper => by
        simp [isLower, not_isDigit_of_isUpper isUpper] at small
      simp [same, Char.toLower_eq_of_not_isUpper notUpper]
  | true =>
      have changed : head.toUpper.toLower ≠ head.toUpper := fun same => by
        have isUpper : head.toUpper.isUpper = true := by simp [Char.isAlpha, isLower]
        rw [← same, Char.isUpper_toLower_eq_false] at isUpper
        cases isUpper
      rw [isLower] at begins
      split
      · rename_i isBegun
        exact iff_of_true rfl fun capital => by simpa using (begins.mp isBegun).2 capital
      · rename_i goesOn
        refine iff_of_false changed fun kept => goesOn (begins.mpr ⟨rfl, fun capital => ?_⟩)
        simpa using kept capital

/-- Behind a character, words that were run together with capitals keep all of them exactly if they
can be told apart, and if the first one does not go on with the acronym that a capital before it
begins. -/
theorem recased_flatMap_capitalize_iff (small : ∀ word ∈ words, IsSmallWord word)
    (plain : before.isAlphanum = true) :
    recased before (words.flatMap Text.capitalize) = words.flatMap Text.capitalize ↔
      (before.isUpper = true → ∀ word ∈ words.head?, startsAlone word = false) ∧
        KeepsCapitals words := by
  induction words generalizing before with
  | nil => simp [recased, KeepsCapitals]
  | cons word others inductionHypothesis =>
      obtain ⟨isSmall, othersSmall⟩ := List.forall_mem_cons.mp small
      obtain ⟨head, tail, rfl⟩ := List.exists_cons_of_ne_nil isSmall.1
      have headPlain := isSmall.plain head List.mem_cons_self
      have tailSmall := (List.forall_mem_cons.mp isSmall.not_isUpper).2
      rw [List.flatMap_cons, Text.capitalize_cons headPlain, List.cons_append, recased,
        recased_append_small tailSmall, List.cons.injEq, List.append_cancel_left_eq,
        capital_kept_iff plain (isSmall.2 head List.mem_cons_self),
        any_isLower_head_append tail othersSmall,
        inductionHypothesis othersSmall (isAlphanum_getLast_capitalized isSmall),
        isUpper_getLast_capitalized isSmall, KeepsCapitals, KeepsCapitals, List.isChain_cons]
      simp only [List.head?_cons, Option.mem_some_iff, forall_eq', startsAlone, not_and,
        Bool.not_eq_true]
      exact and_congr_right fun _ => and_congr_left fun _ =>
        ⟨fun kept next isNext initial => kept initial next isNext,
          fun kept initial next isNext => kept next isNext initial⟩

/-- Words with capitals behind a text of letters and digits make up another one. -/
theorem isPlainWord_append_capitalize {first : List Char} (plain : IsPlainWord first)
    (small : ∀ word ∈ words, IsSmallWord word) :
    IsPlainWord (first ++ words.flatMap Text.capitalize) := by
  intro character member
  rcases List.mem_append.mp member with inFirst | inOthers
  · exact plain character inFirst
  · obtain ⟨word, isWord, inWord⟩ := List.mem_flatMap.mp inOthers
    exact (small word isWord).plain.capitalize character inWord

/-- A text whose first word is written as it is, and the others with capitals, is cut into words
that are written with capitals like its own exactly if the others can be told apart. -/
theorem capitalize_wordsOf_iff {first : List Char} (firstSmall : IsSmallWord first)
    (small : ∀ word ∈ words, IsSmallWord word) :
    (wordsOf (first ++ words.flatMap Text.capitalize)).flatMap Text.capitalize =
        (first :: words).flatMap Text.capitalize ↔ KeepsCapitals words := by
  obtain ⟨head, tail, rfl⟩ := List.exists_cons_of_ne_nil firstSmall.1
  have headPlain := firstSmall.plain head List.mem_cons_self
  have tailSmall := (List.forall_mem_cons.mp firstSmall.not_isUpper).2
  have lastIn : (head :: tail).getLast (List.cons_ne_nil _ _) ∈ head :: tail := List.getLast_mem _
  have plain := isPlainWord_append_capitalize firstSmall.plain small
  rw [wordsOf_of_plain plain]
  rw [List.cons_append] at plain ⊢
  rw [flatMap_capitalize_cutWords plain, recased_append_small tailSmall, List.flatMap_cons,
    Text.capitalize_cons headPlain, List.cons_append, List.cons.injEq, List.append_cancel_left_eq,
    recased_flatMap_capitalize_iff small (firstSmall.plain _ lastIn)]
  simp [firstSmall.not_isUpper _ lastIn]

end Recasing

namespace Surface

/-- A name of a field is split into the words of the field where they are joined by underscores. -/
theorem splitWords_fieldName_python (raw : String) :
    splitWords (python.fieldName raw) = splitWords raw := by
  change splitWords (Name.ofPieces [raw]).lowerUnderscore = _
  rw [Name.splitWords_lowerUnderscore fun _ => Name.isSmallWord_of_mem_ofPieces, Name.ofPieces,
    List.flatMap_singleton]

/-- What accessors have behind their verbs is written as the words with capitals. -/
theorem toList_accessorTail_java (raw : String) :
    (java.accessorTail raw).toList = (wordsOf raw.toList).flatMap Text.capitalize := by
  simp [accessorTail, tailOf, splitWords, List.flatMap_map, Name.capitalized]

/-- The name of a field has its first word as it is. -/
theorem toList_fieldName_java {raw : String} {first : List Char} {words : List (List Char)}
    (split : wordsOf raw.toList = first :: words) :
    (java.fieldName raw).toList = first ++ words.flatMap Text.capitalize := by
  simp [fieldName, memberCase, Name.ofPieces, Name.lowerCamel, splitWords, split, List.flatMap_map,
    Name.capitalized]

/-- Accessors that are named after the name of a field are called like those that are named after
the field itself, unless words are run together with capitals and cannot be told apart again. -/
theorem accessorTail_fieldName_iff (surface : Surface) (raw : String) :
    surface.accessorTail (surface.fieldName raw) = surface.accessorTail raw ↔
      (surface = .java → KeepsCapitals (wordsOf raw.toList).tail) := by
  cases surface with
  | python => simp [accessorTail, splitWords_fieldName_python]
  | java =>
      rw [← String.toList_inj, toList_accessorTail_java, toList_accessorTail_java]
      rcases split : wordsOf raw.toList with - | ⟨first, words⟩
      · have noWord : java.fieldName raw = "" := by
          simp [fieldName, memberCase, Name.ofPieces, Name.lowerCamel, splitWords, split]
        rw [noWord]
        decide
      · have small : ∀ word ∈ first :: words, IsSmallWord word := fun word isWord =>
          isSmallWord_of_mem_wordsOf (split ▸ isWord)
        rw [toList_fieldName_java split, capitalize_wordsOf_iff (small first List.mem_cons_self)
          fun word isWord => small word (List.mem_cons_of_mem _ isWord), List.tail_cons]
        simp

end Surface

end RequestSurface
