import Mathlib
import RequestSurface.Proofs.CamelCase

/-!
# Words behind a casing

Splitting a name that words were joined to gives the words back wherever the casing says where each
of them begins. Underscores always do. Capitals do for words that start with a letter, unless the
word before is a single letter in upper case: then the two capitals look like the front of an
acronym, and a small letter has to follow for the second one to begin a word.
-/

namespace RequestSurface

/-- A word that starts with a letter. -/
def StartsWithLetter (word : List Char) : Prop :=
  word.head?.any Char.isLower = true

/-- A word of at least two characters, the second of which is a letter. -/
def SecondIsLetter (word : List Char) : Prop :=
  word[1]?.any Char.isLower = true

instance (word : List Char) : Decidable (StartsWithLetter word) :=
  inferInstanceAs (Decidable (_ = true))

instance (word : List Char) : Decidable (SecondIsLetter word) :=
  inferInstanceAs (Decidable (_ = true))

/-- Words that can be told apart where the first one is written as it is and the others with
capitals: all but the first start with a letter, and where one of these is a single character, the
second character of the next one is a letter. -/
structure CamelApart (words : List (List Char)) : Prop where
  letters : ∀ word ∈ words.tail, StartsWithLetter word
  singles : words.tail.IsChain fun word next => word.length = 1 → SecondIsLetter next

section Cutting

variable {head : Char} {tail rest first : List Char} {words : List (List Char)}

/-- A text of letters and digits without capitals behind the first character is cut behind it where
a word begins, and nowhere else. -/
theorem cutWords_append_cons (small : ∀ character ∈ tail, character.isUpper = false)
    (character : Char) :
    cutWords (head :: (tail ++ character :: rest)) =
      if beginsWord ((head :: tail).getLast (List.cons_ne_nil _ _)) character rest.head? then
        (head :: tail) :: cutWords (character :: rest)
      else (cutWords (character :: rest)).modifyHead ((head :: tail) ++ ·) := by
  induction tail generalizing head with
  | nil => rw [List.nil_append, cutWords]; rfl
  | cons second others inductionHypothesis =>
      obtain ⟨secondSmall, othersSmall⟩ := List.forall_mem_cons.mp small
      have goesOn : ¬ beginsWord head second (others ++ character :: rest).head? = true := by
        simp [beginsWord, secondSmall]
      rw [List.cons_append, cutWords, if_neg goesOn, inductionHypothesis othersSmall,
        List.getLast_cons_cons]
      split
      · rfl
      · rw [List.modifyHead_modifyHead]
        rfl

/-- Words that follow one another with capitals in front are cut apart again exactly if a word
begins with every one of these capitals: if the words start with letters, and a second letter
follows where the capital stands behind another one. -/
theorem cutWords_capitalized_iff (tailSmall : ∀ character ∈ tail, character.isUpper = false)
    (lastPlain : ((head :: tail).getLast (List.cons_ne_nil _ _)).isAlphanum = true)
    (small : ∀ word ∈ words, IsSmallWord word) :
    cutWords (head :: (tail ++ words.flatMap Text.capitalize)) =
        (head :: tail) :: words.map Text.capitalize ↔
      (∀ word ∈ words, StartsWithLetter word) ∧
        (((head :: tail).getLast (List.cons_ne_nil _ _)).isUpper = true →
          ∀ next ∈ words.head?, SecondIsLetter next) ∧
        words.IsChain fun word next => isInitial word = true → SecondIsLetter next := by
  induction words generalizing head tail with
  | nil => simp [cutWords_of_small_tail tailSmall]
  | cons next others inductionHypothesis =>
      obtain ⟨isSmall, othersSmall⟩ := List.forall_mem_cons.mp small
      obtain ⟨letter, rest, rfl⟩ := List.exists_cons_of_ne_nil isSmall.1
      have restSmall := (List.forall_mem_cons.mp isSmall.not_isUpper).2
      have begins : beginsWord _ letter.toUpper (rest ++ others.flatMap Text.capitalize).head? =
          true ↔ _ := beginsWord_toUpper_iff lastPlain (isSmall.2 letter List.mem_cons_self)
      rw [any_isLower_head_append rest othersSmall] at begins
      have onward :=
        inductionHypothesis restSmall (isAlphanum_getLast_capitalized isSmall) othersSmall
      rw [isUpper_getLast_capitalized isSmall] at onward
      have starts : StartsWithLetter (letter :: rest) ↔ letter.isLower = true := Iff.rfl
      have second : SecondIsLetter (letter :: rest) ↔ rest.head?.any Char.isLower = true := by
        rw [SecondIsLetter, List.getElem?_cons_succ, List.head?_eq_getElem?]
      rw [List.flatMap_cons, Text.capitalize_cons (isSmall.plain letter List.mem_cons_self),
        List.cons_append, cutWords_append_cons tailSmall, List.isChain_cons, List.forall_mem_cons,
        List.head?_cons, starts]
      simp only [Option.mem_some_iff, forall_eq', second]
      split
      · rename_i isBegun
        obtain ⟨isLetter, goesOn⟩ := begins.mp isBegun
        rw [List.map_cons, Text.capitalize_cons (isSmall.plain letter List.mem_cons_self),
          List.cons.injEq, onward]
        constructor
        · rintro ⟨-, letters, initials, chain⟩
          exact ⟨⟨isLetter, letters⟩, goesOn,
            fun next isNext initial => initials initial next isNext, chain⟩
        · rintro ⟨⟨-, letters⟩, -, initials, chain⟩
          exact ⟨rfl, letters, fun initial next isNext => initials next isNext initial, chain⟩
      · rename_i notBegun
        refine iff_of_false ?_ fun apart => notBegun (begins.mpr ⟨apart.1.1, apart.2.1⟩)
        -- The first word goes on with the capital.
        obtain ⟨word, words, cut⟩ := exists_cutWords_cons letter.toUpper
          (rest ++ others.flatMap Text.capitalize)
        rw [cut, List.modifyHead_cons]
        intro same
        have longer := (List.cons.inj same).1
        simp at longer

end Cutting

section Splitting

variable {words : List (List Char)}

/-- A small word with a capital in front is read back as it was. -/
theorem map_toLower_capitalize {word : List Char} (small : IsSmallWord word) :
    (Text.capitalize word).map Char.toLower = word := by
  obtain ⟨head, tail, rfl⟩ := List.exists_cons_of_ne_nil small.1
  have same := small.map_toLower
  rw [List.map_cons, List.cons.injEq] at same
  rw [Text.capitalize_cons (small.plain head List.mem_cons_self), List.map_cons, same.2]
  simp [same.1]

/-- A text of letters and digits is split into parts of it, in small letters, exactly if it is cut
into these parts. -/
theorem wordsOf_flatten_iff {parts : List (List Char)} (plain : IsPlainWord parts.flatten) :
    wordsOf parts.flatten = parts.map (·.map Char.toLower) ↔ cutWords parts.flatten = parts := by
  rw [wordsOf_of_plain plain]
  constructor
  · intro same
    have lengths := congrArg (List.map List.length) same
    simp only [List.map_map, Function.comp_def, List.length_map] at lengths
    exact List.eq_iff_flatten_eq.mpr ⟨flatten_cutWords _, lengths⟩
  · intro same
    rw [same]

/-- Small words with capitals behind another word are split again exactly if a word begins with
every one of the capitals. -/
theorem wordsOf_capitalized_iff {head : Char} {tail : List Char}
    (tailSmall : ∀ character ∈ tail, character.isUpper = false) (plain : IsPlainWord (head :: tail))
    (small : ∀ word ∈ words, IsSmallWord word) :
    wordsOf (head :: (tail ++ words.flatMap Text.capitalize)) =
        (head :: tail).map Char.toLower :: words ↔
      (∀ word ∈ words, StartsWithLetter word) ∧
        (((head :: tail).getLast (List.cons_ne_nil _ _)).isUpper = true →
          ∀ next ∈ words.head?, SecondIsLetter next) ∧
        words.IsChain fun word next => isInitial word = true → SecondIsLetter next := by
  rw [← cutWords_capitalized_iff tailSmall (plain _ (List.getLast_mem _)) small]
  have whole : head :: (tail ++ words.flatMap Text.capitalize) =
      ((head :: tail) :: words.map Text.capitalize).flatten := by
    rw [List.flatten_cons, ← List.flatMap_def]
    rfl
  have lowered : (words.map Text.capitalize).map (·.map Char.toLower) = words := by
    rw [List.map_map]
    conv_rhs => rw [← List.map_id words]
    exact List.map_congr_left fun word isWord => map_toLower_capitalize (small word isWord)
  have allPlain : IsPlainWord ((head :: tail) :: words.map Text.capitalize).flatten :=
    whole ▸ isPlainWord_append_capitalize plain small
  rw [whole, ← wordsOf_flatten_iff allPlain]
  change _ ↔ wordsOf _ =
    (head :: tail).map Char.toLower :: (words.map Text.capitalize).map (·.map Char.toLower)
  rw [lowered]

/-- A small word that starts with a letter is a single letter exactly if it has one character. -/
theorem isInitial_iff_length {word : List Char} (starts : StartsWithLetter word) :
    isInitial word = true ↔ word.length = 1 := by
  rcases word with - | ⟨letter, - | ⟨second, others⟩⟩
  · cases starts
  · exact iff_of_true starts rfl
  · simp [isInitial]

/-- What tells words apart behind a first one. -/
theorem camelApart_cons_iff {first : List Char} :
    CamelApart (first :: words) ↔
      (∀ word ∈ words, StartsWithLetter word) ∧
        words.IsChain fun word next => isInitial word = true → SecondIsLetter next := by
  constructor
  · rintro ⟨letters, singles⟩
    refine ⟨letters, singles.imp_of_mem_imp fun word next isWord _ goesOn initial => ?_⟩
    exact goesOn ((isInitial_iff_length (letters word isWord)).mp initial)
  · rintro ⟨letters, initials⟩
    refine ⟨letters, initials.imp_of_mem_imp fun word next isWord _ goesOn single => ?_⟩
    exact goesOn ((isInitial_iff_length (letters word isWord)).mpr single)

end Splitting

namespace Name

variable {name : Name} {first : String} {rest : List String}

theorem toList_lowerCamel (split : name.words = first :: rest) :
    name.lowerCamel.toList = first.toList ++ (rest.map String.toList).flatMap Text.capitalize := by
  rw [lowerCamel, split]
  simp [String.toList_join, List.flatMap_map, capitalized]

theorem toList_upperCamel (name : Name) :
    name.upperCamel.toList = (name.words.map String.toList).flatMap Text.capitalize := by
  simp [upperCamel, String.toList_join, List.flatMap_map, capitalized]

end Name

/-- Which words survive camel case. Splitting a name gives its words back exactly if all but the
first start with a letter, and behind each of these that is a single character stands none or one
whose second character is a letter. Where the first word has a capital as well, what holds for those
behind single characters has to hold for the second word too if the first is a single letter. -/
theorem camel_keeps_words_iff (name : Name) (small : ∀ word ∈ name.words, IsSmallWord word.toList) :
    (splitWords name.lowerCamel = name.words ↔ CamelApart (name.words.map String.toList)) ∧
    (splitWords name.upperCamel = name.words ↔ CamelApart (name.words.map String.toList) ∧
      ∀ first second, [first, second] <+: name.words.map String.toList → isInitial first = true →
        SecondIsLetter second) := by
  rw [splitWords_eq_iff, splitWords_eq_iff, name.toList_upperCamel]
  rcases split : name.words with - | ⟨first, rest⟩
  · have noText : name.lowerCamel = "" := by rw [Name.lowerCamel, split]
    have apart : CamelApart [] := ⟨by simp, .nil⟩
    rw [noText]
    exact ⟨iff_of_true rfl apart, iff_of_true rfl ⟨apart, fun _ _ front => by simp at front⟩⟩
  · rw [split, List.forall_mem_cons] at small
    obtain ⟨firstSmall, restSmall⟩ := small
    have wordsSmall : ∀ word ∈ rest.map String.toList, IsSmallWord word :=
      List.forall_mem_map.mpr restSmall
    rw [name.toList_lowerCamel split, List.map_cons, camelApart_cons_iff]
    obtain ⟨head, tail, letters⟩ := List.exists_cons_of_ne_nil firstSmall.1
    rw [letters] at firstSmall ⊢
    have headPlain := firstSmall.plain head List.mem_cons_self
    have tailSmall := (List.forall_mem_cons.mp firstSmall.not_isUpper).2
    constructor
    · have notUpper := firstSmall.not_isUpper _ (List.getLast_mem (List.cons_ne_nil _ _))
      have kept := wordsOf_capitalized_iff tailSmall firstSmall.plain wordsSmall
      rw [firstSmall.map_toLower, notUpper] at kept
      rw [List.cons_append, kept]
      constructor
      · rintro ⟨starts, -, initials⟩
        exact ⟨starts, initials⟩
      · rintro ⟨starts, initials⟩
        exact ⟨starts, Bool.noConfusion, initials⟩
    · have capitalPlain : IsPlainWord (head.toUpper :: tail) := by
        rw [← Text.capitalize_cons headPlain]
        exact firstSmall.plain.capitalize
      have lowered := map_toLower_capitalize firstSmall
      rw [Text.capitalize_cons headPlain] at lowered
      have kept := wordsOf_capitalized_iff tailSmall capitalPlain wordsSmall
      rw [lowered, isUpper_getLast_capitalized firstSmall] at kept
      rw [List.flatMap_cons, Text.capitalize_cons headPlain, List.cons_append, kept]
      constructor
      · rintro ⟨starts, goesOn, initials⟩
        refine ⟨⟨starts, initials⟩, fun front second inFront initial => ?_⟩
        obtain ⟨rfl, others, same⟩ := List.cons_prefix_cons.mp inFront
        exact goesOn initial second (by simp [← same])
      · rintro ⟨⟨starts, initials⟩, goesOn⟩
        refine ⟨starts, fun initial next isNext => ?_, initials⟩
        obtain ⟨others, same⟩ := List.head?_eq_some_iff.mp isNext
        exact goesOn (head :: tail) next (by simp [same]) initial

/-- Single letters in camel case: the one that begins the name is told apart from the next one by
its small letter only. -/
theorem camel_keeps_words_iff_letters :
    (∀ word ∈ ["a", "b", "cd", "e2"], IsSmallWord word.toList) ∧
    splitWords (Name.lowerCamel ⟨["a", "b", "cd", "e2"]⟩) = ["a", "b", "cd", "e2"] ∧
    ¬ splitWords (Name.upperCamel ⟨["a", "b", "cd", "e2"]⟩) = ["a", "b", "cd", "e2"] := by
  have small : ∀ word ∈ ["a", "b", "cd", "e2"], IsSmallWord word.toList := by
    simp [IsSmallWord]
  obtain ⟨lower, upper⟩ := camel_keeps_words_iff ⟨["a", "b", "cd", "e2"]⟩ small
  refine ⟨small, lower.mpr ⟨by decide, by decide⟩, fun kept => ?_⟩
  have second := (upper.mp kept).2 ['a'] ['b'] (by decide) (by decide)
  exact absurd second (by decide)

section Underscores

variable {raw other : String} {front : List String}

/-- Names are joined by underscores in the same way exactly if they have the same words. -/
theorem Name.lowerUnderscore_ofPieces_inj {pieces others : List String} :
    (ofPieces pieces).lowerUnderscore = (ofPieces others).lowerUnderscore ↔
      pieces.flatMap splitWords = others.flatMap splitWords := by
  constructor
  · intro same
    have split := splitWords_lowerUnderscore (@isSmallWord_of_mem_ofPieces pieces)
    rw [same, splitWords_lowerUnderscore (@isSmallWord_of_mem_ofPieces others)] at split
    exact split.symm
  · intro same
    rw [ofPieces, same, ofPieces]

/-- A name does not tell its last piece from another one with the same words. -/
theorem Name.ofPieces_concat_congr (same : splitWords raw = splitWords other) :
    ofPieces (front ++ [raw]) = ofPieces (front ++ [other]) := by
  simp [ofPieces, same]

end Underscores

/-- Joining words by underscores loses nothing. So a field of a surface that does this is called as
what it is called, and so are its class and its accessors; and two fields have one name exactly if
they have the same words. -/
theorem underscores_keep_words (raw other : String) :
    splitWords (Name.ofPieces [raw]).lowerUnderscore = splitWords raw ∧
    Surface.python.fieldName (Surface.python.fieldName raw) = Surface.python.fieldName raw ∧
    Surface.python.className (Surface.python.fieldName raw) = Surface.python.className raw ∧
    Surface.python.getterName (Surface.python.fieldName raw) = Surface.python.getterName raw ∧
    (∀ repeated, Surface.python.setterName (Surface.python.fieldName raw) repeated =
      Surface.python.setterName raw repeated) ∧
    Surface.python.adderName (Surface.python.fieldName raw) = Surface.python.adderName raw ∧
    (Surface.python.fieldName raw = Surface.python.fieldName other ↔
      splitWords raw = splitWords other) := by
  have split := Surface.splitWords_fieldName_python raw
  have kept (front : List String) : Name.ofPieces (front ++ [Surface.python.fieldName raw]) =
      Name.ofPieces (front ++ [raw]) := Name.ofPieces_concat_congr split
  refine ⟨split, ?_, ?_, ?_, fun repeated => ?_, ?_, ?_⟩
  · exact congrArg Surface.python.memberCase (kept [])
  · exact congrArg Name.upperCamel (kept [])
  · exact congrArg Surface.python.memberCase (kept ["get"])
  · exact congrArg Surface.python.memberCase (kept [_])
  · exact congrArg Surface.python.memberCase (kept ["add"])
  · have sameField : (Name.ofPieces [raw]).lowerUnderscore =
        (Name.ofPieces [other]).lowerUnderscore ↔ _ := Name.lowerUnderscore_ofPieces_inj
    rw [List.flatMap_singleton, List.flatMap_singleton] at sameField
    exact sameField

end RequestSurface
