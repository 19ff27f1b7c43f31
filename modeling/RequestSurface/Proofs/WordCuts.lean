import Mathlib
import RequestSurface.Proofs.WordScans

/-!
# Splitting in two passes and in one

What is split after two passes over an identifier, the second of which sees the blanks of the first,
is what one look at each character and its neighbours says: the words are the runs of letters and
digits, cut before every character that a word begins with.
-/

namespace RequestSurface

/-- The runs of letters and digits of a text, in order. Separators stand in front of each of them,
or the front of the text, and behind it no further letter or digit. -/
inductive RunsOf : List Char → List (List Char) → Prop where
  | done {gap : List Char} (separated : ∀ character ∈ gap, separatesWords character = true) :
      RunsOf gap []
  | run {gap run rest : List Char} {runs : List (List Char)}
      (separated : ∀ character ∈ gap, separatesWords character = true) (nonempty : run ≠ [])
      (plain : IsPlainWord run)
      (maximal : ∀ character ∈ rest.head?, separatesWords character = true)
      (onward : RunsOf rest runs) : RunsOf (gap ++ run ++ rest) (run :: runs)

/-- A row of words is cut behind a part of what it makes up. -/
def CutBehind (words : List (List Char)) (taken : List Char) : Prop :=
  ∃ earlier later, words = earlier ++ later ∧ earlier.flatten = taken

/-- Words that a run is cut into: it is cut immediately before those characters that a word begins
with, given their neighbours, and nowhere else. -/
structure CutsInto (run : List Char) (words : List (List Char)) : Prop where
  whole : words.flatten = run
  nonempty : ∀ word ∈ words, word ≠ []
  cuts : ∀ front before character back, run = front ++ before :: character :: back →
    (CutBehind words (front ++ [before]) ↔ beginsWord before character back.head? = true)

/-- The words of a text by two passes: blanks are put behind the fronts of acronyms, then, in what
came out, behind small letters and digits, and the words are the runs of what came out, in small
letters. -/
def SplitsInTwoPasses (text : List Char) (words : List (List Char)) : Prop :=
  ∃ acronyms humps runs, BreaksInto acronymPattern (Text.removeAccents text) acronyms ∧
    BreaksInto humpPattern acronyms humps ∧ RunsOf humps runs ∧
    words = runs.map (·.map Char.toLower)

/-- The words of a text by one pass: what its runs are cut into, in small letters. -/
def SplitsInOnePass (text : List Char) (words : List (List Char)) : Prop :=
  ∃ runs cuts, RunsOf (Text.removeAccents text) runs ∧ List.Forall₂ CutsInto runs cuts ∧
    words = cuts.flatten.map (·.map Char.toLower)

section Runs

variable {text tail gap run rest : List Char} {runs : List (List Char)} {head : Char}

/-- The pieces of a text between separators, without empty ones. -/
def keptPieces (text : List Char) : List (List Char) :=
  (Text.piecesBy separatesWords text).filter (!·.isEmpty)

theorem keptPieces_gap (separated : ∀ character ∈ gap, separatesWords character = true)
    (text : List Char) :
    keptPieces (gap ++ text) = keptPieces text := by
  induction gap with
  | nil => rfl
  | cons head tail inductionHypothesis =>
      obtain ⟨isSeparator, tailSeparated⟩ := List.forall_mem_cons.mp separated
      rw [← inductionHypothesis tailSeparated, List.cons_append, keptPieces,
        Text.piecesBy_cons_of_separates isSeparator, List.filter_cons_of_neg (by simp)]
      rfl

theorem keptPieces_run (nonempty : run ≠ []) (plain : IsPlainWord run)
    (maximal : ∀ character ∈ rest.head?, separatesWords character = true) :
    keptPieces (run ++ rest) = run :: keptPieces rest := by
  have noSeparator : ∀ character ∈ run, separatesWords character = false :=
    fun character member => by simp [separatesWords, plain character member]
  cases rest with
  | nil =>
      rw [List.append_nil, keptPieces, Text.piecesBy_of_plain noSeparator]
      simp [nonempty, keptPieces, Text.piecesBy]
  | cons separator others =>
      have isSeparator : separatesWords separator = true := maximal separator rfl
      rw [keptPieces, Text.piecesBy_append_cons isSeparator, Text.piecesBy_of_plain noSeparator,
        keptPieces, Text.piecesBy_cons_of_separates isSeparator]
      simp [nonempty]

/-- The runs of a text are its pieces. -/
theorem RunsOf.eq_keptPieces (areRuns : RunsOf text runs) : runs = keptPieces text := by
  induction areRuns with
  | @done gap separated =>
      have noPiece := keptPieces_gap separated []
      rw [List.append_nil] at noPiece
      rw [noPiece]
      rfl
  | run separated nonempty plain maximal _ inductionHypothesis =>
      rw [List.append_assoc, keptPieces_gap separated, keptPieces_run nonempty plain maximal,
        inductionHypothesis]

/-- A separator in front of a text belongs to no run. -/
theorem RunsOf.cons_separator (isSeparator : separatesWords head = true)
    (areRuns : RunsOf tail runs) : RunsOf (head :: tail) runs := by
  cases areRuns with
  | done separated => exact .done (List.forall_mem_cons.mpr ⟨isSeparator, separated⟩)
  | @run gap run rest _ separated nonempty plain maximal onward =>
      change RunsOf (head :: gap ++ run ++ rest) _
      exact .run (List.forall_mem_cons.mpr ⟨isSeparator, separated⟩) nonempty plain maximal onward

/-- A letter or digit in front of a text is a run of its own, or it belongs to the first one. -/
theorem RunsOf.exists_cons_plain (isPlain : head.isAlphanum = true) (areRuns : RunsOf tail runs) :
    ∃ runs, RunsOf (head :: tail) runs := by
  have alone : IsPlainWord [head] := List.forall_mem_singleton.mpr isPlain
  have noGap : ∀ character ∈ ([] : List Char), separatesWords character = true := by simp
  cases areRuns with
  | done separated =>
      refine ⟨[[head]], ?_⟩
      change RunsOf ([] ++ [head] ++ tail) _
      exact .run noGap (List.cons_ne_nil _ _) alone
        (fun character isFirst => separated character (List.mem_of_mem_head? isFirst))
        (.done separated)
  | @run gap run rest others separated nonempty plain maximal onward =>
      cases gap with
      | nil =>
          refine ⟨(head :: run) :: others, ?_⟩
          change RunsOf ([] ++ (head :: run) ++ rest) _
          exact .run noGap (List.cons_ne_nil _ _) (List.forall_mem_cons.mpr ⟨isPlain, plain⟩)
            maximal onward
      | cons separator gap =>
          refine ⟨[head] :: run :: others, ?_⟩
          change RunsOf ([] ++ [head] ++ (separator :: gap ++ run ++ rest)) _
          refine .run noGap (List.cons_ne_nil _ _) alone (fun character isFirst => ?_)
            (.run separated nonempty plain maximal onward)
          obtain rfl : separator = character := by simpa using isFirst
          exact separated separator List.mem_cons_self

/-- Every text has runs. -/
theorem exists_runsOf (text : List Char) : ∃ runs, RunsOf text runs := by
  induction text with
  | nil => exact ⟨[], .done (by simp)⟩
  | cons head tail inductionHypothesis =>
      obtain ⟨runs, areRuns⟩ := inductionHypothesis
      cases isPlain : head.isAlphanum with
      | true => exact areRuns.exists_cons_plain isPlain
      | false => exact ⟨runs, areRuns.cons_separator (by simp [separatesWords, isPlain])⟩

theorem runsOf_iff : RunsOf text runs ↔ runs = keptPieces text := by
  constructor
  · exact RunsOf.eq_keptPieces
  · rintro rfl
    obtain ⟨runs, areRuns⟩ := exists_runsOf text
    rwa [← areRuns.eq_keptPieces]

end Runs

section Cuts

variable {first taken rest text : List Char} {words others : List (List Char)}
  {before character : Char}

/-- Words are cut in front of all, or behind the first one and some of the others. -/
theorem cutBehind_cons_iff :
    CutBehind (first :: others) taken ↔
      taken = [] ∨ ∃ more, taken = first ++ more ∧ CutBehind others more := by
  constructor
  · rintro ⟨earlier, later, split, rfl⟩
    cases earlier with
    | nil => exact .inl rfl
    | cons head earlier =>
        obtain ⟨rfl, rfl⟩ := List.cons.inj split
        exact .inr ⟨earlier.flatten, rfl, earlier, later, rfl, rfl⟩
  · rintro (rfl | ⟨-, rfl, earlier, later, rfl, rfl⟩)
    · exact ⟨[], first :: others, rfl, rfl⟩
    · exact ⟨first :: earlier, later, rfl, rfl⟩

/-- Behind a first word of one character, words are cut as the others are. -/
theorem cutBehind_alone_iff :
    CutBehind ([before] :: others) (before :: taken) ↔ CutBehind others taken := by
  rw [cutBehind_cons_iff]
  constructor
  · rintro (isEmpty | ⟨more, split, isCut⟩)
    · cases isEmpty
    · obtain rfl : taken = more := by simpa using split
      exact isCut
  · exact fun isCut => .inr ⟨taken, rfl, isCut⟩

/-- A further character of the first word moves the cuts behind it. -/
theorem cutBehind_longer_iff (nonempty : taken ≠ []) :
    CutBehind ((before :: first) :: others) (before :: taken) ↔
      CutBehind (first :: others) taken := by
  rw [cutBehind_cons_iff, cutBehind_cons_iff]
  simp [nonempty]

/-- Cutting a run from its front to its end cuts it where words begin. -/
theorem cutBehind_cutWords_iff {run front back : List Char}
    (split : run = front ++ before :: character :: back) :
    CutBehind (cutWords run) (front ++ [before]) ↔
      beginsWord before character back.head? = true := by
  subst split
  induction front with
  | nil =>
      rw [List.nil_append, List.nil_append, cutWords]
      split
      · rename_i begins
        exact iff_of_true (cutBehind_alone_iff.mpr ⟨[], _, rfl, rfl⟩) begins
      · rename_i goesOn
        obtain ⟨word, others, cut⟩ := exists_cutWords_cons character back
        rw [cut, List.modifyHead_cons, cutBehind_cons_iff]
        exact iff_of_false (by simp) goesOn
  | cons head front inductionHypothesis =>
      obtain ⟨second, rest, behind⟩ : ∃ second rest,
          front ++ before :: character :: back = second :: rest :=
        List.exists_cons_of_ne_nil (by simp)
      rw [← inductionHypothesis, List.cons_append, List.cons_append, behind, cutWords]
      split
      · exact cutBehind_alone_iff
      · obtain ⟨word, others, cut⟩ := exists_cutWords_cons second rest
        rw [cut, List.modifyHead_cons]
        exact cutBehind_longer_iff (by simp)

/-- A run is cut into its words. -/
theorem cutsInto_cutWords (run : List Char) : CutsInto run (cutWords run) where
  whole := flatten_cutWords run
  nonempty := fun _ isWord => ne_nil_of_mem_cutWords isWord
  cuts := fun _ _ _ _ => cutBehind_cutWords_iff

/-- A run is cut in one way. -/
theorem CutsInto.eq_cutWords {run : List Char} (isCut : CutsInto run words) :
    words = cutWords run := by
  have noWords {words : List (List Char)} (whole : words.flatten = [])
      (nonempty : ∀ word ∈ words, word ≠ []) : words = [] :=
    List.eq_nil_iff_forall_not_mem.mpr fun word isWord =>
      nonempty word isWord (List.flatten_eq_nil_iff.mp whole word isWord)
  induction run generalizing words with
  | nil => exact noWords isCut.whole isCut.nonempty
  | cons before tail inductionHypothesis =>
      obtain ⟨whole, nonempty, cuts⟩ := isCut
      rcases words with - | ⟨first, others⟩
      · cases whole
      obtain ⟨firstNonempty, othersNonempty⟩ := List.forall_mem_cons.mp nonempty
      obtain ⟨head, word, rfl⟩ := List.exists_cons_of_ne_nil firstNonempty
      obtain ⟨rfl, behind⟩ := List.cons.inj whole
      rcases tail with - | ⟨character, rest⟩
      · obtain ⟨rfl, noOthers⟩ := List.append_eq_nil_iff.mp behind
        rw [noWords noOthers othersNonempty]
        rfl
      · have atFront := cuts [] head character rest rfl
        rw [cutWords]
        split
        · rename_i begins
          -- The first word ends behind its first character.
          obtain rfl : word = [] := by
            rcases cutBehind_cons_iff.mp (atFront.mpr begins) with isEmpty | ⟨more, split, -⟩
            · cases isEmpty
            · exact (List.append_eq_nil_iff.mp (List.cons.inj split).2.symm).1
          have isRest : CutsInto (character :: rest) others := by
            refine ⟨behind, othersNonempty, fun front next after back split => ?_⟩
            exact cutBehind_alone_iff.symm.trans
              (cuts (head :: front) next after back (by simp [split]))
          rw [← inductionHypothesis isRest]
        · rename_i goesOn
          have longer : word ≠ [] := by
            rintro rfl
            exact goesOn (atFront.mp (cutBehind_alone_iff.mpr ⟨[], others, rfl, rfl⟩))
          have isRest : CutsInto (character :: rest) (word :: others) := by
            refine ⟨behind, List.forall_mem_cons.mpr ⟨longer, othersNonempty⟩, ?_⟩
            intro front next after back split
            exact (cutBehind_longer_iff (by simp)).symm.trans
              (cuts (head :: front) next after back (by simp [split]))
          rw [← inductionHypothesis isRest]
          rfl

end Cuts

section Splitting

variable {text : List Char} {words : List (List Char)}

/-- Two passes give the words of a text, and nothing else. -/
theorem splitsInTwoPasses_iff : SplitsInTwoPasses text words ↔ words = wordsOf text := by
  constructor
  · rintro ⟨acronyms, humps, runs, acronymBreaks, humpBreaks, areRuns, rfl⟩
    obtain rfl := acronymBreaks.unique (breaksInto_acronyms _)
    obtain rfl := humpBreaks.unique (breaksInto_humps _)
    rw [areRuns.eq_keptPieces]
    rfl
  · rintro rfl
    exact ⟨_, _, _, breaksInto_acronyms _, breaksInto_humps _, runsOf_iff.mpr rfl, rfl⟩

/-- One pass gives the words of a text, and nothing else. -/
theorem splitsInOnePass_iff : SplitsInOnePass text words ↔ words = wordsOf text := by
  have pieces : (Text.piecesBy separatesWords (Text.removeAccents text)).flatMap cutWords =
      ((keptPieces (Text.removeAccents text)).map cutWords).flatten := by
    rw [keptPieces, ← List.flatMap_def]
    induction Text.piecesBy separatesWords (Text.removeAccents text) with
    | nil => rfl
    | cons piece others inductionHypothesis =>
        cases piece with
        | nil => simpa [cutWords] using inductionHypothesis
        | cons head tail => simpa using inductionHypothesis
  rw [wordsOf_eq, pieces]
  constructor
  · rintro ⟨runs, cuts, areRuns, areCuts, rfl⟩
    have sameCuts : runs.map cutWords = cuts := by
      rw [← List.forall₂_eq_eq_eq, List.forall₂_map_left_iff]
      exact areCuts.imp fun _ _ isCut => isCut.eq_cutWords.symm
    rw [← sameCuts, areRuns.eq_keptPieces]
  · rintro rfl
    refine ⟨_, _, runsOf_iff.mpr rfl, ?_, rfl⟩
    rw [List.forall₂_map_right_iff, List.forall₂_same]
    exact fun run _ => cutsInto_cutWords run

/-- Run together, the words of a text are its letters and digits in small letters. -/
theorem flatten_wordsOf (text : List Char) :
    (wordsOf text).flatten =
      ((Text.removeAccents text).filter Char.isAlphanum).map Char.toLower := by
  have cutPieces (pieces : List (List Char)) :
      (pieces.flatMap cutWords).flatten = pieces.flatten := by
    induction pieces with
    | nil => rfl
    | cons piece others inductionHypothesis =>
        rw [List.flatMap_cons, List.flatten_append, inductionHypothesis,
          flatten_cutWords, List.flatten_cons]
  have kept (text : List Char) :
      (Text.piecesBy separatesWords text).flatten = text.filter Char.isAlphanum := by
    induction text with
    | nil => rfl
    | cons head tail inductionHypothesis =>
        cases isPlain : head.isAlphanum with
        | true =>
            have noSeparator : separatesWords head = false := by simp [separatesWords, isPlain]
            obtain ⟨piece, pieces, cut⟩ := Text.exists_piecesBy_eq_cons separatesWords tail
            rw [Text.piecesBy_cons_of_plain noSeparator, List.filter_cons_of_pos isPlain,
              ← inductionHypothesis, cut]
            rfl
        | false =>
            have isSeparator : separatesWords head = true := by simp [separatesWords, isPlain]
            rw [Text.piecesBy_cons_of_separates isSeparator,
              List.filter_cons_of_neg (by simp [isPlain]), ← inductionHypothesis]
            rfl
  rw [wordsOf_eq, ← List.map_flatten, cutPieces, kept]

end Splitting

/-- The words that an identifier is split into are those that one look at each of its characters and
their neighbours gives, and those that two scans with patterns give, one over what the other leaves.
They consist of small letters and digits, at least one each, and run together they are the letters
and digits of the identifier in small letters. -/
theorem splitWords_in_one_pass (text : String) :
    (∀ words, [splitWords text = words,
      SplitsInTwoPasses text.toList (words.map String.toList),
      SplitsInOnePass text.toList (words.map String.toList)].TFAE) ∧
    (∀ word ∈ splitWords text, IsSmallWord word.toList) ∧
    String.join (splitWords text) = String.ofList
      (((Text.removeAccents text.toList).filter Char.isAlphanum).map Char.toLower) := by
  refine ⟨fun words => ?_, ?_, ?_⟩
  · have sameWords : splitWords text = words ↔ words.map String.toList = wordsOf text.toList :=
      splitWords_eq_iff.trans eq_comm
    tfae_have 1 ↔ 2 := by rw [sameWords, splitsInTwoPasses_iff]
    tfae_have 1 ↔ 3 := by rw [sameWords, splitsInOnePass_iff]
    tfae_finish
  · intro word isWord
    obtain ⟨letters, isLetters, rfl⟩ := List.mem_map.mp isWord
    rw [String.toList_ofList]
    exact isSmallWord_of_mem_wordsOf isLetters
  · apply String.toList_injective
    rw [← flatten_wordsOf, splitWords, String.toList_join, String.toList_ofList, List.flatMap_map]
    simp [List.flatMap_id']

end RequestSurface
