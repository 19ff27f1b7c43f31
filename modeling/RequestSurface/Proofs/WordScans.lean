import Mathlib
import RequestSurface.Proofs.Patterns
import RequestSurface.Proofs.WordBreaks

/-!
# Blanks between words, as scans put them

The two passes that put blanks into an identifier are scans with patterns. The first one looks for
the front of an acronym: it takes as many capitals as it can, and gives the last one back, as this
is to stand before a small letter. The second one looks for a small letter or digit with a capital
behind it.
-/

namespace RequestSurface

/-- Capitals, one more of them, and the small letter behind it. -/
def acronymPattern : List Text.PatternPart :=
  [.many Char.isUpper, .one Char.isUpper, .one Char.isLower]

/-- A small letter or digit, and a capital behind it. -/
def humpPattern : List Text.PatternPart :=
  [.one fun character => character.isLower || character.isDigit, .one Char.isUpper]

/-- What becomes of a part of a text when a blank is put into every match of a pattern, behind what
the first part of the pattern took. -/
def Text.Segment.broken : Text.Segment → List Char
  | passed character => [character]
  | found taken => taken.head?.getD [] ++ ' ' :: taken.tail.flatten

/-- A text with blanks in the matches that a scan of another one finds. -/
def BreaksInto (pattern : List Text.PatternPart) (text broken : List Char) : Prop :=
  ∃ segments, Text.Scans pattern text segments ∧ segments.flatMap Text.Segment.broken = broken

section Passes

open Text

variable {text left broken other : List Char} {taken : List (List Char)}
  {pattern : List PatternPart}

/-- Blanks are put into a text in one way. -/
theorem BreaksInto.unique (breaks : BreaksInto pattern text broken)
    (otherBreaks : BreaksInto pattern text other) : broken = other := by
  obtain ⟨segments, scan, rfl⟩ := breaks
  obtain ⟨_, otherScan, rfl⟩ := otherBreaks
  rw [scan.unique otherScan]

/-- The pattern for humps matches two characters. -/
theorem mem_ways_hump_iff :
    (taken, left) ∈ ways humpPattern text ↔
      ∃ small capital, taken = [[small], [capital]] ∧
        (small.isLower || small.isDigit) = true ∧ capital.isUpper = true ∧
        text = small :: capital :: left := by
  simp only [humpPattern, mem_ways_iff, List.forall₂_cons_left_iff, List.forall₂_nil_left_iff,
    PatternPart.Admits]
  constructor
  · rintro ⟨⟨-, -, ⟨small, rfl, isSmall⟩, ⟨-, -, ⟨capital, rfl, isUpper⟩, rfl, rfl⟩, rfl⟩, rfl⟩
    exact ⟨small, capital, rfl, isSmall, isUpper, rfl⟩
  · rintro ⟨small, capital, rfl, isSmall, isUpper, rfl⟩
    exact ⟨⟨_, _, ⟨_, rfl, isSmall⟩, ⟨_, _, ⟨_, rfl, isUpper⟩, rfl, rfl⟩, rfl⟩, rfl⟩

/-- The pattern for acronyms matches capitals up to the one that a small letter follows. -/
theorem mem_ways_acronym_iff :
    (taken, left) ∈ ways acronymPattern text ↔
      ∃ capitals last small, taken = [capitals, [last], [small]] ∧ capitals ≠ [] ∧
        (∀ character ∈ capitals, character.isUpper = true) ∧ last.isUpper = true ∧
        small.isLower = true ∧ text = capitals ++ last :: small :: left := by
  simp only [acronymPattern, mem_ways_iff, List.forall₂_cons_left_iff, List.forall₂_nil_left_iff,
    PatternPart.Admits]
  constructor
  · rintro ⟨⟨capitals, -, ⟨nonempty, allUpper⟩, ⟨-, -, ⟨last, rfl, isUpper⟩,
      ⟨-, -, ⟨small, rfl, isLower⟩, rfl, rfl⟩, rfl⟩, rfl⟩, rfl⟩
    exact ⟨capitals, last, small, rfl, nonempty, allUpper, isUpper, isLower, by simp⟩
  · rintro ⟨capitals, last, small, rfl, nonempty, allUpper, isUpper, isLower, rfl⟩
    exact ⟨⟨_, _, ⟨nonempty, allUpper⟩, ⟨_, _, ⟨_, rfl, isUpper⟩, ⟨_, _, ⟨_, rfl, isLower⟩,
      rfl, rfl⟩, rfl⟩, rfl⟩, by simp⟩

/-- Only a capital before another one that a small letter follows is the front of an acronym. -/
theorem breakAcronyms_cons_of_not {head : Char} {rest : List Char}
    (goesOn : ¬ ∃ second third others, rest = second :: third :: others ∧ head.isUpper = true ∧
      second.isUpper = true ∧ third.isLower = true) :
    breakAcronyms (head :: rest) = head :: breakAcronyms rest := by
  rcases rest with - | ⟨second, - | ⟨third, others⟩⟩
  · rfl
  · rfl
  · rw [breakAcronyms, if_neg]
    intro breaks
    simp only [Bool.and_eq_true] at breaks
    exact goesOn ⟨second, third, others, rfl, breaks.1.1, breaks.1.2, breaks.2⟩

/-- What the pattern for acronyms does not match stays as it is. -/
theorem breakAcronyms_of_noWay {head : Char} {rest : List Char}
    (noWay : ways acronymPattern (head :: rest) = []) :
    breakAcronyms (head :: rest) = head :: breakAcronyms rest := by
  apply breakAcronyms_cons_of_not
  rintro ⟨second, third, others, rfl, headUpper, secondUpper, thirdLower⟩
  have isWay : ([[head], [second], [third]], others) ∈
      ways acronymPattern (head :: second :: third :: others) :=
    mem_ways_acronym_iff.mpr ⟨[head], second, third, rfl, List.cons_ne_nil _ _,
      List.forall_mem_singleton.mpr headUpper, secondUpper, thirdLower, rfl⟩
  rw [noWay] at isWay
  cases isWay

/-- A blank is put before the last of several capitals that a small letter follows. -/
theorem breakAcronyms_capitals {capitals : List Char} {last small : Char}
    (nonempty : capitals ≠ []) (allUpper : ∀ character ∈ capitals, character.isUpper = true)
    (isUpper : last.isUpper = true) (isLower : small.isLower = true) :
    breakAcronyms (capitals ++ last :: small :: left) =
      capitals ++ ' ' :: last :: small :: breakAcronyms left := by
  have notUpper : ¬ small.isUpper = true := Char.not_isUpper_of_isLower isLower
  have lastStays : breakAcronyms (last :: small :: left) = last :: small :: breakAcronyms left := by
    rw [breakAcronyms_cons_of_not, breakAcronyms_cons_of_not]
    · rintro ⟨_, _, _, -, smallUpper, -⟩
      exact notUpper smallUpper
    · rintro ⟨_, _, _, split, -, smallUpper, -⟩
      exact notUpper ((List.cons.inj split).1 ▸ smallUpper)
  induction capitals with
  | nil => exact absurd rfl nonempty
  | cons head tail inductionHypothesis =>
      obtain ⟨headUpper, tailUpper⟩ := List.forall_mem_cons.mp allUpper
      rcases tail with - | ⟨second, others⟩
      · rw [List.singleton_append, breakAcronyms, if_pos (by simp [headUpper, isUpper, isLower]),
          lastStays]
        rfl
      · have headStays : breakAcronyms (head :: (second :: others ++ last :: small :: left)) =
            head :: breakAcronyms (second :: others ++ last :: small :: left) := by
          apply breakAcronyms_cons_of_not
          -- Behind two capitals of the run stands a third one, or the last.
          rintro ⟨_, third, _, split, -, -, thirdLower⟩
          have thirdUpper : third.isUpper = true := by
            rcases others with - | ⟨next, more⟩
            · obtain ⟨-, rfl, -⟩ := by simpa using split
              exact isUpper
            · obtain ⟨-, rfl, -⟩ := by simpa using split
              exact tailUpper _ (by simp)
          exact Char.not_isLower_of_isUpper thirdUpper thirdLower
        rw [List.cons_append, headStays, inductionHypothesis (List.cons_ne_nil _ _) tailUpper]
        rfl

/-- The first pass is a scan for the fronts of acronyms. -/
theorem breaksInto_acronyms (text : List Char) :
    BreaksInto acronymPattern text (breakAcronyms text) := by
  refine exists_scans (by decide) rfl (fun head rest noWay => breakAcronyms_of_noWay noWay) ?_ text
  intro text taken left preferred
  obtain ⟨capitals, last, small, rfl, nonempty, allUpper, isUpper, isLower, rfl⟩ :=
    mem_ways_acronym_iff.mp (List.mem_of_mem_head? preferred)
  rw [breakAcronyms_capitals nonempty allUpper isUpper isLower]
  simp [Segment.broken]

/-- What the pattern for humps does not match stays as it is. -/
theorem breakHumps_of_noWay {head : Char} {rest : List Char}
    (noWay : ways humpPattern (head :: rest) = []) :
    breakHumps (head :: rest) = head :: breakHumps rest := by
  rcases rest with - | ⟨second, others⟩
  · rfl
  · rw [breakHumps, if_neg]
    intro breaks
    rw [Bool.and_eq_true] at breaks
    have isWay : ([[head], [second]], others) ∈ ways humpPattern (head :: second :: others) :=
      mem_ways_hump_iff.mpr ⟨head, second, rfl, breaks.1, breaks.2, rfl⟩
    rw [noWay] at isWay
    cases isWay

/-- A blank is put before a capital behind a small letter or digit, and none behind this capital. -/
theorem breakHumps_hump {small capital : Char} (isSmall : (small.isLower || small.isDigit) = true)
    (isUpper : capital.isUpper = true) :
    breakHumps (small :: capital :: left) = small :: ' ' :: capital :: breakHumps left := by
  have notLower := Char.not_isLower_of_isUpper isUpper
  have capitalStays : breakHumps (capital :: left) = capital :: breakHumps left := by
    cases left with
    | nil => rfl
    | cons next others =>
        rw [breakHumps]
        simp [notLower, not_isDigit_of_isUpper isUpper]
  rw [breakHumps, if_pos (by rw [isSmall, isUpper]; rfl), capitalStays]

/-- The second pass is a scan for capitals behind small letters and digits. -/
theorem breaksInto_humps (text : List Char) : BreaksInto humpPattern text (breakHumps text) := by
  refine exists_scans (by decide) rfl (fun head rest noWay => breakHumps_of_noWay noWay) ?_ text
  intro text taken left preferred
  obtain ⟨small, capital, rfl, isSmall, isUpper, rfl⟩ :=
    mem_ways_hump_iff.mp (List.mem_of_mem_head? preferred)
  exact breakHumps_hump isSmall isUpper

end Passes

end RequestSurface
