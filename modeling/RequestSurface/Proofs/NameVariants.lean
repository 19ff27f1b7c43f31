import Mathlib
import RequestSurface.Proofs.SymbolTable

/-!
# Variants of a candidate

A symbol table gives to a candidate one of its variants: the candidate itself or the candidate with
a number behind it. What is given depends on the taken variants only, so candidates without common
variants do not get in each other's way. Two candidates can have a common variant only if one of
them is the other one with digits behind it.
-/

namespace RequestSurface

/-- A text ends in a digit. -/
def EndsInDigit (text : String) : Prop :=
  text.toList.getLast?.any Char.isDigit = true

instance (text : String) : Decidable (EndsInDigit text) :=
  inferInstanceAs (Decidable (_ = true))

/-- A text is another one with at least one digit behind it. -/
def AddsDigits (candidate other : String) : Prop :=
  ∃ digits, digits ≠ [] ∧ (∀ character ∈ digits, character.isDigit = true) ∧
    other.toList = candidate.toList ++ digits

/-- What has digits behind it ends in a digit. -/
theorem AddsDigits.endsInDigit {candidate other : String} (adds : AddsDigits candidate other) :
    EndsInDigit other := by
  obtain ⟨digits, nonempty, allDigits, whole⟩ := adds
  rw [EndsInDigit, whole, List.getLast?_append, List.getLast?_eq_some_getLast nonempty,
    Option.some_or, Option.any_some]
  exact allDigits _ (List.getLast_mem nonempty)

/-- What stands behind a numbered name is a row of digits. -/
theorem toList_numbered (candidate : String) (number : Nat) :
    (numbered candidate number).toList = candidate.toList ++ Nat.toDigits 10 number := by
  rw [numbered, String.toList_append, Nat.toList_repr]

/-- A numbered name is the candidate with digits behind it. -/
theorem addsDigits_numbered (candidate : String) (number : Nat) :
    AddsDigits candidate (numbered candidate number) :=
  ⟨Nat.toDigits 10 number, Nat.toDigits_ne_nil,
    fun _ member => Nat.isDigit_of_mem_toDigits (by omega) (by omega) member,
    toList_numbered candidate number⟩

/-- A numbered name ends in a digit. -/
theorem endsInDigit_numbered (candidate : String) (number : Nat) :
    EndsInDigit (numbered candidate number) :=
  (addsDigits_numbered candidate number).endsInDigit

/-- What a symbol table may give to a candidate. -/
def IsVariantOf (candidate name : String) : Prop :=
  name = candidate ∨ ∃ number, 2 ≤ number ∧ name = numbered candidate number

/-- Two candidates are apart when they are different and neither is the other one with digits behind
it. -/
structure CandidatesApart (candidate other : String) : Prop where
  differ : candidate ≠ other
  notLonger : ¬ AddsDigits candidate other
  notShorter : ¬ AddsDigits other candidate

section

variable {candidate other name : String}

/-- Being apart does not depend on the order of the candidates. -/
theorem CandidatesApart.symm (apart : CandidatesApart candidate other) :
    CandidatesApart other candidate :=
  ⟨apart.differ.symm, apart.notShorter, apart.notLonger⟩

/-- Different candidates that do not end in a digit are apart. -/
theorem apart_of_not_endsInDigit (differ : candidate ≠ other) (plain : ¬ EndsInDigit candidate)
    (otherPlain : ¬ EndsInDigit other) : CandidatesApart candidate other :=
  ⟨differ, fun adds => otherPlain adds.endsInDigit, fun adds => plain adds.endsInDigit⟩

/-- If one text with digits behind it is another one with digits behind it, the two are the same or
one of them is the other one with digits behind it. -/
theorem AddsDigits.cases (adds : AddsDigits candidate name) (otherAdds : AddsDigits other name) :
    candidate = other ∨ AddsDigits candidate other ∨ AddsDigits other candidate := by
  obtain ⟨digits, -, allDigits, whole⟩ := adds
  obtain ⟨otherDigits, -, allOtherDigits, otherWhole⟩ := otherAdds
  rcases List.append_eq_append_iff.mp (whole.symm.trans otherWhole) with
    ⟨between, isOther, isDigits⟩ | ⟨between, isCandidate, isOtherDigits⟩
  · by_cases empty : between = []
    · exact .inl (String.toList_injective (by simp [isOther, empty]))
    · exact .inr (.inl ⟨between, empty, fun character member =>
        allDigits character (by simp [isDigits, member]), isOther⟩)
  · by_cases empty : between = []
    · exact .inl (String.toList_injective (by simp [isCandidate, empty]))
    · exact .inr (.inr ⟨between, empty, fun character member =>
        allOtherDigits character (by simp [isOtherDigits, member]), isCandidate⟩)

/-- Candidates that are apart have no common variant. -/
theorem CandidatesApart.not_isVariantOf (apart : CandidatesApart candidate other)
    (variant : IsVariantOf candidate name) : ¬ IsVariantOf other name := by
  rcases variant with rfl | ⟨number, -, rfl⟩
  · rintro (same | ⟨otherNumber, -, same⟩)
    · exact apart.differ same
    · exact apart.notShorter (same ▸ addsDigits_numbered other otherNumber)
  · have adds := addsDigits_numbered candidate number
    rintro (same | ⟨otherNumber, -, same⟩)
    · exact apart.notLonger (same ▸ adds)
    · have otherAdds : AddsDigits other (numbered candidate number) :=
        same ▸ addsDigits_numbered other otherNumber
      rcases adds.cases otherAdds with equal | longer | shorter
      · exact apart.differ equal
      · exact apart.notLonger longer
      · exact apart.notShorter shorter

end

namespace SymbolTable

variable {table other : SymbolTable} {candidate : String}

/-- What a table gives to a candidate depends on the variants that are taken, not on any other
name. -/
theorem freeName_congr (same : ∀ name, IsVariantOf candidate name →
      (name ∈ table.taken ↔ name ∈ other.taken)) :
    table.freeName candidate = other.freeName candidate := by
  have sameCandidate := same candidate (.inl rfl)
  by_cases isTaken : candidate ∈ table.taken
  · obtain ⟨number, lower, named, isFree, takenBefore⟩ := freeName_of_taken isTaken
    obtain ⟨otherNumber, otherLower, otherNamed, otherFree, otherTakenBefore⟩ :=
      freeName_of_taken (sameCandidate.mp isTaken)
    -- Each of the two numbers is free in both tables, so neither is below the other.
    have notBelow : ¬ number < otherNumber := fun below =>
      isFree ((same _ (.inr ⟨number, lower, rfl⟩)).mpr (otherTakenBefore number lower below))
    have notAbove : ¬ otherNumber < number := fun above =>
      otherFree ((same _ (.inr ⟨otherNumber, otherLower, rfl⟩)).mp
        (takenBefore otherNumber otherLower above))
    rw [named, otherNamed, Nat.le_antisymm (not_lt.mp notAbove) (not_lt.mp notBelow)]
  · rw [freeName_of_free isTaken, freeName_of_free fun taken => isTaken (sameCandidate.mpr taken)]

/-- A call for one candidate does not change what a candidate gets that is apart from it. -/
theorem freeName_allocate {later : String} (apart : CandidatesApart candidate later) :
    (table.allocate candidate).2.freeName later = table.freeName later := by
  refine freeName_congr fun name variant => ?_
  rw [mem_taken_allocate]
  refine or_iff_right fun isGiven => ?_
  subst isGiven
  exact apart.not_isVariantOf (table.freeName_eq_or_numbered candidate) variant

end SymbolTable

end RequestSurface
