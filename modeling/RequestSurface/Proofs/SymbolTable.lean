import Mathlib
import RequestSurface.Message.Request

/-!
# Names handed out by a symbol table

A table with `count` taken names finds a free number among `count` of them, because a candidate that
needs a number is one of the taken names itself and the numbered names are all different. What is
handed out is therefore never reserved and never handed out twice, and it is the candidate or the
candidate with the least number that makes it free.
-/

namespace RequestSurface

/-- The number can be read off a numbered name. -/
theorem numbered_injective (candidate : String) : Function.Injective (numbered candidate) := by
  intro number other same
  exact Nat.repr_injective ((String.append_right_inj candidate).mp same)

/-- A number always changes a name. -/
theorem numbered_ne_self (candidate : String) (number : Nat) :
    numbered candidate number ≠ candidate := by
  intro same
  have unchanged : candidate ++ Nat.repr number = candidate ++ "" := by
    rw [String.append_empty]
    exact same
  exact Nat.repr_ne_empty ((String.append_right_inj candidate).mp unchanged)

/-- A candidate and its numbered names are all different. -/
theorem nodup_cons_map_numbered (candidate : String) (count : Nat) :
    (candidate :: (List.range' 2 count).map (numbered candidate)).Nodup := by
  have numbers : (List.range' 2 count).Nodup := List.nodup_range'
  refine List.nodup_cons.mpr ⟨?_, numbers.map (numbered_injective candidate)⟩
  intro member
  obtain ⟨number, -, same⟩ := List.mem_map.mp member
  exact numbered_ne_self candidate number same

namespace SymbolTable

variable {table : SymbolTable} {candidate : String}

/-- A taken candidate has a free number among as many numbers as there are taken names. -/
theorem exists_free_number (isTaken : candidate ∈ table.taken) :
    ∃ number ∈ List.range' 2 table.taken.length, numbered candidate number ∉ table.taken := by
  by_contra noneFree
  push Not at noneFree
  let names := candidate :: (List.range' 2 table.taken.length).map (numbered candidate)
  have distinct : names.Nodup := nodup_cons_map_numbered candidate _
  have allTaken : names ⊆ table.taken := by
    intro name member
    rcases List.mem_cons.mp member with rfl | isNumbered
    · exact isTaken
    · obtain ⟨number, inRange, rfl⟩ := List.mem_map.mp isNumbered
      exact noneFree number inRange
  have bound := distinct.length_le_of_subset allTaken
  simp [names] at bound

/-- A free candidate keeps its name. -/
theorem freeName_of_free (isFree : candidate ∉ table.taken) :
    table.freeName candidate = candidate := by
  simp [freeName, isFree]

/-- A taken candidate gets the least number from two upwards that makes it free. -/
theorem freeName_of_taken (isTaken : candidate ∈ table.taken) :
    ∃ number, 2 ≤ number ∧ table.freeName candidate = numbered candidate number ∧
      numbered candidate number ∉ table.taken ∧
      ∀ smaller, 2 ≤ smaller → smaller < number → numbered candidate smaller ∈ table.taken := by
  obtain ⟨witness, inRange, isFree⟩ := exists_free_number isTaken
  cases found : (List.range' 2 table.taken.length).find?
      fun number => numbered candidate number ∉ table.taken with
  | none =>
      have missed := List.find?_eq_none.mp found witness inRange
      exact absurd isFree (by simpa using missed)
  | some number =>
      obtain ⟨free, inRange, least⟩ := List.find?_range'_eq_some.mp found
      have atLeastTwo : 2 ≤ number := (List.mem_range'_1.mp inRange).1
      refine ⟨number, atLeastTwo, ?_, by simpa using free, ?_⟩
      · simp only [freeName, isTaken, ↓reduceIte, found, Option.getD_some]
      · intro smaller lower upper
        simpa using least smaller lower upper

/-- What is handed out was not taken. -/
theorem freeName_not_mem_taken (table : SymbolTable) (candidate : String) :
    table.freeName candidate ∉ table.taken := by
  by_cases isTaken : candidate ∈ table.taken
  · obtain ⟨number, -, same, isFree, -⟩ := freeName_of_taken isTaken
    rw [same]
    exact isFree
  · rw [freeName_of_free isTaken]
    exact isTaken

/-- What is handed out is the candidate, with a number of at least two behind it or without one. -/
theorem freeName_eq_or_numbered (table : SymbolTable) (candidate : String) :
    table.freeName candidate = candidate ∨
      ∃ number, 2 ≤ number ∧ table.freeName candidate = numbered candidate number := by
  by_cases isTaken : candidate ∈ table.taken
  · obtain ⟨number, atLeastTwo, same, -, -⟩ := freeName_of_taken isTaken
    exact .inr ⟨number, atLeastTwo, same⟩
  · exact .inl (freeName_of_free isTaken)

/-- Handing out a name takes that name and no other. -/
theorem mem_taken_allocate {name : String} :
    name ∈ (table.allocate candidate).2.taken ↔
      name = (table.allocate candidate).1 ∨ name ∈ table.taken := by
  simp only [allocate, taken, List.mem_append, List.mem_cons]
  tauto

/-- As many names are handed out as there are candidates. -/
@[simp] theorem length_allocateAll (table : SymbolTable) (candidates : List String) :
    (table.allocateAll candidates).1.length = candidates.length := by
  induction candidates generalizing table with
  | nil => rfl
  | cons candidate rest inductionHypothesis => simp [allocateAll, inductionHypothesis]

/-- None of the names handed out one after the other was taken before. -/
theorem not_mem_taken_of_mem_allocateAll {candidates : List String} {name : String}
    (member : name ∈ (table.allocateAll candidates).1) : name ∉ table.taken := by
  induction candidates generalizing table with
  | nil => simp [allocateAll] at member
  | cons candidate rest inductionHypothesis =>
      rcases List.mem_cons.mp member with rfl | later
      · exact freeName_not_mem_taken table candidate
      · intro isTaken
        exact inductionHypothesis later (mem_taken_allocate.mpr (.inr isTaken))

/-- The names handed out one after the other are all different. -/
theorem nodup_allocateAll (table : SymbolTable) (candidates : List String) :
    (table.allocateAll candidates).1.Nodup := by
  induction candidates generalizing table with
  | nil => exact List.nodup_nil
  | cons candidate rest inductionHypothesis =>
      refine List.nodup_cons.mpr ⟨?_, inductionHypothesis _⟩
      intro member
      exact not_mem_taken_of_mem_allocateAll member (mem_taken_allocate.mpr (.inl rfl))

end SymbolTable

end RequestSurface
