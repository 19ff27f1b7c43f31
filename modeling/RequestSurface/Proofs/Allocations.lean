import Mathlib
import RequestSurface.Proofs.SymbolTable

/-!
# Calls on a symbol table

`SymbolTable.Search` is the search for a free name as it goes, attempt by attempt, without a limit.
The names that it tries are all different and all but the last one are taken, so it ends after at
most as many attempts as there are taken names. `SymbolTable.Gives` says what one call gives, and
`SymbolTable.Run` follows a table through any number of calls.
-/

namespace RequestSurface

namespace SymbolTable

/-- The search of a table for a name that is free, from some name on. A name that is taken is left
for the candidate with the next number; the search says after how many attempts it ends, and
where. -/
inductive Search (table : SymbolTable) (candidate : String) :
    String → Nat → Nat → String → Prop where
  | free {name : String} {next : Nat} (isFree : name ∉ table.taken) :
      Search table candidate name next 0 name
  | attempt {name result : String} {next attempts : Nat} (isTaken : name ∈ table.taken)
      (onwards : Search table candidate (numbered candidate next) (next + 1) attempts result) :
      Search table candidate name next (attempts + 1) result

variable {table last : SymbolTable} {candidate name : String} {candidates names : List String}

/-- A search ends in one way only. -/
theorem Search.unique {result other : String} {next attempts count : Nat}
    (search : table.Search candidate name next attempts result)
    (otherSearch : table.Search candidate name next count other) :
    count = attempts ∧ other = result := by
  induction search generalizing count with
  | free isFree =>
      cases otherSearch with
      | free _ => exact ⟨rfl, rfl⟩
      | attempt isTaken _ => exact absurd isTaken isFree
  | attempt isTaken _ inductionHypothesis =>
      cases otherSearch with
      | free isFree => exact absurd isTaken isFree
      | attempt _ onwards =>
          obtain ⟨sameCount, sameResult⟩ := inductionHypothesis onwards
          exact ⟨congrArg (· + 1) sameCount, sameResult⟩

/-- A search goes through the numbers that are taken and ends at the first one that is free. -/
theorem search_numbered {first attempts : Nat}
    (isFree : numbered candidate (first + attempts) ∉ table.taken)
    (takenBefore : ∀ smaller, first ≤ smaller → smaller < first + attempts →
      numbered candidate smaller ∈ table.taken) :
    table.Search candidate (numbered candidate first) (first + 1) attempts
      (numbered candidate (first + attempts)) := by
  induction attempts generalizing first with
  | zero => exact .free isFree
  | succ attempts inductionHypothesis =>
      have shifted : first + 1 + attempts = first + (attempts + 1) := by omega
      rw [← shifted] at isFree ⊢
      refine .attempt (takenBefore first (by omega) (by omega)) (inductionHypothesis isFree ?_)
      exact fun smaller lower upper => takenBefore smaller (by omega) (by omega)

/-- Numbers that are all taken, and with them the candidate, are not more than the taken names. -/
theorem le_card_taken {count : Nat} (isTaken : candidate ∈ table.taken)
    (allTaken : ∀ number, 2 ≤ number → number < 2 + count →
      numbered candidate number ∈ table.taken) :
    count + 1 ≤ table.reserved.toFinset.card + table.size := by
  let tried := candidate :: (List.range' 2 count).map (numbered candidate)
  have distinct : tried.Nodup := nodup_cons_map_numbered candidate count
  have inside : tried.toFinset ⊆ table.reserved.toFinset ∪ table.allocated.toFinset := by
    rw [← List.toFinset_append]
    intro name member
    rcases List.mem_cons.mp (List.mem_toFinset.mp member) with rfl | isNumbered
    · exact List.mem_toFinset.mpr isTaken
    · obtain ⟨number, inRange, rfl⟩ := List.mem_map.mp isNumbered
      obtain ⟨lower, upper⟩ := List.mem_range'_1.mp inRange
      exact List.mem_toFinset.mpr (allTaken number lower upper)
  calc count + 1
      = tried.toFinset.card := by
        rw [List.toFinset_card_of_nodup distinct]
        simp [tried]
    _ ≤ (table.reserved.toFinset ∪ table.allocated.toFinset).card := Finset.card_le_card inside
    _ ≤ table.reserved.toFinset.card + table.allocated.toFinset.card := Finset.card_union_le _ _
    _ ≤ table.reserved.toFinset.card + table.size :=
        Nat.add_le_add_left (List.toFinset_card_le _) _

/-- What a table gives to a candidate: the one end of the search for it, which is reached after no
more attempts than there are reserved words and names handed out. It is the candidate itself if that
is not taken, and otherwise the candidate with the least number from two upwards that is not. -/
structure Gives (table : SymbolTable) (candidate name : String) : Prop where
  ends : ∃ attempts ≤ table.reserved.toFinset.card + table.size, ∀ count result,
    table.Search candidate candidate 2 count result ↔ count = attempts ∧ result = name
  unchanged : candidate ∉ table.reserved → candidate ∉ table.allocated → name = candidate
  least : candidate ∈ table.reserved ∨ candidate ∈ table.allocated → ∃ number,
    IsLeast {number | 2 ≤ number ∧ numbered candidate number ∉ table.reserved ∧
      numbered candidate number ∉ table.allocated} number ∧
    name = numbered candidate number

/-- A name is taken if it is reserved or handed out. -/
theorem mem_taken_iff : name ∈ table.taken ↔ name ∈ table.reserved ∨ name ∈ table.allocated :=
  List.mem_append

/-- The search for a candidate ends at the name that the table gives to it. -/
theorem exists_search (table : SymbolTable) (candidate : String) :
    ∃ attempts ≤ table.reserved.toFinset.card + table.size,
      table.Search candidate candidate 2 attempts (table.freeName candidate) := by
  by_cases isTaken : candidate ∈ table.taken
  · obtain ⟨number, atLeastTwo, same, isFree, takenBefore⟩ := freeName_of_taken isTaken
    obtain ⟨count, rfl⟩ := Nat.exists_eq_add_of_le atLeastTwo
    refine ⟨count + 1, le_card_taken isTaken takenBefore, ?_⟩
    rw [same]
    exact .attempt isTaken (search_numbered isFree takenBefore)
  · refine ⟨0, Nat.zero_le _, ?_⟩
    rw [freeName_of_free isTaken]
    exact .free isTaken

/-- A call gives what it should. -/
theorem gives_allocate (table : SymbolTable) (candidate : String) :
    table.Gives candidate (table.allocate candidate).1 where
  ends := by
    obtain ⟨attempts, bound, search⟩ := table.exists_search candidate
    refine ⟨attempts, bound, fun count result => ⟨search.unique, ?_⟩⟩
    rintro ⟨rfl, rfl⟩
    exact search
  unchanged := by
    intro unreserved unallocated
    refine freeName_of_free fun isTaken => ?_
    rcases mem_taken_iff.mp isTaken with isReserved | isAllocated
    · exact unreserved isReserved
    · exact unallocated isAllocated
  least := by
    intro isTaken
    obtain ⟨number, atLeastTwo, same, isFree, takenBefore⟩ :=
      freeName_of_taken (mem_taken_iff.mpr isTaken)
    rw [mem_taken_iff, not_or] at isFree
    refine ⟨number, ⟨⟨atLeastTwo, isFree⟩, ?_⟩, same⟩
    rintro smaller ⟨lower, unreserved, unallocated⟩
    by_contra upper
    rcases mem_taken_iff.mp (takenBefore smaller lower (not_le.mp upper)) with
      isReserved | isAllocated
    · exact unreserved isReserved
    · exact unallocated isAllocated

/-- A table is called with one candidate after the other. Each call gives a name and notes it, and
changes nothing else. -/
inductive Run : SymbolTable → List String → List String → SymbolTable → Prop where
  | done {table : SymbolTable} : Run table [] [] table
  | call {table last : SymbolTable} {candidate name : String} {candidates names : List String}
      (gives : table.Gives candidate name)
      (rest : Run { table with allocated := name :: table.allocated } candidates names last) :
      Run table (candidate :: candidates) (name :: names) last

/-- Handing out names for several candidates is a run. -/
theorem run_allocateAll (table : SymbolTable) (candidates : List String) :
    table.Run candidates (table.allocateAll candidates).1 (table.allocateAll candidates).2 := by
  induction candidates generalizing table with
  | nil => exact .done
  | cons candidate rest inductionHypothesis =>
      exact .call (table.gives_allocate candidate) (inductionHypothesis _)

/-- After a run the names that were given are handed out, and those that were before. -/
theorem Run.allocated (run : table.Run candidates names last) :
    last.allocated = names.reverse ++ table.allocated := by
  induction run with
  | done => rfl
  | call _ _ inductionHypothesis => simp [inductionHypothesis]

/-- A table with any reserved words that is called with any candidates gives them different names of
which none is reserved, each the nearest one that is free at its call. It has then handed out as
many names as it was called, namely these. -/
theorem run_from_reserved (reserved candidates : List String) :
    let table : SymbolTable := { reserved := reserved }
    let names := (table.allocateAll candidates).1
    let last := (table.allocateAll candidates).2
    table.Run candidates names last ∧ names.Nodup ∧ (∀ name ∈ names, name ∉ reserved) ∧
      last.size = candidates.length ∧ ∀ name, last.contains name = true ↔ name ∈ names := by
  intro table names last
  have run : table.Run candidates names last := table.run_allocateAll candidates
  have allocated : last.allocated = names.reverse := by
    rw [run.allocated]
    exact List.append_nil _
  refine ⟨run, table.nodup_allocateAll candidates, ?_, ?_, ?_⟩
  · intro name member isReserved
    exact not_mem_taken_of_mem_allocateAll member (mem_taken_iff.mpr (.inl isReserved))
  · rw [size, allocated, List.length_reverse]
    exact table.length_allocateAll candidates
  · intro name
    rw [contains, allocated, List.contains_iff_mem, List.mem_reverse]

/-- A name that is given with a number can be a candidate later, and a reserved word can stand where
a number is looked for. -/
example : (SymbolTable.allocateAll { reserved := ["a2"] } ["a", "a", "a3", "a", "a2"]).1 =
    ["a", "a3", "a32", "a4", "a22"] := by decide +kernel

end SymbolTable

end RequestSurface
