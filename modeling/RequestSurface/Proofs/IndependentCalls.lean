import Mathlib
import RequestSurface.Proofs.Allocations
import RequestSurface.Proofs.NameVariants

/-!
# Independent calls on a symbol table

What a symbol table gives depends on which names it has handed out, not on their order. Two calls
for candidates that are apart take no name from each other, so they can be exchanged anywhere in a
run of calls: each candidate gets the name that it would have got, and the table takes the same
names afterwards.
-/

namespace RequestSurface

namespace SymbolTable

/-- Two tables have one set of reserved words and have handed out the same names, perhaps in another
order. -/
structure SameNames (table other : SymbolTable) : Prop where
  reserved : table.reserved = other.reserved
  allocated : table.allocated.Perm other.allocated

variable {table other : SymbolTable} {first second : String}

namespace SameNames

/-- Tables with the same names take the same names. -/
theorem mem_taken_iff (same : SameNames table other) {name : String} :
    name ∈ table.taken ↔ name ∈ other.taken := by
  rw [SymbolTable.mem_taken_iff, SymbolTable.mem_taken_iff, same.reserved,
    same.allocated.mem_iff]

/-- Tables with the same names give the same name to a candidate. -/
theorem freeName_eq (same : SameNames table other) (candidate : String) :
    table.freeName candidate = other.freeName candidate :=
  freeName_congr fun _ _ => same.mem_taken_iff

/-- One call leaves two tables with the same names. -/
theorem allocate (same : SameNames table other) (candidate : String) :
    SameNames (table.allocate candidate).2 (other.allocate candidate).2 where
  reserved := same.reserved
  allocated := by
    have sameName := same.freeName_eq candidate
    rw [SymbolTable.allocate, SymbolTable.allocate, sameName]
    exact same.allocated.cons _

/-- A run of calls gives the same names on two tables with the same names, and leaves them so. -/
theorem allocateAll (same : SameNames table other) (candidates : List String) :
    (table.allocateAll candidates).1 = (other.allocateAll candidates).1 ∧
      SameNames (table.allocateAll candidates).2 (other.allocateAll candidates).2 := by
  induction candidates generalizing table other with
  | nil => exact ⟨rfl, same⟩
  | cons candidate rest inductionHypothesis =>
      obtain ⟨sameNames, sameLast⟩ := inductionHypothesis (same.allocate candidate)
      exact ⟨congrArg₂ List.cons (same.freeName_eq candidate) sameNames, sameLast⟩

/-- Tables with the same names contain the same names, and equally many. -/
theorem contains_eq (same : SameNames table other) :
    table.contains = other.contains ∧ table.size = other.size := by
  refine ⟨funext fun name => ?_, same.allocated.length_eq⟩
  rw [Bool.eq_iff_iff, contains, contains, List.contains_iff_mem, List.contains_iff_mem]
  exact same.allocated.mem_iff

end SameNames

/-- Of two calls for candidates that are apart, the second one gives what it would have given
first. -/
theorem allocateAll_pair (apart : CandidatesApart first second) :
    (table.allocateAll [first, second]).1 = [table.freeName first, table.freeName second] := by
  have kept : (table.allocate first).2.freeName second = table.freeName second :=
    freeName_allocate apart
  rw [← kept]
  rfl

/-- After two calls for candidates that are apart the table has handed out the same names, whichever
call came first. -/
theorem sameNames_pair (apart : CandidatesApart first second) :
    SameNames (table.allocateAll [first, second]).2 (table.allocateAll [second, first]).2 where
  reserved := rfl
  allocated := by
    have secondKept : (table.allocate first).2.freeName second = table.freeName second :=
      freeName_allocate apart
    have firstKept : (table.allocate second).2.freeName first = table.freeName first :=
      freeName_allocate apart.symm
    change List.Perm
      ((table.allocate first).2.freeName second :: table.freeName first :: table.allocated)
      ((table.allocate second).2.freeName first :: table.freeName second :: table.allocated)
    rw [secondKept, firstKept]
    exact .swap _ _ _

/-- Whatever a table with any reserved words was called with before, two calls for candidates that
are apart give each of them the same name in both orders. The same names are handed out then, and
every later call gives the same name. -/
theorem independent_calls_commute (reserved before : List String) {first second : String}
    (apart : CandidatesApart first second) :
    let start : SymbolTable := { reserved := reserved }
    let table := (start.allocateAll before).2
    let last := (table.allocateAll [first, second]).2
    let other := (table.allocateAll [second, first]).2
    (∃ firstName secondName,
      (table.allocateAll [first, second]).1 = [firstName, secondName] ∧
        (table.allocateAll [second, first]).1 = [secondName, firstName]) ∧
      last.contains = other.contains ∧ last.size = other.size ∧
      ∀ after, (last.allocateAll after).1 = (other.allocateAll after).1 := by
  intro start table last other
  have same : SameNames last other := sameNames_pair apart
  obtain ⟨sameContent, sameSize⟩ := same.contains_eq
  exact ⟨⟨_, _, allocateAll_pair apart, allocateAll_pair apart.symm⟩, sameContent, sameSize,
    fun after => (same.allocateAll after).1⟩

/-- Candidates that end in different digits are apart, even if one of them is reserved and numbered
names of the other one are taken. -/
theorem independent_calls_commute_numbered :
    let start : SymbolTable := { reserved := ["x3"] }
    let table := (start.allocateAll ["x2", "x22"]).2
    let last := (table.allocateAll ["x2", "x3"]).2
    let other := (table.allocateAll ["x3", "x2"]).2
    CandidatesApart "x2" "x3" ∧
      (∃ firstName secondName,
        (table.allocateAll ["x2", "x3"]).1 = [firstName, secondName] ∧
          (table.allocateAll ["x3", "x2"]).1 = [secondName, firstName]) ∧
      last.contains = other.contains ∧ last.size = other.size ∧
      ∀ after, (last.allocateAll after).1 = (other.allocateAll after).1 := by
  have apart : CandidatesApart "x2" "x3" := by
    refine ⟨by decide, ?_, ?_⟩ <;>
    · rintro ⟨digits, -, -, whole⟩
      simp at whole
  exact ⟨apart, independent_calls_commute ["x3"] ["x2", "x22"] apart⟩

/-- A candidate that is another one with a digit behind it can lose its name to that one. -/
example :
    let table : SymbolTable := { reserved := ["x"] }
    (table.allocateAll ["x", "x2"]).1 = ["x2", "x22"] ∧
      (table.allocateAll ["x2", "x"]).1 = ["x2", "x3"] := by decide +kernel

end SymbolTable

end RequestSurface
