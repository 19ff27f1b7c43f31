import Mathlib
import RequestSurface.Proofs.Pieces
import RequestSurface.Proofs.SymbolTable

/-!
# Import tables stay one to one

Recording a type either finds it or adds one entry in front. `ImportTable.Extends` says that a table
came from another one by recording types, so whatever recording one type preserves is preserved by
every extension. `ImportTable.OneToOne` is the invariant: one alias for each type, one type for each
alias, and aliases that are short names with at most a number behind them.
-/

namespace RequestSurface

/-- A name goes for a type when it is what stands after the last dot of the qualified name, as it is
or with a number of at least two behind it. -/
def IsAliasOf (qualifiedName localName : String) : Prop :=
  ∃ short,
    (qualifiedName = short ∨ ∃ front, qualifiedName = front ++ "." ++ short) ∧
    '.' ∉ short.toList ∧
    (localName = short ∨ ∃ number, 2 ≤ number ∧ localName = numbered short number)

/-- The name that is free for a short name goes for the type. -/
theorem isAliasOf_freeName (symbols : SymbolTable) (qualifiedName : String) :
    IsAliasOf qualifiedName (symbols.freeName (shortName qualifiedName)) := by
  obtain ⟨noDot, whole⟩ := Text.afterLast_cases '.' qualifiedName
  exact ⟨shortName qualifiedName, whole, noDot, symbols.freeName_eq_or_numbered _⟩

namespace ImportTable

variable {table middle later : ImportTable} {qualifiedName localName : String}

/-- Recording a known type changes nothing. -/
theorem insert_of_known (known : table.localName? qualifiedName = some localName) :
    table.insert qualifiedName = (localName, table) := by
  simp [insert, known]

/-- Recording a new type puts an entry in front, under a name that is free for its short name. -/
theorem insert_of_new (isNew : table.localName? qualifiedName = none) :
    table.insert qualifiedName =
      (table.symbols.freeName (shortName qualifiedName),
        ⟨⟨qualifiedName, table.symbols.freeName (shortName qualifiedName)⟩ :: table.entries⟩) := by
  simp [insert, isNew]

/-- A type has no alias exactly when no entry is about it. -/
theorem localName?_eq_none_iff :
    table.localName? qualifiedName = none ↔
      qualifiedName ∉ table.entries.map Import.qualifiedName := by
  simp [localName?, List.find?_eq_none]

/-- The alias that is found stands in an entry. -/
theorem mem_of_localName? (known : table.localName? qualifiedName = some localName) :
    ⟨qualifiedName, localName⟩ ∈ table.entries := by
  obtain ⟨entry, found, rfl⟩ := Option.map_eq_some_iff.mp known
  have sameName : entry.qualifiedName = qualifiedName := by simpa using List.find?_some found
  subst sameName
  exact List.mem_of_find?_eq_some found

/-- A type is recorded under the name that recording it gives. -/
@[simp] theorem localName?_insert (table : ImportTable) (qualifiedName : String) :
    (table.insert qualifiedName).2.localName? qualifiedName =
      some (table.insert qualifiedName).1 := by
  cases known : table.localName? qualifiedName with
  | some localName => rw [insert_of_known known, known]
  | none => simp [insert_of_new known, localName?]

/-- One type under one alias: no type and no alias stands in two entries, and every alias is a
short name with at most a number behind it. -/
structure OneToOne (table : ImportTable) : Prop where
  names : (table.entries.map Import.qualifiedName).Nodup
  localNames : (table.entries.map Import.localName).Nodup
  shaped : ∀ entry ∈ table.entries, IsAliasOf entry.qualifiedName entry.localName

namespace OneToOne

/-- Nothing is recorded at first. -/
theorem empty : OneToOne {} :=
  ⟨List.nodup_nil, List.nodup_nil, by simp⟩

/-- Recording a type keeps a table one to one. -/
theorem insert (valid : table.OneToOne) (qualifiedName : String) :
    (table.insert qualifiedName).2.OneToOne := by
  cases known : table.localName? qualifiedName with
  | some localName =>
      rw [insert_of_known known]
      exact valid
  | none =>
      rw [insert_of_new known]
      refine ⟨?_, ?_, ?_⟩
      · exact List.nodup_cons.mpr ⟨localName?_eq_none_iff.mp known, valid.names⟩
      · exact List.nodup_cons.mpr ⟨table.symbols.freeName_not_mem_taken _, valid.localNames⟩
      · intro entry member
        rcases List.mem_cons.mp member with rfl | isOld
        · exact isAliasOf_freeName table.symbols qualifiedName
        · exact valid.shaped entry isOld

/-- In a one-to-one table the alias that is found is the one in the entry. -/
theorem localName?_eq_some_iff (valid : table.OneToOne) :
    table.localName? qualifiedName = some localName ↔
      ⟨qualifiedName, localName⟩ ∈ table.entries := by
  refine ⟨mem_of_localName?, fun member => ?_⟩
  cases found : table.localName? qualifiedName with
  | none =>
      exact absurd (List.mem_map.mpr ⟨_, member, rfl⟩) (localName?_eq_none_iff.mp found)
  | some other =>
      have same := List.inj_on_of_nodup_map valid.names (mem_of_localName? found) member rfl
      exact congrArg (fun entry => some entry.localName) same

end OneToOne

/-- A table extends another one when it came from it by recording types one after the other. -/
def Extends (table later : ImportTable) : Prop :=
  ∃ qualifiedNames, later = table.insertAll qualifiedNames

/-- Recording types in two goes is recording them in one. -/
@[simp] theorem insertAll_append (table : ImportTable) (first second : List String) :
    table.insertAll (first ++ second) = (table.insertAll first).insertAll second := by
  simp [insertAll, List.foldl_append]

namespace Extends

/-- Every table extends itself. -/
theorem refl (table : ImportTable) : table.Extends table :=
  ⟨[], rfl⟩

/-- Extensions compose. -/
theorem trans (first : table.Extends middle) (second : middle.Extends later) :
    table.Extends later := by
  obtain ⟨firstNames, rfl⟩ := first
  obtain ⟨secondNames, rfl⟩ := second
  exact ⟨firstNames ++ secondNames, (insertAll_append table firstNames secondNames).symm⟩

/-- Recording one type extends a table. -/
theorem insert (table : ImportTable) (qualifiedName : String) :
    table.Extends (table.insert qualifiedName).2 :=
  ⟨[qualifiedName], rfl⟩

/-- Recording several types extends a table. -/
theorem insertAll (table : ImportTable) (qualifiedNames : List String) :
    table.Extends (table.insertAll qualifiedNames) :=
  ⟨qualifiedNames, rfl⟩

/-- What recording one type preserves, every extension preserves. -/
theorem preserves {Holds : ImportTable → Prop}
    (step : ∀ table qualifiedName, Holds table → Holds (table.insert qualifiedName).2)
    (extension : table.Extends later) (holds : Holds table) : Holds later := by
  obtain ⟨qualifiedNames, rfl⟩ := extension
  induction qualifiedNames generalizing table with
  | nil => exact holds
  | cons qualifiedName rest inductionHypothesis =>
      exact inductionHypothesis (step table qualifiedName holds)

/-- An extension of a one-to-one table is one to one. -/
theorem oneToOne (extension : table.Extends later) (valid : table.OneToOne) : later.OneToOne :=
  extension.preserves (fun _ qualifiedName valid => valid.insert qualifiedName) valid

/-- An extension keeps every entry. -/
theorem entries_subset (extension : table.Extends later) : table.entries ⊆ later.entries := by
  have step (next : ImportTable) (qualifiedName : String) (kept : table.entries ⊆ next.entries) :
      table.entries ⊆ (next.insert qualifiedName).2.entries := by
    cases known : next.localName? qualifiedName with
    | some localName =>
        rw [insert_of_known known]
        exact kept
    | none =>
        rw [insert_of_new known]
        exact List.Subset.trans kept (List.subset_cons_self _ _)
  exact extension.preserves step (List.Subset.refl _)

/-- An extension finds every type under the alias it had, whatever else is in the tables. -/
theorem localName?_eq (extension : table.Extends later)
    (known : table.localName? qualifiedName = some localName) :
    later.localName? qualifiedName = some localName := by
  have step (next : ImportTable) (other : String)
      (found : next.localName? qualifiedName = some localName) :
      (next.insert other).2.localName? qualifiedName = some localName := by
    cases isKnown : next.localName? other with
    | some name =>
        rw [insert_of_known isKnown]
        exact found
    | none =>
        have differ : other ≠ qualifiedName := by
          rintro rfl
          rw [isKnown] at found
          cases found
        rw [insert_of_new isKnown]
        simpa [localName?, differ] using found
  exact extension.preserves step known

end Extends

/-- Types that are recorded one after the other all have an entry in the end. -/
theorem exists_mem_insertAll {qualifiedNames : List String}
    (member : qualifiedName ∈ qualifiedNames) :
    ∃ localName, ⟨qualifiedName, localName⟩ ∈ (table.insertAll qualifiedNames).entries := by
  obtain ⟨first, second, rfl⟩ := List.append_of_mem member
  refine ⟨((table.insertAll first).insert qualifiedName).1, ?_⟩
  rw [insertAll_append]
  have recorded := mem_of_localName? (localName?_insert (table.insertAll first) qualifiedName)
  exact (Extends.insertAll _ second).entries_subset recorded

end ImportTable

end RequestSurface
