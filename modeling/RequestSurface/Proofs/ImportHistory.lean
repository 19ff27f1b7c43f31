import Mathlib
import RequestSurface.Proofs.Spelling

/-!
# The history of an import table

A table that starts empty goes through a sequence of calls: types are recorded or written, fields
are resolved, with or without success, and messages are assembled into units. Every call extends the
table, so after each of them it is one to one, it still has the entries of every earlier moment, and
its imports list it completely.
-/

namespace RequestSurface.ImportTable

/-- A call that works on an import table. A unit is assembled for a surface, a package and a root of
its own. -/
inductive Call where
  | insert (qualifiedName : String)
  | nickname (qualifiedName : String)
  | resolve (field : Field)
  | assemble (surface : Surface) (package : String) (root : OutputRoot) (message : RequestMessage)

/-- The table after a call, on a surface and with a package for message types. -/
def perform (surface : Surface) (package : String) (table : ImportTable) : Call → ImportTable
  | .insert qualifiedName => (table.insert qualifiedName).2
  | .nickname qualifiedName => (table.nickname surface qualifiedName).2
  | .resolve field => (table.resolve surface package field).2
  | .assemble unitSurface unitPackage root message =>
      (OutputUnit.assemble unitSurface unitPackage root message table).2

/-- The table after several calls. -/
def performAll (surface : Surface) (package : String) (table : ImportTable) (calls : List Call) :
    ImportTable :=
  calls.foldl (perform surface package) table

variable {table : ImportTable} {qualifiedName otherName localName : String}

/-- Resolving a field extends a table, whether or not its type has a name. -/
theorem extends_resolve (surface : Surface) (package : String) (table : ImportTable)
    (field : Field) : table.Extends (table.resolve surface package field).2 := by
  unfold resolve
  cases field.types surface package with
  | error unknown => exact .refl table
  | ok types => exact table.extends_spellTypes surface types

/-- Every call extends a table. -/
theorem extends_perform (surface : Surface) (package : String) (table : ImportTable)
    (call : Call) : table.Extends (table.perform surface package call) := by
  cases call with
  | insert qualifiedName => exact .insert table qualifiedName
  | nickname qualifiedName => exact table.extends_nickname surface qualifiedName
  | resolve field => exact table.extends_resolve surface package field
  | assemble unitSurface unitPackage root message => exact .insertAll table unitSurface.coreImports

/-- A sequence of calls extends a table. -/
theorem extends_performAll (surface : Surface) (package : String) (table : ImportTable)
    (calls : List Call) : table.Extends (table.performAll surface package calls) := by
  induction calls generalizing table with
  | nil => exact .refl table
  | cons call rest inductionHypothesis =>
      exact (table.extends_perform surface package call).trans (inductionHypothesis _)

/-- What can be seen of a table with one alias for each type and one type for each alias. -/
structure Consistent (table : ImportTable) : Prop where
  distinct : ∀ {qualifiedName otherName localName},
    table.localName? qualifiedName = some localName →
    table.localName? otherName = some localName → qualifiedName = otherName
  shaped : ∀ {qualifiedName localName},
    table.localName? qualifiedName = some localName → IsAliasOf qualifiedName localName
  stable : ∀ {qualifiedName localName},
    table.localName? qualifiedName = some localName →
    table.insert qualifiedName = (localName, table)
  recorded : ∀ qualifiedName,
    (table.insert qualifiedName).2.localName? qualifiedName = some (table.insert qualifiedName).1
  increasing : (table.imports.map Import.qualifiedName).SortedLT
  listed : ∀ qualifiedName localName,
    ⟨qualifiedName, localName⟩ ∈ table.imports ↔ table.localName? qualifiedName = some localName
  counted : table.size = table.imports.length
  contained : ∀ qualifiedName,
    table.contains qualifiedName = true ↔ qualifiedName ∈ table.imports.map Import.qualifiedName

/-- The imports of a table are its entries in another order. -/
theorem imports_perm (table : ImportTable) : table.imports.Perm table.entries :=
  List.mergeSort_perm table.entries _

/-- The imports of a table stand in the strict order of their qualified names, if each of them has
one entry. -/
theorem sortedLT_imports (distinct : (table.entries.map Import.qualifiedName).Nodup) :
    (table.imports.map Import.qualifiedName).SortedLT := by
  have sortedNames : table.imports.map Import.qualifiedName =
      (table.entries.map Import.qualifiedName).mergeSort := by
    exact List.map_mergeSort fun _ _ _ _ => rfl
  have inOrder : (table.imports.map Import.qualifiedName).SortedLE := by
    rw [sortedNames]
    exact List.sortedLE_mergeSort
  exact inOrder.sortedLT_of_nodup
    ((table.imports_perm.map Import.qualifiedName).nodup_iff.mpr distinct)

/-- A type is contained in a table when an entry is about it. -/
theorem contains_iff :
    table.contains qualifiedName = true ↔
      qualifiedName ∈ table.entries.map Import.qualifiedName := by
  rw [contains, Option.isSome_iff_ne_none, ne_eq, localName?_eq_none_iff, not_not]

/-- A one-to-one table shows what it should. -/
theorem OneToOne.consistent (valid : table.OneToOne) : table.Consistent where
  distinct := by
    intro qualifiedName otherName localName first second
    have same := List.inj_on_of_nodup_map valid.localNames (mem_of_localName? first)
      (mem_of_localName? second) rfl
    exact congrArg Import.qualifiedName same
  shaped known := valid.shaped _ (mem_of_localName? known)
  stable := insert_of_known
  recorded := localName?_insert table
  increasing := sortedLT_imports valid.names
  listed qualifiedName localName := by
    rw [table.imports_perm.mem_iff, valid.localName?_eq_some_iff]
  counted := table.imports_perm.length_eq.symm
  contained qualifiedName := by
    rw [contains_iff, (table.imports_perm.map Import.qualifiedName).mem_iff]

/-- Whatever is called on a table that starts empty, the table is consistent at every moment, and
what was imported at an earlier moment is imported under the same alias later. -/
theorem consistent_performAll (surface : Surface) (package : String) (earlier later : List Call) :
    let before := performAll surface package {} earlier
    let table := before.performAll surface package later
    table.Consistent ∧
      ∀ qualifiedName localName, before.localName? qualifiedName = some localName →
        table.localName? qualifiedName = some localName := by
  intro before table
  have start : before.OneToOne :=
    (extends_performAll surface package {} earlier).oneToOne .empty
  have extension : before.Extends table := extends_performAll surface package before later
  have valid := extension.oneToOne start
  refine ⟨valid.consistent, fun qualifiedName localName known => ?_⟩
  exact valid.localName?_eq_some_iff.mpr (extension.entries_subset (mem_of_localName? known))

end RequestSurface.ImportTable
