import RequestSurface.SurfaceType
import RequestSurface.SymbolTable

/-!
# Import tables

An import table gives every imported type one alias within a file. The first type to claim a short
name gets it; later types with the same short name get a number behind it. Spelling a surface type
records the imports it needs.
-/

namespace RequestSurface

/-- An imported type and the alias it goes by. -/
structure Import where
  qualifiedName : String
  localName : String
  deriving DecidableEq, Repr

/-- The part of a qualified name after its last dot. -/
def shortName (qualifiedName : String) : String :=
  Text.afterLast '.' qualifiedName

/-- The part of a qualified name before its last dot. -/
def moduleName (qualifiedName : String) : String :=
  Text.beforeLast '.' qualifiedName

/-- Whether the alias differs from the short name. -/
def Import.isAliased (entry : Import) : Bool :=
  shortName entry.qualifiedName != entry.localName

/-- The imports recorded so far, latest first. -/
structure ImportTable where
  entries : List Import := []
  deriving Repr, Inhabited

namespace ImportTable

/-- The aliases in use, as a symbol table without reserved words. -/
def symbols (table : ImportTable) : SymbolTable where
  allocated := table.entries.map Import.localName

/-- The alias of a type that has been recorded. -/
def localName? (table : ImportTable) (qualifiedName : String) : Option String :=
  (table.entries.find? (·.qualifiedName == qualifiedName)).map Import.localName

/-- Record a type and give its alias, the same one every time. -/
def insert (table : ImportTable) (qualifiedName : String) : String × ImportTable :=
  match table.localName? qualifiedName with
  | some known => (known, table)
  | none =>
      let fresh := table.symbols.freeName (shortName qualifiedName)
      (fresh, ⟨⟨qualifiedName, fresh⟩ :: table.entries⟩)

/-- Record several types, one after the other. -/
def insertAll (table : ImportTable) (qualifiedNames : List String) : ImportTable :=
  qualifiedNames.foldl (fun table qualifiedName => (table.insert qualifiedName).2) table

/-- How a type is written. A type of an implicit module is written by its short name and is not
recorded. -/
def nickname (surface : Surface) (table : ImportTable) (qualifiedName : String) :
    String × ImportTable :=
  if moduleName qualifiedName ∈ surface.implicitModules then (shortName qualifiedName, table)
  else table.insert qualifiedName

/-- Write a surface type. What a container holds is recorded before the container. -/
def spell (surface : Surface) (table : ImportTable) : SurfaceType -> String × ImportTable
  | .named qualifiedName => table.nickname surface qualifiedName
  | .list element =>
      let (inner, afterElement) := table.spell surface element
      let (container, afterContainer) := afterElement.nickname surface surface.listContainer
      (surface.generic container [inner], afterContainer)
  | .map value =>
      let (key, afterKey) := table.nickname surface surface.stringType
      let (inner, afterValue) := afterKey.spell surface value
      let (container, afterContainer) := afterValue.nickname surface surface.mapContainer
      (surface.generic container [key, inner], afterContainer)

/-- How many types are recorded. -/
def size (table : ImportTable) : Nat :=
  table.entries.length

/-- Whether a type is recorded. -/
def contains (table : ImportTable) (qualifiedName : String) : Bool :=
  (table.localName? qualifiedName).isSome

/-- The recorded imports in the order of their qualified names. -/
def imports (table : ImportTable) : List Import :=
  table.entries.mergeSort fun left right => decide (left.qualifiedName ≤ right.qualifiedName)

/-- The imports that were recorded since an earlier state of the table, in order. -/
def since (table earlier : ImportTable) : List Import :=
  (table.entries.take (table.size - earlier.size)).reverse

end ImportTable

end RequestSurface
