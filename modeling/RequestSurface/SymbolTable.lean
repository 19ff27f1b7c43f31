/-!
# Symbol tables

A symbol table hands out names within one scope. A candidate that is free is handed out as it is;
otherwise it gets the least number from two upwards that makes it free. Names are compared exactly,
and what is handed out depends on what was handed out before.
-/

namespace RequestSurface

/-- Names that must not be handed out, and the names handed out so far, latest first. -/
structure SymbolTable where
  reserved : List String := []
  allocated : List String := []

/-- A candidate followed by a number. -/
def numbered (candidate : String) (number : Nat) : String :=
  candidate ++ Nat.repr number

namespace SymbolTable

/-- Every name the table will not hand out again. -/
def taken (table : SymbolTable) : List String :=
  table.reserved ++ table.allocated

/-- The name the table gives to a candidate. Of as many numbers as there are taken names one is
free, since the candidate itself is among the taken ones. -/
def freeName (table : SymbolTable) (candidate : String) : String :=
  if candidate ∈ table.taken then
    let count := table.taken.length
    let free := (List.range' 2 count).find? fun number => numbered candidate number ∉ table.taken
    numbered candidate (free.getD (count + 2))
  else candidate

/-- Hand out a name for a candidate. -/
def allocate (table : SymbolTable) (candidate : String) : String × SymbolTable :=
  let name := table.freeName candidate
  (name, { table with allocated := name :: table.allocated })

/-- Whether a name has been handed out. -/
def contains (table : SymbolTable) (name : String) : Bool :=
  table.allocated.contains name

/-- How many names have been handed out. -/
def size (table : SymbolTable) : Nat :=
  table.allocated.length

end SymbolTable

end RequestSurface
