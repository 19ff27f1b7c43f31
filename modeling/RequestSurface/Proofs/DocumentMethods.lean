import Mathlib
import RequestSurface.Interface

/-!
# The methods of a document

All methods of a document in one row: its own methods first, then those of every resource, parents
before children, each with the name of the interface it belongs to. The interfaces of a document cut
this row into groups. A resource without methods has no interface, and there is nothing of it in the
row either, so no method is left out and none is repeated.
-/

namespace RequestSurface

mutual

/-- The methods of a resource at a path and of those beneath it, with the names of their
interfaces. -/
def Resource.namedMethods (path : List String) : Resource → List (String × Method)
  | ⟨methods, resources⟩ =>
      methods.map (fun entry => (String.intercalate "." path, entry.2)) ++
        Resource.namedMethodsBeneath path resources

/-- The methods of the resources beneath a path, with the names of their interfaces. -/
def Resource.namedMethodsBeneath (path : List String) :
    List (String × Resource) → List (String × Method)
  | [] => []
  | (name, resource) :: rest =>
      Resource.namedMethods (path ++ [name]) resource ++ Resource.namedMethodsBeneath path rest

end

/-- All methods of a document with the names of their interfaces. -/
def Document.namedMethods (document : Document) : List (String × Method) :=
  document.methods.map (fun entry => (document.name, entry.2)) ++
    Resource.namedMethodsBeneath [] document.resources

/-- All methods of a document. -/
def Document.allMethods (document : Document) : List Method :=
  document.namedMethods.map Prod.snd

namespace Interface

/-- The methods of an interface with its name. -/
def namedMethods (interface : Interface) : List (String × Method) :=
  interface.methods.map fun method => (interface.name, method)

/-- A group holds the methods it is made from, under its name. -/
theorem flatMap_namedMethods_ofMethods (name : String) (methods : List (String × Method)) :
    (ofMethods name methods).flatMap namedMethods =
      methods.map fun entry => (name, entry.2) := by
  cases methods with
  | nil => rfl
  | cons entry rest => simp [ofMethods, namedMethods]

end Interface

mutual

/-- The interfaces of a resource hold its methods and those beneath it. -/
theorem Resource.flatMap_interfaces (path : List String) :
    (resource : Resource) →
      (Resource.interfaces path resource).flatMap Interface.namedMethods =
        resource.namedMethods path
  | ⟨methods, resources⟩ => by
      rw [Resource.interfaces, Resource.namedMethods, List.flatMap_append,
        Interface.flatMap_namedMethods_ofMethods, Resource.flatMap_childInterfaces path resources]

/-- The interfaces of the resources beneath a path hold the methods beneath it. -/
theorem Resource.flatMap_childInterfaces (path : List String) :
    (resources : List (String × Resource)) →
      (Resource.childInterfaces path resources).flatMap Interface.namedMethods =
        Resource.namedMethodsBeneath path resources
  | [] => by rw [Resource.childInterfaces, Resource.namedMethodsBeneath, List.flatMap_nil]
  | (name, resource) :: rest => by
      rw [Resource.childInterfaces, Resource.namedMethodsBeneath, List.flatMap_append,
        Resource.flatMap_interfaces (path ++ [name]) resource,
        Resource.flatMap_childInterfaces path rest]

end

namespace Document

/-- The interfaces of a document hold all of its methods in their order. -/
theorem flatMap_interfaces (document : Document) :
    document.interfaces.flatMap Interface.namedMethods = document.namedMethods := by
  rw [interfaces, namedMethods, List.flatMap_append, Interface.flatMap_namedMethods_ofMethods,
    Resource.flatMap_childInterfaces]

/-- All methods of a document are the methods of its interfaces, one interface after the other. -/
theorem allMethods_eq (document : Document) :
    document.allMethods = document.interfaces.flatMap Interface.methods := by
  rw [allMethods, ← flatMap_interfaces, List.map_flatMap]
  congr 1
  funext interface
  simp [Interface.namedMethods]

end Document

end RequestSurface
