import RequestSurface.Document.Basic

/-!
# Interfaces

The methods of a document in groups that share one import table. The document's own methods come
first, under the name of the API; then every resource with methods, parents before children, under
the dotted path of resource names that leads to it.
-/

namespace RequestSurface

/-- A named group of methods. -/
structure Interface where
  name : String
  methods : List Method
  deriving Repr, Inhabited

namespace Interface

/-- A group under a name, unless it is empty. -/
def ofMethods (name : String) (methods : List (String × Method)) : List Interface :=
  if methods.isEmpty then [] else [⟨name, methods.map (·.2)⟩]

end Interface

mutual

/-- The interfaces of a resource at a path, and of those beneath it. -/
def Resource.interfaces (path : List String) : Resource -> List Interface
  | ⟨methods, resources⟩ =>
      Interface.ofMethods (String.intercalate "." path) methods ++
        Resource.childInterfaces path resources

/-- The interfaces of the resources beneath a path. -/
def Resource.childInterfaces (path : List String) : List (String × Resource) -> List Interface
  | [] => []
  | (name, resource) :: rest =>
      Resource.interfaces (path ++ [name]) resource ++ Resource.childInterfaces path rest

end

/-- The interfaces of a document. -/
def Document.interfaces (document : Document) : List Interface :=
  Interface.ofMethods document.name document.methods ++
    Resource.childInterfaces [] document.resources

end RequestSurface
