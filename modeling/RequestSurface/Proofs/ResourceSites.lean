import Mathlib
import RequestSurface.Interface

/-!
# Where resources and methods stand

Every resource of a document stands at a site: the way that leads to it from the document, as the
number of the resource to take at each step and as the names of these resources. Sites are ordered
by their numbers, so a site comes before those beneath it and these come before those of the next
resource beside it. The interfaces of a document are its sites with methods in this order, the
document itself being the first site.
-/

namespace RequestSurface

/-- A way from a resource to itself or to one beneath it: which of the resources is taken at each
step, and what it is called. -/
inductive Resource.Leads : Resource → List Nat → List String → Resource → Prop where
  | here (resource : Resource) : Leads resource [] [] resource
  | into {resource inner target : Resource} {number : Nat} {name : String} {numbers : List Nat}
      {names : List String} (entry : resource.resources[number]? = some (name, inner))
      (further : Leads inner numbers names target) :
      Leads resource (number :: numbers) (name :: names) target

/-- A resource with the way that leads to it. -/
structure ResourceSite where
  position : List Nat
  path : List String
  resource : Resource

/-- A document as a resource: what stands at its top. -/
def Document.top (document : Document) : Resource where
  methods := document.methods
  resources := document.resources

/-- A site of a document: its top, or a resource beneath it. -/
def ResourceSite.IsIn (document : Document) (site : ResourceSite) : Prop :=
  document.top.Leads site.position site.path site.resource

/-- The interface of a resource beneath the top, with all methods that stand there. -/
def ResourceSite.interface (site : ResourceSite) : Interface where
  name := ".".intercalate site.path
  methods := site.resource.methods.map Prod.snd

/-- A method with the site it stands at and its number among the methods there. -/
structure MethodSite where
  site : ResourceSite
  number : Nat
  method : Method

namespace MethodSite

/-- A method of a document: one that stands at one of its sites. -/
structure IsIn (document : Document) (place : MethodSite) : Prop where
  site : place.site.IsIn document
  entry : (place.site.resource.methods.map Prod.snd)[place.number]? = some place.method

/-- One method is declared before another one: at an earlier site, or earlier at the same one. -/
def Before (place later : MethodSite) : Prop :=
  place.site.position < later.site.position ∨
    place.site.position = later.site.position ∧ place.number < later.number

end MethodSite

mutual

/-- A resource that a way has led to, and the ones beneath it. -/
def Resource.sitesFrom (position : List Nat) (path : List String) : Resource → List ResourceSite
  | ⟨methods, resources⟩ =>
      ⟨position, path, ⟨methods, resources⟩⟩ :: Resource.sitesBeneath position path 0 resources

/-- Resources from a number on beneath one that a way has led to, each with the ones beneath it. -/
def Resource.sitesBeneath (position : List Nat) (path : List String) (number : Nat) :
    List (String × Resource) → List ResourceSite
  | [] => []
  | (name, resource) :: rest =>
      Resource.sitesFrom (position ++ [number]) (path ++ [name]) resource ++
        Resource.sitesBeneath position path (number + 1) rest

end

section Sites

variable {site : ResourceSite} {resource : Resource} {position : List Nat} {path : List String}

mutual

/-- The sites from a resource on are those that a way leads to from it. -/
theorem Resource.mem_sitesFrom_iff (position : List Nat) (path : List String) :
    (resource : Resource) →
      (site ∈ resource.sitesFrom position path ↔
        ∃ numbers names, resource.Leads numbers names site.resource ∧
          site.position = position ++ numbers ∧ site.path = path ++ names)
  | ⟨methods, resources⟩ => by
      rw [Resource.sitesFrom, List.mem_cons,
        Resource.mem_sitesBeneath_iff position path 0 resources]
      constructor
      · rintro (rfl | ⟨number, name, inner, numbers, names, entry, leads, isPosition, isPath⟩)
        · exact ⟨[], [], .here _, by simp, by simp⟩
        · exact ⟨number :: numbers, name :: names, .into entry leads, by simpa using isPosition,
            isPath⟩
      · rintro ⟨numbers, names, leads, isPosition, isPath⟩
        obtain ⟨sitePosition, sitePath, target⟩ := site
        cases leads with
        | here => exact .inl (by simp_all)
        | into entry further =>
            exact .inr ⟨_, _, _, _, _, entry, further, by simpa using isPosition, isPath⟩

/-- The sites beneath a resource from a number on are those that a way leads to from a resource with
this number or a greater one. -/
theorem Resource.mem_sitesBeneath_iff (position : List Nat) (path : List String) (first : Nat) :
    (resources : List (String × Resource)) →
      (site ∈ Resource.sitesBeneath position path first resources ↔
        ∃ number name inner numbers names, resources[number]? = some (name, inner) ∧
          inner.Leads numbers names site.resource ∧
          site.position = position ++ (first + number) :: numbers ∧
          site.path = path ++ name :: names)
  | [] => by simp [Resource.sitesBeneath]
  | (name, resource) :: rest => by
      rw [Resource.sitesBeneath, List.mem_append,
        Resource.mem_sitesFrom_iff (position ++ [first]) (path ++ [name]) resource,
        Resource.mem_sitesBeneath_iff position path (first + 1) rest]
      constructor
      · rintro (⟨numbers, names, leads, isPosition, isPath⟩ |
          ⟨number, other, inner, numbers, names, entry, leads, isPosition, isPath⟩)
        · exact ⟨0, name, resource, numbers, names, rfl, leads, by simpa using isPosition,
            by simpa using isPath⟩
        · refine ⟨number + 1, other, inner, numbers, names, entry, leads, ?_, isPath⟩
          rw [isPosition, Nat.add_assoc, Nat.add_comm 1]
      · rintro ⟨number, other, inner, numbers, names, entry, leads, isPosition, isPath⟩
        cases number with
        | zero =>
            obtain ⟨rfl, rfl⟩ := Prod.mk.inj (Option.some.inj entry)
            exact .inl ⟨numbers, names, leads, by simpa using isPosition, by simpa using isPath⟩
        | succ number =>
            refine .inr ⟨number, other, inner, numbers, names, entry, leads, ?_, isPath⟩
            rw [isPosition, Nat.add_assoc, Nat.add_comm 1]

end

mutual

/-- The sites from a resource on stand in order. -/
theorem Resource.pairwise_sitesFrom (position : List Nat) (path : List String) :
    (resource : Resource) →
      (resource.sitesFrom position path).Pairwise fun site later => site.position < later.position
  | ⟨methods, resources⟩ => by
      rw [Resource.sitesFrom, List.pairwise_cons]
      refine ⟨fun later beneath => ?_, Resource.pairwise_sitesBeneath position path 0 resources⟩
      obtain ⟨number, name, inner, numbers, names, -, -, isPosition, -⟩ :=
        (Resource.mem_sitesBeneath_iff position path 0 resources).mp beneath
      have longer : position ++ [] < position ++ (0 + number) :: numbers :=
        List.append_left_lt (List.nil_lt_cons _ _)
      rw [List.append_nil] at longer
      rw [isPosition]
      exact longer

/-- The sites beneath a resource stand in order. -/
theorem Resource.pairwise_sitesBeneath (position : List Nat) (path : List String) (first : Nat) :
    (resources : List (String × Resource)) →
      (Resource.sitesBeneath position path first resources).Pairwise
        fun site later => site.position < later.position
  | [] => .nil
  | (name, resource) :: rest => by
      rw [Resource.sitesBeneath, List.pairwise_append]
      refine ⟨Resource.pairwise_sitesFrom _ _ resource,
        Resource.pairwise_sitesBeneath position path (first + 1) rest,
        fun site atFirst later atRest => ?_⟩
      obtain ⟨numbers, -, -, isPosition, -⟩ := (Resource.mem_sitesFrom_iff _ _ resource).mp atFirst
      obtain ⟨number, -, -, others, -, -, -, isLater, -⟩ :=
        (Resource.mem_sitesBeneath_iff position path (first + 1) rest).mp atRest
      rw [isPosition, isLater, List.append_assoc]
      exact List.append_left_lt (List.cons_lt_cons_iff.mpr (.inl (by omega)))

end

end Sites

/-- Whether there are methods at a site. -/
def ResourceSite.hasMethods (site : ResourceSite) : Bool :=
  !site.resource.methods.isEmpty

namespace Document

/-- The sites of the resources of a document. -/
def resourceSites (document : Document) : List ResourceSite :=
  Resource.sitesBeneath [] [] 0 document.resources

/-- The sites of a document, its top before its resources. -/
def sites (document : Document) : List ResourceSite :=
  document.top.sitesFrom [] []

variable {document : Document} {site : ResourceSite}

theorem sites_eq (document : Document) :
    document.sites = ⟨[], [], document.top⟩ :: document.resourceSites := by
  rw [sites, top, Resource.sitesFrom, resourceSites]

/-- The sites of a document are listed. -/
theorem mem_sites_iff : site ∈ document.sites ↔ site.IsIn document := by
  rw [sites, Resource.mem_sitesFrom_iff]
  simp [ResourceSite.IsIn]

/-- The sites of its resources are those beneath the top. -/
theorem mem_resourceSites_iff :
    site ∈ document.resourceSites ↔ site.IsIn document ∧ site.position ≠ [] := by
  rw [← mem_sites_iff, sites_eq, List.mem_cons]
  constructor
  · intro isBeneath
    obtain ⟨number, name, inner, numbers, names, -, -, isPosition, -⟩ :=
      (Resource.mem_sitesBeneath_iff [] [] 0 document.resources).mp isBeneath
    exact ⟨.inr isBeneath, by simp [isPosition]⟩
  · rintro ⟨rfl | isBeneath, notTop⟩
    · exact absurd rfl notTop
    · exact isBeneath

end Document

section Interfaces

mutual

/-- The interfaces of a resource are those of the sites from it on that have methods. -/
theorem Resource.interfaces_eq (position : List Nat) (path : List String) :
    (resource : Resource) →
      Resource.interfaces path resource =
        ((resource.sitesFrom position path).filter ResourceSite.hasMethods).map
          ResourceSite.interface
  | ⟨methods, resources⟩ => by
      rw [Resource.interfaces, Resource.sitesFrom,
        Resource.childInterfaces_eq position path 0 resources, List.filter_cons]
      cases methods <;>
        simp [Interface.ofMethods, ResourceSite.hasMethods, ResourceSite.interface]

/-- The interfaces of the resources beneath a path are those of the sites with methods there. -/
theorem Resource.childInterfaces_eq (position : List Nat) (path : List String) (first : Nat) :
    (resources : List (String × Resource)) →
      Resource.childInterfaces path resources =
        ((Resource.sitesBeneath position path first resources).filter
          ResourceSite.hasMethods).map ResourceSite.interface
  | [] => rfl
  | (name, resource) :: rest => by
      rw [Resource.childInterfaces, Resource.sitesBeneath, List.filter_append, List.map_append,
        Resource.interfaces_eq (position ++ [first]) (path ++ [name]) resource,
        Resource.childInterfaces_eq position path (first + 1) rest]

end

/-- The interfaces of a document are that of its top and those of its resources with methods. -/
theorem Document.interfaces_eq (document : Document) :
    document.interfaces = Interface.ofMethods document.name document.methods ++
      (document.resourceSites.filter ResourceSite.hasMethods).map ResourceSite.interface := by
  rw [interfaces, Resource.childInterfaces_eq [] [] 0 document.resources, resourceSites]

end Interfaces

section Methods

/-- The methods at a site. -/
def ResourceSite.methodSites (site : ResourceSite) : List MethodSite :=
  (site.resource.methods.map Prod.snd).zipIdx.map fun entry => ⟨site, entry.2, entry.1⟩

/-- The methods of a document, site by site. -/
def Document.methodSites (document : Document) : List MethodSite :=
  document.sites.flatMap ResourceSite.methodSites

variable {document : Document} {site : ResourceSite} {place : MethodSite}

/-- The methods at a site have its numbers. -/
theorem ResourceSite.mem_methodSites_iff :
    place ∈ site.methodSites ↔ place.site = site ∧
      (site.resource.methods.map Prod.snd)[place.number]? = some place.method := by
  rw [methodSites, List.mem_map]
  constructor
  · rintro ⟨⟨method, number⟩, numbered, rfl⟩
    exact ⟨rfl, List.mem_zipIdx_iff_getElem?.mp numbered⟩
  · rintro ⟨rfl, entry⟩
    exact ⟨(place.method, place.number), List.mem_zipIdx_iff_getElem?.mpr entry, rfl⟩

/-- The methods of a document are listed. -/
theorem Document.mem_methodSites_iff : place ∈ document.methodSites ↔ place.IsIn document := by
  rw [methodSites, List.mem_flatMap]
  constructor
  · rintro ⟨site, isSite, atSite⟩
    obtain ⟨rfl, entry⟩ := ResourceSite.mem_methodSites_iff.mp atSite
    exact ⟨mem_sites_iff.mp isSite, entry⟩
  · rintro ⟨isSite, entry⟩
    exact ⟨place.site, mem_sites_iff.mpr isSite, ResourceSite.mem_methodSites_iff.mpr ⟨rfl, entry⟩⟩

/-- The methods at a site stand in order. -/
theorem ResourceSite.pairwise_methodSites (site : ResourceSite) :
    site.methodSites.Pairwise MethodSite.Before := by
  rw [methodSites, List.pairwise_map]
  have numbers : ((site.resource.methods.map Prod.snd).zipIdx.map Prod.snd).Pairwise (· < ·) := by
    rw [List.zipIdx_map_snd]
    exact List.pairwise_lt_range'
  exact (List.pairwise_map.mp numbers).imp fun less => .inr ⟨rfl, less⟩

/-- The methods of a document stand in order. -/
theorem Document.pairwise_methodSites (document : Document) :
    document.methodSites.Pairwise MethodSite.Before := by
  rw [methodSites, List.pairwise_flatMap]
  refine ⟨fun site _ => site.pairwise_methodSites,
    (document.top.pairwise_sitesFrom [] []).imp fun less place atSite later atLater => ?_⟩
  obtain ⟨rfl, -⟩ := ResourceSite.mem_methodSites_iff.mp atSite
  obtain ⟨rfl, -⟩ := ResourceSite.mem_methodSites_iff.mp atLater
  exact .inl less

/-- The methods at a site are all methods of its resource. -/
theorem ResourceSite.map_method_methodSites (site : ResourceSite) :
    site.methodSites.map MethodSite.method = site.resource.methods.map Prod.snd := by
  rw [methodSites, List.map_map]
  exact List.zipIdx_map_fst 0 _

/-- Sites without methods have no interface and nothing to put into one. -/
theorem flatMap_methods_map_interface (sites : List ResourceSite) :
    ((sites.filter ResourceSite.hasMethods).map ResourceSite.interface).flatMap Interface.methods =
      (sites.flatMap ResourceSite.methodSites).map MethodSite.method := by
  induction sites with
  | nil => rfl
  | cons site rest inductionHypothesis =>
      rw [List.flatMap_cons, List.map_append, site.map_method_methodSites, ← inductionHypothesis,
        List.filter_cons]
      cases anyMethods : site.hasMethods with
      | true => rfl
      | false =>
          have noMethods : site.resource.methods = [] := by
            simpa [ResourceSite.hasMethods] using anyMethods
          simp [noMethods]

/-- The methods of the interfaces of a document are its methods in their order. -/
theorem Document.flatMap_methods_interfaces (document : Document) :
    document.interfaces.flatMap Interface.methods =
      document.methodSites.map MethodSite.method := by
  have atTop : (Interface.ofMethods document.name document.methods).flatMap Interface.methods =
      document.methods.map Prod.snd := by
    cases noMethods : document.methods <;> simp [Interface.ofMethods]
  rw [interfaces_eq, List.flatMap_append, atTop, flatMap_methods_map_interface, methodSites,
    sites_eq, List.flatMap_cons, List.map_append, ResourceSite.map_method_methodSites]
  rfl

/-- Of two methods only one is declared before the other. -/
theorem MethodSite.Before.asymm {later : MethodSite} (before : place.Before later) :
    ¬ later.Before place := by
  rcases before with less | ⟨same, less⟩
  · rintro (greater | ⟨same, -⟩)
    · exact lt_asymm less greater
    · exact less.ne same.symm
  · rintro (greater | ⟨-, greater⟩)
    · exact greater.ne same.symm
    · exact lt_asymm less greater

/-- Where methods stand in order, a method that is declared before another one stands before it. -/
theorem MethodSite.sublist_of_before {places : List MethodSite} {later : MethodSite}
    (inOrder : places.Pairwise Before) (isPlace : place ∈ places) (isLater : later ∈ places)
    (before : place.Before later) : [place, later].Sublist places := by
  induction inOrder with
  | nil => cases isPlace
  | cons first others inductionHypothesis =>
      rcases List.mem_cons.mp isPlace with rfl | inRest
      · rcases List.mem_cons.mp isLater with rfl | laterInRest
        · exact absurd before before.asymm
        · exact (List.singleton_sublist.mpr laterInRest).cons_cons _
      · rcases List.mem_cons.mp isLater with rfl | laterInRest
        · exact absurd (first place inRest) before.asymm
        · exact (inductionHypothesis inRest laterInRest).cons _

end Methods

/-- The interfaces of a document are that of its own methods, if there are any, and then one for
each of its resources with methods, a resource before those beneath it and these before the next one
beside it. Together they hold all methods of the document, each once and in the same order, so that
the methods of a resource come before those of any resource beneath it. -/
theorem interfaces_in_order (document : Document) :
    (∃ sites : List ResourceSite,
      (∀ site, site ∈ sites ↔
        site.IsIn document ∧ site.position ≠ [] ∧ site.resource.methods ≠ []) ∧
      sites.Pairwise (fun site later => site.position < later.position) ∧
      document.interfaces =
        (if document.methods = [] then []
          else [⟨document.name, document.methods.map Prod.snd⟩]) ++
        sites.map fun site =>
          ⟨".".intercalate site.path, site.resource.methods.map Prod.snd⟩) ∧
    ∃ places : List MethodSite,
      (∀ place, place ∈ places ↔ place.IsIn document) ∧
      places.Pairwise MethodSite.Before ∧
      document.interfaces.flatMap Interface.methods = places.map MethodSite.method ∧
      ∀ outer ∈ places, ∀ inner ∈ places, ∀ number rest,
        inner.site.position = outer.site.position ++ number :: rest →
        [outer, inner].Sublist places := by
  refine ⟨⟨document.resourceSites.filter ResourceSite.hasMethods, fun site => ?_, ?_, ?_⟩,
    document.methodSites, fun place => Document.mem_methodSites_iff,
    document.pairwise_methodSites, document.flatMap_methods_interfaces,
    fun outer isOuter inner isInner number rest isBeneath => ?_⟩
  · rw [List.mem_filter, Document.mem_resourceSites_iff, and_assoc]
    simp [ResourceSite.hasMethods]
  · exact (Resource.pairwise_sitesBeneath [] [] 0 document.resources).filter _
  · rw [document.interfaces_eq, Interface.ofMethods]
    simp only [List.isEmpty_iff]
    rfl
  · refine MethodSite.sublist_of_before document.pairwise_methodSites isOuter isInner (.inl ?_)
    have longer : outer.site.position ++ [] < outer.site.position ++ number :: rest :=
      List.append_left_lt (List.nil_lt_cons _ _)
    rwa [List.append_nil, ← isBeneath] at longer

end RequestSurface
