import RequestSurface.Method.Naming
import RequestSurface.Settings

/-!
# Flattening

The settings of a method bound to its fields: groups of fields that are folded into one call, each
field with the way its resource name is represented.
-/

namespace RequestSurface

/-- A field of a flattening group. -/
structure FlattenedField where
  field : Field
  treatment : Treatment := .none
  pattern : Option String := none
  deriving Repr, Inhabited

/-- Whether a field takes the form of a resource name: resource names are enabled, the field is
treated so, and it has a pattern. -/
def FlattenedField.isResourceName (enabled : Bool) (flattened : FlattenedField) : Bool :=
  enabled && flattened.treatment == .staticTypes && flattened.pattern.isSome

/-- The flattening of a method. -/
structure Flattening where
  groups : List (List FlattenedField) := []
  resourceNames : Bool := true
  deriving Repr, Inhabited

namespace Flattening

/-- The failure of a group that names a parameter the method does not have. -/
def undeclared (method : Method) (parameter : String) : Failure :=
  .configuration
    ("Flattening parameter '" ++ parameter ++ "' is not a field of " ++ method.id) none
    (some ("methods." ++ method.id ++ ".flattening"))

/-- Bind a parameter of a group. Without a pattern it is never a resource name. -/
def bindField (settings : MethodSettings) (method : Method) (parameter : String) :
    Except Failure FlattenedField :=
  match method.parameter? parameter with
  | none => .error (undeclared method parameter)
  | some field =>
      match settings.patterns.lookup parameter with
      | some pattern => .ok ⟨field, settings.treatment, some pattern⟩
      | none => .ok ⟨field, .none, none⟩

/-- The flattening of a method under the settings of its document. -/
def ofSettings (settings : DocumentSettings) (method : Method) : Except Failure Flattening :=
  match settings.methods.lookup method.id with
  | none => .ok { resourceNames := settings.resourceNames }
  | some own => do
      let groups ← own.flattening.mapM fun group => group.mapM (bindField own method)
      return ⟨groups, settings.resourceNames⟩

/-- The first field, group by group, that takes the form of a resource name. -/
def resourceName? (flattening : Flattening) : Option FlattenedField :=
  flattening.groups.flatten.find? (FlattenedField.isResourceName flattening.resourceNames)

end Flattening

/-- The configured method ids that are not among the known ones, in order. -/
def DocumentSettings.unknownMethods (settings : DocumentSettings) (known : List String) :
    List String :=
  ((settings.methods.map (·.1)).filter (!known.contains ·)).mergeSort fun left right =>
    decide (left ≤ right)

end RequestSurface
