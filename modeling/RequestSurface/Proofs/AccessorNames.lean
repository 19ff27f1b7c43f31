import Mathlib
import RequestSurface.Proofs.Accessors
import RequestSurface.Proofs.CamelCase
import RequestSurface.Proofs.FinishedProperties

/-!
# What accessors are named after

The accessors of standard parameters and of the resource identifier are named after what these are
called in the document, those of declared parameters after their names as fields. Where words are
joined by underscores this makes no difference. Where they are run together with capitals it makes
one for the parameters whose names, as fields, look as if they had other words.
-/

namespace RequestSurface

/-- Every accessor of a property is called after a name. -/
structure Property.CalledAfter (surface : Surface) (name : String) (property : Property) :
    Prop where
  getter : property.getter = surface.getterName name
  setter : property.setter = surface.setterName name property.isRepeated
  adder : ∀ adder ∈ property.adder, adder = surface.adderName name

/-- How the accessors of the property of a source are called: after its raw name, or after the field
where it is declared. For each of its accessors this is the same exactly where the capitals of the
field keep the words of its name apart. -/
def PropertySource.NamesAccessors (surface : Surface) (property : Property) : PropertySource → Prop
  | declared field =>
      property.CalledAfter surface (surface.fieldName field.name) ∧
        [surface = .java → KeepsCapitals (wordsOf field.name.toList).tail,
          property.getter = surface.getterName property.rawName,
          property.setter = surface.setterName property.rawName property.isRepeated,
          property.adder = some (surface.adderName property.rawName)].TFAE
  | standard .. => property.CalledAfter surface property.rawName
  | identifier .. => property.CalledAfter surface property.rawName

/-- Each accessor of a field is called like that of its raw name exactly where the capitals of the
field keep the words of its name apart. -/
theorem Surface.accessors_fieldName_tfae (surface : Surface) (raw : String) (repeated : Bool) :
    [surface = .java → KeepsCapitals (wordsOf raw.toList).tail,
      surface.getterName (surface.fieldName raw) = surface.getterName raw,
      surface.setterName (surface.fieldName raw) repeated = surface.setterName raw repeated,
      some (surface.adderName (surface.fieldName raw)) = some (surface.adderName raw)].TFAE := by
  have sameTail := surface.accessorTail_fieldName_iff raw
  tfae_have 1 ↔ 2 := by
    rw [surface.getterName_eq, surface.getterName_eq, String.append_right_inj, sameTail]
  tfae_have 1 ↔ 3 := by
    rw [surface.setterName_eq, surface.setterName_eq, String.append_right_inj, sameTail]
  tfae_have 1 ↔ 4 := by
    rw [surface.adderName_eq, surface.adderName_eq, Option.some_inj, String.append_right_inj,
      sameTail]
  tfae_finish

section Drafting

variable {surface : Surface} {package : String} {method : Method} {flattening : Flattening}
  {draft : PropertyDraft} {drafts : List PropertyDraft}

/-- However the draft of a source is finished, its accessors are called as those of the source. -/
def PropertyDraft.AccessedAs (surface : Surface) (draft : PropertyDraft) (source : PropertySource) :
    Prop :=
  ∀ name text, source.NamesAccessors surface (draft.finish name text)

/-- The accessors of a declared field are drafted after its name as a field. -/
theorem PropertyDraft.accessedAs_declared {field : Field}
    (drafted : PropertyDraft.declared surface package field field.name = .ok draft) :
    draft.AccessedAs surface (.declared field) := by
  obtain ⟨types, -, rfl⟩ := exists_types_of_declared drafted
  intro name text
  refine ⟨⟨rfl, rfl, fun adder isAdder => (Option.mem_some_iff.mp isAdder).symm⟩, ?_⟩
  exact surface.accessors_fieldName_tfae field.name field.isRepeated

/-- The accessors of the resource identifier are drafted after its raw name. -/
theorem PropertyDraft.accessedAs_identifier {rawName description : String}
    (drafted : PropertyDraft.identifier surface method
      (ResourceNameParameter.ofFlattening surface flattening) = .ok draft) :
    draft.AccessedAs surface (.identifier rawName description) := by
  intro name text
  rw [PropertyDraft.eq_of_identifier drafted]
  exact ⟨rfl, rfl, fun adder isAdder => by cases isAdder⟩

end Drafting

/-- The accessors of the finished drafts of a method are called as those of its sources. -/
theorem RequestContext.Built.finishAll_accessedAs {context : RequestContext} {method : Method}
    {flattening : Flattening} {table last : ImportTable} {built : BuiltRequest}
    {drafts : List PropertyDraft} {bodyDraft : Option PropertyDraft}
    (parts : context.Built method flattening table built last drafts bodyDraft) :
    List.Forall₂ (fun property source => source.NamesAccessors context.surface property)
      (finishAll context.surface (context.propertySymbols method) table drafts)
      (method.propertySources flattening) := by
  have drafted := parts.drafted
  rw [parts.parameter] at drafted
  exact forall₂_finishAll (method.forall₂_propertySources drafted
    (fun _ _ _ _ => ⟨rfl, rfl, fun _ isAdder => by cases isAdder⟩)
    (fun _ _ => PropertyDraft.accessedAs_declared) (fun _ => PropertyDraft.accessedAs_identifier))

/-- However a request is built, the accessors of its properties are called after their raw names, or
after the fields of those that are declared. An accessor of a declared one is called after the raw
name as well exactly where names are joined by underscores, or where no word of this name behind the
first is a single letter before one that starts with a letter and has no letter for its second
character. -/
theorem accessors_called_after (context : RequestContext) (method : Method)
    (flattening : Flattening) (table : ImportTable) (built : BuiltRequest)
    (success : (context.build method flattening table).1 = .ok built) :
    ∃ given, built.message.properties.Perm given ∧
      List.Forall₂ (fun property source => property.ComesFrom context.surface source ∧
        source.NamesAccessors context.surface property) given
        (method.propertySources flattening) := by
  obtain ⟨drafts, bodyDraft, parts⟩ := RequestContext.exists_built (Prod.ext success rfl)
  have comeFrom := parts.finishAll_comesFrom
  have accessed := parts.finishAll_accessedAs
  exact ⟨_, parts.properties_perm, List.forall₂_iff_zip.mpr ⟨comeFrom.length_eq, fun inZip =>
    ⟨List.forall₂_zip comeFrom inZip, List.forall₂_zip accessed inZip⟩⟩⟩

/-- A method that takes the coordinates of a point, under names with separators, acronyms, digits
and single letters. -/
def pointMethod : Method where
  id := "store.points.get"
  path := "points/{point}"
  parameters :=
    [("point", { type := some "string", required := true, location := some .path }),
      ("x_y_z", { type := some "number", location := some .query }),
      ("x_2d_axis", { type := some "string", repeated := true, location := some .query }),
      ("HTTPRequest", { type := some "string", location := some .query })]

/-- The accessors of this method's parameters are called after their raw names, but for those of
the first one outside the path. -/
theorem accessors_called_after_points :
    (∃ built, ((storeContext .java).build pointMethod {} {}).1 = .ok built ∧
      ∃ given, built.message.properties.Perm given ∧
        List.Forall₂ (fun property source => property.ComesFrom .java source ∧
          source.NamesAccessors .java property) given (pointMethod.propertySources {})) ∧
    (pointMethod.fields.filter (!·.inPath)).map (fun field =>
      decide (KeepsCapitals (wordsOf field.name.toList).tail)) = [false, true, true] := by
  refine ⟨?_, by decide +kernel⟩
  obtain ⟨built, success⟩ := exists_eq_ok_of_isOk
    (show ((storeContext .java).build pointMethod {} {}).1.isOk = true by decide +kernel)
  exact ⟨built, success, accessors_called_after (storeContext .java) pointMethod {} {} built success⟩

/-- The property of a coordinate: its name as a field looks as if it had two words. -/
def coordinateProperty : Property where
  rawName := "x_y_z"
  name := "xYZ"
  typeName := "Double"
  innerTypeName := "Double"
  isRequired := false
  isRepeated := false
  getter := "getXYz"
  setter := "setXYz"
  adder := some "addXYz"

/-- Accessors of a declared parameter can be called otherwise than after its raw name. -/
theorem accessors_miss_raw_name :
    ¬ ∀ (context : RequestContext) (settings : DocumentSettings) (method : Method)
      (flattening : Flattening) (table : ImportTable) (built : BuiltRequest),
      Flattening.ofSettings settings method = .ok flattening →
      (context.build method flattening table).1 = .ok built →
      ∀ property ∈ built.message.properties, ∀ field ∈ method.fields, field.inPath = false →
        property.ComesFrom context.surface (.declared field) →
        property.getter = context.surface.getterName property.rawName ∧
        property.setter = context.surface.setterName property.rawName property.isRepeated ∧
        property.adder = some (context.surface.adderName property.rawName) := by
  intro named
  obtain ⟨built, success⟩ := exists_eq_ok_of_isOk
    (show ((storeContext .java).build pointMethod {} {}).1.isOk = true by decide +kernel)
  obtain ⟨drafts, bodyDraft, parts⟩ := RequestContext.exists_built (Prod.ext success rfl)
  have drafted : (pointMethod.drafts .java "com.example.store" built.parameter).1 = drafts :=
    congrArg Prod.fst parts.drafted
  rw [parts.parameter] at drafted
  have member : coordinateProperty ∈ built.message.properties := by
    rw [parts.properties_perm.mem_iff, ← drafted]
    decide +kernel
  let field : Field := .ofSchema { type := some "number", location := some .query } (some "x_y_z")
  let settings : DocumentSettings :=
    { source := "store.json", output := "out", packageName := "com.example.store" }
  have isField : field ∈ pointMethod.fields := List.mem_cons_of_mem _ List.mem_cons_self
  have comesFrom : coordinateProperty.ComesFrom .java (.declared field) :=
    ⟨by decide +kernel, iff_of_false (by decide) (by decide)⟩
  have sameGetter := (named (storeContext .java) settings pointMethod {} {} built rfl success
    coordinateProperty member field isField rfl comesFrom).1
  exact absurd sameGetter (by decide +kernel)

end RequestSurface
