import Mathlib
import RequestSurface.CommandLine

/-!
# Units as values

What is printed of a unit is a value. The value has every part of the unit under the name of that
part, so the unit can be told from its value alone.
-/

namespace RequestSurface

/-! ## Values of parts -/

namespace Value

/-- The value at a key of a record. -/
def field? : Value → String → Option Value
  | .mapping entries, name => findText? entries name
  | _, _ => none

/-- A text is told by its value. -/
theorem text_injective : Function.Injective text := by
  intro first second same
  simpa [text] using same

/-- Texts are told by their value. -/
theorem texts_injective : Function.Injective texts := by
  intro first second same
  have mapped : first.map text = second.map text := by simpa [texts] using same
  exact text_injective.list_map mapped

/-- A text that may be absent is told by its value. -/
theorem optionalText_injective : Function.Injective optionalText := by
  intro first second same
  cases first <;> cases second <;> simp_all [optionalText, text, null]

/-- A truth value is told by its value. -/
theorem bool_injective : Function.Injective bool := by
  intro first second same
  simpa [bool] using same

end Value

/-- The value of an import, part by part. -/
structure Import.CarriedBy (entry : Import) (value : Value) : Prop where
  qualifiedName : value.field? "qualified_name" = some (.text entry.qualifiedName)
  localName : value.field? "alias" = some (.text entry.localName)

/-- The value of a property, part by part. A property has no properties of its own. -/
structure Property.CarriedBy (property : Property) (value : Value) : Prop where
  rawName : value.field? "raw_name" = some (.text property.rawName)
  name : value.field? "name" = some (.text property.name)
  typeName : value.field? "type_name" = some (.text property.typeName)
  innerTypeName : value.field? "inner_type_name" = some (.text property.innerTypeName)
  isRequired : value.field? "is_required" = some (.bool property.isRequired)
  isRepeated : value.field? "is_repeated" = some (.bool property.isRepeated)
  getter : value.field? "get_function" = some (.text property.getter)
  setter : value.field? "set_function" = some (.text property.setter)
  adder : value.field? "add_function" = some (.optionalText property.adder)
  docLines : value.field? "doc_lines" = some (.texts property.docLines)
  properties : value.field? "properties" = some (.list [])

/-- The value of a body that may be absent. -/
inductive Property.CarriedByOption : Option Property → Value → Prop where
  | none : CarriedByOption none .null
  | some {property : Property} {value : Value} (carried : property.CarriedBy value) :
      CarriedByOption (some property) value

/-- The value of a message, part by part. A message is always required and never repeated. -/
structure RequestMessage.CarriedBy (message : RequestMessage) (value : Value) : Prop where
  rawName : value.field? "raw_name" = some (.text message.rawName)
  name : value.field? "name" = some (.text message.name)
  typeName : value.field? "type_name" = some (.text message.typeName)
  properties : ∃ values, value.field? "properties" = some (.list values) ∧
    List.Forall₂ Property.CarriedBy message.properties values
  hasRequiredProperties :
    value.field? "has_required_properties" = some (.bool message.hasRequiredProperties)
  hasFieldMask : value.field? "has_field_mask" = some (.bool message.hasFieldMask)
  body : ∃ body, value.field? "request_body_type" = some body ∧
    Property.CarriedByOption message.body body
  docLines : value.field? "doc_lines" = some (.texts message.docLines)
  isRequired : value.field? "is_required" = some (.bool true)
  isRepeated : value.field? "is_repeated" = some (.bool false)

/-- The value of a unit, part by part. The head of its file has its imports once more. -/
structure OutputUnit.CarriedBy (unit : OutputUnit) (value : Value) : Prop where
  path : value.field? "output_path" = some (.text unit.path)
  imports : ∃ values, value.field? "imports" = some (.list values) ∧
    List.Forall₂ Import.CarriedBy unit.imports values
  head : ∃ head, value.field? "file_header" = some head ∧
    head.field? "package_name" = some (.text unit.packageName) ∧
    ∃ values, head.field? "imports" = some (.list values) ∧
      List.Forall₂ Import.CarriedBy unit.imports values
  message : ∃ message, value.field? "message_view" = some message ∧ unit.message.CarriedBy message
  templateName : value.field? "template_name" = some (.text unit.templateName)

/-- The value of what was lowered from a source. -/
structure Lowered.CarriedBy (lowered : Lowered) (value : Value) : Prop where
  source : value.field? "source" = some (.text lowered.source)
  units : ∃ values, value.field? "units" = some (.list values) ∧
    List.Forall₂ OutputUnit.CarriedBy lowered.units values

/-! ## What is printed carries every part -/

/-- Items are carried by their values one by one. -/
theorem forall₂_map_of_carried {α : Type} {carriedBy : α → Value → Prop} {toValue : α → Value}
    (carried : ∀ item, carriedBy item (toValue item)) (items : List α) :
    List.Forall₂ carriedBy items (items.map toValue) := by
  rw [List.forall₂_map_right_iff]
  exact List.forall₂_same.mpr fun item _ => carried item

/-- An import is carried by its value. -/
theorem Import.carriedBy_toValue (entry : Import) : entry.CarriedBy entry.toValue := by
  constructor <;> simp [toValue, Value.record, Value.field?, findText?]

/-- A property is carried by its value. -/
theorem Property.carriedBy_toValue (property : Property) : property.CarriedBy property.toValue := by
  constructor <;> simp [toValue, Value.record, Value.field?, findText?]

/-- A message is carried by its value. -/
theorem RequestMessage.carriedBy_toValue (message : RequestMessage) :
    message.CarriedBy message.toValue where
  rawName := rfl
  name := rfl
  typeName := rfl
  properties := ⟨_, rfl, forall₂_map_of_carried Property.carriedBy_toValue _⟩
  hasRequiredProperties := rfl
  hasFieldMask := rfl
  body := by
    refine ⟨_, rfl, ?_⟩
    cases message.body with
    | none => exact .none
    | some body => exact .some body.carriedBy_toValue
  docLines := rfl
  isRequired := rfl
  isRepeated := rfl

/-- A unit is carried by its value. -/
theorem OutputUnit.carriedBy_toValue (unit : OutputUnit) : unit.CarriedBy unit.toValue where
  path := rfl
  imports := ⟨_, rfl, forall₂_map_of_carried Import.carriedBy_toValue _⟩
  head := ⟨_, rfl, rfl, _, rfl, forall₂_map_of_carried Import.carriedBy_toValue _⟩
  message := ⟨_, rfl, unit.message.carriedBy_toValue⟩
  templateName := rfl

/-- What was lowered from a source is carried by its value. -/
theorem Lowered.carriedBy_toValue (lowered : Lowered) : lowered.CarriedBy lowered.toValue where
  source := rfl
  units := ⟨_, rfl, forall₂_map_of_carried OutputUnit.carriedBy_toValue _⟩

/-! ## Nothing is lost -/

/-- What is found at a key of one record is the same, if it is told by its value. -/
theorem Value.eq_of_field? {α : Type} {toValue : α → Value} {value : Value} {name : String}
    {part other : α} (injective : Function.Injective toValue)
    (first : value.field? name = some (toValue part))
    (second : value.field? name = some (toValue other)) : part = other :=
  injective (Option.some.inj (first.symm.trans second))

/-- Parts at a key of one record are the same, if they are told by their values. -/
theorem Value.part_eq_of_field? {α : Type} {carriedBy : α → Value → Prop} {value : Value}
    {name : String} {part other : α} (unique : Relator.LeftUnique carriedBy)
    (first : ∃ held, value.field? name = some held ∧ carriedBy part held)
    (second : ∃ held, value.field? name = some held ∧ carriedBy other held) : part = other := by
  obtain ⟨held, found, carried⟩ := first
  obtain ⟨otherHeld, otherFound, otherCarried⟩ := second
  obtain rfl := Option.some.inj (found.symm.trans otherFound)
  exact unique carried otherCarried

/-- Lists at a key of one record have the same items, if each item is told by its value. -/
theorem Value.items_eq_of_field? {α : Type} {carriedBy : α → Value → Prop} {value : Value}
    {name : String} {parts others : List α} (unique : Relator.LeftUnique carriedBy)
    (first : ∃ values, value.field? name = some (.list values) ∧
      List.Forall₂ carriedBy parts values)
    (second : ∃ values, value.field? name = some (.list values) ∧
      List.Forall₂ carriedBy others values) : parts = others := by
  obtain ⟨values, found, carried⟩ := first
  obtain ⟨otherValues, otherFound, otherCarried⟩ := second
  have same : values = otherValues := by simpa using found.symm.trans otherFound
  subst same
  exact List.left_unique_forall₂' unique carried otherCarried

/-- An import is told by its value. -/
theorem Import.carriedBy_leftUnique : Relator.LeftUnique Import.CarriedBy := by
  rintro ⟨⟩ ⟨⟩ value first second
  rw [Import.mk.injEq]
  exact ⟨Value.eq_of_field? Value.text_injective first.qualifiedName second.qualifiedName,
    Value.eq_of_field? Value.text_injective first.localName second.localName⟩

/-- A property is told by its value. -/
theorem Property.carriedBy_leftUnique : Relator.LeftUnique Property.CarriedBy := by
  rintro ⟨⟩ ⟨⟩ value first second
  rw [Property.mk.injEq]
  exact ⟨Value.eq_of_field? Value.text_injective first.rawName second.rawName,
    Value.eq_of_field? Value.text_injective first.name second.name,
    Value.eq_of_field? Value.text_injective first.typeName second.typeName,
    Value.eq_of_field? Value.text_injective first.innerTypeName second.innerTypeName,
    Value.eq_of_field? Value.bool_injective first.isRequired second.isRequired,
    Value.eq_of_field? Value.bool_injective first.isRepeated second.isRepeated,
    Value.eq_of_field? Value.text_injective first.getter second.getter,
    Value.eq_of_field? Value.text_injective first.setter second.setter,
    Value.eq_of_field? Value.optionalText_injective first.adder second.adder,
    Value.eq_of_field? Value.texts_injective first.docLines second.docLines⟩

/-- A body that may be absent is told by its value: the value of a property is not null. -/
theorem Property.carriedByOption_leftUnique : Relator.LeftUnique Property.CarriedByOption := by
  rintro body other value first second
  cases first with
  | none =>
      cases second with
      | none => rfl
      | some carried => cases carried.rawName
  | some carried =>
      cases second with
      | none => cases carried.rawName
      | some others => rw [carriedBy_leftUnique carried others]

/-- A message is told by its value. -/
theorem RequestMessage.carriedBy_leftUnique : Relator.LeftUnique RequestMessage.CarriedBy := by
  rintro ⟨⟩ ⟨⟩ value first second
  rw [RequestMessage.mk.injEq]
  exact ⟨Value.eq_of_field? Value.text_injective first.rawName second.rawName,
    Value.eq_of_field? Value.text_injective first.name second.name,
    Value.eq_of_field? Value.text_injective first.typeName second.typeName,
    Value.items_eq_of_field? Property.carriedBy_leftUnique first.properties second.properties,
    Value.eq_of_field? Value.bool_injective first.hasRequiredProperties
      second.hasRequiredProperties,
    Value.eq_of_field? Value.bool_injective first.hasFieldMask second.hasFieldMask,
    Value.part_eq_of_field? Property.carriedByOption_leftUnique first.body second.body,
    Value.eq_of_field? Value.texts_injective first.docLines second.docLines⟩

/-- A unit is told by its value. -/
theorem OutputUnit.carriedBy_leftUnique : Relator.LeftUnique OutputUnit.CarriedBy := by
  rintro ⟨⟩ ⟨⟩ value first second
  obtain ⟨head, hasHead, package, -⟩ := first.head
  obtain ⟨otherHead, hasOtherHead, otherPackage, -⟩ := second.head
  obtain rfl := Option.some.inj (hasHead.symm.trans hasOtherHead)
  rw [OutputUnit.mk.injEq]
  exact ⟨Value.eq_of_field? Value.text_injective first.path second.path,
    Value.items_eq_of_field? Import.carriedBy_leftUnique first.imports second.imports,
    Value.eq_of_field? Value.text_injective package otherPackage,
    Value.part_eq_of_field? RequestMessage.carriedBy_leftUnique first.message second.message,
    Value.eq_of_field? Value.text_injective first.templateName second.templateName⟩

/-- What was lowered from a source is told by its value. -/
theorem Lowered.carriedBy_leftUnique : Relator.LeftUnique Lowered.CarriedBy := by
  rintro ⟨⟩ ⟨⟩ value first second
  rw [Lowered.mk.injEq]
  exact ⟨Value.eq_of_field? Value.text_injective first.source second.source,
    Value.items_eq_of_field? OutputUnit.carriedBy_leftUnique first.units second.units⟩

end RequestSurface
