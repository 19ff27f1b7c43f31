import RequestSurface.Reading.Fault

/-!
# Readings

A reading of a value always has a result, so all of a value can be read although a part of it does
not fit; the value is accepted exactly when its reading has no faults. A reading also keeps the
record of what was given: the value with the names of this library for its keys and with every
part converted.
-/

namespace RequestSurface

/-- What was made of a value. -/
structure Reading (α : Type) where
  result : α
  record : Value
  faults : List Fault

namespace Reading

variable {α : Type}

/-- A value that fits. -/
def fit (result : α) (record : Value) : Reading α :=
  ⟨result, record, []⟩

/-- A value that does not fit, with a result to go on with. -/
def misfit (demand : Demand) (given : Value) (result : α) : Reading α :=
  ⟨result, .null, [⟨[], demand, given⟩]⟩

/-- Accept a reading without faults. -/
def accept (reading : Reading α) : Except (List Fault) α :=
  if reading.faults.isEmpty then .ok reading.result else .error reading.faults

/-- Read a text. -/
def text : Value -> Reading String
  | .scalar (.text value) => fit value (.text value)
  | other => misfit .text other ""

/-- Read a text that is not empty. -/
def nonEmptyText : Value -> Reading String
  | .scalar (.text value) =>
      if value.isEmpty then misfit .nonEmptyText (.text value) "" else fit value (.text value)
  | other => misfit .text other ""

/-- Read null as nothing, and anything else as the given reading does. -/
def optional (value : Value) (reading : Reading α) : Reading (Option α) :=
  if value.isNull then fit none .null
  else ⟨some reading.result, reading.record, reading.faults⟩

/-- Read a text or null. -/
def optionalText (value : Value) : Reading (Option String) :=
  optional value (text value)

/-- Words for a truth value, in lower case. -/
def flagWords : List (String × Bool) :=
  [("0", false), ("off", false), ("f", false), ("false", false), ("n", false), ("no", false),
    ("1", true), ("on", true), ("t", true), ("true", true), ("y", true), ("yes", true)]

/-- Read a truth value. The numbers zero and one and some words stand for truth values. A word or
a 64-bit number that stands for none is told apart from a value of another kind. -/
def flag : Value -> Reading Bool
  | .scalar (.bool value) => fit value (.bool value)
  | .scalar (.int value) =>
      if value = 0 then fit false (.bool false)
      else if value = 1 then fit true (.bool true)
      else misfit (if fitsWord value then .flagWord else .flag) (.int value) false
  | .scalar (.float value) =>
      if value.equalsInt 0 then fit false (.bool false)
      else if value.equalsInt 1 then fit true (.bool true)
      else misfit .flag (.scalar (.float value)) false
  | .scalar (.text value) =>
      match flagWords.lookup (String.ofList (value.toList.map Char.toLower)) with
      | some answer => fit answer (.bool answer)
      | none => misfit .flagWord (.text value) false
  | other => misfit .flag other false

/-- Read anything. -/
def free (value : Value) : Reading Unit :=
  fit () value

/-- Number the readings of a list's items and gather them. -/
def gatherItems (position : Nat) : List (Reading α) -> List α × List Value × List Fault
  | [] => ([], [], [])
  | reading :: rest =>
      let (results, records, faults) := gatherItems (position + 1) rest
      (reading.result :: results, reading.record :: records,
        reading.faults.map (Fault.beneath (.index position)) ++ faults)

/-- Read a list, item by item. -/
def list (item : Value -> Reading α) : Value -> Reading (List α)
  | .list items =>
      let (results, records, faults) := gatherItems 0 (items.map item)
      ⟨results, .list records, faults⟩
  | other => misfit .list other []

/-- Gather the readings of a mapping's values under their keys, which must be texts. -/
def gatherEntries :
    List (Scalar × Reading α) -> List (String × α) × List (Scalar × Value) × List Fault
  | [] => ([], [], [])
  | (key, reading) :: rest =>
      let (results, records, faults) := gatherEntries rest
      let inner := reading.faults.map (Fault.beneath (Step.ofScalar key)) ++ faults
      match key with
      | .text name => ((name, reading.result) :: results, (key, reading.record) :: records, inner)
      | _ =>
          (results, records, ⟨[Step.ofScalar key, .key "[key]"], .text, .scalar key⟩ :: inner)

/-- Read a mapping whose values have been read. -/
def ofEntries (entries : List (Scalar × Reading α)) : Reading (List (String × α)) :=
  let (results, records, faults) := gatherEntries entries
  ⟨results, .mapping records, faults⟩

/-- Read a mapping, value by value. -/
def mapping (item : Value -> Reading α) : Value -> Reading (List (String × α))
  | .mapping entries => ofEntries (entries.map fun entry => (entry.1, item entry.2))
  | other => misfit .mapping other []

/-- Read one of several words. -/
def oneOf (demand : Demand) (options : List (String × α)) (default : α) : Value -> Reading α
  | .scalar (.text value) =>
      match options.lookup value with
      | some answer => fit answer (.text value)
      | none => misfit demand (.text value) default
  | other => misfit demand other default

end Reading

/-- A field of a record: its name, and the name it usually has in documents. -/
structure Slot where
  name : String
  usualName : String
  deriving DecidableEq, Repr

namespace Slot

/-- A field with one name. -/
def plain (name : String) : Slot := ⟨name, name⟩

/-- The key a field is given under, and its value; the usual name goes first. -/
def find? {ν : Type} (slot : Slot) (entries : List (String × ν)) : Option (String × ν) :=
  match entries.lookup slot.usualName with
  | some value => some (slot.usualName, value)
  | none => (entries.lookup slot.name).map fun value => (slot.name, value)

end Slot

/-- A field that has been read: the key it was given under, if any, and its reading. -/
structure Part (α : Type) where
  slot : Slot
  key : Option String
  reading : Reading α

namespace Part

variable {α ν : Type}

/-- Read a field that may be left out. -/
def optional (slot : Slot) (entries : List (String × ν)) (read : ν -> Reading α) (default : α) :
    Part α :=
  match slot.find? entries with
  | some (key, value) => ⟨slot, some key, read value⟩
  | none => ⟨slot, none, .fit default .null⟩

/-- The result of a field. -/
def result (part : Part α) : α := part.reading.result

/-- The faults of a field, seen from its record. A missing field goes by its usual name. -/
def faults (part : Part α) : List Fault :=
  part.reading.faults.map (Fault.beneath (.key (part.key.getD part.slot.usualName)))

/-- A field without its result: key, name, record and faults. -/
structure Outline where
  key : Option String
  name : String
  record : Value
  faults : List Fault

/-- Forget the result of a field. -/
def outline (part : Part α) : Outline :=
  ⟨part.key, part.slot.name, part.reading.record, part.faults⟩

end Part

/-- The entries of a mapping whose keys are texts. -/
def textEntries (entries : List (Scalar × Value)) : List (String × Value) :=
  entries.filterMap fun (key, value) =>
    match key with
    | .text name => some (name, value)
    | _ => none

/-- Read a field that must be there from the entries of a mapping. -/
def Part.required {α : Type} (slot : Slot) (entries : List (Scalar × Value))
    (read : Value -> Reading α) (default : α) : Part α :=
  match slot.find? (textEntries entries) with
  | some (key, value) => ⟨slot, some key, read value⟩
  | none => ⟨slot, none, .misfit .present (.mapping entries) default⟩

namespace Reading

/-- The keys that no field was given under, with their values. -/
def extras (outlines : List Part.Outline) (entries : List (String × Value)) :
    List (String × Value) :=
  entries.filter fun entry => !(outlines.filterMap (·.key)).contains entry.1

/-- The faults of keys that are no texts. -/
def keyFaults (entries : List (Scalar × Value)) : List Fault :=
  entries.filterMap fun (key, _) =>
    match key with
    | .text _ => none
    | _ => some ⟨[Step.ofScalar key], .textKey, .scalar key⟩

/-- The fields that were given, each with its record. -/
def givenFields (outlines : List Part.Outline) : List (String × Value) :=
  outlines.filterMap fun outline => outline.key.map fun _ => (outline.name, outline.record)

/-- The record of the fields that were given and of every other key. A key that has the name of a
field takes that field's place. -/
def openRecord (outlines : List Part.Outline) (entries : List (String × Value)) : Value :=
  let fields := (givenFields outlines).map fun field => (Scalar.text field.1, field.2)
  .mapping ((extras outlines entries).foldl
    (fun done extra => putEntry done (.text extra.1) extra.2) fields)

/-- A record that keeps keys it does not know. -/
def opened {α : Type} (result : α) (outlines : List Part.Outline)
    (entries : List (Scalar × Value)) : Reading α :=
  ⟨result, openRecord outlines (textEntries entries),
    outlines.flatMap (·.faults) ++ keyFaults entries⟩

/-- A record that ignores keys it does not know. -/
def closed {α : Type} (result : α) (outlines : List Part.Outline) : Reading α :=
  ⟨result, .record (givenFields outlines), outlines.flatMap (·.faults)⟩

end Reading

end RequestSurface
