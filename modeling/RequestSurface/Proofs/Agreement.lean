import Mathlib
import RequestSurface.Reading.Basic

/-!
# Readings that agree

Two readings agree when they have one result and are accepted together. How they agree on a record
follows from how they agree on its fields, and what is found for a field follows from the entries
that are given under one of its names.
-/

namespace RequestSurface

/-- Readings with one result, of which either both are accepted or neither is. Their faults need
not be the same: a fault tells the key that a part was given under. -/
structure Reading.Agrees {α : Type} (reading other : Reading α) : Prop where
  result : reading.result = other.result
  faultless : reading.faults = [] ↔ other.faults = []

/-- What holds of readings that agree, said of the readings of a field. -/
structure Part.Agrees {α : Type} (part other : Part α) : Prop where
  result : part.result = other.result
  faultless : part.outline.faults = [] ↔ other.outline.faults = []

/-! ## Fields -/

namespace Slot

variable {ν : Type} {slot : Slot}

/-- The names that a field can be given under. -/
def names (slot : Slot) : List String := [slot.usualName, slot.name]

/-- The entries that are given under a name of a field. -/
def given (slot : Slot) (entries : List (String × ν)) : List (String × ν) :=
  entries.filter fun entry => entry.1 ∈ slot.names

/-- Entries under other keys do not count when a field is looked up. -/
theorem find?_filter {keys : List String} (known : slot.names ⊆ keys)
    (entries : List (String × ν)) :
    slot.find? (entries.filter fun entry => entry.1 ∈ keys) = slot.find? entries := by
  have lookups (key : String) (isKey : key ∈ keys) :
      (entries.filter fun entry => entry.1 ∈ keys).lookup key = entries.lookup key := by
    induction entries with
    | nil => rfl
    | cons entry rest inductionHypothesis =>
        obtain ⟨name, value⟩ := entry
        by_cases present : key = name
        · subst present
          simp [isKey]
        · have absent : (key == name) = false := by simpa using present
          by_cases named : name ∈ keys <;>
            simp [named, List.lookup_cons, absent, inductionHypothesis]
  rw [find?, find?, lookups slot.usualName (known (by simp [names])),
    lookups slot.name (known (by simp [names]))]

/-- A field is found under one of its names. -/
theorem mem_names_of_find? {entries : List (String × ν)} {entry : String × ν}
    (found : slot.find? entries = some entry) : entry.1 ∈ slot.names := by
  rw [find?] at found
  split at found
  · obtain rfl := Option.some.inj found
    exact List.mem_cons_self
  · obtain ⟨value, -, rfl⟩ := Option.map_eq_some_iff.mp found
    exact List.mem_cons_of_mem _ List.mem_cons_self

/-- What is made of the entries is found where they are. -/
theorem find?_map {μ : Type} (make : String → ν → μ) (entries : List (String × ν)) :
    slot.find? (entries.map fun entry => (entry.1, make entry.1 entry.2)) =
      (slot.find? entries).map fun entry => (entry.1, make entry.1 entry.2) := by
  have lookups (key : String) :
      (entries.map fun entry => (entry.1, make entry.1 entry.2)).lookup key =
        (entries.lookup key).map (make key) := by
    induction entries with
    | nil => rfl
    | cons entry rest inductionHypothesis =>
        obtain ⟨name, value⟩ := entry
        by_cases present : key = name
        · subst present
          simp
        · have absent : (key == name) = false := by simpa using present
          simp [List.lookup_cons, absent, inductionHypothesis]
  rw [find?, find?, lookups, lookups]
  cases entries.lookup slot.usualName with
  | some value => rfl
  | none => cases entries.lookup slot.name <;> rfl

/-- A field that is not given twice is found where it is given. -/
theorem find?_eq_head? {entries : List (String × ν)} (once : (slot.given entries).length ≤ 1) :
    slot.find? entries = (slot.given entries).head? := by
  rw [← find?_filter (List.Subset.refl slot.names) entries, ← given]
  match found : slot.given entries with
  | [] => rfl
  | [(key, value)] =>
      have named : key ∈ slot.names := by
        have member : (key, value) ∈ slot.given entries := by simp [found]
        simpa [given] using (List.mem_filter.mp member).2
      rw [names, List.mem_cons, List.mem_singleton] at named
      by_cases usual : slot.usualName = key
      · simp [find?, usual]
      · have ordinary : slot.name = key := (named.resolve_left (Ne.symm usual)).symm
        have other : (slot.usualName == key) = false := by simpa using usual
        simp [find?, List.lookup_cons, other, ordinary]
  | _ :: _ :: _ => simp [found] at once

end Slot

namespace Part

variable {α ν : Type}

/-- Fields with agreeing readings agree. -/
theorem Agrees.of_reading {part other : Part α} (readings : part.reading.Agrees other.reading) :
    part.Agrees other where
  result := readings.result
  faultless := by simpa [outline, faults] using readings.faultless

/-- A field that may be left out is read alike from entries in which it is found with values that
are read alike. -/
theorem optional_agrees {slot : Slot} {entries others : List (String × ν)} {read : ν → Reading α}
    {alike : ν → ν → Prop} (reads : ∀ value changed, alike value changed →
      (read value).Agrees (read changed))
    (found : Option.Rel (fun entry other => alike entry.2 other.2)
      (slot.find? entries) (slot.find? others)) (default : α) :
    (optional slot entries read default).Agrees (optional slot others read default) := by
  apply Agrees.of_reading
  rw [optional, optional]
  generalize slot.find? entries = first at found ⊢
  generalize slot.find? others = second at found ⊢
  cases found with
  | some values => exact reads _ _ values
  | none => exact ⟨rfl, Iff.rfl⟩

/-- A field that must be there is read alike from entries in which it is found with values that
are read alike. -/
theorem required_agrees {slot : Slot} {entries others : List (Scalar × Value)}
    {read : Value → Reading α} {alike : Value → Value → Prop}
    (reads : ∀ value changed, alike value changed → (read value).Agrees (read changed))
    (found : Option.Rel (fun entry other => alike entry.2 other.2)
      (slot.find? (textEntries entries)) (slot.find? (textEntries others))) (default : α) :
    (required slot entries read default).Agrees (required slot others read default) := by
  apply Agrees.of_reading
  rw [required, required]
  generalize slot.find? (textEntries entries) = first at found ⊢
  generalize slot.find? (textEntries others) = second at found ⊢
  cases found with
  | some values => exact reads _ _ values
  | none => exact ⟨rfl, by simp [Reading.misfit]⟩

end Part

/-! ## Records and mappings -/

namespace Reading

variable {α : Type}

/-- A reading agrees with itself. -/
theorem Agrees.refl (reading : Reading α) : reading.Agrees reading := ⟨rfl, Iff.rfl⟩

/-- Readings that agree are accepted together, with one result. -/
theorem Agrees.accept {reading other : Reading α} (agree : reading.Agrees other) (result : α) :
    reading.accept = .ok result ↔ other.accept = .ok result := by
  simp only [Reading.accept, List.isEmpty_iff, agree.faultless, agree.result]
  split <;> simp

/-- Values that are null together are read alike when what they are read as otherwise is. -/
theorem optional_agrees {value changed : Value} {reading other : Reading α}
    (null : value.isNull = changed.isNull) (agree : reading.Agrees other) :
    (optional value reading).Agrees (optional changed other) := by
  rw [optional, optional, null]
  split
  · exact .refl _
  · exact ⟨congrArg some agree.result, agree.faultless⟩

/-- Mappings with the same keys in the same order are read alike when their values are. -/
theorem mapping_agrees {item : Value → Reading α} {entries others : List (Scalar × Value)}
    (pointwise : List.Forall₂ (fun entry other =>
      entry.1 = other.1 ∧ (item entry.2).Agrees (item other.2)) entries others) :
    (mapping item (.mapping entries)).Agrees (mapping item (.mapping others)) := by
  have gathered :
      (gatherEntries (entries.map fun entry => (entry.1, item entry.2))).1 =
          (gatherEntries (others.map fun entry => (entry.1, item entry.2))).1 ∧
        ((gatherEntries (entries.map fun entry => (entry.1, item entry.2))).2.2 = [] ↔
          (gatherEntries (others.map fun entry => (entry.1, item entry.2))).2.2 = []) := by
    induction pointwise with
    | nil => exact ⟨rfl, Iff.rfl⟩
    | @cons entry other rest others first _ inductionHypothesis =>
        obtain ⟨key, value⟩ := entry
        obtain ⟨sameKey, changed⟩ := other
        obtain ⟨rfl, agree⟩ := first
        obtain ⟨results, faultless⟩ := inductionHypothesis
        have agreeing := agree.faultless
        cases key <;>
          simp [gatherEntries, agree.result, agreeing, results, faultless]
  exact ⟨gathered.1, gathered.2⟩

/-- A record without keys that are no texts has the faults of its fields. -/
theorem opened_faultless {result : α} {outlines : List Part.Outline}
    {entries : List (Scalar × Value)} (texts : keyFaults entries = []) :
    (opened result outlines entries).faults = [] ↔ ∀ outline ∈ outlines, outline.faults = [] := by
  simp [opened, texts]

end Reading

end RequestSurface
