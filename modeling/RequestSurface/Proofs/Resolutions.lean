import Mathlib
import RequestSurface.Proofs.ImportHistory
import RequestSurface.Proofs.MentionedNames

/-!
# What is resolved with one table

A table that starts empty and that nothing but fields and units work on records importable names
only. `ImportTable.RecordsOnly` is the invariant: a recorded name goes by its short name if no other
name that may be recorded has this short name and no number can look like its end. What was resolved
on the way is spelled with the imports that are recorded in the end.
-/

namespace RequestSurface

/-- A name that is recorded when a field is resolved or a unit is assembled. -/
structure Surface.Importable (surface : Surface) (package name : String) : Prop where
  mentionable : surface.Mentionable package name
  explicit : surface.needsImport name = true

namespace Surface.Importable

variable {surface : Surface} {package imported : String}

/-- An importable name with the short name of a fixed name that needs no import is a message. -/
theorem exists_message (importable : surface.Importable package imported) {name : String}
    (listed : name ∈ surface.fixedNames) (isImplicit : surface.needsImport name = false)
    (same : shortName imported = shortName name) :
    ∃ reference, imported = surface.messageName package (surface.className reference) := by
  cases importable.mentionable with
  | message reference => exact ⟨reference, rfl⟩
  | fixed importedListed =>
      have explicit := importable.explicit
      rw [eq_of_mem_fixedNames importedListed listed same, isImplicit] at explicit
      cases explicit

/-- If a message needs no import, none does, and only fixed names are importable. -/
theorem mem_fixedNames (importable : surface.Importable package imported) {reference : String}
    (isImplicit :
      surface.needsImport (surface.messageName package (surface.className reference)) = false) :
    imported ∈ surface.fixedNames := by
  cases importable.mentionable with
  | message otherReference =>
      have explicit := importable.explicit
      rw [needsImport_messageName otherReference reference, isImplicit] at explicit
      cases explicit
  | fixed listed => exact listed

end Surface.Importable

namespace ImportTable

variable {table : ImportTable} {Allowed : String → Prop}

/-- Only allowed names were recorded. Of these, a name that shares its short name with no other one
goes by it, unless a numbered alias may look the same. -/
structure RecordsOnly (Allowed : String → Prop) (table : ImportTable) : Prop where
  oneToOne : table.OneToOne
  allowed : ∀ entry ∈ table.entries, Allowed entry.qualifiedName
  alone : ∀ entry ∈ table.entries, ¬ EndsInDigit (shortName entry.qualifiedName) →
    (∀ other, Allowed other → shortName other = shortName entry.qualifiedName →
      other = entry.qualifiedName) →
    entry.localName = shortName entry.qualifiedName

namespace RecordsOnly

/-- Nothing is recorded at first. -/
theorem empty : RecordsOnly Allowed {} :=
  ⟨.empty, by simp, by simp⟩

/-- Recording an allowed name records allowed names only. -/
theorem insert (records : table.RecordsOnly Allowed) {name : String} (isAllowed : Allowed name) :
    (table.insert name).2.RecordsOnly Allowed := by
  have valid := records.oneToOne.insert name
  cases known : table.localName? name with
  | some localName =>
      rw [insert_of_known known]
      exact records
  | none =>
      rw [insert_of_new known] at valid ⊢
      refine ⟨valid, ?_, ?_⟩
      · intro entry member
        rcases List.mem_cons.mp member with rfl | isOld
        · exact isAllowed
        · exact records.allowed entry isOld
      · intro entry member noDigit sole
        rcases List.mem_cons.mp member with rfl | isOld
        · refine table.symbols.freeName_of_free fun isTaken => ?_
          obtain ⟨older, isOlder, sameText⟩ := List.mem_map.mp isTaken
          -- An older alias that looks like the short name belongs to a name with this short name.
          rcases (records.oneToOne.shaped older isOlder).eq_or_numbered with isShort | ⟨_, numbered⟩
          · have sameName := sole older.qualifiedName (records.allowed older isOlder)
              (isShort.symm.trans sameText)
            exact localName?_eq_none_iff.mp known (List.mem_map.mpr ⟨older, isOlder, sameName⟩)
          · rw [← sameText, numbered] at noDigit
            exact noDigit (endsInDigit_numbered _ _)
        · exact records.alone entry isOld noDigit sole

/-- Recording allowed names one after the other records allowed names only. -/
theorem insertAll (records : table.RecordsOnly Allowed) {names : List String}
    (allAllowed : ∀ name ∈ names, Allowed name) : (table.insertAll names).RecordsOnly Allowed := by
  induction names generalizing table with
  | nil => exact records
  | cons name rest inductionHypothesis =>
      have first := records.insert (allAllowed name List.mem_cons_self)
      exact inductionHypothesis first fun other member =>
        allAllowed other (List.mem_cons_of_mem _ member)

end RecordsOnly

/-- A call that resolves a field or assembles a unit. -/
def Call.isUse : Call → Bool
  | .resolve _ | .assemble .. => true
  | .insert _ | .nickname _ => false

section Uses

variable {surface : Surface} {package : String} {calls : List Call}

/-- Spelling a type with a leaf that types mention records importable names. -/
theorem RecordsOnly.spell (records : table.RecordsOnly (surface.Importable package))
    {type : SurfaceType} (mentionable : surface.Mentionable package type.leaf) :
    (table.spell surface type).2.RecordsOnly (surface.Importable package) := by
  rw [spell_table]
  refine records.insertAll fun name member => ?_
  obtain ⟨mentioned, explicit⟩ := List.mem_filter.mp member
  exact ⟨SurfaceType.mentionable_of_mem_mentions mentionable mentioned, explicit⟩

/-- Resolving a field and assembling a unit record importable names. -/
theorem RecordsOnly.perform (records : table.RecordsOnly (surface.Importable package))
    {call : Call} (isUse : call.isUse = true) :
    (table.perform surface package call).RecordsOnly (surface.Importable package) := by
  cases call with
  | insert name => cases isUse
  | nickname name => cases isUse
  | resolve field =>
      cases resolved : field.types surface package with
      | error unknown =>
          simp only [ImportTable.perform, resolve, resolved]
          exact records
      | ok types =>
          obtain ⟨sameLeaf, mentionable⟩ := Field.mentionable_leaf resolved
          simp only [ImportTable.perform, resolve, resolved, spellTypes]
          exact (records.spell (sameLeaf ▸ mentionable)).spell mentionable
  | assemble unitSurface unitPackage root message =>
      refine records.insertAll fun name listed => ⟨.fixed ?_, ?_⟩
      · cases unitSurface <;> simp [Surface.fixedNames, listed]
      · exact Surface.needsImport_of_mem_coreImports listed

/-- When only fields are resolved and units assembled, only importable names are recorded. -/
theorem RecordsOnly.performAll (records : table.RecordsOnly (surface.Importable package))
    (uses : ∀ call ∈ calls, call.isUse = true) :
    (table.performAll surface package calls).RecordsOnly (surface.Importable package) := by
  induction calls generalizing table with
  | nil => exact records
  | cons call rest inductionHypothesis =>
      have first := records.perform (uses call List.mem_cons_self)
      exact inductionHypothesis first fun other member => uses other (List.mem_cons_of_mem _ member)

end Uses

end ImportTable

/-- A field that was resolved, with the text of its types. -/
structure Resolution where
  field : Field
  text : SpelledType

namespace ImportTable

variable {surface : Surface} {package : String} {table : ImportTable} {calls : List Call}
  {resolution : Resolution}

/-- What a call resolves: a field, if it succeeds. -/
def resolved (surface : Surface) (package : String) (table : ImportTable) : Call → List Resolution
  | .resolve field =>
      match (table.resolve surface package field).1 with
      | .ok text => [⟨field, text⟩]
      | .error _ => []
  | _ => []

/-- What calls resolve one after the other. -/
def resolutions (surface : Surface) (package : String) (table : ImportTable) :
    List Call → List Resolution
  | [] => []
  | call :: rest =>
      table.resolved surface package call ++
        (table.perform surface package call).resolutions surface package rest

/-- A field that resolves after some calls is among what is resolved. -/
theorem mem_resolutions {front back : List Call} {field : Field} {text : SpelledType}
    (success : ((table.performAll surface package front).resolve surface package field).1 =
      .ok text) :
    ⟨field, text⟩ ∈ table.resolutions surface package (front ++ .resolve field :: back) := by
  induction front generalizing table with
  | nil =>
      have first : ⟨field, text⟩ ∈ table.resolved surface package (.resolve field) := by
        simp only [resolved]
        rw [show (table.resolve surface package field).1 = .ok text from success]
        exact List.mem_singleton_self _
      exact List.mem_append_left _ first
  | cons call rest inductionHypothesis =>
      exact List.mem_append_right _ (inductionHypothesis success)

/-- What a call resolves is spelled with the imports that it leaves. -/
theorem spelledWith_of_mem_resolved {call : Call}
    (member : resolution ∈ table.resolved surface package call) :
    ∃ types, resolution.field.types surface package = .ok types ∧
      SpelledWith surface (table.perform surface package call).entries types resolution.text := by
  cases call with
  | insert name => cases member
  | nickname name => cases member
  | assemble unitSurface unitPackage root message => cases member
  | resolve field =>
      cases typed : field.types surface package with
      | error unknown => simp [resolved, resolve, typed] at member
      | ok types =>
          simp only [resolved, resolve, typed, List.mem_singleton] at member
          subst member
          simp only [perform, resolve, typed]
          exact ⟨types, rfl, table.spelledWith_spellTypes surface types⟩

/-- What calls resolve one after the other is spelled with the imports that they leave. -/
theorem spelledWith_of_mem_resolutions
    (member : resolution ∈ table.resolutions surface package calls) :
    ∃ types, resolution.field.types surface package = .ok types ∧
      SpelledWith surface (table.performAll surface package calls).entries types
        resolution.text := by
  induction calls generalizing table with
  | nil => cases member
  | cons call rest inductionHypothesis =>
      rcases List.mem_append.mp member with first | later
      · obtain ⟨types, typed, spelled⟩ := spelledWith_of_mem_resolved first
        have extension := extends_performAll surface package
          (table.perform surface package call) rest
        exact ⟨types, typed, spelled.mono extension.entries_subset⟩
      · exact inductionHypothesis later

end ImportTable

end RequestSurface
