import Mathlib
import RequestSurface.Proofs.ImportTable
import RequestSurface.Proofs.NameVariants
import RequestSurface.Proofs.Spelling
import RequestSurface.Proofs.WordCharacters

/-!
# Parts of qualified names

A qualified name with a module is put together from the module and the short name. The short name of
a message is the name of its class, which has letters and digits only and does not begin with a
small letter, and an alias is a short name that may have digits behind it.
-/

namespace RequestSurface

/-- A number leaves a text of letters and digits. -/
theorem IsPlainWord.numbered {candidate : String} (plain : IsPlainWord candidate.toList)
    (number : Nat) : IsPlainWord (numbered candidate number).toList := by
  intro character member
  rw [toList_numbered] at member
  rcases List.mem_append.mp member with inCandidate | inDigits
  · exact plain character inCandidate
  · have isDigit := Nat.isDigit_of_mem_toDigits (by omega) (by omega) inDigits
    rw [Char.isAlphanum, isDigit, Bool.or_true]

section QualifiedNames

variable {qualifiedName other : String}

/-- The short name of a name is what stands behind the last dot. -/
theorem shortName_append {short : String} (noDot : '.' ∉ short.toList) (front : String) :
    shortName (front ++ "." ++ short) = short :=
  Text.afterLast_append noDot front

/-- The module of a name is what stands in front of the last dot. -/
theorem moduleName_append {short : String} (noDot : '.' ∉ short.toList) (front : String) :
    moduleName (front ++ "." ++ short) = front :=
  Text.beforeLast_append noDot front

/-- A name with a module is put together from the module and the short name. -/
theorem eq_append_of_moduleName (hasModule : moduleName qualifiedName ≠ "") :
    qualifiedName = moduleName qualifiedName ++ "." ++ shortName qualifiedName := by
  obtain ⟨noDot, whole | ⟨front, whole⟩⟩ := Text.afterLast_cases '.' qualifiedName
  · refine absurd (Text.beforeLast_of_plain ?_) hasModule
    rw [whole]
    exact noDot
  · have isModule : moduleName qualifiedName = front := by
      rw [whole]
      exact moduleName_append noDot front
    rw [isModule]
    exact whole

/-- What needs no import on a surface is known from its short name. -/
theorem Surface.eq_of_implicit {surface : Surface}
    (isImplicit : moduleName qualifiedName ∈ surface.implicitModules)
    (otherImplicit : moduleName other ∈ surface.implicitModules)
    (same : shortName qualifiedName = shortName other) : qualifiedName = other := by
  have onlyOne : moduleName qualifiedName = moduleName other ∧ moduleName other ≠ "" := by
    cases surface <;> simp_all [implicitModules]
  obtain ⟨sameModule, hasModule⟩ := onlyOne
  calc qualifiedName
      = moduleName qualifiedName ++ "." ++ shortName qualifiedName :=
        eq_append_of_moduleName (sameModule ▸ hasModule)
    _ = moduleName other ++ "." ++ shortName other := by rw [sameModule, same]
    _ = other := (eq_append_of_moduleName hasModule).symm

/-- An alias is the short name itself, or that with a number behind it. -/
theorem IsAliasOf.eq_or_numbered {localName : String}
    (isAlias : IsAliasOf qualifiedName localName) :
    localName = shortName qualifiedName ∨
      ∃ number, localName = numbered (shortName qualifiedName) number := by
  obtain ⟨short, whole, noDot, named⟩ := isAlias
  have isShort : shortName qualifiedName = short := by
    rcases whole with rfl | ⟨front, rfl⟩
    · simp [shortName, Text.afterLast, Text.piecesAt_of_notMem noDot]
    · exact shortName_append noDot front
  rw [isShort]
  exact named.imp_right fun behind => behind.imp fun _ isNumbered => isNumbered.2

end QualifiedNames

/-- The names of classes consist of letters and digits. -/
theorem Surface.isPlainWord_className (surface : Surface) (reference : String) :
    IsPlainWord (surface.className reference).toList :=
  Name.isPlainWord_upperCamel [reference]

/-- No class has a dot in its name. -/
theorem Surface.dot_notMem_className (surface : Surface) (reference : String) :
    '.' ∉ (surface.className reference).toList := by
  intro member
  have plain := surface.isPlainWord_className reference '.' member
  cases plain

/-- What has a capital in front does not begin with a small letter. -/
theorem isLower_head?_capitalize {word : List Char} (plain : IsPlainWord word) :
    (Text.capitalize word).head?.any Char.isLower = false := by
  cases word with
  | nil => rfl
  | cons head tail =>
      rw [Text.capitalize, Text.upperChar,
        if_pos (toNat_lt_of_isAlphanum (plain head List.mem_cons_self))]
      simp

/-- The name of no class begins with a small letter. -/
theorem Surface.isLower_head?_className (surface : Surface) (reference : String) :
    (surface.className reference).toList.head?.any Char.isLower = false := by
  rw [className, Name.upperCamel, String.toList_join, List.head?_flatMap]
  cases found : List.findSome? (fun word : String => word.toList.head?)
      ((Name.ofPieces [reference]).words.map Name.capitalized) with
  | none => rfl
  | some first =>
      obtain ⟨written, isWritten, isFirst⟩ := List.exists_of_findSome?_eq_some found
      obtain ⟨word, isWord, rfl⟩ := List.mem_map.mp isWritten
      rw [Name.capitalized, String.toList_ofList] at isFirst
      rw [← isFirst]
      exact isLower_head?_capitalize (Name.isPlainWord_of_mem_ofPieces isWord)

section Messages

variable {surface : Surface} {package : String}

/-- The short name of a message is the name of its class. -/
theorem Surface.shortName_messageName (reference : String) :
    shortName (surface.messageName package (surface.className reference)) =
      surface.className reference := by
  have noDot := surface.dot_notMem_className reference
  cases surface with
  | java => exact shortName_append noDot package
  | python => exact shortName_append noDot _

/-- Messages with one short name are the same. -/
theorem Surface.messageName_eq_of_shortName {reference other : String}
    (same : shortName (surface.messageName package (surface.className reference)) =
      shortName (surface.messageName package (surface.className other))) :
    surface.messageName package (surface.className reference) =
      surface.messageName package (surface.className other) := by
  rw [shortName_messageName, shortName_messageName] at same
  rw [same]

/-- A module of a package is not built in. -/
theorem Surface.needsImport_messageName_python (reference : String) :
    python.needsImport (python.messageName package (python.className reference)) = true := by
  have isModule := moduleName_append (python.dot_notMem_className reference)
    (package ++ "." ++ (Name.ofPieces [python.className reference]).lowerUnderscore)
  rw [needsImport, messageName, isModule, decide_eq_true_eq, implicitModules, List.mem_singleton]
  intro same
  have hasDot : '.' ∈ "builtins".toList := by
    rw [← same]
    simp
  exact absurd hasDot (by decide)

/-- Whether messages are imported depends on the package only. -/
theorem Surface.needsImport_messageName (reference other : String) :
    surface.needsImport (surface.messageName package (surface.className reference)) =
      surface.needsImport (surface.messageName package (surface.className other)) := by
  cases surface with
  | java =>
      simp only [needsImport, messageName, moduleName_append (java.dot_notMem_className _)]
  | python => rw [needsImport_messageName_python, needsImport_messageName_python]

end Messages

end RequestSurface
