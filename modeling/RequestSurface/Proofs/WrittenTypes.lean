import Mathlib
import RequestSurface.Proofs.Resolutions

/-!
# Reading the texts of types

In a table that only importable names were recorded in, two names that types mention are written
alike exactly if they are the same or namesakes: the one is written by its short name without an
import, and the other one is imported under it. The text of a container stands in front of the first
bracket, so texts of types are the same exactly if they have the same containers around leaves that
are written alike.
-/

namespace RequestSurface

/-- Two names with one short name, only one of which has to be imported. -/
structure Surface.Namesakes (surface : Surface) (name other : String) : Prop where
  short : shortName name = shortName other
  apart : surface.needsImport name ≠ surface.needsImport other

/-- Being namesakes goes both ways. -/
theorem Surface.Namesakes.comm {surface : Surface} {name other : String} :
    surface.Namesakes name other ↔ surface.Namesakes other name :=
  ⟨fun namesakes => ⟨namesakes.short.symm, namesakes.apart.symm⟩,
    fun namesakes => ⟨namesakes.short.symm, namesakes.apart.symm⟩⟩

section Names

variable {surface : Surface} {package name other text otherText : String} {table : ImportTable}

/-- An imported name goes by the short name of a name that needs no import exactly if that is its
own short name. -/
theorem ImportTable.RecordsOnly.localName_eq_shortName_iff
    (records : table.RecordsOnly (surface.Importable package))
    (mentionable : surface.Mentionable package name) (isImplicit : surface.needsImport name = false)
    {entry : Import} (member : entry ∈ table.entries) :
    entry.localName = shortName name ↔ shortName entry.qualifiedName = shortName name := by
  cases mentionable with
  | fixed listed =>
      have noDigit := (Surface.shape_of_mem_fixedNames listed).2.1
      constructor
      · intro same
        rcases (records.oneToOne.shaped entry member).eq_or_numbered with isShort | ⟨_, numbered⟩
        · exact isShort.symm.trans same
        · rw [← same, numbered] at noDigit
          exact absurd (endsInDigit_numbered _ _) noDigit
      · intro same
        -- Fixed names have different short names, so only this one message has this one as well.
        obtain ⟨reference, isMessage⟩ :=
          (records.allowed entry member).exists_message listed isImplicit same
        rw [← same]
        refine records.alone entry member (same ▸ noDigit) fun imported importable sameShort => ?_
        obtain ⟨otherReference, rfl⟩ :=
          importable.exists_message listed isImplicit (sameShort.trans same)
        rw [isMessage] at sameShort ⊢
        exact Surface.messageName_eq_of_shortName sameShort
  | message reference =>
      -- No message is imported, and fixed names are imported under their short names.
      have listed := (records.allowed entry member).mem_fixedNames isImplicit
      have noDigit := (Surface.shape_of_mem_fixedNames listed).2.1
      have goesByShortName := records.alone entry member noDigit fun imported importable same =>
        Surface.eq_of_mem_fixedNames (importable.mem_fixedNames isImplicit) listed same
      rw [goesByShortName]

/-- Names that types mention are written with letters and digits. -/
theorem WrittenName.isPlainWord (valid : table.OneToOne)
    (mentionable : surface.Mentionable package name)
    (written : WrittenName surface table.entries name text) : IsPlainWord text.toList := by
  have plain := mentionable.isPlainWord_shortName
  cases written with
  | implicit isImplicit => exact plain
  | imported isExplicit entry =>
      have named : text = shortName name ∨ ∃ number, text = numbered (shortName name) number :=
        (valid.shaped _ entry).eq_or_numbered
      rcases named with rfl | ⟨number, rfl⟩
      · exact plain
      · exact plain.numbered number

variable (records : table.RecordsOnly (surface.Importable package))
  (mentionable : surface.Mentionable package name)
include records mentionable

/-- A name that needs no import is written like an imported one exactly if they are namesakes. -/
theorem ImportTable.RecordsOnly.shortName_eq_iff
    (isImplicit : moduleName name ∈ surface.implicitModules)
    (isExplicit : moduleName other ∉ surface.implicitModules)
    (entry : ⟨other, otherText⟩ ∈ table.entries) :
    shortName name = otherText ↔ name = other ∨ surface.Namesakes name other := by
  have differ : name ≠ other := by
    rintro rfl
    exact isExplicit isImplicit
  have apart : surface.needsImport name ≠ surface.needsImport other := by
    simp [Surface.needsImport, isImplicit, isExplicit]
  have alike := records.localName_eq_shortName_iff mentionable
    (by simp [Surface.needsImport, isImplicit]) entry
  rw [eq_comm, alike, or_iff_right differ]
  exact ⟨fun same => ⟨same.symm, apart⟩, fun namesakes => namesakes.short.symm⟩

/-- Names that types mention are written alike exactly if they are the same or namesakes. -/
theorem WrittenName.text_eq_iff (otherMentionable : surface.Mentionable package other)
    (written : WrittenName surface table.entries name text)
    (otherWritten : WrittenName surface table.entries other otherText) :
    text = otherText ↔ name = other ∨ surface.Namesakes name other := by
  cases written with
  | implicit isImplicit =>
      cases otherWritten with
      | implicit otherImplicit =>
          refine ⟨fun same => .inl (Surface.eq_of_implicit isImplicit otherImplicit same), ?_⟩
          rintro (rfl | namesakes)
          · rfl
          · exact namesakes.short
      | imported otherExplicit entry =>
          exact records.shortName_eq_iff mentionable isImplicit otherExplicit entry
  | imported isExplicit entry =>
      cases otherWritten with
      | implicit otherImplicit =>
          have alike := records.shortName_eq_iff otherMentionable otherImplicit isExplicit entry
          rw [eq_comm, alike, @eq_comm _ other name, Surface.Namesakes.comm]
      | imported otherExplicit otherEntry =>
          constructor
          · intro same
            have sameEntry := List.inj_on_of_nodup_map records.oneToOne.localNames entry otherEntry
              same
            exact .inl (congrArg Import.qualifiedName sameEntry)
          · rintro (rfl | namesakes)
            · have sameEntry := List.inj_on_of_nodup_map records.oneToOne.names entry otherEntry rfl
              exact congrArg Import.localName sameEntry
            · exact absurd (by simp [Surface.needsImport, isExplicit, otherExplicit])
                namesakes.apart

end Names

/-- What stands in front of the first mark, and what behind it, can be read off a text. -/
theorem IsPlainWord.append_cons_inj {front otherFront rest otherRest : List Char} {mark : Char}
    (isMark : mark.isAlphanum = false) (plain : IsPlainWord front)
    (otherPlain : IsPlainWord otherFront)
    (same : front ++ mark :: rest = otherFront ++ mark :: otherRest) :
    front = otherFront ∧ rest = otherRest := by
  have cut {word tail : List Char} (plain : IsPlainWord word) :
      (word ++ mark :: tail).takeWhile Char.isAlphanum = word := by
    rw [List.takeWhile_append_of_pos plain, List.takeWhile_cons_of_neg (by simp [isMark]),
      List.append_nil]
  have sameFront : front = otherFront := by
    rw [← cut plain, same, cut otherPlain]
  subst sameFront
  exact ⟨rfl, List.tail_eq_of_cons_eq (List.append_cancel_left same)⟩

namespace Surface

/-- The brackets around the arguments of a container. -/
def brackets : Surface → Char × Char
  | java => ('<', '>')
  | python => ('[', ']')

variable {surface : Surface} {container other text : String}
  {arguments otherArguments : List String}

/-- The text of a container is its name in front of its arguments in brackets. -/
theorem toList_generic (surface : Surface) (container : String) (arguments : List String) :
    (surface.generic container arguments).toList = container.toList ++
      surface.brackets.1 :: ((", ".intercalate arguments).toList ++ [surface.brackets.2]) := by
  cases surface <;> simp [generic, brackets]

/-- A bracket is neither a letter nor a digit. -/
theorem isAlphanum_bracket (surface : Surface) : surface.brackets.1.isAlphanum = false := by
  cases surface <;> decide

/-- No name is the text of a container. -/
theorem ne_generic (plain : IsPlainWord text.toList) :
    text ≠ surface.generic container arguments := by
  rintro rfl
  have isPlain := plain surface.brackets.1 (by simp [toList_generic])
  rw [isAlphanum_bracket] at isPlain
  cases isPlain

/-- The container and its arguments can be read off a text. -/
theorem generic_inj (plain : IsPlainWord container.toList) (otherPlain : IsPlainWord other.toList) :
    surface.generic container arguments = surface.generic other otherArguments ↔
      container = other ∧ ", ".intercalate arguments = ", ".intercalate otherArguments := by
  constructor
  · intro same
    have letters := congrArg String.toList same
    rw [toList_generic, toList_generic] at letters
    obtain ⟨sameContainer, sameRest⟩ :=
      plain.append_cons_inj surface.isAlphanum_bracket otherPlain letters
    exact ⟨String.toList_injective sameContainer,
      String.toList_injective (List.append_cancel_right sameRest)⟩
  · rintro ⟨rfl, sameArguments⟩
    apply String.toList_injective
    rw [toList_generic, toList_generic, sameArguments]

end Surface

section Types

variable {surface : Surface} {package text otherText : String} {table : ImportTable}
  {type other : SurfaceType}

/-- The container of lists is never written like that of maps. -/
theorem WrittenName.listContainer_ne (records : table.RecordsOnly (surface.Importable package))
    (list : WrittenName surface table.entries surface.listContainer text)
    (map : WrittenName surface table.entries surface.mapContainer otherText) :
    text ≠ otherText := by
  have listMentionable := surface.mentionable_listContainer package
  have mapMentionable := surface.mentionable_mapContainer package
  have different : shortName surface.listContainer ≠ shortName surface.mapContainer := by
    cases surface <;> decide +kernel
  rw [ne_eq, list.text_eq_iff records listMentionable mapMentionable map]
  rintro (same | namesakes)
  · exact different (congrArg shortName same)
  · exact different namesakes.short

/-- Texts of types are the same exactly if the types have the same containers around leaves that are
the same or namesakes. -/
theorem Spelled.text_eq_iff (records : table.RecordsOnly (surface.Importable package))
    (spelled : Spelled surface table.entries type text)
    (otherSpelled : Spelled surface table.entries other otherText)
    (mentionable : surface.Mentionable package type.leaf)
    (otherMentionable : surface.Mentionable package other.leaf) :
    text = otherText ↔ type.containers = other.containers ∧
      (type.leaf = other.leaf ∨ surface.Namesakes type.leaf other.leaf) := by
  have names := records.oneToOne.names
  have listMentionable := surface.mentionable_listContainer package
  have mapMentionable := surface.mentionable_mapContainer package
  induction spelled generalizing other otherText with
  | named name =>
      have plain := name.isPlainWord records.oneToOne mentionable
      cases otherSpelled with
      | named otherName =>
          simpa [SurfaceType.containers] using
            name.text_eq_iff records mentionable otherMentionable otherName
      | list | map => simp [SurfaceType.containers, Surface.ne_generic plain]
  | list _ container inductionHypothesis =>
      have plain := container.isPlainWord records.oneToOne listMentionable
      cases otherSpelled with
      | named otherName =>
          have otherPlain := otherName.isPlainWord records.oneToOne otherMentionable
          simp [SurfaceType.containers, (Surface.ne_generic otherPlain).symm]
      | list otherElement otherContainer =>
          have elements := inductionHypothesis otherElement mentionable otherMentionable
          obtain rfl := container.unique names otherContainer
          rw [Surface.generic_inj plain plain, String.intercalate_singleton,
            String.intercalate_singleton]
          simp [SurfaceType.containers, SurfaceType.leaf, elements]
      | map _ _ otherContainer =>
          have otherPlain := otherContainer.isPlainWord records.oneToOne mapMentionable
          rw [Surface.generic_inj plain otherPlain]
          simp [SurfaceType.containers, container.listContainer_ne records otherContainer]
  | map key _ container inductionHypothesis =>
      have plain := container.isPlainWord records.oneToOne mapMentionable
      cases otherSpelled with
      | named otherName =>
          have otherPlain := otherName.isPlainWord records.oneToOne otherMentionable
          simp [SurfaceType.containers, (Surface.ne_generic otherPlain).symm]
      | list _ otherContainer =>
          have otherPlain := otherContainer.isPlainWord records.oneToOne listMentionable
          rw [Surface.generic_inj plain otherPlain]
          simp [SurfaceType.containers, (otherContainer.listContainer_ne records container).symm]
      | map otherKey otherValue otherContainer =>
          have values := inductionHypothesis otherValue mentionable otherMentionable
          obtain rfl := container.unique names otherContainer
          obtain rfl := key.unique names otherKey
          rw [Surface.generic_inj plain plain, String.intercalate_cons_cons,
            String.intercalate_cons_cons, String.append_right_inj, String.intercalate_singleton,
            String.intercalate_singleton]
          simp [SurfaceType.containers, SurfaceType.leaf, values]

end Types

end RequestSurface
