import Mathlib
import RequestSurface.Proofs.Accessors
import RequestSurface.Proofs.WordCharacters

/-!
# Endings of words and names

Neither cutting an identifier into words nor joining words again touches small letters at its end,
apart from a capital that may be put in front of a word. So the name of every request message, and
the variable of every request, end like the word that all of them end with.
-/

namespace RequestSurface

section Breaking

variable {text ending : List Char}

/-- What puts gaps between the characters of a text, and none into a text without capitals, leaves
an ending without capitals. -/
theorem suffix_of_gaps {separate : List Char → List Char}
    (gaps : ∀ head tail, ∃ gap, separate (head :: tail) = head :: (gap ++ separate tail))
    (unchanged : ∀ text, (∀ character ∈ text, character.isUpper = false) → separate text = text)
    (small : ∀ character ∈ ending, character.isUpper = false) (ends : ending <:+ text) :
    ending <:+ separate text := by
  induction text with
  | nil =>
      obtain rfl := List.suffix_nil.mp ends
      rw [unchanged [] small]
  | cons head tail inductionHypothesis =>
      rcases List.suffix_cons_iff.mp ends with rfl | inTail
      · rw [unchanged _ small]
      · obtain ⟨gap, separated⟩ := gaps head tail
        rw [separated]
        exact (inductionHypothesis inTail).trans
          ((List.suffix_append gap _).trans (List.suffix_cons head _))

/-- Breaking acronyms puts gaps between characters. -/
theorem exists_gap_breakAcronyms (head : Char) (tail : List Char) :
    ∃ gap, breakAcronyms (head :: tail) = head :: (gap ++ breakAcronyms tail) := by
  rcases tail with - | ⟨second, - | ⟨third, rest⟩⟩
  · exact ⟨[], rfl⟩
  · exact ⟨[], rfl⟩
  · rw [breakAcronyms]
    split
    · exact ⟨[' '], rfl⟩
    · exact ⟨[], rfl⟩

/-- Breaking humps puts gaps between characters. -/
theorem exists_gap_breakHumps (head : Char) (tail : List Char) :
    ∃ gap, breakHumps (head :: tail) = head :: (gap ++ breakHumps tail) := by
  rcases tail with - | ⟨second, rest⟩
  · exact ⟨[], rfl⟩
  · rw [breakHumps]
    split
    · exact ⟨[' '], rfl⟩
    · exact ⟨[], rfl⟩

/-- There is no acronym to break without capitals. -/
theorem breakAcronyms_of_small (small : ∀ character ∈ text, character.isUpper = false) :
    breakAcronyms text = text := by
  induction text with
  | nil => rfl
  | cons head tail inductionHypothesis =>
      have sameTail := inductionHypothesis fun character member =>
        small character (List.mem_cons_of_mem _ member)
      rcases tail with - | ⟨second, - | ⟨third, rest⟩⟩
      · rfl
      · rfl
      · rw [breakAcronyms, small head List.mem_cons_self]
        simp only [Bool.false_and, Bool.false_eq_true, if_false, sameTail]

/-- There is no hump to break without capitals. -/
theorem breakHumps_of_small (small : ∀ character ∈ text, character.isUpper = false) :
    breakHumps text = text := by
  induction text with
  | nil => rfl
  | cons head tail inductionHypothesis =>
      have sameTail := inductionHypothesis fun character member =>
        small character (List.mem_cons_of_mem _ member)
      rcases tail with - | ⟨second, rest⟩
      · rfl
      · rw [breakHumps, small second (by simp)]
        simp only [Bool.and_false, Bool.false_eq_true, if_false, sameTail]

/-- Small letters at the end of a text are the end of its last word. -/
theorem exists_last_word (nonempty : ending ≠ [])
    (small : ∀ character ∈ ending, character.isLower = true) (ends : ending <:+ text) :
    ∃ words last, wordsOf text = words ++ [last] ∧ ending <:+ last := by
  have noCapital : ∀ character ∈ ending, character.isUpper = false :=
    fun character member => by simpa using Char.not_isUpper_of_isLower (small character member)
  have plain : ∀ character ∈ ending, character.isAlphanum = true := by
    intro character member
    simp [Char.isAlphanum, Char.isAlpha, small character member]
  have unaccented : ending <:+ Text.removeAccents text := by
    obtain ⟨front, rfl⟩ := ends
    rw [Text.removeAccents_append, Text.removeAccents_of_ascii fun character member =>
      toNat_lt_of_isAlphanum (plain character member)]
    exact List.suffix_append _ _
  have broken : ending <:+ breakHumps (breakAcronyms (Text.removeAccents text)) :=
    suffix_of_gaps exists_gap_breakHumps (fun _ => breakHumps_of_small) noCapital
      (suffix_of_gaps exists_gap_breakAcronyms (fun _ => breakAcronyms_of_small) noCapital
        unaccented)
  have noSeparator : ∀ character ∈ ending, (!character.isAlphanum) = false :=
    fun character member => by simp [plain character member]
  obtain ⟨pieces, last, cut, endsLast⟩ := Text.exists_last_piece noSeparator broken
  have notEmpty : last ≠ [] := by
    rintro rfl
    exact nonempty (List.suffix_nil.mp endsLast)
  have lowered : ending.map Char.toLower = ending := by
    conv_rhs => rw [← List.map_id ending]
    exact List.map_congr_left fun character member =>
      Char.toLower_eq_of_not_isUpper (Char.not_isUpper_of_isLower (small character member))
  refine ⟨(pieces.filter (!·.isEmpty)).map fun piece => piece.map Char.toLower,
    last.map Char.toLower, ?_, ?_⟩
  · simp [wordsOf, cut, List.filter_append, notEmpty]
  · rw [← lowered]
    exact endsLast.map Char.toLower

end Breaking

section Joining

variable {ending : List Char}

/-- Words that are written behind another word are written one after the other. -/
theorem Surface.tailOf_append (surface : Surface) (words others : List String) :
    surface.tailOf (words ++ others) = surface.tailOf words ++ surface.tailOf others := by
  cases surface <;> simp [tailOf, String.join_append]

/-- A capital in front of a word leaves what stands behind its first character. -/
theorem Text.tail_suffix_capitalize (word : List Char) : word.tail <:+ Text.capitalize word := by
  cases word with
  | nil => exact List.nil_suffix
  | cons head tail => exact List.suffix_append _ tail

/-- What a word ends with behind its first character, a joined name ends with that has the word at
its end. -/
theorem Surface.suffix_memberCase (surface : Surface) (words : List String) {word : String}
    (ends : ending <:+ word.toList.tail) :
    ending <:+ (surface.memberCase ⟨words ++ [word]⟩).toList := by
  cases words with
  | nil =>
      rw [List.nil_append, memberCase_cons]
      cases surface <;> simpa [tailOf] using ends.trans (List.tail_suffix _)
  | cons first rest =>
      have endsTail : ending <:+ (surface.tailOf [word]).toList := by
        cases surface with
        | java =>
            simpa [tailOf, Name.capitalized] using ends.trans (Text.tail_suffix_capitalize _)
        | python =>
            simpa [tailOf] using (ends.trans (List.tail_suffix _)).trans (List.suffix_cons '_' _)
      rw [List.cons_append, memberCase_cons, tailOf_append, String.toList_append,
        String.toList_append, ← List.append_assoc]
      exact endsTail.trans (List.suffix_append _ _)

/-- What stands behind a character at the end of a text stands at the end behind the first
character of the text. -/
theorem suffix_tail_of_suffix_cons {head : Char} {text : List Char}
    (ends : head :: ending <:+ text) : ending <:+ text.tail := by
  obtain ⟨front, rfl⟩ := ends
  cases front with
  | nil => exact List.suffix_refl _
  | cons first rest =>
      exact (List.suffix_cons head ending).trans (List.suffix_append rest _)

end Joining

/-- Every request message is called a request. -/
theorem Method.suffix_requestName (method : Method) :
    ['e', 'q', 'u', 'e', 's', 't'] <:+ method.requestName.toList := by
  let collection := if method.isPlural then method.collection else singular method.collection
  have words : Name.ofPieces [method.action, collection, "http", "request"] =
      ⟨splitWords method.action ++ splitWords collection ++ ["http"] ++ ["request"]⟩ := by
    have http : splitWords "http" = ["http"] := by decide
    have request : splitWords "request" = ["request"] := by decide
    simp [Name.ofPieces, http, request]
  change _ <:+ (Surface.java.memberCase (.ofPieces [method.action, collection, "http",
    "request"])).toList
  rw [words]
  exact Surface.java.suffix_memberCase _ (List.suffix_refl _)

/-- So is the variable of every request, on every surface. -/
theorem Surface.suffix_fieldName_requestName (surface : Surface) (method : Method) :
    ['q', 'u', 'e', 's', 't'] <:+ (surface.fieldName method.requestName).toList := by
  have small : ∀ character ∈ ['e', 'q', 'u', 'e', 's', 't'], character.isLower = true :=
    List.all_eq_true.mp (by decide)
  obtain ⟨words, last, split, endsLast⟩ :=
    exists_last_word (List.cons_ne_nil _ _) small method.suffix_requestName
  have name : Name.ofPieces [method.requestName] =
      ⟨words.map String.ofList ++ [String.ofList last]⟩ := by
    simp [Name.ofPieces, splitWords, split]
  rw [fieldName, name]
  refine surface.suffix_memberCase _ ?_
  rw [String.toList_ofList]
  exact suffix_tail_of_suffix_cons endsLast

end RequestSurface
