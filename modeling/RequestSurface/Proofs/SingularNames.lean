import Mathlib
import RequestSurface.Method.Naming
import RequestSurface.Proofs.LoweredEndings

/-!
# Collection names in the singular

A collection name is put in the singular by its ending, in whatever casing it is written: it loses
one or two letters, or has three of them replaced by a `y`. What comes out is in the singular, and
such names are left as they are. So methods that act on one resource have the names of their request
and of its body whether their ids name the collection in the plural or in the singular.
-/

namespace RequestSurface

section Endings

/-- A word ends in some letters, in whatever casing. -/
def EndsIn (ending word : String) : Prop :=
  ending.toList <:+ Text.lowerCase word.toList

instance (ending word : String) : Decidable (EndsIn ending word) :=
  inferInstanceAs (Decidable (_ <:+ _))

/-- A word that is in the singular: it has no `s` at its end, or one that is all of it or belongs to
an ending of its own. -/
def IsSingular (word : String) : Prop :=
  word.length ≤ 1 ∨ ¬ EndsIn "s" word ∨ EndsIn "ss" word ∨ EndsIn "us" word ∨ EndsIn "is" word

instance (word : String) : Decidable (IsSingular word) :=
  inferInstanceAs (Decidable (_ ∨ _))

/-- Whether a word is in the singular is seen from its ASCII letters. -/
theorem isSingular_ofList_iff (text : List Char) :
    IsSingular (String.ofList text) ↔
      text.length ≤ 1 ∨ ¬ ['s'] <:+ text.map Char.toLower ∨ ['s', 's'] <:+ text.map Char.toLower ∨
        ['u', 's'] <:+ text.map Char.toLower ∨ ['i', 's'] <:+ text.map Char.toLower := by
  have endsIn {ending : String} (unshared : ending.toList.all Text.isUnshared = true) :
      EndsIn ending (String.ofList text) ↔ ending.toList <:+ text.map Char.toLower := by
    rw [EndsIn, String.toList_ofList, Text.suffix_lowerCase_iff (List.all_eq_true.mp unshared)]
  rw [IsSingular, String.length_ofList, endsIn (by decide), endsIn (by decide),
    endsIn (by decide), endsIn (by decide)]
  rfl

/-- In front of the `s` at the end of a longer word in the singular stands one of three letters. -/
theorem IsSingular.letter_mem {text front : List Char} {letter : Char}
    (isSingular : IsSingular (String.ofList text))
    (lowered : text.map Char.toLower = front ++ [letter, 's']) : letter ∈ ['s', 'u', 'i'] := by
  have longer : text.length = front.length + 2 := by
    simpa using congrArg List.length lowered
  rw [isSingular_ofList_iff, lowered, longer] at isSingular
  simpa [← List.reverse_prefix, eq_comm] using isSingular

/-- What a text in lower case ends in is written at its end, behind what is left without it. -/
theorem exists_written_of_suffix {ending text : List Char}
    (ends : ending <:+ text.map Char.toLower) {size : Nat} (length : ending.length = size) :
    ∃ stem written, text = stem ++ written ∧ written.map Char.toLower = ending ∧
      text.take (text.length - size) = stem ∧ (size < text.length → stem ≠ []) := by
  obtain ⟨front, joined⟩ := ends
  obtain ⟨stem, written, rfl, -, rfl⟩ := List.map_eq_append_iff.mp joined.symm
  rw [List.length_map] at length
  refine ⟨stem, written, rfl, rfl, by simp [length], ?_⟩
  rintro longer rfl
  rw [List.nil_append, length] at longer
  exact absurd longer (Nat.lt_irrefl size)

end Endings

/-- What words end in that get two letters more in the plural. -/
def hisses : List (List Char) :=
  [['s', 's'], ['s', 'h'], ['c', 'h'], ['x'], ['z']]

/-- What is left of a collection name in the singular, by the way in which the name ends: policies
have a `y` in the place of three letters, addresses lose two letters and zones one. -/
inductive SingularOf : List Char → List Char → Prop where
  | policy {stem ending : List Char} (nonempty : stem ≠ [])
      (lowered : ending.map Char.toLower = ['i', 'e', 's']) :
      SingularOf (stem ++ ending) (stem ++ ['y'])
  | address {stem ending hiss : List Char} (listed : hiss ∈ hisses)
      (hissing : hiss <:+ stem.map Char.toLower) (lowered : ending.map Char.toLower = ['e', 's']) :
      SingularOf (stem ++ ending) stem
  | zone {stem ending : List Char} (nonempty : stem ≠ [])
      (plain : ∀ letter ∈ ['s', 'u', 'i'], ¬ [letter] <:+ stem.map Char.toLower)
      (lowered : ending.map Char.toLower = ['s']) : SingularOf (stem ++ ending) stem
  | kept {word : List Char} (isSingular : IsSingular (String.ofList word)) : SingularOf word word

/-- The singular of a word is left of it in one of these ways. -/
theorem singularOf_singular (word : String) : SingularOf word.toList (singular word).toList := by
  have hissing : ∀ plural ∈ ["sses", "shes", "ches", "xes", "zes"], ∃ hiss ∈ hisses,
      plural.toList = hiss ++ ['e', 's'] := by decide
  simp only [singular, Bool.and_eq_true, decide_eq_true_eq, List.any_eq_true,
    List.isSuffixOf_iff_suffix]
  split_ifs with policy address kept zone
  · obtain ⟨ends, long⟩ := policy
    obtain ⟨stem, ending, whole, lowered, left, nonempty⟩ :=
      exists_written_of_suffix ends (show "ies".toList.length = 3 from rfl)
    rw [String.toList_ofList, left, whole]
    exact .policy (nonempty long) lowered
  · obtain ⟨plural, listed, ends⟩ := address
    obtain ⟨hiss, isHiss, split⟩ := hissing plural listed
    rw [split] at ends
    obtain ⟨stem, ending, whole, lowered, left, -⟩ :=
      exists_written_of_suffix ((List.suffix_append hiss _).trans ends)
        (show ['e', 's'].length = 2 from rfl)
    rw [whole, List.map_append, lowered, List.suffix_append_self_iff] at ends
    rw [String.toList_ofList, left, whole]
    exact .address isHiss ends lowered
  · exact .kept ((isSingular_ofList_iff _).mpr (.inr (.inr (by simpa using kept))))
  · obtain ⟨ends, long⟩ := zone
    obtain ⟨stem, ending, whole, lowered, left, nonempty⟩ :=
      exists_written_of_suffix ends (show "s".toList.length = 1 from rfl)
    have plain : ∀ letter ∈ ['s', 'u', 'i'], ¬ [letter] <:+ stem.map Char.toLower := by
      intro letter isLetter inFront
      have ends : [letter, 's'] <:+ word.toList.map Char.toLower := by
        rw [whole, List.map_append, lowered]
        exact List.suffix_append_self_iff.mpr inFront
      fin_cases isLetter
      · exact kept ⟨"ss", by simp, ends⟩
      · exact kept ⟨"us", by simp, ends⟩
      · exact kept ⟨"is", by simp, ends⟩
    rw [String.toList_ofList, left, whole]
    exact .zone (nonempty long) plain lowered
  · refine .kept ((isSingular_ofList_iff _).mpr ?_)
    by_cases short : word.toList.length ≤ 1
    · exact .inl short
    · exact .inr (.inl fun ends => zone ⟨ends, by omega⟩)

namespace SingularOf

variable {word other : List Char}

/-- What is left of a name is in the singular. -/
theorem isSingular (left : SingularOf word other) : IsSingular (String.ofList other) := by
  rw [isSingular_ofList_iff]
  cases left with
  | @policy stem ending stemmed lowered =>
      refine .inr (.inl ?_)
      simp [← List.reverse_prefix]
  | @address stem ending hiss listed hissing lowered =>
      -- Of the sounds that words hiss with, only a double s makes them end in an s.
      obtain ⟨front, split⟩ := hissing
      rw [← split]
      fin_cases listed <;> simp [← List.reverse_prefix]
  | zone stemmed plain lowered => exact .inr (.inl (plain 's' List.mem_cons_self))
  | kept isSingular => exact (isSingular_ofList_iff _).mp isSingular

/-- Something is left of a name. -/
theorem ne_nil (left : SingularOf word other) (nonempty : word ≠ []) : other ≠ [] := by
  cases left with
  | policy stemmed lowered => exact List.append_ne_nil_of_left_ne_nil stemmed _
  | address listed hissing lowered =>
      rintro rfl
      obtain rfl := List.suffix_nil.mp hissing
      exact absurd listed (by decide)
  | zone stemmed plain lowered => exact stemmed
  | kept isSingular => exact nonempty

/-- A name in the singular is left as it is. -/
theorem eq_of_isSingular (left : SingularOf word other)
    (isSingular : IsSingular (String.ofList word)) : other = word := by
  cases left with
  | @policy stem ending stemmed lowered =>
      have ends : (stem ++ ending).map Char.toLower =
          (stem.map Char.toLower ++ ['i']) ++ ['e', 's'] := by simp [lowered]
      exact absurd (isSingular.letter_mem ends) (by decide)
  | @address _ ending _ listed hissing lowered =>
      have ends : (other ++ ending).map Char.toLower = other.map Char.toLower ++ ['e', 's'] := by
        rw [List.map_append, lowered]
      exact absurd (isSingular.letter_mem ends) (by decide)
  | @zone _ ending stemmed plain lowered =>
      obtain ⟨front, last, rfl⟩ := (List.eq_nil_or_concat' other).resolve_left stemmed
      have ends : ((front ++ [last]) ++ ending).map Char.toLower =
          front.map Char.toLower ++ [last.toLower, 's'] := by simp [lowered]
      refine absurd ?_ (plain _ (isSingular.letter_mem ends))
      simp
  | kept isSingular => rfl

/-- The letters of what is left of a name are those of the name, but for a `y`. -/
theorem mem_or_eq (left : SingularOf word other) {character : Char} (member : character ∈ other) :
    character ∈ word ∨ character = 'y' := by
  cases left with
  | policy stemmed lowered =>
      rcases List.mem_append.mp member with inStem | added
      · exact .inl (List.mem_append_left _ inStem)
      · exact .inr (List.mem_singleton.mp added)
  | address listed hissing lowered => exact .inl (List.mem_append_left _ member)
  | zone stemmed plain lowered => exact .inl (List.mem_append_left _ member)
  | kept isSingular => exact .inl member

end SingularOf

/-- The singular of a word is in the singular. -/
theorem isSingular_singular (word : String) : IsSingular (singular word) := by
  simpa using (singularOf_singular word).isSingular

/-- Words in the singular are those that are their own singular. -/
theorem singular_eq_self_iff {word : String} : singular word = word ↔ IsSingular word := by
  constructor
  · intro same
    exact same ▸ isSingular_singular word
  · intro isSingular
    rw [← String.ofList_toList (s := word)] at isSingular
    exact String.toList_injective ((singularOf_singular word).eq_of_isSingular isSingular)

example : IsSingular "Analysis" ∧ ¬ IsSingular "POLICIES" := by decide

/-- Putting a word in the singular again leaves it as it is. -/
theorem singular_singular (word : String) : singular (singular word) = singular word :=
  singular_eq_self_iff.mpr (isSingular_singular word)

/-- Every word that is not empty has a singular that is not. -/
theorem singular_ne_empty {word : String} (nonempty : word ≠ "") : singular word ≠ "" := by
  have left := (singularOf_singular word).ne_nil (by simpa using nonempty)
  simpa using left

/-- A word without dots has none in the singular. -/
theorem dot_notMem_singular {word : String} (plain : '.' ∉ word.toList) :
    '.' ∉ (singular word).toList := by
  intro member
  rcases (singularOf_singular word).mem_or_eq member with inWord | isLetter
  · exact plain inWord
  · exact absurd isLetter (by decide)

namespace Method

variable {method other : Method}

/-- The id of a method with one of its collections in the singular is the id of another one. Every
piece of an id but the last, which is the action, names a collection. -/
inductive InSingular (method other : Method) : Prop where
  | intro (front : List String) (collection : String) (back : List String) (nonempty : back ≠ [])
      (pieces : Text.splitString '.' method.id = front ++ collection :: back)
      (joined : other.id = ".".intercalate (front ++ singular collection :: back))

/-- The action of a method is the last piece of its id. -/
theorem action_of_pieces {others : List String} {last : String}
    (pieces : Text.splitString '.' method.id = others ++ [last]) : method.action = last :=
  Text.afterLast_of_splitString pieces

/-- The collection that a method works on is the piece of its id before the last one. -/
theorem collection_of_pieces {others : List String} {collection last : String}
    (pieces : Text.splitString '.' method.id = others ++ [collection] ++ [last]) :
    method.collection = collection :=
  Text.afterLast_of_splitString
    (Text.splitString_beforeLast (List.append_ne_nil_of_right_ne_nil _ (by simp)) pieces)

/-- A collection in the singular is one piece of the id, as the collection was before. -/
theorem pieces_of_joined {front back : List String} {collection : String}
    (pieces : Text.splitString '.' method.id = front ++ collection :: back)
    (joined : other.id = ".".intercalate (front ++ singular collection :: back)) :
    Text.splitString '.' other.id = front ++ singular collection :: back := by
  have plain : ∀ piece ∈ front ++ collection :: back, '.' ∉ piece.toList := fun piece isPiece =>
    Text.notMem_of_mem_splitString (pieces ▸ isPiece)
  rw [List.forall_mem_append, List.forall_mem_cons] at plain
  obtain ⟨frontPlain, collectionPlain, backPlain⟩ := plain
  rw [joined]
  refine Text.splitString_intercalate (by simp) ?_
  exact List.forall_mem_append.mpr
    ⟨frontPlain, List.forall_mem_cons.mpr ⟨dot_notMem_singular collectionPlain, backPlain⟩⟩

/-- Putting a collection in the singular leaves the action of a method, and it leaves the singular of
the collection that the method works on. -/
theorem InSingular.action_and_collection (inSingular : method.InSingular other) :
    method.action = other.action ∧ singular method.collection = singular other.collection := by
  obtain ⟨front, collection, back, nonempty, pieces, joined⟩ := inSingular
  have otherPieces := pieces_of_joined pieces joined
  obtain ⟨more, last, rfl⟩ := (List.eq_nil_or_concat' back).resolve_left nonempty
  rw [← List.cons_append, ← List.append_assoc] at pieces otherPieces
  refine ⟨(action_of_pieces pieces).trans (action_of_pieces otherPieces).symm, ?_⟩
  rcases List.eq_nil_or_concat' more with rfl | ⟨inner, nearest, rfl⟩
  · rw [collection_of_pieces pieces, collection_of_pieces otherPieces, singular_singular]
  · rw [← List.cons_append, ← List.append_assoc] at pieces otherPieces
    rw [collection_of_pieces pieces, collection_of_pieces otherPieces]

end Method

/-- A word is put in the singular once: what comes out is a word in the singular, which stays as it
is, and it is empty for the empty word alone. So of two methods whose ids are the same but for a
collection, which one of them has in the singular, both list resources or none does. In the latter
case their requests have one name, and their bodies have one name if neither refers to a schema. -/
theorem singular_settles_names :
    (∀ word : String, singular (singular word) = singular word ∧
      (word ≠ "" → singular word ≠ "") ∧ (singular word = word ↔ IsSingular word)) ∧
    ∀ method other : Method, method.InSingular other →
      method.isPlural = other.isPlural ∧
      (method.isPlural = false → method.requestName = other.requestName) ∧
      (method.bodyReference? = none → other.bodyReference? = none →
        method.bodyName = other.bodyName) := by
  refine ⟨fun word => ⟨singular_singular word, singular_ne_empty, singular_eq_self_iff⟩, ?_⟩
  intro method other inSingular
  obtain ⟨action, collection⟩ := inSingular.action_and_collection
  have plural : method.isPlural = other.isPlural := by
    rw [Method.isPlural, Method.isPlural, action]
  refine ⟨plural, fun alone => ?_, fun plain otherPlain => ?_⟩
  · have otherAlone : other.isPlural = false := plural ▸ alone
    simp only [Method.requestName, alone, otherAlone, action, collection, Bool.false_eq_true,
      if_false]
  · simp only [Method.bodyName, plain, otherPlain, collection]

/-- Policies of regions are got under one name, whether an id calls them policies or a policy. -/
theorem singular_settles_names_policies :
    ("regionPolicies" ≠ "" ∧ singular "regionPolicies" ≠ "") ∧
    let method : Method := { id := "compute.regionPolicies.get", path := "{policy}" }
    let other : Method := { id := "compute.regionPolicy.get", path := "policies/{policy}" }
    method.InSingular other ∧ method.isPlural = false ∧ method.bodyReference? = none ∧
      other.bodyReference? = none ∧ method.requestName = other.requestName ∧
      method.bodyName = other.bodyName := by
  refine ⟨⟨by decide, (singular_settles_names.1 "regionPolicies").2.1 (by decide)⟩, ?_⟩
  intro method other
  have inSingular : method.InSingular other :=
    .intro ["compute"] "regionPolicies" ["get"] (by decide) (by decide) (by decide)
  obtain ⟨-, requests, bodies⟩ := singular_settles_names.2 method other inSingular
  exact ⟨inSingular, by decide, rfl, rfl, requests (by decide), bodies rfl rfl⟩

end RequestSurface
