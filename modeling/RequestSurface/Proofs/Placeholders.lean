import Mathlib
import RequestSurface.Placeholder
import RequestSurface.Proofs.Patterns

/-!
# The placeholder that a path ends with

A placeholder is anything without braces between two of them. A scan of a path with a pattern for
placeholders misses none of them, as they do not overlap, and the last one it finds is the one that
starts rightmost. The pattern takes a plus sign in front of the name where it can, which is
everywhere but where nothing else stands between the braces.
-/

namespace RequestSurface

/-- A placeholder of a text: what stands in front of it, between its braces, and behind it. -/
structure PlaceholderAt (text front inside back : List Char) : Prop where
  whole : text = front ++ '\x7b' :: (inside ++ '\x7d' :: back)
  nonempty : inside ≠ []
  noBrace : ∀ character ∈ inside, character ≠ '\x7b' ∧ character ≠ '\x7d'

/-- The placeholder of a text that starts rightmost. -/
structure LastPlaceholder (text front inside back : List Char) : Prop where
  isPlaceholder : PlaceholderAt text front inside back
  rightmost : ∀ otherFront otherInside otherBack,
    PlaceholderAt text otherFront otherInside otherBack → otherFront.length ≤ front.length

/-- A name without braces, and the brace behind it. -/
def namePattern : List Text.PatternPart := [.many isInside, .one (· == '\x7d')]

/-- A brace, a plus sign if there is one, and a name with the brace behind it. -/
def placeholderPattern : List Text.PatternPart :=
  .one (· == '\x7b') :: .optional (· == '+') :: namePattern

/-- The name in a match of the pattern for placeholders: what its third part took. -/
def Text.Segment.placeholder? : Text.Segment → Option (List Char)
  | passed _ => none
  | found taken => taken[2]?

section Reading

variable {text front inside back rest : List Char} {head : Char}

theorem isInside_iff {character : Char} :
    isInside character = true ↔ character ≠ '\x7b' ∧ character ≠ '\x7d' := by
  simp [isInside]

theorem PlaceholderAt.isInside (isPlaceholder : PlaceholderAt text front inside back) :
    ∀ character ∈ inside, isInside character = true :=
  fun character member => isInside_iff.mpr (isPlaceholder.noBrace character member)

/-- What has no brace in it ends at the first closing brace. -/
theorem takeWhile_isInside (plain : ∀ character ∈ inside, isInside character = true) :
    (inside ++ '\x7d' :: back).takeWhile isInside = inside :=
  Text.takeWhile_append_stop plain (by decide)

/-- A placeholder starts at the front of a text, or it is one of the rest. -/
theorem placeholderAt_cons_iff :
    PlaceholderAt (head :: rest) front inside back ↔
      (front = [] ∧ PlaceholderAt (head :: rest) [] inside back) ∨
        ∃ others, front = head :: others ∧ PlaceholderAt rest others inside back := by
  constructor
  · rintro ⟨whole, nonempty, noBrace⟩
    cases front with
    | nil => exact .inl ⟨rfl, whole, nonempty, noBrace⟩
    | cons first others =>
        obtain ⟨rfl, restWhole⟩ := List.cons.inj whole
        exact .inr ⟨others, rfl, restWhole, nonempty, noBrace⟩
  · rintro (⟨rfl, isPlaceholder⟩ | ⟨others, rfl, whole, nonempty, noBrace⟩)
    · exact isPlaceholder
    · exact ⟨congrArg (head :: ·) whole, nonempty, noBrace⟩

/-- Reading a path, a placeholder is seen exactly where one starts. -/
theorem opens_iff :
    (head = '\x7b' ∧ rest.takeWhile isInside ≠ [] ∧
        rest[(rest.takeWhile isInside).length]? = some '\x7d') ↔
      ∃ inside back, PlaceholderAt (head :: rest) [] inside back := by
  constructor
  · rintro ⟨rfl, nonempty, closed⟩
    have whole := List.takeWhile_append_dropWhile (p := isInside) (l := rest)
    have next : rest[(rest.takeWhile isInside).length]? = (rest.dropWhile isInside)[0]? := by
      conv_lhs => enter [1]; rw [← whole]
      rw [List.getElem?_append_right le_rfl, Nat.sub_self]
    rw [next] at closed
    cases behind : rest.dropWhile isInside with
    | nil => simp [behind] at closed
    | cons closing back =>
        have isClosing : closing = '\x7d' := by simpa [behind] using closed
        rw [behind, isClosing] at whole
        refine ⟨rest.takeWhile isInside, back, ?_, nonempty, ?_⟩
        · rw [whole, List.nil_append]
        · exact fun character member => isInside_iff.mp (List.mem_takeWhile_imp member)
  · rintro ⟨inside, back, isPlaceholder⟩
    obtain ⟨rfl, rfl⟩ := List.cons.inj isPlaceholder.whole
    rw [takeWhile_isInside isPlaceholder.isInside]
    exact ⟨rfl, isPlaceholder.nonempty, by simp⟩

/-- Where a placeholder starts, its name stands before those of the rest. -/
theorem placeholders_of_placeholder (isPlaceholder : PlaceholderAt (head :: rest) [] inside back) :
    placeholders (head :: rest) = placeholderName inside :: placeholders rest := by
  have behind : rest = inside ++ '\x7d' :: back := (List.cons.inj isPlaceholder.whole).2
  rw [placeholders, if_pos (opens_iff.mpr ⟨inside, back, isPlaceholder⟩), behind,
    takeWhile_isInside isPlaceholder.isInside]

/-- Where none starts, the placeholders are those of the rest. -/
theorem placeholders_of_none
    (none : ¬ ∃ inside back, PlaceholderAt (head :: rest) [] inside back) :
    placeholders (head :: rest) = placeholders rest := by
  rw [placeholders, if_neg (mt opens_iff.mp none)]

/-- No placeholder starts inside of another one. -/
theorem placeholders_inside (plain : ∀ character ∈ inside, isInside character = true) :
    placeholders (inside ++ '\x7d' :: back) = placeholders back := by
  have notOpening {head : Char} (rest : List Char) (isOther : head ≠ '\x7b') :
      placeholders (head :: rest) = placeholders rest := by
    apply placeholders_of_none
    rintro ⟨_, _, whole, -, -⟩
    exact isOther (List.cons.inj whole).1
  induction inside with
  | nil => exact notOpening back (by decide)
  | cons head tail inductionHypothesis =>
      obtain ⟨headPlain, tailPlain⟩ := List.forall_mem_cons.mp plain
      rw [List.cons_append, notOpening _ (isInside_iff.mp headPlain).1,
        inductionHypothesis tailPlain]

/-- Placeholders are read exactly where there are some. -/
theorem placeholders_ne_nil_iff_exists :
    placeholders text ≠ [] ↔ ∃ front inside back, PlaceholderAt text front inside back := by
  induction text with
  | nil =>
      refine iff_of_false (fun nonempty => nonempty rfl) ?_
      rintro ⟨front, inside, back, whole, -, -⟩
      simp at whole
  | cons head rest inductionHypothesis =>
      by_cases starts : ∃ inside back, PlaceholderAt (head :: rest) [] inside back
      · obtain ⟨inside, back, isPlaceholder⟩ := starts
        rw [placeholders_of_placeholder isPlaceholder]
        exact iff_of_true (List.cons_ne_nil _ _) ⟨[], inside, back, isPlaceholder⟩
      · rw [placeholders_of_none starts, inductionHypothesis]
        constructor
        · rintro ⟨front, inside, back, isPlaceholder⟩
          exact ⟨head :: front, inside, back,
            placeholderAt_cons_iff.mpr (.inr ⟨front, rfl, isPlaceholder⟩)⟩
        · rintro ⟨front, inside, back, isPlaceholder⟩
          rcases placeholderAt_cons_iff.mp isPlaceholder with ⟨rfl, atFront⟩ | ⟨others, rfl, inRest⟩
          · exact absurd ⟨inside, back, atFront⟩ starts
          · exact ⟨others, inside, back, inRest⟩

/-- In a text with a placeholder behind its first character, the rightmost one starts there. -/
theorem lastPlaceholder_cons_iff
    (inRest : ∃ front inside back, PlaceholderAt rest front inside back) :
    LastPlaceholder (head :: rest) front inside back ↔
      ∃ others, front = head :: others ∧ LastPlaceholder rest others inside back := by
  constructor
  · rintro ⟨isPlaceholder, rightmost⟩
    rcases placeholderAt_cons_iff.mp isPlaceholder with ⟨rfl, -⟩ | ⟨others, rfl, isOther⟩
    · obtain ⟨later, name, tail, isLater⟩ := inRest
      have bound := rightmost (head :: later) name tail
        (placeholderAt_cons_iff.mpr (.inr ⟨later, rfl, isLater⟩))
      simp at bound
    · refine ⟨others, rfl, isOther, fun later name tail isLater => ?_⟩
      have bound := rightmost (head :: later) name tail
        (placeholderAt_cons_iff.mpr (.inr ⟨later, rfl, isLater⟩))
      simpa using bound
  · rintro ⟨others, rfl, isPlaceholder, rightmost⟩
    refine ⟨placeholderAt_cons_iff.mpr (.inr ⟨others, rfl, isPlaceholder⟩), ?_⟩
    intro later name tail isLater
    rcases placeholderAt_cons_iff.mp isLater with ⟨rfl, -⟩ | ⟨lower, rfl, isLower⟩
    · exact Nat.zero_le _
    · exact Nat.succ_le_succ (rightmost lower name tail isLower)

/-- In a text with no placeholder behind its first character, the rightmost one is at the front. -/
theorem lastPlaceholder_cons_iff_of_none
    (none : ¬ ∃ front inside back, PlaceholderAt rest front inside back) :
    LastPlaceholder (head :: rest) front inside back ↔
      front = [] ∧ PlaceholderAt (head :: rest) [] inside back := by
  have atFront {front inside back : List Char}
      (isPlaceholder : PlaceholderAt (head :: rest) front inside back) : front = [] := by
    rcases placeholderAt_cons_iff.mp isPlaceholder with ⟨isEmpty, -⟩ | ⟨others, -, inRest⟩
    · exact isEmpty
    · exact absurd ⟨others, _, _, inRest⟩ none
  constructor
  · rintro ⟨isPlaceholder, -⟩
    obtain rfl := atFront isPlaceholder
    exact ⟨rfl, isPlaceholder⟩
  · rintro ⟨rfl, isPlaceholder⟩
    exact ⟨isPlaceholder, fun _ _ _ isOther => (congrArg List.length (atFront isOther)).le⟩

/-- The last name that is read off a path is that of the rightmost placeholder. -/
theorem getLast?_placeholders_iff {name : List Char} :
    (placeholders text).getLast? = some name ↔
      ∃ front inside back, LastPlaceholder text front inside back ∧
        name = placeholderName inside := by
  induction text with
  | nil =>
      refine iff_of_false (by simp [placeholders]) ?_
      rintro ⟨front, inside, back, ⟨⟨whole, -, -⟩, -⟩, -⟩
      simp at whole
  | cons head rest inductionHypothesis =>
      by_cases inRest : ∃ front inside back, PlaceholderAt rest front inside back
      · have sameLast : (placeholders (head :: rest)).getLast? = (placeholders rest).getLast? := by
          by_cases starts : ∃ inside back, PlaceholderAt (head :: rest) [] inside back
          · obtain ⟨inside, back, isPlaceholder⟩ := starts
            rw [placeholders_of_placeholder isPlaceholder, List.getLast?_cons,
              List.getLast?_eq_some_getLast (placeholders_ne_nil_iff_exists.mpr inRest),
              Option.getD_some]
          · rw [placeholders_of_none starts]
        rw [sameLast, inductionHypothesis]
        simp only [lastPlaceholder_cons_iff inRest]
        constructor
        · rintro ⟨front, inside, back, isLast, same⟩
          exact ⟨head :: front, inside, back, ⟨front, rfl, isLast⟩, same⟩
        · rintro ⟨-, inside, back, ⟨front, rfl, isLast⟩, same⟩
          exact ⟨front, inside, back, isLast, same⟩
      · have noOther : placeholders rest = [] :=
          not_not.mp (mt placeholders_ne_nil_iff_exists.mp inRest)
        simp only [lastPlaceholder_cons_iff_of_none inRest]
        constructor
        · intro isName
          by_cases starts : ∃ inside back, PlaceholderAt (head :: rest) [] inside back
          · obtain ⟨inside, back, isPlaceholder⟩ := starts
            rw [placeholders_of_placeholder isPlaceholder, noOther] at isName
            exact ⟨[], inside, back, ⟨rfl, isPlaceholder⟩, (Option.some.inj isName).symm⟩
          · rw [placeholders_of_none starts, noOther] at isName
            cases isName
        · rintro ⟨-, inside, back, ⟨rfl, isPlaceholder⟩, rfl⟩
          rw [placeholders_of_placeholder isPlaceholder, noOther]
          rfl

end Reading

section Scanning

open Text

variable {text inside name back left : List Char} {taken : List (List Char)}

/-- The ways to match a name and the brace behind it. -/
theorem mem_ways_name_iff :
    (taken, left) ∈ ways namePattern text ↔
      ∃ name, taken = [name, ['\x7d']] ∧ name ≠ [] ∧
        (∀ character ∈ name, isInside character = true) ∧ text = name ++ '\x7d' :: left := by
  simp only [namePattern, mem_ways_iff, List.forall₂_cons_left_iff, List.forall₂_nil_left_iff,
    PatternPart.Admits]
  constructor
  · rintro ⟨⟨name, -, ⟨nonempty, plain⟩, ⟨-, -, ⟨closing, rfl, isClosing⟩, rfl, rfl⟩, rfl⟩, rfl⟩
    obtain rfl : closing = '\x7d' := by simpa using isClosing
    exact ⟨name, rfl, nonempty, plain, by simp⟩
  · rintro ⟨name, rfl, nonempty, plain, rfl⟩
    exact ⟨⟨name, _, ⟨nonempty, plain⟩, ⟨_, _, ⟨_, rfl, by simp⟩, rfl, rfl⟩, rfl⟩, by simp⟩

/-- There is one way to match a name and the brace behind it. -/
theorem head?_ways_name (nonempty : name ≠ [])
    (plain : ∀ character ∈ name, isInside character = true) (back : List Char) :
    (ways namePattern (name ++ '\x7d' :: back)).head? =
      some ([name, ['\x7d']], back) := by
  apply head?_ways_of_only (mem_ways_name_iff.mpr ⟨name, rfl, nonempty, plain, rfl⟩)
  rintro ⟨taken, left⟩ isWay
  obtain ⟨other, rfl, -, otherPlain, same⟩ := mem_ways_name_iff.mp isWay
  obtain ⟨rfl, -, rfl⟩ := append_stop_inj plain (by decide) otherPlain (by decide) same
  rfl

/-- Where a placeholder starts, the pattern for placeholders takes it, and its name is what the
third part takes: the plus sign goes to the part before if there is something behind it. -/
theorem exists_head?_ways_placeholder (nonempty : inside ≠ [])
    (plain : ∀ character ∈ inside, isInside character = true) (back : List Char) :
    ∃ taken, (ways placeholderPattern ('\x7b' :: (inside ++ '\x7d' :: back))).head? =
      some (taken, back) ∧ (Segment.found taken).placeholder? = some (placeholderName inside) := by
  have unsigned := head?_ways_name nonempty plain back
  rw [placeholderPattern, ways_one_cons, if_pos (by decide), ways_optional]
  obtain ⟨first, tail, rfl⟩ := List.exists_cons_of_ne_nil nonempty
  obtain ⟨-, tailPlain⟩ := List.forall_mem_cons.mp plain
  rw [List.cons_append] at unsigned ⊢
  rw [ways_one_cons, List.head?_map, List.head?_append, List.head?_map, unsigned]
  by_cases isPlus : first = '+'
  · subst isPlus
    cases tail with
    | nil =>
        have noName : ways namePattern ('\x7d' :: back) = [] := by
          refine List.eq_nil_iff_forall_not_mem.mpr fun way isWay => ?_
          obtain ⟨name, -, isName, namePlain, whole⟩ := mem_ways_name_iff.mp isWay
          obtain ⟨first, others, rfl⟩ := List.exists_cons_of_ne_nil isName
          have firstPlain := namePlain first List.mem_cons_self
          rw [← (List.cons.inj whole).1] at firstPlain
          exact absurd firstPlain (by decide)
        exact ⟨[['\x7b'], [], ['+'], ['\x7d']], by simp [noName], rfl⟩
    | cons second others =>
        have signed := head?_ways_name (List.cons_ne_nil _ _) tailPlain back
        rw [List.cons_append] at signed
        exact ⟨[['\x7b'], ['+'], second :: others, ['\x7d']], by simp [signed], rfl⟩
  · have sameName : placeholderName (first :: tail) = first :: tail := by
      rw [placeholderName]
      simp [isPlus]
    exact ⟨[['\x7b'], [], first :: tail, ['\x7d']], by simp [isPlus], by rw [sameName]; rfl⟩

/-- The pattern for placeholders matches nothing but placeholders. -/
theorem ways_placeholder_of_none {head : Char} {rest : List Char}
    (none : ¬ ∃ inside back, PlaceholderAt (head :: rest) [] inside back) :
    ways placeholderPattern (head :: rest) = [] := by
  refine List.eq_nil_iff_forall_not_mem.mpr ?_
  rintro ⟨taken, left⟩ isWay
  obtain ⟨admitted, whole⟩ := mem_ways_iff.mp isWay
  simp only [placeholderPattern, namePattern, List.forall₂_cons_left_iff,
    List.forall₂_nil_left_iff, PatternPart.Admits, beq_iff_eq] at admitted
  obtain ⟨-, -, ⟨opening, rfl, rfl⟩, ⟨sign, -, isSign, ⟨name, -, ⟨nonempty, plain⟩,
    ⟨-, -, ⟨closing, rfl, rfl⟩, rfl, rfl⟩, rfl⟩, rfl⟩, rfl⟩ := admitted
  have signPlain : ∀ character ∈ sign, isInside character = true := by
    rcases isSign with rfl | ⟨plus, rfl, rfl⟩
    · simp
    · exact List.forall_mem_singleton.mpr (by decide)
  refine none ⟨sign ++ name, left, by simp [whole], by simp [nonempty], fun character member => ?_⟩
  rcases List.mem_append.mp member with inSign | inName
  · exact isInside_iff.mp (signPlain character inSign)
  · exact isInside_iff.mp (plain character inName)

/-- A scan with the pattern for placeholders finds the names that are read off a path. -/
theorem exists_scans_placeholders (text : List Char) :
    ∃ segments, Scans placeholderPattern text segments ∧
      segments.filterMap Segment.placeholder? = placeholders text := by
  simp only [List.filterMap_eq_flatMap_toList]
  refine exists_scans (by decide) rfl (fun head rest noWay => ?_)
    (fun text taken left way => ?_) text
  · apply placeholders_of_none
    rintro ⟨inside, back, isPlaceholder⟩
    obtain ⟨rfl, rfl⟩ := List.cons.inj isPlaceholder.whole
    obtain ⟨_, preferred, -⟩ :=
      exists_head?_ways_placeholder isPlaceholder.nonempty isPlaceholder.isInside back
    simp [noWay] at preferred
  · cases text with
    | nil => cases way
    | cons head rest =>
        obtain ⟨inside, back, isPlaceholder⟩ :
            ∃ inside back, PlaceholderAt (head :: rest) [] inside back := by
          by_contra none
          rw [ways_placeholder_of_none none] at way
          cases way
        obtain ⟨rfl, rfl⟩ := List.cons.inj isPlaceholder.whole
        have plain := isPlaceholder.isInside
        obtain ⟨_, preferred, named⟩ :=
          exists_head?_ways_placeholder isPlaceholder.nonempty plain back
        obtain ⟨rfl, rfl⟩ := Prod.mk.inj (Option.some.inj (preferred.symm.trans way))
        rw [placeholders_of_placeholder isPlaceholder, placeholders_inside plain, named]
        rfl

end Scanning

/-- The name of a placeholder is what stands between its braces, without a plus sign in front of
anything. -/
theorem placeholderName_eq (inside : List Char) :
    placeholderName inside =
      if 2 ≤ inside.length ∧ inside.head? = some '+' then inside.tail else inside := by
  rcases inside with - | ⟨first, - | ⟨second, others⟩⟩
  · rfl
  · rw [placeholderName]
    · simp
    · simp
  · by_cases isPlus : first = '+'
    · simp [isPlus, placeholderName]
    · rw [placeholderName]
      · simp [isPlus]
      · simp [isPlus]

/-- The resource identifier of a path is what a scan for placeholders, from the left and with the
plus sign taken where it can be, finds last. There is none exactly if there is no placeholder. If
there is one, it is what stands between the braces of the one that starts rightmost, without a
leading plus sign unless that is all there is. -/
theorem resourceIdentifier_of_last_placeholder (path : String) :
    (∃ segments, Text.Scans placeholderPattern path.toList segments ∧
      resourceIdentifier path =
        (segments.filterMap Text.Segment.placeholder?).getLast?.map String.ofList) ∧
    (resourceIdentifier path = none ↔
      ¬ ∃ front inside back, PlaceholderAt path.toList front inside back) ∧
    ∀ name, resourceIdentifier path = some name ↔
      ∃ front inside back, LastPlaceholder path.toList front inside back ∧
        name.toList =
          if 2 ≤ inside.length ∧ inside.head? = some '+' then inside.tail else inside := by
  refine ⟨?_, ?_, fun name => ?_⟩
  · obtain ⟨segments, scan, same⟩ := exists_scans_placeholders path.toList
    exact ⟨segments, scan, by rw [same, resourceIdentifier]⟩
  · rw [resourceIdentifier, Option.map_eq_none_iff, List.getLast?_eq_none_iff,
      ← placeholders_ne_nil_iff_exists, not_not]
  · simp only [← placeholderName_eq, ← getLast?_placeholders_iff, resourceIdentifier,
      Option.map_eq_some_iff]
    constructor
    · rintro ⟨letters, isLast, rfl⟩
      rw [isLast, String.toList_ofList]
    · intro isLast
      exact ⟨name.toList, isLast, String.ofList_toList⟩

/-- Braces that are left open, closed twice or empty hold no placeholder, and only one plus sign is
taken off. -/
example : ["v1/\x7b+name\x7d", "a/\x7bb\x7d/\x7b++c\x7d\x7d/\x7bd", "\x7bx\x7b+\x7d\x7b\x7d",
    "\x7b\x7d"].map resourceIdentifier = [some "name", some "+c", some "+", none] := by
  decide +kernel

end RequestSurface
