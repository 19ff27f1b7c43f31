import Mathlib

/-!
# Scanning a text with a pattern

A pattern is a row of parts, each of which takes characters of one class: exactly one, at most one,
or at least one. Where several ways of matching begin at the same place, the parts take as many
characters as they can, those in front first, and give some back if the rest of the pattern does not
match otherwise. A scan finds the leftmost match and goes on behind it, so that matches never
overlap.
-/

namespace RequestSurface.Text

/-- A part of a pattern: how many characters it takes, and of which class. -/
inductive PatternPart where
  | one (accepts : Char → Bool)
  | optional (accepts : Char → Bool)
  | many (accepts : Char → Bool)

/-- The ways to take one character of a class off a text, and what each of them leaves. -/
def takeOne (accepts : Char → Bool) : List Char → List (List Char × List Char)
  | [] => []
  | head :: rest => if accepts head then [([head], rest)] else []

/-- The ways to take characters of a class off a text, those that take more of them first. -/
def takeMany (accepts : Char → Bool) : List Char → List (List Char × List Char)
  | [] => []
  | head :: rest =>
      if accepts head then
        (takeMany accepts rest).map (fun way => (head :: way.1, way.2)) ++ [([head], rest)]
      else []

/-- The ways in which a part takes characters off a text, the preferred ones first. -/
def PatternPart.ways : PatternPart → List Char → List (List Char × List Char)
  | one accepts, text => takeOne accepts text
  | optional accepts, text => takeOne accepts text ++ [([], text)]
  | many accepts, text => takeMany accepts text

/-- The ways in which a pattern matches the front of a text, the preferred ones first: what each of
its parts took, and what is left. -/
def ways : List PatternPart → List Char → List (List (List Char) × List Char)
  | [], text => [([], text)]
  | part :: parts, text =>
      (part.ways text).flatMap fun way =>
        (ways parts way.2).map fun others => (way.1 :: others.1, others.2)

/-- What a scan makes of a text: characters that it passes over, and matches with what each part of
the pattern took. -/
inductive Segment where
  | passed (character : Char)
  | found (taken : List (List Char))

/-- A scan of a text with a pattern, from the left. Where the pattern matches, the scan takes the
preferred way and goes on behind it. Anywhere else it passes over one character. -/
inductive Scans (pattern : List PatternPart) : List Char → List Segment → Prop where
  | done (noWay : ways pattern [] = []) : Scans pattern [] []
  | passed {head : Char} {rest : List Char} {segments : List Segment}
      (noWay : ways pattern (head :: rest) = []) (onward : Scans pattern rest segments) :
      Scans pattern (head :: rest) (.passed head :: segments)
  | found {text left : List Char} {taken : List (List Char)} {segments : List Segment}
      (preferred : (ways pattern text).head? = some (taken, left))
      (onward : Scans pattern left segments) : Scans pattern text (.found taken :: segments)

/-- What a part can take. -/
def PatternPart.Admits : PatternPart → List Char → Prop
  | one accepts, taken => ∃ character, taken = [character] ∧ accepts character = true
  | optional accepts, taken =>
      taken = [] ∨ ∃ character, taken = [character] ∧ accepts character = true
  | many accepts, taken => taken ≠ [] ∧ ∀ character ∈ taken, accepts character = true

section Stops

variable {accepts : Char → Bool} {front other rest otherRest : List Char} {head otherHead : Char}

/-- Characters of a class end where one of another class follows. -/
theorem takeWhile_append_stop (accepted : ∀ character ∈ front, accepts character = true)
    (stops : accepts head = false) : (front ++ head :: rest).takeWhile accepts = front := by
  rw [List.takeWhile_append_of_pos accepted, List.takeWhile_cons_of_neg (by simp [stops]),
    List.append_nil]

/-- A text begins with characters of a class, up to one of another class, in one way. -/
theorem append_stop_inj (accepted : ∀ character ∈ front, accepts character = true)
    (stops : accepts head = false) (otherAccepted : ∀ character ∈ other, accepts character = true)
    (otherStops : accepts otherHead = false)
    (same : front ++ head :: rest = other ++ otherHead :: otherRest) :
    front = other ∧ head = otherHead ∧ rest = otherRest := by
  have frontTaken : (front ++ head :: rest).takeWhile accepts = front :=
    takeWhile_append_stop accepted stops
  have sameFront : front = other := by
    rw [← frontTaken, same, takeWhile_append_stop otherAccepted otherStops]
  subst sameFront
  exact ⟨rfl, List.cons.inj (List.append_cancel_left same)⟩

end Stops

section Ways

variable {accepts : Char → Bool} {text taken left : List Char}

theorem mem_takeOne_iff :
    (taken, left) ∈ takeOne accepts text ↔
      (∃ character, taken = [character] ∧ accepts character = true) ∧ text = taken ++ left := by
  cases text with
  | nil =>
      simp only [takeOne, List.not_mem_nil, false_iff]
      rintro ⟨⟨character, rfl, -⟩, whole⟩
      cases whole
  | cons head rest =>
      rw [takeOne]
      constructor
      · intro isWay
        split at isWay
        · rename_i accepted
          obtain ⟨rfl, rfl⟩ := Prod.mk.inj (List.mem_singleton.mp isWay)
          exact ⟨⟨head, rfl, accepted⟩, rfl⟩
        · cases isWay
      · rintro ⟨⟨character, rfl, accepted⟩, whole⟩
        obtain ⟨rfl, rfl⟩ := List.cons.inj whole
        simp [accepted]

theorem mem_takeMany_iff :
    (taken, left) ∈ takeMany accepts text ↔
      (taken ≠ [] ∧ ∀ character ∈ taken, accepts character = true) ∧ text = taken ++ left := by
  induction text generalizing taken with
  | nil =>
      simp only [takeMany, List.not_mem_nil, false_iff]
      rintro ⟨⟨nonempty, -⟩, whole⟩
      exact nonempty (List.append_eq_nil_iff.mp whole.symm).1
  | cons head rest inductionHypothesis =>
      rw [takeMany]
      constructor
      · intro isWay
        split at isWay
        · rename_i accepted
          rcases List.mem_append.mp isWay with longer | shortest
          · obtain ⟨⟨more, after⟩, isMore, same⟩ := List.mem_map.mp longer
            obtain ⟨rfl, rfl⟩ := Prod.mk.inj same
            obtain ⟨⟨-, moreAccepted⟩, rfl⟩ := inductionHypothesis.mp isMore
            exact ⟨⟨List.cons_ne_nil _ _, List.forall_mem_cons.mpr ⟨accepted, moreAccepted⟩⟩, rfl⟩
          · obtain ⟨rfl, rfl⟩ := Prod.mk.inj (List.mem_singleton.mp shortest)
            exact ⟨⟨List.cons_ne_nil _ _, by simpa using accepted⟩, rfl⟩
        · cases isWay
      · rintro ⟨⟨nonempty, allAccepted⟩, whole⟩
        obtain ⟨first, more, rfl⟩ := List.exists_cons_of_ne_nil nonempty
        obtain ⟨rfl, rfl⟩ := List.cons.inj whole
        obtain ⟨accepted, moreAccepted⟩ := List.forall_mem_cons.mp allAccepted
        rw [if_pos accepted]
        by_cases noMore : more = []
        · simp [noMore]
        · have isMore := inductionHypothesis.mpr ⟨⟨noMore, moreAccepted⟩, rfl⟩
          exact List.mem_append_left _ (List.mem_map_of_mem isMore)

/-- A pattern that begins with one character of a class goes on behind this character. -/
theorem ways_one_cons (accepts : Char → Bool) (pattern : List PatternPart) (head : Char)
    (rest : List Char) :
    ways (.one accepts :: pattern) (head :: rest) =
      if accepts head then (ways pattern rest).map fun way => ([head] :: way.1, way.2) else [] := by
  rw [ways, PatternPart.ways, takeOne]
  split <;> simp

/-- A pattern that may begin with one character of a class rather takes it than not. -/
theorem ways_optional (accepts : Char → Bool) (pattern : List PatternPart) (text : List Char) :
    ways (.optional accepts :: pattern) text =
      ways (.one accepts :: pattern) text ++
        (ways pattern text).map fun way => ([] :: way.1, way.2) := by
  simp [ways, PatternPart.ways]

/-- A part takes what it admits off the front of a text, in every way there is. -/
theorem PatternPart.mem_ways_iff (part : PatternPart) :
    (taken, left) ∈ part.ways text ↔ part.Admits taken ∧ text = taken ++ left := by
  cases part with
  | one accepts => exact mem_takeOne_iff
  | many accepts => exact mem_takeMany_iff
  | optional accepts =>
      rw [ways, List.mem_append, mem_takeOne_iff, List.mem_singleton, Prod.mk.injEq, Admits]
      constructor
      · rintro (⟨isOne, whole⟩ | ⟨rfl, rfl⟩)
        · exact ⟨.inr isOne, whole⟩
        · exact ⟨.inl rfl, rfl⟩
      · rintro ⟨rfl | isOne, whole⟩
        · exact .inr ⟨rfl, whole.symm⟩
        · exact .inl ⟨isOne, whole⟩

/-- The ways of a pattern are all the ways to take what its parts admit off the front of a text, one
after the other. -/
theorem mem_ways_iff {pattern : List PatternPart} {parts : List (List Char)} :
    (parts, left) ∈ ways pattern text ↔
      List.Forall₂ PatternPart.Admits pattern parts ∧ text = parts.flatten ++ left := by
  induction pattern generalizing text parts with
  | nil =>
      rw [ways, List.mem_singleton, Prod.mk.injEq, List.forall₂_nil_left_iff]
      constructor
      · rintro ⟨rfl, rfl⟩
        exact ⟨rfl, rfl⟩
      · rintro ⟨rfl, rfl⟩
        exact ⟨rfl, rfl⟩
  | cons part pattern inductionHypothesis =>
      rw [ways, List.mem_flatMap]
      constructor
      · rintro ⟨⟨first, after⟩, isFirst, isWay⟩
        obtain ⟨⟨others, last⟩, isOthers, same⟩ := List.mem_map.mp isWay
        obtain ⟨rfl, rfl⟩ := Prod.mk.inj same
        obtain ⟨firstAdmitted, rfl⟩ := part.mem_ways_iff.mp isFirst
        obtain ⟨othersAdmitted, whole⟩ := inductionHypothesis.mp isOthers
        change after = others.flatten ++ last at whole
        exact ⟨.cons firstAdmitted othersAdmitted, by simp [whole]⟩
      · rintro ⟨admitted, whole⟩
        obtain ⟨first, others, firstAdmitted, othersAdmitted, rfl⟩ :=
          List.forall₂_cons_left_iff.mp admitted
        refine ⟨(first, others.flatten ++ left), part.mem_ways_iff.mpr ⟨firstAdmitted, ?_⟩, ?_⟩
        · rw [whole, List.flatten_cons, List.append_assoc]
        · exact List.mem_map_of_mem (inductionHypothesis.mpr ⟨othersAdmitted, rfl⟩)

end Ways

section Scanning

variable {pattern : List PatternPart} {text left : List Char} {taken : List (List Char)}
  {segments others : List Segment}

/-- The only way of a pattern is the preferred one. -/
theorem head?_ways_of_only (isWay : (taken, left) ∈ ways pattern text)
    (only : ∀ way ∈ ways pattern text, way = (taken, left)) :
    (ways pattern text).head? = some (taken, left) := by
  obtain ⟨first, rest, split⟩ := List.exists_cons_of_ne_nil (List.ne_nil_of_mem isWay)
  rw [split, List.head?_cons, only first (by simp [split])]

/-- A pattern that does not match nothing takes something. -/
theorem length_lt_of_mem_ways (nothing : ways pattern [] = [])
    (isWay : (taken, left) ∈ ways pattern text) : left.length < text.length := by
  obtain ⟨admitted, rfl⟩ := mem_ways_iff.mp isWay
  by_cases isEmpty : taken.flatten = []
  · have ofNothing : (taken, []) ∈ ways pattern [] :=
      mem_ways_iff.mpr ⟨admitted, by rw [isEmpty, List.append_nil]⟩
    rw [nothing] at ofNothing
    cases ofNothing
  · have positive := List.length_pos_iff.mpr isEmpty
    rw [List.length_append]
    omega

/-- What reads a text as a scan does, segment by segment, reads off what the scan finds. -/
theorem exists_scans {Result : Type} {read : List Char → List Result}
    {write : Segment → List Result} (nothing : ways pattern [] = []) (readNothing : read [] = [])
    (readPassed : ∀ head rest, ways pattern (head :: rest) = [] →
      read (head :: rest) = write (.passed head) ++ read rest)
    (readFound : ∀ text taken left, (ways pattern text).head? = some (taken, left) →
      read text = write (.found taken) ++ read left) (text : List Char) :
    ∃ segments, Scans pattern text segments ∧ segments.flatMap write = read text := by
  -- A match may be of any length, and the scan goes on behind it.
  induction size : text.length using Nat.strong_induction_on generalizing text with
  | _ length inductionHypothesis =>
      cases preferred : (ways pattern text).head? with
      | some way =>
          obtain ⟨taken, left⟩ := way
          have shorter := length_lt_of_mem_ways nothing (List.mem_of_mem_head? preferred)
          obtain ⟨segments, onward, same⟩ := inductionHypothesis _ (size ▸ shorter) left rfl
          refine ⟨.found taken :: segments, .found preferred onward, ?_⟩
          rw [List.flatMap_cons, same, readFound text taken left preferred]
      | none =>
          have noWay := List.head?_eq_none_iff.mp preferred
          cases text with
          | nil => exact ⟨[], .done noWay, readNothing.symm⟩
          | cons head rest =>
              obtain ⟨segments, onward, same⟩ := inductionHypothesis _ (by simp [← size]) rest rfl
              refine ⟨.passed head :: segments, .passed noWay onward, ?_⟩
              rw [List.flatMap_cons, same, readPassed head rest noWay]

/-- A text is scanned in one way. -/
theorem Scans.unique (scan : Scans pattern text segments) (other : Scans pattern text others) :
    segments = others := by
  induction scan generalizing others with
  | done noWay =>
      cases other with
      | done => rfl
      | found preferred => simp [noWay] at preferred
  | passed noWay _ inductionHypothesis =>
      cases other with
      | passed _ onward => rw [inductionHypothesis onward]
      | found preferred => simp [noWay] at preferred
  | found preferred _ inductionHypothesis =>
      cases other with
      | done noWay => simp [noWay] at preferred
      | passed noWay => simp [noWay] at preferred
      | found otherPreferred onward =>
          obtain ⟨rfl, rfl⟩ := Prod.mk.inj
            (Option.some.inj (preferred.symm.trans otherPreferred))
          rw [inductionHypothesis onward]

end Scanning

end RequestSurface.Text
