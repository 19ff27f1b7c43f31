import Mathlib
import RequestSurface.Message.Draft

/-!
# The first failure

Whatever goes through a row of items stops at the first one that fails, and gives the error of that
one. `FirstFailure` says which error that is; an item may be anything that can fail with an error,
also a cause of failure itself.
-/

namespace RequestSurface

/-- Of the items of a row, the first one that fails does so with an error. -/
inductive FirstFailure {α ε : Type} (fails : α → ε → Prop) : List α → ε → Prop where
  | here {item : α} {rest : List α} {error : ε} (failing : fails item error) :
      FirstFailure fails (item :: rest) error
  | later {item : α} {rest : List α} {error : ε} (passes : ∀ other, ¬ fails item other)
      (others : FirstFailure fails rest error) : FirstFailure fails (item :: rest) error

namespace FirstFailure

variable {α β ε : Type} {fails : α → ε → Prop} {error : ε}

/-- Nothing fails where nothing is. -/
@[simp] theorem not_nil : ¬ FirstFailure fails [] error := by
  rintro ⟨⟩

/-- An item fails, or it passes and a later one fails. -/
theorem cons_iff {item : α} {rest : List α} :
    FirstFailure fails (item :: rest) error ↔
      fails item error ∨ (∀ other, ¬ fails item other) ∧ FirstFailure fails rest error := by
  constructor
  · rintro (failing | ⟨passes, others⟩)
    · exact .inl failing
    · exact .inr ⟨passes, others⟩
  · rintro (failing | ⟨passes, others⟩)
    · exact .here failing
    · exact .later passes others

/-- One item fails first when it fails. -/
@[simp] theorem singleton_iff {item : α} : FirstFailure fails [item] error ↔ fails item error := by
  simp [cons_iff]

/-- There is a first failure exactly when there is a failure. -/
theorem exists_iff {list : List α} :
    (∃ error, FirstFailure fails list error) ↔ ∃ item ∈ list, ∃ error, fails item error := by
  induction list with
  | nil => simp
  | cons item rest inductionHypothesis =>
      by_cases failing : ∃ error, fails item error
      · obtain ⟨error, fails⟩ := failing
        exact iff_of_true ⟨error, .here fails⟩ ⟨item, List.mem_cons_self, error, fails⟩
      · have passes : ∀ error, ¬ fails item error := not_exists.mp failing
        simp only [cons_iff, passes, false_or, not_false_eq_true, implies_true, true_and,
          inductionHypothesis, List.mem_cons, exists_eq_or_imp, exists_false]

/-- A row fails in its front, or its front passes and its back fails. -/
theorem append_iff {front back : List α} :
    FirstFailure fails (front ++ back) error ↔
      FirstFailure fails front error ∨
        (∀ other, ¬ FirstFailure fails front other) ∧ FirstFailure fails back error := by
  induction front with
  | nil => simp
  | cons item rest inductionHypothesis =>
      simp only [List.cons_append, cons_iff, inductionHypothesis]
      grind

/-- Rows one after the other fail where the first failing one of them does. -/
theorem flatten_iff {rows : List (List α)} :
    FirstFailure fails rows.flatten error ↔ FirstFailure (FirstFailure fails) rows error := by
  induction rows with
  | nil => simp
  | cons row rest inductionHypothesis =>
      rw [List.flatten_cons, append_iff, cons_iff, inductionHypothesis]

/-- Items that are made of others fail as those others do. -/
theorem map_iff {f : β → α} {list : List β} :
    FirstFailure fails (list.map f) error ↔
      FirstFailure (fun item error => fails (f item) error) list error := by
  induction list with
  | nil => simp
  | cons item rest inductionHypothesis =>
      rw [List.map_cons, cons_iff, cons_iff, inductionHypothesis]

/-- What fails alike fails first alike. -/
theorem congr {others : α → ε → Prop} {list : List α}
    (same : ∀ item error, fails item error ↔ others item error) :
    FirstFailure fails list error ↔ FirstFailure others list error := by
  have isSame : fails = others := funext₂ fun item error => propext (same item error)
  rw [isSame]

end FirstFailure

section Traversals

variable {α β ε : Type}

/-- Two steps succeed when the first does and then the second. -/
theorem bind_eq_ok_iff {first : Except ε α} {next : α → Except ε β} {result : β} :
    first >>= next = .ok result ↔ ∃ value, first = .ok value ∧ next value = .ok result := by
  cases first <;> simp [bind, Except.bind]

/-- Two steps fail when the first does, or when the first succeeds and then the second fails. -/
theorem bind_eq_error_iff {first : Except ε α} {next : α → Except ε β} {error : ε} :
    first >>= next = .error error ↔
      first = .error error ∨ ∃ value, first = .ok value ∧ next value = .error error := by
  cases first <;> simp [bind, Except.bind]

/-- Attempts that are made one after the other end with the first failure. -/
theorem mapM_eq_error_iff {attempt : α → Except ε β} {list : List α} {error : ε} :
    list.mapM attempt = .error error ↔
      FirstFailure (fun item error => attempt item = .error error) list error := by
  induction list with
  | nil => simp [pure, Except.pure]
  | cons item rest inductionHypothesis =>
      rw [FirstFailure.cons_iff, List.mapM_cons, ← inductionHypothesis]
      cases first : attempt item with
      | error failure => simp [bind, Except.bind]
      | ok result =>
          cases others : rest.mapM attempt <;> simp [bind, Except.bind, pure, Except.pure]

/-- Attempts that are made one after the other succeed when each of them does. -/
theorem mapM_eq_ok_iff {attempt : α → Except ε β} {list : List α} {results : List β} :
    list.mapM attempt = .ok results ↔
      List.Forall₂ (fun item result => attempt item = .ok result) list results := by
  induction list generalizing results with
  | nil => simp [pure, Except.pure, eq_comm]
  | cons item rest inductionHypothesis =>
      rw [List.mapM_cons, List.forall₂_cons_left_iff]
      cases first : attempt item with
      | error failure => simp [bind, Except.bind]
      | ok result =>
          simp only [← inductionHypothesis, Except.ok.injEq]
          cases others : rest.mapM attempt <;>
            simp [bind, Except.bind, pure, Except.pure, eq_comm]

/-- Checks that are made one after the other end with the first failure. -/
theorem forM_eq_error_iff {check : α → Except ε Unit} {list : List α} {error : ε} :
    list.forM check = .error error ↔
      FirstFailure (fun item error => check item = .error error) list error := by
  induction list with
  | nil => simp [pure, Except.pure]
  | cons item rest inductionHypothesis =>
      rw [FirstFailure.cons_iff, ← inductionHypothesis]
      cases first : check item <;> simp [List.forM, first, bind, Except.bind]

/-- What is collected until a failure ends with the first one. -/
theorem untilFailure_eq_some_iff {attempts : List (Except Failure α)} {failure : Failure} :
    (untilFailure attempts).2 = some failure ↔
      FirstFailure (fun attempt failure => attempt = .error failure) attempts failure := by
  induction attempts with
  | nil => simp [untilFailure]
  | cons attempt rest inductionHypothesis =>
      rw [FirstFailure.cons_iff, ← inductionHypothesis]
      cases attempt <;> simp [untilFailure]

end Traversals

end RequestSurface
