import Mathlib
import RequestSurface.Text.SortKey

/-!
# Sorting by a key

Sort keys are compared like rows of texts in lexicographic order, which is linear. Sorting by a key
therefore gives a rearrangement in the order of the keys, and two rearrangements of one list have
the same keys in the same places once they are sorted.
-/

namespace RequestSurface.Text.SortKey

variable {α : Type} {key : α → SortKey} {things left right : List α}

/-- The comparison of sort keys is the lexicographic order of rows of texts. -/
theorem isUpTo_iff_le {left right : SortKey} : left.isUpTo right = true ↔ left ≤ right := by
  rw [← not_lt]
  induction left generalizing right with
  | nil => simp [isUpTo]
  | cons head tail inductionHypothesis =>
      cases right with
      | nil => simp [isUpTo]
      | cons other rest =>
          simp only [isUpTo, Bool.or_eq_true, Bool.and_eq_true, decide_eq_true_eq, beq_iff_eq,
            inductionHypothesis, List.cons_lt_cons_iff]
          rcases lt_trichotomy head other with below | rfl | above
          · simp [below, below.not_gt, below.ne']
          · simp
          · simp [above, above.not_gt, above.ne']

/-- Sorting neither drops nor repeats anything. -/
theorem sort_perm (key : α → SortKey) (things : List α) : (sort key things).Perm things :=
  List.mergeSort_perm things _

/-- The comparison of sort keys is transitive. -/
theorem isUpTo_trans {first second third : SortKey} (lower : first.isUpTo second = true)
    (upper : second.isUpTo third = true) : first.isUpTo third = true :=
  isUpTo_iff_le.mpr ((isUpTo_iff_le.mp lower).trans (isUpTo_iff_le.mp upper))

/-- Any two sort keys can be compared. -/
theorem isUpTo_total (first second : SortKey) :
    (first.isUpTo second || second.isUpTo first) = true := by
  rcases le_total first second with ascending | descending
  · simp [isUpTo_iff_le.mpr ascending]
  · simp [isUpTo_iff_le.mpr descending]

/-- The keys of sorted things stand in order. -/
theorem sortedLE_map_sort (key : α → SortKey) (things : List α) :
    ((sort key things).map key).SortedLE := by
  have inOrder : (sort key things).Pairwise fun former latter =>
      (key former).isUpTo (key latter) = true := by
    refine List.pairwise_mergeSort ?_ ?_ things
    · exact fun _ _ _ => isUpTo_trans
    · exact fun _ _ => isUpTo_total _ _
  exact (List.pairwise_map.mpr (inOrder.imp isUpTo_iff_le.mp)).sortedLE

/-- Things that share a key keep their order when they are sorted among others. -/
theorem filter_sort {chosen : α → Bool}
    (sameKey : ∀ first ∈ things, ∀ second ∈ things,
      chosen first = true → chosen second = true → key first = key second) :
    (sort key things).filter chosen = things.filter chosen := by
  have comparable : (things.filter chosen).Pairwise fun first second =>
      (key first).isUpTo (key second) = true := by
    refine List.pairwise_iff_forall_sublist.mpr fun {first second} pair => ?_
    obtain ⟨inFirst, isFirst⟩ := List.mem_filter.mp (pair.subset List.mem_cons_self)
    obtain ⟨inSecond, isSecond⟩ :=
      List.mem_filter.mp (pair.subset (List.mem_cons_of_mem _ List.mem_cons_self))
    exact isUpTo_iff_le.mpr (sameKey first inFirst second inSecond isFirst isSecond).le
  -- Sorting keeps a part that is in order already, and it cannot grow there.
  have kept : List.Sublist (things.filter chosen) (sort key things) := by
    refine List.sublist_mergeSort ?_ ?_ comparable List.filter_sublist
    · exact fun _ _ _ => isUpTo_trans
    · exact fun _ _ => isUpTo_total _ _
  have keptAlone : List.Sublist (things.filter chosen) ((sort key things).filter chosen) := by
    simpa using kept.filter chosen
  have sameLength : ((sort key things).filter chosen).length = (things.filter chosen).length :=
    ((sort_perm key things).filter chosen).length_eq
  exact (keptAlone.eq_of_length sameLength.symm).symm

/-- Rearranged lists are still rearrangements of each other once they are sorted. -/
theorem sort_perm_sort (key : α → SortKey) (rearranged : left.Perm right) :
    (sort key left).Perm (sort key right) :=
  ((sort_perm key left).trans rearranged).trans (sort_perm key right).symm

/-- Rearranged lists have the same keys in the same places once they are sorted. -/
theorem map_sort_eq_of_perm (rearranged : left.Perm right) :
    (sort key left).map key = (sort key right).map key := by
  have sameKeys := (sort_perm_sort key rearranged).map key
  exact sameKeys.eq_of_sortedLE (sortedLE_map_sort key left) (sortedLE_map_sort key right)

/-- Rearranged lists are equal once they are sorted, if no two things in them share a key. -/
theorem sort_eq_of_perm (rearranged : left.Perm right) (distinct : (left.map key).Nodup) :
    sort key left = sort key right := by
  have leftOrder := List.pairwise_map.mp (sortedLE_map_sort key left).pairwise
  have rightOrder := List.pairwise_map.mp (sortedLE_map_sort key right).pairwise
  have injective := List.inj_on_of_nodup_map distinct
  refine (sort_perm_sort key rearranged).eq_of_pairwise ?_ leftOrder rightOrder
  intro first second inLeft inRight lower upper
  have firstMember := (sort_perm key left).mem_iff.mp inLeft
  have secondMember := rearranged.mem_iff.mpr ((sort_perm key right).mem_iff.mp inRight)
  exact injective firstMember secondMember (le_antisymm lower upper)

end RequestSurface.Text.SortKey
