import Mathlib

/-!
# Ranks in a sorted list

The item of rank `k` of a sorted list, counted from one, has at least `k` items at or
below it and fewer than `k` strictly below. Ties lie on both sides of the rank.

The two counts determine the value of a rank among the items. This is how a percentile
can be characterised without speaking of positions.
-/

namespace Library.Rank

variable {α : Type} [LinearOrder α] (items : List α) (sorted : items.SortedLE)

include sorted

/-- The items up to a position are at or below the one there. Equal items after it only add to
the count. -/
theorem rank_le_countP (position : ℕ) (inside : position < items.length) :
    position + 1 ≤ items.countP (fun other => decide (other ≤ items[position])) := by
  have early : ∀ other ∈ items.take (position + 1), other ≤ items[position] := by
    intro other member
    obtain ⟨index, bounded, rfl⟩ := List.mem_iff_getElem.mp member
    rw [List.length_take] at bounded
    rw [List.getElem_take]
    exact sorted.getElem_le_getElem_of_le (by omega)
  calc position + 1 = (items.take (position + 1)).length := by
        rw [List.length_take]
        omega
    _ = (items.take (position + 1)).countP (fun other => decide (other ≤ items[position])) :=
        (List.countP_eq_length.mpr (by simpa using early)).symm
    _ ≤ items.countP (fun other => decide (other ≤ items[position])) :=
        (List.take_sublist _ _).countP_le

/-- The items strictly below the one at a position come before it. Equal items before it are not
counted. -/
theorem countP_lt_rank (position : ℕ) (inside : position < items.length) :
    items.countP (fun other => decide (other < items[position])) ≤ position := by
  have late : ∀ other ∈ items.drop position, ¬ other < items[position] := by
    intro other member
    obtain ⟨index, bounded, rfl⟩ := List.mem_iff_getElem.mp member
    rw [List.getElem_drop]
    exact not_lt.mpr (sorted.getElem_le_getElem_of_le (by omega))
  have none : (items.drop position).countP (fun other => decide (other < items[position])) = 0 :=
    List.countP_eq_zero.mpr (by simpa using late)
  have split : items.countP (fun other => decide (other < items[position])) =
      (items.take position).countP (fun other => decide (other < items[position])) +
        (items.drop position).countP (fun other => decide (other < items[position])) := by
    rw [← List.countP_append, List.take_append_drop]
  calc items.countP (fun other => decide (other < items[position]))
      = (items.take position).countP (fun other => decide (other < items[position])) := by
        rw [split, none, add_zero]
    _ ≤ (items.take position).length := List.countP_le_length
    _ ≤ position := by
        rw [List.length_take]
        omega

/-- The last item is at or above every other. -/
theorem sorted_le_getLast (inhabited : items ≠ []) (item : α) (member : item ∈ items) :
    item ≤ items.getLast inhabited := by
  obtain ⟨index, bounded, rfl⟩ := List.mem_iff_getElem.mp member
  rw [List.getLast_eq_getElem]
  exact sorted.getElem_le_getElem_of_le (by omega)

end Library.Rank
