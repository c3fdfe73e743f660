import Mathlib

/-!
# A queue served in batches

Items arrive slot by slot and wait in their order; a slot serves those that wait, up to a
batch. How many have left after some slots is the least, over the slots from which the queue
may have stayed busy, of what had arrived by then and a full batch for every slot since. So
the queue is known from the arrivals in closed form, with how long an item waits in it.

The closed form is a min-plus convolution of the arrivals with the constant service.
Nothing is said about how arrivals come about, so it applies to any source whose
arrivals are known slot by slot.
-/

namespace Library

namespace Batches

universe u
variable {α : Type u} (batch : ℕ) (arrivals : ℕ → List α)

/-- What waits at the start of a slot. A slot serves from those left over and its own arrivals
together. -/
def waiting : ℕ → List α
  | 0 => []
  | slot + 1 => (waiting slot ++ arrivals slot).drop batch

/-- What a slot serves: as many as a batch holds, the longest waiting first. -/
def leaving (slot : ℕ) : List α := (waiting batch arrivals slot ++ arrivals slot).take batch

/-- Everything that has arrived in the first slots. -/
def arrived (slots : ℕ) : List α := (List.range slots).flatMap arrivals

/-- How many items have left after a number of slots. Each candidate of the minimum is a bound
by a slot since which every batch was full. -/
def departed (slots : ℕ) : ℕ :=
  (Finset.range (slots + 1)).inf' Finset.nonempty_range_add_one fun busy =>
    (arrived arrivals busy).length + (slots - busy) * batch

/-- One slot more adds its arrivals at the end. -/
theorem arrived_succ (slots : ℕ) :
    arrived arrivals (slots + 1) = arrived arrivals slots ++ arrivals slots := by
  rw [arrived, List.range_succ, List.flatMap_append, List.flatMap_singleton, ← arrived]

/-- Earlier arrivals are the beginning of later ones. -/
theorem arrived_monotone (early late : ℕ) (ordered : early ≤ late) :
    arrived arrivals early <+: arrived arrivals late := by
  induction late, ordered using Nat.le_induction with
  | base => exact List.prefix_rfl
  | succ late _ inductionHypothesis =>
    rw [arrived_succ]
    exact inductionHypothesis.trans (List.prefix_append _ _)

/-- Nobody has left before the first slot. -/
@[simp] theorem departed_zero : departed batch arrivals 0 = 0 := by simp [departed, arrived]

/-- Since any slot at most a full batch a slot has left, beside what had arrived by then. -/
theorem departed_le_busy (slots busy : ℕ) (within : busy ≤ slots) : departed batch arrivals slots ≤
    (arrived arrivals busy).length + (slots - busy) * batch :=
  Finset.inf'_le _ (Finset.mem_range_succ_iff.mpr within)

/-- One of these bounds is the number that has left. -/
theorem departed_attained (slots : ℕ) : ∃ busy ≤ slots, departed batch arrivals slots =
    (arrived arrivals busy).length + (slots - busy) * batch := by
  obtain ⟨busy, listed, attained⟩ := Finset.exists_mem_eq_inf'
    (Finset.nonempty_range_add_one (n := slots)) fun busy =>
      (arrived arrivals busy).length + (slots - busy) * batch
  exact ⟨busy, Finset.mem_range_succ_iff.mp listed, attained⟩

/-- Nobody leaves before arriving. -/
theorem departed_le (slots : ℕ) :
    departed batch arrivals slots ≤ (arrived arrivals slots).length := by
  simpa using departed_le_busy batch arrivals slots slots le_rfl

/-- A slot serves everybody, or a full batch. This recursion is what the closed form is checked
against. -/
theorem departed_succ (slots : ℕ) : departed batch arrivals (slots + 1) =
    min (arrived arrivals (slots + 1)).length (departed batch arrivals slots + batch) := by
  have longer (busy : ℕ) (within : busy ≤ slots) :
      (slots + 1 - busy) * batch = (slots - busy) * batch + batch := by
    rw [Nat.succ_sub within, Nat.succ_mul]
  apply le_antisymm
  · obtain ⟨busy, within, attained⟩ := departed_attained batch arrivals slots
    have bounded := departed_le_busy batch arrivals (slots + 1) busy (by omega)
    rw [longer busy within] at bounded
    exact le_min (departed_le batch arrivals (slots + 1)) (by omega)
  · obtain ⟨busy, within, attained⟩ := departed_attained batch arrivals (slots + 1)
    rcases Nat.lt_or_eq_of_le within with earlier | rfl
    · have bounded := departed_le_busy batch arrivals slots busy (by omega)
      rw [attained, longer busy (by omega)]
      exact (min_le_right _ _).trans (by omega)
    · rw [attained]
      exact (min_le_left _ _).trans (Nat.le_add_right _ _)

/-- What waits are the arrivals that have not left. The queue has no other state. -/
theorem waiting_eq (slots : ℕ) : waiting batch arrivals slots =
    (arrived arrivals slots).drop (departed batch arrivals slots) := by
  induction slots with
  | zero => simp [waiting, arrived]
  | succ slots inductionHypothesis =>
    have within := departed_le batch arrivals slots
    rw [waiting, inductionHypothesis, ← List.drop_append_of_le_length within, List.drop_drop,
      ← arrived_succ, departed_succ]
    rcases le_total (arrived arrivals (slots + 1)).length (departed batch arrivals slots + batch)
      with everybody | full
    · rw [min_eq_left everybody, List.drop_length, List.drop_of_length_le everybody]
    · rw [min_eq_right full]

/-- What has left are the first arrivals, in their order. -/
theorem leaving_eq (slots : ℕ) : (List.range slots).flatMap (leaving batch arrivals) =
    (arrived arrivals slots).take (departed batch arrivals slots) := by
  induction slots with
  | zero => simp
  | succ slots inductionHypothesis =>
    have within := departed_le batch arrivals slots
    have earlier : (arrived arrivals (slots + 1)).take (departed batch arrivals slots) =
        (arrived arrivals slots).take (departed batch arrivals slots) := by
      rw [arrived_succ]
      exact List.take_append_of_le_length within
    rw [List.range_succ, List.flatMap_append, List.flatMap_singleton, inductionHypothesis, leaving,
      waiting_eq, ← List.drop_append_of_le_length within, ← arrived_succ, ← earlier,
      ← List.take_add, departed_succ]
    rcases le_total (arrived arrivals (slots + 1)).length (departed batch arrivals slots + batch)
      with everybody | full
    · rw [min_eq_left everybody, List.take_length, List.take_of_length_le everybody]
    · rw [min_eq_right full]

/-- The queue depends on the arrivals of the slots before. -/
theorem waiting_congr (others : ℕ → List α) (slots : ℕ)
    (same : ∀ slot < slots, arrivals slot = others slot) :
    waiting batch arrivals slots = waiting batch others slots := by
  induction slots with
  | zero => rfl
  | succ slots inductionHypothesis =>
    rw [waiting, waiting, inductionHypothesis fun slot earlier => same slot (by omega),
      same slots (by omega)]

/-- Those that wait or arrive in a slot have left once full batches would have taken them. The
bound does not depend on later arrivals, which stand behind them. -/
theorem departed_by (slot later : ℕ) (ordered : slot < later)
    (room : (waiting batch arrivals slot ++ arrivals slot).length ≤ (later - slot) * batch) :
    (arrived arrivals (slot + 1)).length ≤ departed batch arrivals later := by
  have within := departed_le batch arrivals slot
  have counted : (arrived arrivals (slot + 1)).length =
      departed batch arrivals slot + (waiting batch arrivals slot ++ arrivals slot).length := by
    rw [waiting_eq, arrived_succ]
    simp only [List.length_append, List.length_drop]
    omega
  obtain ⟨busy, _, attained⟩ := departed_attained batch arrivals later
  rw [attained]
  rcases Nat.lt_or_ge slot busy with after | before
  · exact (arrived_monotone arrivals (slot + 1) busy after).length_le.trans (Nat.le_add_right _ _)
  · have bounded := departed_le_busy batch arrivals slot busy before
    have split : later - busy = (slot - busy) + (later - slot) := by omega
    rw [split, Nat.add_mul]
    omega

end Batches

end Library
