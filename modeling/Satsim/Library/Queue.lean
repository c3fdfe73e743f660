import Mathlib

/-!
# Draining a queue

A consumer walks a queue from its front, takes the items that are ready while it has
room, and leaves the others in their order. What it takes is a prefix of the ready items,
and what it takes and what it leaves are together the items of the queue. In a queue whose
items stand in some order, no ready item is passed over for a later one.

Readiness is a predicate on items, so a queue that is gated by time is an instance at
each moment. Room is an integer, and without any a queue gives nothing.
-/

namespace Library

namespace Queue

universe u
variable {α : Type u} (ready : α → Bool)

/-- Take ready items from the front while there is room; return them and the rest. An item that
is not ready is left where it stands and uses no room. -/
def drain : ℤ → List α → List α × List α
  | _, [] => ([], [])
  | room, item :: rest =>
      if 0 < room ∧ ready item = true then
        let (taken, left) := drain (room - 1) rest
        (item :: taken, left)
      else
        let (taken, left) := drain room rest
        (taken, item :: left)

/-- Nothing is lost and nothing is duplicated. -/
theorem drain_perm (room : ℤ) (items : List α) :
    ((drain ready room items).1 ++ (drain ready room items).2).Perm items := by
  induction items generalizing room with
  | nil => rfl
  | cons item rest inductionHypothesis =>
    simp only [drain]
    split
    · exact (inductionHypothesis (room - 1)).cons item
    · exact List.perm_middle.trans ((inductionHypothesis room).cons item)

/-- What is taken are the first ready items, as many as there is room for. Items that are not
ready do not hold up the ones behind them. -/
theorem drain_taken (room : ℤ) (items : List α) :
    (drain ready room items).1 = (items.filter ready).take room.toNat := by
  induction items generalizing room with
  | nil => simp [drain]
  | cons item rest inductionHypothesis =>
    simp only [drain]
    split
    · rename_i taken
      obtain ⟨positive, prepared⟩ := taken
      have counted : room.toNat = (room - 1).toNat + 1 := by omega
      rw [List.filter_cons_of_pos prepared, counted, List.take_succ_cons, inductionHypothesis]
    · rename_i refused
      rw [inductionHypothesis]
      by_cases prepared : ready item = true
      · have full : room.toNat = 0 := by
          have : ¬ 0 < room := fun positive => refused ⟨positive, prepared⟩
          omega
        simp [full]
      · rw [List.filter_cons_of_neg prepared]

/-- What is taken was ready. -/
theorem drain_ready (room : ℤ) (items : List α) (item : α)
    (member : item ∈ (drain ready room items).1) : ready item = true := by
  rw [drain_taken] at member
  exact (List.mem_filter.mp (List.mem_of_mem_take member)).2

/-- Without room nothing happens. -/
theorem drain_closed (room : ℤ) (items : List α) (closed : room ≤ 0) :
    drain ready room items = ([], items) := by
  induction items with
  | nil => rfl
  | cons item rest inductionHypothesis =>
    rw [drain, if_neg (fun both => absurd both.1 (not_lt.mpr closed)), inductionHypothesis]

/-- When everything is ready, the queue is cut where the room ends. Nothing is then passed
over. -/
theorem drain_prepared (room : ℤ) (items : List α) (prepared : ∀ item ∈ items, ready item = true) :
    drain ready room items = (items.take room.toNat, items.drop room.toNat) := by
  induction items generalizing room with
  | nil => simp [drain]
  | cons item rest inductionHypothesis =>
    have later (other : ℤ) := inductionHypothesis other fun item listed =>
      prepared item (List.mem_cons_of_mem _ listed)
    have front := prepared item List.mem_cons_self
    by_cases roomy : 0 < room
    · have counted : room.toNat = (room - 1).toNat + 1 := by omega
      rw [drain, if_pos ⟨roomy, front⟩, later, counted, List.take_succ_cons, List.drop_succ_cons]
    · have full : room.toNat = 0 := by omega
      simp [drain, roomy, later, full]

/-- How many are taken: the ready items, or as many as there is room for. Negative room counts
as none. -/
theorem drain_count (room : ℤ) (items : List α) :
    ((drain ready room items).1.length : ℤ) =
      min (max room 0) ((items.filter ready).length : ℤ) := by
  rw [drain_taken, List.length_take]
  omega

/-- What is left keeps its order. -/
theorem drain_left (room : ℤ) (items : List α) : (drain ready room items).2.Sublist items := by
  induction items generalizing room with
  | nil => exact List.Sublist.refl []
  | cons item rest inductionHypothesis =>
    simp only [drain]
    split
    · exact (inductionHypothesis (room - 1)).cons item
    · exact (inductionHypothesis room).cons_cons item

/-- What is taken keeps its order. -/
theorem drain_taken_sublist (room : ℤ) (items : List α) :
    (drain ready room items).1.Sublist items := by
  rw [drain_taken]
  exact (List.take_sublist _ _).trans List.filter_sublist

section Turns

variable (before : α → α → Prop) (asymmetric : ∀ first second, before first second →
  ¬ before second first)
include asymmetric

/-- Two items of an ordered list stand in it as they are ordered. -/
theorem pair_sublist (items : List α) (sorted : items.Pairwise before) (first second : α)
    (firstListed : first ∈ items) (secondListed : second ∈ items) (ordered : before first second) :
    [first, second].Sublist items := by
  obtain ⟨front, back, rfl⟩ := List.append_of_mem firstListed
  obtain ⟨_, later, across⟩ := List.pairwise_append.mp sorted
  have behind : second ∈ back := by
    cases List.mem_append.mp secondListed with
    | inl ahead =>
      exact absurd (across second ahead first List.mem_cons_self) (asymmetric _ _ ordered)
    | inr rest =>
      rcases List.mem_cons.mp rest with rfl | behind
      · exact absurd ordered (asymmetric _ _ ordered)
      · exact behind
  exact ((List.singleton_sublist.mpr behind).cons_cons first).trans (List.sublist_append_right _ _)

/-- Nobody is overtaken: with an item that is taken, every ready item before it is taken too,
and stands before it. The order is any relation by which the queue happens to be sorted. -/
theorem drain_in_turn (room : ℤ) (items : List α) (sorted : items.Pairwise before)
    (first second : α) (firstListed : first ∈ items) (prepared : ready first = true)
    (taken : second ∈ (drain ready room items).1) (ordered : before first second) :
    [first, second].Sublist (drain ready room items).1 := by
  have kept : (drain ready room items).1.Pairwise before :=
    sorted.sublist (drain_taken_sublist ready room items)
  refine pair_sublist before asymmetric _ kept first second ?_ taken ordered
  rw [drain_taken] at taken ⊢
  have listed : first ∈ items.filter ready := List.mem_filter.mpr ⟨firstListed, prepared⟩
  rw [← List.take_append_drop room.toNat (items.filter ready)] at listed
  cases List.mem_append.mp listed with
  | inl early =>
    exact early
  | inr late =>
    -- Then the item taken would stand before it.
    have readySorted := sorted.sublist (List.filter_sublist (p := ready))
    rw [← List.take_append_drop room.toNat (items.filter ready)] at readySorted
    exact absurd ((List.pairwise_append.mp readySorted).2.2 second taken first late)
      (asymmetric _ _ ordered)

end Turns

end Queue

end Library
