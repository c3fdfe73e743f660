import Mathlib

/-!
# Dealing round robin

Rows of equal width, written one after another, number their cells without a gap. Dealt
to places in turn, the cells give every place the floor or the ceiling of its share.

Counting goes by intervals of positions, of which each place meets one in every round.
Nothing depends on what the cells or the places are.
-/

namespace Library.RoundRobin

/-- The places of the cells, row by row. -/
def places (rows width count : ℕ) : List ℕ :=
  (List.range rows).flatMap (fun row =>
    (List.range width).map (fun column => (row * width + column) % count))

/-- Rows written one after another count through all their cells once. -/
theorem flatMap_range (rows width : ℕ) :
    (List.range rows).flatMap (fun row => (List.range width).map (fun column =>
      row * width + column)) = List.range (rows * width) := by
  induction rows with
  | zero => simp
  | succ rows inductionHypothesis =>
    rw [List.range_succ, List.flatMap_append, inductionHypothesis, Nat.succ_mul, List.range_add]
    simp

/-- The places of all cells, counted through without rows. -/
theorem places_eq (rows width count : ℕ) :
    places rows width count = (List.range (rows * width)).map (· % count) := by
  rw [← flatMap_range, places, List.map_flatMap]
  simp only [List.map_map, Function.comp_def]

/-- There are as many cells as rows times width. -/
@[simp] theorem length_places (rows width count : ℕ) :
    (places rows width count).length = rows * width := by
  rw [places_eq, List.length_map, List.length_range]

/-- Counting in a range is `Nat.count`. -/
theorem countP_range (selected : ℕ → Prop) [DecidablePred selected] (count : ℕ) :
    (List.range count).countP (fun cell => decide (selected cell)) = Nat.count selected count := by
  induction count with
  | zero => rfl
  | succ count inductionHypothesis =>
    rw [List.range_succ, List.countP_append, inductionHypothesis, Nat.count_succ]
    simp [List.countP_singleton]

/-- With at least as many cells as places, every place has a cell. -/
theorem mem_places (rows width count : ℕ) (enough : count ≤ rows * width) (place : ℕ)
    (inside : place < count) : place ∈ places rows width count := by
  rw [places_eq]
  exact List.mem_map.mpr ⟨place, List.mem_range.mpr (inside.trans_le enough),
    Nat.mod_eq_of_lt inside⟩

section Count

variable (rows width : ℕ) {count : ℕ} (positive : 0 < count)
include positive

/-- A place has the floor of its share, and the first few places have one more. How the cells
are cut into rows makes no difference. -/
theorem count_places (place : ℕ) (inside : place < count) :
    (places rows width count).count place =
      rows * width / count + if place < rows * width % count then 1 else 0 := by
  have counted := Nat.count_modEq_card (rows * width) positive place
  rw [Nat.mod_eq_of_lt inside, ← countP_range] at counted
  rw [← counted, places_eq, List.count_eq_countP, List.countP_map]
  apply List.countP_congr
  intro cell _
  simp [Nat.ModEq, Nat.mod_eq_of_lt inside]

/-- Every place has the floor or the ceiling of its share. -/
theorem count_floor_or_ceil (place : ℕ) (inside : place < count) :
    (places rows width count).count place = rows * width / count ∨
      (places rows width count).count place = rows * width ⌈/⌉ count := by
  have last : (count - 1) / count = 0 := Nat.div_eq_of_lt (by omega)
  have room : (count - 1) % count = count - 1 := Nat.mod_eq_of_lt (by omega)
  rw [count_places rows width positive place inside, Nat.ceilDiv_eq_add_pred_div,
    Nat.add_sub_assoc positive, Nat.add_div positive, last, room]
  split
  · rename_i early
    right
    rw [if_pos (by omega)]
  · exact Or.inl rfl

/-- No two places differ by more than one. -/
theorem count_near (left right : ℕ) (leftInside : left < count) (rightInside : right < count) :
    (places rows width count).count left ≤ (places rows width count).count right + 1 := by
  rw [count_places rows width positive left leftInside,
    count_places rows width positive right rightInside]
  split <;> split <;> omega

end Count

end Library.RoundRobin
