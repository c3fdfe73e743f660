import Mathlib

/-!
# Sums and sums of squares

The squared sum of a list is at most its length times the sum of its squares, since the
squared distances from the mean add up to the difference; it is that much exactly when all
values are equal. On values that are not negative it is at least the sum of the squares.
These are the bounds of Jain's fairness index.

The results are over any linearly ordered field. How many users there are is a parameter
of its own, since those who are given nothing need not be listed.
-/

namespace Library.Jain

universe u
variable {K : Type u} [Field K] [LinearOrder K] [IsStrictOrderedRing K]

/-- The sum of the squares of the values. -/
def squares (values : List K) : K := (values.map (fun value => value * value)).sum

/-- The squared distances of the values from a centre. Any centre will do; the mean is where the
identity below is needed. -/
def spread (values : List K) (centre : K) : K :=
  (values.map (fun value => (value - centre) * (value - centre))).sum

omit [LinearOrder K] [IsStrictOrderedRing K] in
/-- A spread in terms of the squares, the sum and the number of values. -/
theorem spread_eq (values : List K) (centre : K) :
    spread values centre =
      squares values - 2 * centre * values.sum + values.length * (centre * centre) := by
  induction values with
  | nil => simp [spread, squares]
  | cons value rest inductionHypothesis =>
    simp only [spread, squares, List.map_cons, List.sum_cons, List.length_cons] at *
    rw [inductionHypothesis]
    push_cast
    ring

/-- A spread is never negative. The inequality of this module is this fact at the mean. -/
theorem spread_nonneg (values : List K) (centre : K) : 0 ≤ spread values centre := by
  apply List.sum_nonneg
  intro distance member
  obtain ⟨value, _, rfl⟩ := List.mem_map.mp member
  exact mul_self_nonneg _

/-- Without spread every value is the centre. -/
theorem spread_eq_zero (values : List K) (centre : K) :
    spread values centre = 0 ↔ ∀ value ∈ values, value = centre := by
  induction values with
  | nil => simp [spread]
  | cons value rest inductionHypothesis =>
    have first : spread (value :: rest) centre =
        (value - centre) * (value - centre) + spread rest centre := by
      simp [spread]
    rw [first, add_eq_zero_iff_of_nonneg (mul_self_nonneg _) (spread_nonneg rest centre),
      mul_self_eq_zero, sub_eq_zero, inductionHypothesis, List.forall_mem_cons]

/-- Around the mean the spread is what the squared sum falls short. -/
theorem length_mul_spread (values : List K) (inhabited : values ≠ []) :
    values.length * spread values (values.sum / values.length) =
      values.length * squares values - values.sum * values.sum := by
  have count : (values.length : K) ≠ 0 := by
    exact_mod_cast (List.length_pos_iff.mpr inhabited).ne'
  rw [spread_eq]
  field_simp
  ring

/-- The squared sum is at most the number of values times the sum of their squares. -/
theorem sum_mul_sum_le (values : List K) :
    values.sum * values.sum ≤ values.length * squares values := by
  cases values with
  | nil => simp [squares]
  | cons value rest =>
    have distance := length_mul_spread (value :: rest) (List.cons_ne_nil _ _)
    have nonneg := mul_nonneg (Nat.cast_nonneg' (value :: rest).length)
      (spread_nonneg (value :: rest) ((value :: rest).sum / (value :: rest).length))
    rw [distance] at nonneg
    exact sub_nonneg.mp nonneg

/-- The bound is met exactly by equal values. An empty list meets it, with nothing to
compare. -/
theorem sum_mul_sum_eq (values : List K) :
    values.sum * values.sum = values.length * squares values ↔
      ∀ left ∈ values, ∀ right ∈ values, left = right := by
  cases values with
  | nil => simp [squares]
  | cons value rest =>
    have distance := length_mul_spread (value :: rest) (List.cons_ne_nil _ _)
    have count : ((value :: rest).length : K) ≠ 0 := by
      exact_mod_cast Nat.succ_ne_zero rest.length
    constructor
    · intro same left leftMember right rightMember
      rw [same, sub_self, mul_eq_zero] at distance
      have centred := (spread_eq_zero _ _).mp (distance.resolve_left count)
      exact (centred left leftMember).trans (centred right rightMember).symm
    · intro equal
      have total : (value :: rest).sum = (value :: rest).length * value := by
        have copies : value :: rest = List.replicate (value :: rest).length value :=
          List.eq_replicate_of_mem (fun other member => equal other member value (by simp))
        rw [copies, List.sum_replicate, nsmul_eq_mul, List.length_replicate]
      have centred : spread (value :: rest) ((value :: rest).sum / (value :: rest).length) = 0 := by
        rw [spread_eq_zero, total, mul_div_cancel_left₀ value count]
        exact fun other member => equal other member value (by simp)
      rw [centred, mul_zero] at distance
      exact (sub_eq_zero.mp distance.symm).symm

/-- On values that are not negative the squares add up to at most the squared sum, since the
mixed products only add. -/
theorem squares_le (values : List K) (nonneg : ∀ value ∈ values, 0 ≤ value) :
    squares values ≤ values.sum * values.sum := by
  induction values with
  | nil => simp [squares]
  | cons value rest inductionHypothesis =>
    obtain ⟨first, others⟩ := List.forall_mem_cons.mp nonneg
    have cross : 0 ≤ value * rest.sum := mul_nonneg first (List.sum_nonneg others)
    have tail := inductionHypothesis others
    simp only [squares, List.map_cons, List.sum_cons] at tail ⊢
    linarith

/-- A positive value makes the squares positive. -/
theorem squares_pos (values : List K) (value : K) (member : value ∈ values) (positive : 0 < value) :
    0 < squares values := by
  have nonneg : ∀ square ∈ values.map (fun value => value * value), 0 ≤ square := by
    intro square listed
    obtain ⟨other, _, rfl⟩ := List.mem_map.mp listed
    exact mul_self_nonneg other
  exact (mul_pos positive positive).trans_le
    (List.single_le_sum nonneg _ (List.mem_map.mpr ⟨value, member, rfl⟩))

section Index

variable (served : List K) (count : ℕ)

/-- Jain's index of the values served to some out of a number of users, the others having
nothing. Users without service count in the divisor only. -/
def index : K := served.sum * served.sum / (count * squares served)

variable (inhabited : served ≠ []) (positive : ∀ value ∈ served, 0 < value)
  (most : served.length ≤ count)
include inhabited positive most

/-- The index divides by something positive. -/
theorem divisor_pos : 0 < (count : K) * squares served := by
  obtain ⟨value, member⟩ := List.exists_mem_of_ne_nil served inhabited
  have some_user : 0 < count := (List.length_pos_iff.mpr inhabited).trans_le most
  exact mul_pos (by exact_mod_cast some_user)
    (squares_pos served value member (positive value member))

/-- The index is at least one user's share and at most the share of those served. Both ends are
reached: by one user alone, and by equal service. -/
theorem index_bounds :
    1 / count ≤ index served count ∧ index served count ≤ served.length / count := by
  have some_user : (0 : K) < count := by
    exact_mod_cast (List.length_pos_iff.mpr inhabited).trans_le most
  have divisor := divisor_pos served count inhabited positive most
  have least := squares_le served (fun value member => (positive value member).le)
  have largest := sum_mul_sum_le served
  unfold index
  constructor
  · rw [div_le_div_iff₀ some_user divisor, one_mul, mul_comm (served.sum * served.sum)]
    exact mul_le_mul_of_nonneg_left least some_user.le
  · rw [div_le_div_iff₀ divisor some_user]
    calc served.sum * served.sum * count
        ≤ served.length * squares served * count := mul_le_mul_of_nonneg_right largest some_user.le
      _ = served.length * (count * squares served) := by ring

/-- The index is the share of those served exactly when they are served alike. -/
theorem index_eq_share : index served count = served.length / count ↔
    ∀ left ∈ served, ∀ right ∈ served, left = right := by
  have some_user : (count : K) ≠ 0 := by
    exact_mod_cast ((List.length_pos_iff.mpr inhabited).trans_le most).ne'
  have divisor := divisor_pos served count inhabited positive most
  have regrouped : served.length * (count * squares served) =
      served.length * squares served * count := by ring
  rw [← sum_mul_sum_eq, index, div_eq_div_iff divisor.ne' some_user, regrouped,
    mul_left_inj' some_user]

end Index

end Library.Jain
