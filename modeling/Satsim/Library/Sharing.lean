import Mathlib

/-!
# Cells shared by their occupants

Each user occupies a list of distinct cells, and a cell's price is split evenly among
the users that occupy it. Whoever is paid, the payments together are at most the
price of the cells: counting by cells instead of by users, each cell pays out its own
price once. This is the accounting of random access with capture.

A cell that was shared by more users than are paid keeps a part of its price. This is
why the bound is an inequality, and `paid_from_cell` says when it is met.
-/

namespace Library.Sharing

universe u v w
variable {α : Type u} {β : Type v} [DecidableEq β]
variable {μ : Type w} [Field μ] [LinearOrder μ] [IsStrictOrderedRing μ]

/-- How many users occupy a cell. A user that is listed twice counts twice. -/
def occupants (uses : α → List β) (users : List α) (cell : β) : ℕ :=
  (users.filter (fun user => decide (cell ∈ uses user))).length

/-- A user's part of its cells: an even share of each. The user's own presence keeps the divisor
of each of its cells positive. -/
def share (uses : α → List β) (users : List α) (price : μ) (user : α) : μ :=
  ((uses user).map (fun cell => price / occupants uses users cell)).sum

omit [LinearOrder μ] [IsStrictOrderedRing μ] in
/-- A sum over distinct cells of a carrier, as a sum over the carrier. -/
theorem sum_cells (cells : Finset β) (occupied : List β) (distinct : occupied.Nodup)
    (inside : ∀ cell ∈ occupied, cell ∈ cells) (amount : β → μ) :
    (occupied.map amount).sum = ∑ cell ∈ cells, if cell ∈ occupied then amount cell else 0 := by
  rw [← List.sum_toFinset amount distinct, ← Finset.sum_filter]
  congr 1
  ext cell
  simp only [List.mem_toFinset, Finset.mem_filter]
  exact ⟨fun member => ⟨inside cell member, member⟩, And.right⟩

omit [DecidableEq β] [LinearOrder μ] [IsStrictOrderedRing μ] in
/-- Counting by users is counting by cells, and the other way round. -/
theorem sum_swap (cells : Finset β) (users : List α) (amount : α → β → μ) :
    (users.map (fun user => ∑ cell ∈ cells, amount user cell)).sum =
      ∑ cell ∈ cells, (users.map (fun user => amount user cell)).sum := by
  induction users with
  | nil => simp
  | cons user rest inductionHypothesis =>
    simp only [List.map_cons, List.sum_cons, inductionHypothesis, Finset.sum_add_distrib]

omit [LinearOrder μ] [IsStrictOrderedRing μ] in
/-- Equal payments to the occupants of a cell total their number times the payment. -/
theorem sum_occupants (uses : α → List β) (users : List α) (cell : β) (amount : μ) :
    (users.map (fun user => if cell ∈ uses user then amount else 0)).sum =
      occupants uses users cell * amount := by
  induction users with
  | nil => simp [occupants]
  | cons user rest inductionHypothesis =>
    by_cases occupied : cell ∈ uses user
    · have counted : occupants uses (user :: rest) cell = occupants uses rest cell + 1 := by
        simp [occupants, occupied]
      simp only [List.map_cons, List.sum_cons, occupied, ↓reduceIte, inductionHypothesis, counted]
      push_cast
      ring
    · have counted : occupants uses (user :: rest) cell = occupants uses rest cell := by
        simp [occupants, occupied]
      simp only [List.map_cons, List.sum_cons, occupied, ↓reduceIte, inductionHypothesis, counted,
        zero_add]

/-- A part of the users occupies a cell at most as often as all of them. -/
theorem occupants_le (uses : α → List β) (users part : List α) (included : part.Sublist users)
    (cell : β) : occupants uses part cell ≤ occupants uses users cell :=
  (included.filter _).length_le

/-- What any part of the users is paid is at most the price of the cells they occupy. The shares
are still those among all users, so leaving a user unpaid raises nobody's share. -/
theorem shares_le (uses : α → List β) (users part : List α) (included : part.Sublist users)
    (cells : Finset β) (distinct : ∀ user ∈ part, (uses user).Nodup)
    (inside : ∀ user ∈ part, ∀ cell ∈ uses user, cell ∈ cells) (price : μ) (nonneg : 0 ≤ price) :
    (part.map (share uses users price)).sum ≤ cells.card * price := by
  have spread : part.map (share uses users price) = part.map (fun user =>
      ∑ cell ∈ cells, if cell ∈ uses user then price / occupants uses users cell else 0) := by
    apply List.map_congr_left
    intro user member
    exact sum_cells cells (uses user) (distinct user member) (inside user member) _
  rw [spread, sum_swap]
  have each : ∀ cell ∈ cells, (part.map (fun user =>
      if cell ∈ uses user then price / occupants uses users cell else 0)).sum ≤ price := by
    intro cell _
    rw [sum_occupants]
    have fewer : (occupants uses part cell : μ) ≤ occupants uses users cell := by
      exact_mod_cast occupants_le uses users part included cell
    cases Nat.eq_zero_or_pos (occupants uses users cell) with
    | inl vacant =>
      simpa [vacant] using nonneg
    | inr occupied =>
      have positive : (0 : μ) < occupants uses users cell := by exact_mod_cast occupied
      calc (occupants uses part cell : μ) * (price / occupants uses users cell)
          ≤ occupants uses users cell * (price / occupants uses users cell) :=
            mul_le_mul_of_nonneg_right fewer (div_nonneg nonneg positive.le)
        _ = price := mul_div_cancel₀ price positive.ne'
  calc _ ≤ ∑ _cell ∈ cells, price := Finset.sum_le_sum each
    _ = cells.card * price := by rw [Finset.sum_const, nsmul_eq_mul]

/-- Keeping some users leaves a cell as occupied as it was exactly when each of its occupants is
kept. This is when a cell pays out in full. -/
theorem occupants_filter_eq_iff (uses : α → List β) (users : List α) (keep : α → Bool) (cell : β) :
    occupants uses (users.filter keep) cell = occupants uses users cell ↔
      ∀ user ∈ users, cell ∈ uses user → keep user = true := by
  have swapped : (users.filter keep).filter (fun user => decide (cell ∈ uses user)) =
      (users.filter (fun user => decide (cell ∈ uses user))).filter keep := List.filter_comm _ _ _
  unfold occupants
  rw [swapped, List.length_filter_eq_length_iff]
  constructor
  · intro kept user member occupied
    exact kept user (List.mem_filter.mpr ⟨member, decide_eq_true occupied⟩)
  · intro kept user member
    obtain ⟨listed, occupied⟩ := List.mem_filter.mp member
    exact kept user listed (of_decide_eq_true occupied)

/-- What one cell pays a user: an even share when the user occupies it. -/
def fromCell (uses : α → List β) (users : List α) (price : μ) (cell : β) (user : α) : μ :=
  if cell ∈ uses user then price / occupants uses users cell else 0

omit [LinearOrder μ] [IsStrictOrderedRing μ] in
/-- A user's part is what its cells pay it. -/
theorem share_eq_fromCell (uses : α → List β) (users : List α) (price : μ) (user : α) :
    share uses users price user =
      ((uses user).map (fun cell => fromCell uses users price cell user)).sum := by
  unfold share
  congr 1
  apply List.map_congr_left
  intro cell occupied
  rw [fromCell, if_pos occupied]

/-- A cell that is occupied pays the kept users at most its price, and all of it exactly when
each of its occupants is kept. -/
theorem paid_from_cell (uses : α → List β) (users : List α) (keep : α → Bool) (cell : β)
    (user : α) (listed : user ∈ users) (occupied : cell ∈ uses user) (price : μ)
    (positive : 0 < price) :
    ((users.filter keep).map (fromCell uses users price cell)).sum ≤ price ∧
      (((users.filter keep).map (fromCell uses users price cell)).sum = price ↔
        ∀ user ∈ users, cell ∈ uses user → keep user = true) := by
  have inhabited : 0 < occupants uses users cell :=
    List.length_pos_of_mem (List.mem_filter.mpr ⟨listed, decide_eq_true occupied⟩)
  have several : (0 : μ) < occupants uses users cell := by exact_mod_cast inhabited
  have fewer : (occupants uses (users.filter keep) cell : μ) ≤ occupants uses users cell := by
    exact_mod_cast occupants_le uses users _ List.filter_sublist cell
  unfold fromCell
  rw [sum_occupants, mul_div_assoc', ← occupants_filter_eq_iff]
  constructor
  · rw [div_le_iff₀ several, mul_comm price]
    exact mul_le_mul_of_nonneg_right fewer positive.le
  · rw [div_eq_iff several.ne', mul_comm price, mul_left_inj' positive.ne', Nat.cast_inj]

/-- Where some user occupies a cell, one of them is found. -/
theorem exists_occupant (uses : α → List β) (users : List α) (cell : β)
    (occupied : 0 < occupants uses users cell) : ∃ user ∈ users, cell ∈ uses user := by
  obtain ⟨user, member⟩ := List.exists_mem_of_length_pos occupied
  obtain ⟨listed, here⟩ := List.mem_filter.mp member
  exact ⟨user, listed, of_decide_eq_true here⟩

/-- Two users of a cell that has one occupant are the same user. -/
theorem sole_occupant (uses : α → List β) (users : List α) (cell : β)
    (sole : occupants uses users cell ≤ 1) (first second : α) (firstListed : first ∈ users)
    (secondListed : second ∈ users) (firstUses : cell ∈ uses first)
    (secondUses : cell ∈ uses second) : first = second := by
  have firstHere : first ∈ users.filter (fun user => decide (cell ∈ uses user)) :=
    List.mem_filter.mpr ⟨firstListed, decide_eq_true firstUses⟩
  have secondHere : second ∈ users.filter (fun user => decide (cell ∈ uses user)) :=
    List.mem_filter.mpr ⟨secondListed, decide_eq_true secondUses⟩
  unfold occupants at sole
  match users.filter (fun user => decide (cell ∈ uses user)), sole, firstHere, secondHere with
  | [only], _, firstHere, secondHere =>
    exact (List.mem_singleton.mp firstHere).trans (List.mem_singleton.mp secondHere).symm

end Library.Sharing
