import Mathlib

/-!
# Mixed-integer linear programs

Variables are declared with bounds, some of them integral; a constraint compares two linear
expressions; the objective ranks the assignments that satisfy all constraints. Solving is
left outside: what is said of an assignment here holds of every feasible one.

A row of binary variables whose sum is one is a choice: one option is picked, and a weighted
sum over the row is the weight of the pick.

The expressions are syntax, so a program can be compared with the one a modelling layer
writes down, term by term. `value` is the only meaning they have.
-/

namespace Library.Linear

universe u v w
variable {K : Type u} {ι : Type v}

/-- Weighted variables and a constant; a variable may stand in several terms. -/
structure Expr (K : Type u) (ι : Type v) where
  terms : List (K × ι)
  constant : K

namespace Expr

section Ring

variable [CommRing K]

/-- What an expression is worth under an assignment. -/
def value (assignment : ι → K) (expr : Expr K ι) : K :=
  (expr.terms.map (fun term => term.1 * assignment term.2)).sum + expr.constant

/-- A constant as an expression. -/
def number (constant : K) : Expr K ι := ⟨[], constant⟩

/-- One variable with weight one. -/
def var (index : ι) : Expr K ι := ⟨[(1, index)], 0⟩

/-- Multiply every weight and the constant. -/
def scale (factor : K) (expr : Expr K ι) : Expr K ι :=
  ⟨expr.terms.map (fun term => (factor * term.1, term.2)), factor * expr.constant⟩

/-- Add expressions by joining their terms, as modelling layers do. Terms of one variable are
not merged. -/
def sum (exprs : List (Expr K ι)) : Expr K ι :=
  ⟨exprs.flatMap terms, (exprs.map constant).sum⟩

/-- The difference, as a sum with the second expression negated. -/
def minus (left right : Expr K ι) : Expr K ι := sum [left, scale (-1) right]

variable (assignment : ι → K)

/-- A constant is worth itself, whatever is assigned. -/
@[simp] theorem value_number (constant : K) :
    (number constant : Expr K ι).value assignment = constant := by simp [value, number]

/-- A variable is worth what is assigned to it. -/
@[simp] theorem value_var (index : ι) :
    (var index : Expr K ι).value assignment = assignment index := by simp [value, var]

/-- Scaling commutes with taking the value. -/
@[simp] theorem value_scale (factor : K) (expr : Expr K ι) :
    (scale factor expr).value assignment = factor * expr.value assignment := by
  simp only [value, scale, List.map_map, Function.comp_def, mul_assoc, mul_add]
  rw [List.sum_map_mul_left]

/-- The value of a sum is the sum of the values. -/
@[simp] theorem value_sum (exprs : List (Expr K ι)) :
    (sum exprs).value assignment = (exprs.map (value assignment)).sum := by
  induction exprs with
  | nil => simp [value, sum]
  | cons expr rest inductionHypothesis =>
    rw [List.map_cons, List.sum_cons, ← inductionHypothesis]
    simp only [value, sum, List.flatMap_cons, List.map_append, List.sum_append, List.map_cons,
      List.sum_cons]
    ring

/-- The value of a difference is the difference of the values. -/
@[simp] theorem value_minus (left right : Expr K ι) :
    (minus left right).value assignment = left.value assignment - right.value assignment := by
  simp [minus, sub_eq_add_neg]

end Ring

end Expr

/-- A variable with its name and bounds; without an upper bound it is unlimited above. -/
structure Declaration (K : Type u) (ι : Type v) where
  index : ι
  name : String
  lower : K
  upper : Option K
  integral : Bool

/-- How the two sides of a constraint compare. -/
inductive Sense where
  | atMost
  | exactly
  | atLeast
  deriving DecidableEq

/-- Two expressions and the comparison asked of them. -/
structure Constraint (K : Type u) (ι : Type v) where
  left : Expr K ι
  sense : Sense
  right : Expr K ι

/-- Declarations and constraints in the order in which they were added. -/
structure Program (K : Type u) (ι : Type v) where
  declarations : List (Declaration K ι)
  constraints : List (Constraint K ι)
  objective : Expr K ι

section Feasibility

variable [CommRing K] [LinearOrder K]

/-- A value is within the bounds of a variable and, for an integral variable, whole. -/
def Declaration.Admits (declaration : Declaration K ι) (value : K) : Prop :=
  declaration.lower ≤ value ∧ (∀ bound ∈ declaration.upper, value ≤ bound) ∧
    (declaration.integral = true → ∃ whole : ℤ, (whole : K) = value)

/-- An assignment satisfies a constraint when the values of its sides compare as asked. -/
def Constraint.Holds (constraint : Constraint K ι) (assignment : ι → K) : Prop :=
  match constraint.sense with
  | .atMost => constraint.left.value assignment ≤ constraint.right.value assignment
  | .exactly => constraint.left.value assignment = constraint.right.value assignment
  | .atLeast => constraint.right.value assignment ≤ constraint.left.value assignment

/-- An assignment is feasible when every declared variable admits its value and every constraint
holds. The objective plays no part in it. -/
structure Program.Feasible (program : Program K ι) (assignment : ι → K) : Prop where
  admitted : ∀ declaration ∈ program.declarations,
    declaration.Admits (assignment declaration.index)
  satisfied : ∀ constraint ∈ program.constraints, constraint.Holds assignment

/-- Over an ordered field with decidable comparison, constraints can be checked. -/
instance Constraint.decidableHolds : (constraint : Constraint K ι) → (assignment : ι → K) →
    Decidable (constraint.Holds assignment)
  | ⟨left, .atMost, right⟩, assignment =>
      inferInstanceAs (Decidable (left.value assignment ≤ right.value assignment))
  | ⟨left, .exactly, right⟩, assignment =>
      inferInstanceAs (Decidable (left.value assignment = right.value assignment))
  | ⟨left, .atLeast, right⟩, assignment =>
      inferInstanceAs (Decidable (right.value assignment ≤ left.value assignment))

/-- Integrality is decided by rounding. -/
theorem exists_whole_iff [FloorRing K] [IsStrictOrderedRing K] (value : K) :
    (∃ whole : ℤ, (whole : K) = value) ↔ ((⌊value⌋ : ℤ) : K) = value := by
  constructor
  · rintro ⟨whole, rfl⟩
    rw [Int.floor_intCast]
  · intro rounded
    exact ⟨⌊value⌋, rounded⟩

/-- So integrality can be checked. -/
instance decidableWhole [FloorRing K] [IsStrictOrderedRing K] (value : K) :
    Decidable (∃ whole : ℤ, (whole : K) = value) :=
  decidable_of_iff _ (exists_whole_iff value).symm

/-- A declaration can be checked against a value. -/
instance Declaration.decidableAdmits [FloorRing K] [IsStrictOrderedRing K]
    (declaration : Declaration K ι) (value : K) : Decidable (declaration.Admits value) :=
  inferInstanceAs (Decidable (_ ∧ _ ∧ _))

/-- A whole program can be checked against an assignment, one declaration and one constraint at
a time. -/
instance Program.decidableFeasible [FloorRing K] [IsStrictOrderedRing K] (program : Program K ι)
    (assignment : ι → K) : Decidable (program.Feasible assignment) :=
  decidable_of_iff
    ((∀ declaration ∈ program.declarations, declaration.Admits (assignment declaration.index)) ∧
      ∀ constraint ∈ program.constraints, constraint.Holds assignment)
    ⟨fun checked => ⟨checked.1, checked.2⟩, fun feasible => ⟨feasible.admitted, feasible.satisfied⟩⟩

variable [IsStrictOrderedRing K]

/-- An integral value between zero and one is one of them. -/
theorem binary (value : K) (whole : ∃ whole : ℤ, (whole : K) = value) (nonneg : 0 ≤ value)
    (bounded : value ≤ 1) : value = 0 ∨ value = 1 := by
  obtain ⟨whole, rfl⟩ := whole
  have low : 0 ≤ whole := by exact_mod_cast nonneg
  have high : whole ≤ 1 := by exact_mod_cast bounded
  obtain rfl | rfl : whole = 0 ∨ whole = 1 := by omega
  · exact Or.inl Int.cast_zero
  · exact Or.inr Int.cast_one

end Feasibility

section Choices

variable [CommRing K] [LinearOrder K] [IsStrictOrderedRing K] {α : Type w}

/-- One option of a choice is picked, the options before and after it are not. The position is
part of the answer, since options may repeat. -/
theorem exists_pick (options : List α) (chosen : α → K)
    (binary : ∀ option ∈ options, chosen option = 0 ∨ chosen option = 1)
    (total : (options.map chosen).sum = 1) :
    ∃ before pick after, options = before ++ pick :: after ∧ chosen pick = 1 ∧
      (∀ option ∈ before, chosen option = 0) ∧ (∀ option ∈ after, chosen option = 0) := by
  induction options with
  | nil => exact absurd total (by simp)
  | cons option rest inductionHypothesis =>
    have later := List.forall_mem_cons.mp binary
    rw [List.map_cons, List.sum_cons] at total
    cases later.1 with
    | inl passed =>
      rw [passed, zero_add] at total
      obtain ⟨before, pick, after, split, picked, early, late⟩ :=
        inductionHypothesis later.2 total
      refine ⟨option :: before, pick, after, by rw [split]; rfl, picked, ?_, late⟩
      exact List.forall_mem_cons.mpr ⟨passed, early⟩
    | inr picked =>
      have left : (rest.map chosen).sum = 0 := by
        rw [picked] at total
        exact left_eq_add.mp total.symm
      have nonneg : ∀ value ∈ rest.map chosen, 0 ≤ value := by
        rintro value member
        obtain ⟨other, listed, rfl⟩ := List.mem_map.mp member
        rcases later.2 other listed with same | same <;> rw [same]
        exact zero_le_one
      refine ⟨[], option, rest, rfl, picked, by simp, ?_⟩
      intro other listed
      exact List.all_zero_of_le_zero_le_of_sum_eq_zero nonneg left (List.mem_map_of_mem listed)

omit [LinearOrder K] [IsStrictOrderedRing K] in
/-- A weighted sum over a choice is the weight of the pick. -/
theorem weighted_pick (before after : List α) (pick : α) (chosen weight : α → K)
    (picked : chosen pick = 1) (early : ∀ option ∈ before, chosen option = 0)
    (late : ∀ option ∈ after, chosen option = 0) :
    ((before ++ pick :: after).map (fun option => weight option * chosen option)).sum =
      weight pick := by
  have vanish (options : List α) (passed : ∀ option ∈ options, chosen option = 0) :
      (options.map (fun option => weight option * chosen option)).sum = 0 := by
    apply List.sum_eq_zero
    intro value member
    obtain ⟨option, listed, rfl⟩ := List.mem_map.mp member
    rw [passed option listed, mul_zero]
  rw [List.map_append, List.sum_append, List.map_cons, List.sum_cons, vanish before early,
    vanish after late, picked, mul_one, zero_add, add_zero]

omit [LinearOrder K] [IsStrictOrderedRing K] in
/-- A weighted sum over distinct options that indicates one of them is its weight. -/
theorem weighted_indicator [DecidableEq α] (options : List α) (distinct : options.Nodup) (pick : α)
    (offered : pick ∈ options) (weight : α → K) :
    (options.map (fun option => weight option * if pick = option then 1 else 0)).sum =
      weight pick := by
  obtain ⟨before, after, rfl⟩ := List.append_of_mem offered
  have apart := List.nodup_middle.mp distinct
  have absent : ∀ option ∈ before ++ after, (if pick = option then (1 : K) else 0) = 0 := by
    intro option listed
    refine if_neg ?_
    rintro rfl
    exact (List.nodup_cons.mp apart).1 listed
  exact weighted_pick before after pick _ weight (if_pos rfl)
    (fun option listed => absent option (List.mem_append_left _ listed))
    (fun option listed => absent option (List.mem_append_right _ listed))

omit [LinearOrder K] [IsStrictOrderedRing K] in
/-- The indicators of a property sum to the number of members that have it. -/
theorem sum_indicator (members : List α) (selected : α → Prop) [DecidablePred selected] :
    (members.map (fun member => if selected member then (1 : K) else 0)).sum =
      (members.filter (fun member => decide (selected member))).length := by
  induction members with
  | nil => simp
  | cons member rest inductionHypothesis =>
    by_cases kept : selected member
    · simp [kept, inductionHypothesis, add_comm]
    · simp [kept, inductionHypothesis]

/-- The members whose variable is one are no more than the sum of the variables. The other
variables only have to be nonnegative. -/
theorem count_le_sum (members : List α) (selected : α → Bool) (chosen : α → K)
    (nonneg : ∀ member ∈ members, 0 ≤ chosen member)
    (one : ∀ member ∈ members, selected member = true → 1 ≤ chosen member) :
    ((members.filter selected).length : K) ≤ (members.map chosen).sum := by
  induction members with
  | nil => simp
  | cons member rest inductionHypothesis =>
    have counted := inductionHypothesis (List.forall_mem_cons.mp nonneg).2
      (List.forall_mem_cons.mp one).2
    rw [List.map_cons, List.sum_cons]
    cases kept : selected member with
    | true =>
      have whole := one member List.mem_cons_self kept
      rw [List.filter_cons_of_pos kept, List.length_cons, Nat.cast_succ, add_comm]
      exact add_le_add whole counted
    | false =>
      rw [List.filter_cons_of_neg (by simp [kept])]
      exact counted.trans (le_add_of_nonneg_left (nonneg member List.mem_cons_self))

end Choices

section Bounds

variable [CommRing K] [LinearOrder K] [IsStrictOrderedRing K]

/-- The feasible assignments of a program keep an expression under some bound. An infeasible
program caps everything, so feasibility is stated apart. -/
def Program.Capped (program : Program K ι) (expr : Expr K ι) : Prop :=
  ∃ bound, ∀ assignment, program.Feasible assignment → expr.value assignment ≤ bound

/-- A sum of capped expressions is capped. -/
theorem Program.capped_sum (program : Program K ι) (exprs : List (Expr K ι))
    (each : ∀ expr ∈ exprs, program.Capped expr) : program.Capped (Expr.sum exprs) := by
  induction exprs with
  | nil => exact ⟨0, fun assignment _ => by simp⟩
  | cons expr rest inductionHypothesis =>
    obtain ⟨first, here⟩ := each expr List.mem_cons_self
    obtain ⟨others, there⟩ := inductionHypothesis (List.forall_mem_cons.mp each).2
    refine ⟨first + others, fun assignment feasible => ?_⟩
    have tail := there assignment feasible
    rw [Expr.value_sum] at tail ⊢
    rw [List.map_cons, List.sum_cons]
    exact add_le_add (here assignment feasible) tail

/-- A multiple of a variable with both bounds is capped, whatever the sign of the factor. -/
theorem Program.capped_bounded (program : Program K ι) (declaration : Declaration K ι)
    (declared : declaration ∈ program.declarations) (upper : K)
    (above : declaration.upper = some upper) (factor : K) :
    program.Capped (Expr.scale factor (Expr.var declaration.index)) := by
  refine ⟨max (factor * upper) (factor * declaration.lower), fun assignment feasible => ?_⟩
  obtain ⟨low, high, _⟩ := feasible.admitted declaration declared
  rw [Expr.value_scale, Expr.value_var]
  rcases le_total 0 factor with nonneg | nonpos
  · exact (mul_le_mul_of_nonneg_left (high upper above) nonneg).trans (le_max_left _ _)
  · exact (mul_le_mul_of_nonpos_left low nonpos).trans (le_max_right _ _)

/-- A penalty on a variable is capped, since the variable has a lower bound. No upper bound is
needed. -/
theorem Program.capped_penalty (program : Program K ι) (declaration : Declaration K ι)
    (declared : declaration ∈ program.declarations) (factor : K) (penalty : factor ≤ 0) :
    program.Capped (Expr.scale factor (Expr.var declaration.index)) := by
  refine ⟨factor * declaration.lower, fun assignment feasible => ?_⟩
  rw [Expr.value_scale, Expr.value_var]
  exact mul_le_mul_of_nonpos_left (feasible.admitted declaration declared).1 penalty

end Bounds

end Library.Linear
