import Mathlib

/-!
# The seedable random source

A generator is an infinite tape of draws and the number already used. Each draw
offers a unit value in `[0, 1)` for `random` and a natural number for `randint`,
so every sequence of results the two calls can return is the result of some tape,
and a statement for every tape covers every seed.

`poisson` loops until a running product falls to `exp (-rate)`. The exponential is
a parameter with the bounds the loop relies on. Fuel bounds the iterations watched;
`poisson_finishes` gives enough of it on any tape whose unit values stay below one
by a margin, as floating-point draws do.
-/

namespace Satsim

/-- One cell of the tape: a unit value and an unbounded natural number. The bounds on the unit
value are those that `random.random` documents. -/
structure Draw where
  unit : ℚ
  word : ℕ
  unit_nonneg : 0 ≤ unit
  unit_lt_one : unit < 1

namespace Draw

/-- One half is a unit value, from below. -/
theorem half_nonneg : (0 : ℚ) ≤ 1 / 2 := by norm_num

/-- One half is a unit value, from above. -/
theorem half_lt_one : (1 / 2 : ℚ) < 1 := by norm_num

/-- The unit value one half, for streams on fixed inputs. -/
def half (word : ℕ) : Draw := ⟨1 / 2, word, half_nonneg, half_lt_one⟩

end Draw

/-- A generator: its tape and how much of it is used. Copies of a generator share the tape and
go on from their own position. -/
structure Rng where
  tape : ℕ → Draw
  used : ℕ := 0

namespace Rng

/-- The generator after one more draw. -/
def advance (rng : Rng) : Rng := { rng with used := rng.used + 1 }

/-- Uniform value in `[0, 1)`. Uniformity is not modelled: the tape is arbitrary. -/
def random (rng : Rng) : ℚ × Rng := ((rng.tape rng.used).unit, rng.advance)

/-- Uniform integer in the inclusive range `[low, high]`, which the caller shows to
be nonempty; on an empty range the source raises. -/
def randint (rng : Rng) (low high : ℤ) (_nonempty : low ≤ high) : ℤ × Rng :=
  (low + ((rng.tape rng.used).word : ℤ) % (high - low + 1), rng.advance)

/-- A unit draw uses one cell. -/
@[simp] theorem random_snd (rng : Rng) : rng.random.2 = rng.advance := rfl

/-- Drawing does not change the tape. -/
@[simp] theorem tape_advance (rng : Rng) : rng.advance.tape = rng.tape := rfl

/-- A unit draw is not negative. -/
theorem random_nonneg (rng : Rng) : 0 ≤ rng.random.1 := (rng.tape rng.used).unit_nonneg

/-- A unit draw is below one. -/
theorem random_lt_one (rng : Rng) : rng.random.1 < 1 := (rng.tape rng.used).unit_lt_one

/-- Every result of `randint` lies in its range. A draw is taken modulo the width of the range,
so an unbounded word fits any range. -/
theorem randint_mem (rng : Rng) (low high : ℤ) (nonempty : low ≤ high) :
    low ≤ (rng.randint low high nonempty).1 ∧ (rng.randint low high nonempty).1 ≤ high := by
  have positive : 0 < high - low + 1 := by omega
  have above := Int.emod_nonneg ((rng.tape rng.used).word : ℤ) positive.ne'
  have below := Int.emod_lt_of_pos ((rng.tape rng.used).word : ℤ) positive
  simp only [randint]
  omega

/-- The exponential as the loop uses it: positive, and below one at negative arguments. Nothing
else about it is needed, so no real analysis enters. -/
structure MathExp where
  exp : ℚ → ℚ
  exp_pos : ∀ x, 0 < exp x
  exp_lt_one : ∀ x, x < 0 → exp x < 1

/-- A coarse exponential, for runs on fixed inputs. -/
def coarseExp : MathExp where
  exp x := if x < 0 then 1 / (1 - x) else 1 + x
  exp_pos := by
    intro x
    split
    · exact one_div_pos.mpr (by linarith)
    · linarith
  exp_lt_one := by
    intro x negative
    rw [if_pos negative, div_lt_one (by linarith)]
    linarith

/-- The multiplication loop of Knuth's algorithm, counting until the product is at or below the
target. Running out of fuel is told apart from finishing. -/
def poissonLoop (target : ℚ) : ℕ → ℚ → ℕ → Rng → Option (ℕ × Rng)
  | 0, _, _, _ => none
  | fuel + 1, product, count, rng =>
      if target < product then
        let (value, rng) := rng.random
        poissonLoop target fuel (product * value) (count + 1) rng
      else some (count, rng)

/-- A Poisson count. A rate that is not positive draws nothing. The first draw is made before
the loop, so a positive rate always uses the tape. -/
def poisson (math : MathExp) (fuel : ℕ) (rng : Rng) (rate : ℚ) : Option (ℕ × Rng) :=
  if rate ≤ 0 then some (0, rng)
  else
    let (product, rng) := rng.random
    poissonLoop (math.exp (-rate)) fuel product 0 rng

/-- Walk the cumulative weights until they reach the threshold. The comparison is not strict, so
a threshold of zero stops at the first item, whatever its weight. -/
def chooseAt {α : Type} (threshold : ℚ) : ℚ → List (ℚ × α) → Option α
  | _, [] => none
  | cumulative, (weight, item) :: rest =>
      if threshold ≤ cumulative + weight then some item
      else chooseAt threshold (cumulative + weight) rest

/-- Weighted choice from a nonempty list; falling through returns the last item. -/
def weightedChoice {α : Type} (rng : Rng) (items : List (ℚ × α)) (nonempty : items ≠ []) :
    α × Rng :=
  let total := (items.map Prod.fst).sum
  let (value, rng) := rng.random
  ((chooseAt (value * total) 0 items).getD (items.getLast nonempty).2, rng)

/-- A chosen item is one of those offered. Its weight need not be positive. -/
theorem chooseAt_mem {α : Type} (threshold cumulative : ℚ) (items : List (ℚ × α)) (item : α)
    (chosen : chooseAt threshold cumulative items = some item) : item ∈ items.map Prod.snd := by
  induction items generalizing cumulative with
  | nil => simp [chooseAt] at chosen
  | cons head rest inductionHypothesis =>
    by_cases reached : threshold ≤ cumulative + head.1
    · have same : head.2 = item := by simpa [chooseAt, reached] using chosen
      simp [same]
    · have later : chooseAt threshold (cumulative + head.1) rest = some item := by
        simpa [chooseAt, reached] using chosen
      exact List.mem_cons_of_mem _ (inductionHypothesis _ later)

/-- A weighted choice is one of the items, also when it falls through to the last. -/
theorem weightedChoice_mem {α : Type} (rng : Rng) (items : List (ℚ × α)) (nonempty : items ≠ []) :
    (rng.weightedChoice items nonempty).1 ∈ items.map Prod.snd := by
  simp only [weightedChoice]
  cases chosen : chooseAt (rng.random.1 * (items.map Prod.fst).sum) 0 items with
  | some item => exact chooseAt_mem _ _ items item chosen
  | none => exact List.mem_map.mpr ⟨_, List.getLast_mem nonempty, rfl⟩

/-- Multiplying by values of at most `margin` takes the product to the target in as many
iterations as the powers of the margin need. A tape whose values approach one has no such
margin, and the loop need not end on it. -/
theorem poissonLoop_finishes (target margin : ℚ) (steps : ℕ) (product : ℚ) (count : ℕ) (rng : Rng)
    (nonneg : 0 ≤ product) (bounded : ∀ index, (rng.tape index).unit ≤ margin)
    (reached : product * margin ^ steps ≤ target) :
    ∃ result, poissonLoop target (steps + 1) product count rng = some result := by
  induction steps generalizing product count rng with
  | zero =>
    have stop : ¬ target < product := by simpa using reached
    exact ⟨_, by simp [poissonLoop, stop]; rfl⟩
  | succ steps inductionHypothesis =>
    by_cases above : target < product
    · have small := bounded rng.used
      have next : product * rng.random.1 * margin ^ steps ≤ target := by
        have power : 0 ≤ margin ^ steps := pow_nonneg ((rng.random_nonneg).trans small) steps
        calc product * rng.random.1 * margin ^ steps
            ≤ product * margin * margin ^ steps := by
              apply mul_le_mul_of_nonneg_right _ power
              exact mul_le_mul_of_nonneg_left small nonneg
          _ = product * margin ^ (steps + 1) := by ring
          _ ≤ target := reached
      obtain ⟨result, finished⟩ := inductionHypothesis (product * rng.random.1) (count + 1)
        rng.advance (mul_nonneg nonneg rng.random_nonneg) bounded next
      exact ⟨result, by rw [poissonLoop, if_pos above]; exact finished⟩
    · exact ⟨_, by simp [poissonLoop, above]; rfl⟩

/-- There is fuel with which the count is found on every tape whose unit values stay below one
by a margin. The fuel depends on the rate and the margin only, not on the tape. -/
theorem poisson_finishes (math : MathExp) (rate margin : ℚ) (below : margin < 1) :
    ∃ fuel, ∀ rng : Rng, (∀ index, (rng.tape index).unit ≤ margin) →
      ∃ result, poisson math fuel rng rate = some result := by
  by_cases idle : rate ≤ 0
  · exact ⟨0, fun rng _ => ⟨(0, rng), by simp [poisson, idle]⟩⟩
  · obtain ⟨steps, small⟩ := exists_pow_lt_of_lt_one (math.exp_pos (-rate)) below
    refine ⟨steps + 1, fun rng bounded => ?_⟩
    have start : 0 ≤ margin := rng.random_nonneg.trans (bounded rng.used)
    have reached : rng.random.1 * margin ^ steps ≤ math.exp (-rate) := by
      calc rng.random.1 * margin ^ steps
          ≤ 1 * margin ^ steps :=
            mul_le_mul_of_nonneg_right rng.random_lt_one.le (pow_nonneg start steps)
        _ ≤ math.exp (-rate) := by simpa using small.le
    obtain ⟨result, finished⟩ := poissonLoop_finishes (math.exp (-rate)) margin steps
      rng.random.1 0 rng.advance rng.random_nonneg bounded reached
    exact ⟨result, by simpa [poisson, idle] using finished⟩

/-- The loop counts up from where it starts, on the same tape. It counts at least once when it
is entered with a product above the target. -/
theorem poissonLoop_counts (target : ℚ) (fuel : ℕ) (product : ℚ) (start count : ℕ)
    (rng after : Rng) (finished : poissonLoop target fuel product start rng = some (count, after)) :
    start ≤ count ∧ (target < product → start < count) ∧ after.tape = rng.tape := by
  induction fuel generalizing product start rng with
  | zero => simp [poissonLoop] at finished
  | succ fuel inductionHypothesis =>
    by_cases above : target < product
    · simp only [poissonLoop, above, ↓reduceIte] at finished
      obtain ⟨counted, _, same⟩ := inductionHypothesis _ _ _ finished
      exact ⟨by omega, fun _ => by omega, same⟩
    · simp only [poissonLoop, above, ↓reduceIte, Option.some.injEq, Prod.mk.injEq] at finished
      obtain ⟨rfl, rfl⟩ := finished
      exact ⟨le_refl _, fun reached => absurd reached above, rfl⟩

/-- A count leaves the tape. It is zero at a rate that is not positive, and positive when
the rate is and the first value drawn is above the target. -/
theorem poisson_spec (math : MathExp) (fuel : ℕ) (rng after : Rng) (rate : ℚ) (count : ℕ)
    (finished : poisson math fuel rng rate = some (count, after)) :
    after.tape = rng.tape ∧ (rate ≤ 0 → count = 0) ∧
      (0 < rate → math.exp (-rate) < rng.random.1 → 0 < count) := by
  by_cases idle : rate ≤ 0
  · simp only [poisson, idle, ↓reduceIte, Option.some.injEq, Prod.mk.injEq] at finished
    obtain ⟨rfl, rfl⟩ := finished
    exact ⟨rfl, fun _ => rfl, fun positive => absurd idle (not_le.mpr positive)⟩
  · simp only [poisson, idle, ↓reduceIte] at finished
    obtain ⟨_, counted, same⟩ := poissonLoop_counts _ _ _ _ _ _ _ finished
    exact ⟨same, fun nothing => absurd nothing idle, fun _ => counted⟩

end Rng

/-- A stream whose unit draws are one half and whose integers are the low ends. -/
def evenRng : Rng := ⟨fun _ => .half 0, 0⟩

/-- A stream whose integers count up, so that sampled blocks differ. -/
def countingRng : Rng := ⟨Draw.half, 0⟩

end Satsim
