import Satsim.Ingest.Totality

/-!
# The class mix

A weighted choice walks the running total of the weights up to a threshold, the draw
scaled by the total, and stops at the first index that reaches it. The comparison admits
equality, so a draw of zero stops at the first index whatever its weight; every other draw
stops at a positive weight whose share of the total holds the threshold.

The baseline arrivals draw their classes this way, so a class of weight zero stays out of
a run as long as no draw of it is zero.
-/

namespace Satsim

open Library

namespace Rng

section Walk

variable {α : Type}

/-- Total of the weights before an index. The share of an index begins there and ends at its
successor's. -/
def weightBefore (items : List (ℚ × α)) (index : ℕ) : ℚ :=
  ((items.take index).map Prod.fst).sum

/-- Total of all weights. -/
def totalWeight (items : List (ℚ × α)) : ℚ := (items.map Prod.fst).sum

/-- The index at which the walk of `chooseAt` stops. The walk of the source returns the item;
the index tells repeated items apart. -/
def stopsAt (threshold : ℚ) : ℚ → List (ℚ × α) → Option ℕ
  | _, [] => none
  | cumulative, (weight, _) :: rest =>
      if threshold ≤ cumulative + weight then some 0
      else (stopsAt threshold (cumulative + weight) rest).map (· + 1)

/-- Nothing stands before the first index. -/
@[simp] theorem weightBefore_zero (items : List (ℚ × α)) : weightBefore items 0 = 0 := by
  simp [weightBefore]

/-- One index further, the first weight stands before it. -/
@[simp] theorem weightBefore_cons (head : ℚ × α) (rest : List (ℚ × α)) (index : ℕ) :
    weightBefore (head :: rest) (index + 1) = head.1 + weightBefore rest index := by
  simp [weightBefore]

/-- The total, one weight at a time. -/
@[simp] theorem totalWeight_cons (head : ℚ × α) (rest : List (ℚ × α)) :
    totalWeight (head :: rest) = head.1 + totalWeight rest := by
  simp [totalWeight]

/-- An index adds its own weight to the running total. -/
theorem weightBefore_succ (items : List (ℚ × α)) (index : ℕ) (entry : ℚ × α)
    (here : items[index]? = some entry) :
    weightBefore items (index + 1) = weightBefore items index + entry.1 := by
  induction items generalizing index with
  | nil => simp at here
  | cons head rest inductionHypothesis =>
    cases index with
    | zero =>
      obtain rfl : head = entry := by simpa using here
      simp
    | succ index =>
      rw [weightBefore_cons, weightBefore_cons,
        inductionHypothesis index (by simpa using here), add_assoc]

/-- The walk returns the item at the index where it stops, and falls through when it does
not stop. -/
theorem chooseAt_eq (threshold cumulative : ℚ) (items : List (ℚ × α)) :
    chooseAt threshold cumulative items =
      (stopsAt threshold cumulative items).bind (fun index => items[index]?.map Prod.snd) := by
  induction items generalizing cumulative with
  | nil => rfl
  | cons head rest inductionHypothesis =>
    simp only [chooseAt, stopsAt]
    split
    · rfl
    · rw [inductionHypothesis, Option.bind_map]
      rfl

/-- The walk stops inside the list, with the running total short of the threshold before the
index and at it or beyond after. -/
theorem stopsAt_spec (threshold cumulative : ℚ) (items : List (ℚ × α)) (index : ℕ)
    (stopped : stopsAt threshold cumulative items = some index) :
    (∃ entry, items[index]? = some entry) ∧
      (index = 0 ∨ cumulative + weightBefore items index < threshold) ∧
      threshold ≤ cumulative + weightBefore items (index + 1) := by
  induction items generalizing cumulative index with
  | nil => simp [stopsAt] at stopped
  | cons head rest inductionHypothesis =>
    by_cases reached : threshold ≤ cumulative + head.1
    · obtain rfl : 0 = index := by simpa [stopsAt, reached] using stopped
      exact ⟨⟨head, rfl⟩, Or.inl rfl, by simpa using reached⟩
    · obtain ⟨later, stops, rfl⟩ : ∃ later,
          stopsAt threshold (cumulative + head.1) rest = some later ∧ later + 1 = index := by
        simpa [stopsAt, reached] using stopped
      obtain ⟨inside, short, enough⟩ := inductionHypothesis _ later stops
      rw [weightBefore_cons, weightBefore_cons, ← add_assoc, ← add_assoc]
      refine ⟨by simpa using inside, Or.inr ?_, enough⟩
      cases short with
      | inl start =>
        subst start
        simpa using not_le.mp reached
      | inr short => exact short

/-- A threshold within the total is reached. -/
theorem stopsAt_total (threshold cumulative : ℚ) (items : List (ℚ × α)) (nonempty : items ≠ [])
    (within : threshold ≤ cumulative + totalWeight items) :
    ∃ index, stopsAt threshold cumulative items = some index := by
  induction items generalizing cumulative with
  | nil => exact absurd rfl nonempty
  | cons head rest inductionHypothesis =>
    by_cases reached : threshold ≤ cumulative + head.1
    · exact ⟨0, by simp [stopsAt, reached]⟩
    · rw [totalWeight_cons, ← add_assoc] at within
      have remains : rest ≠ [] := by
        rintro rfl
        exact reached (by simpa [totalWeight] using within)
      obtain ⟨index, stops⟩ := inductionHypothesis _ remains within
      exact ⟨index + 1, by simp [stopsAt, reached, stops]⟩

end Walk

section Choice

variable {α : Type} (rng : Rng) (items : List (ℚ × α)) (nonempty : items ≠ [])

/-- The choice returns from its loop, at an index of positive weight whose share of the total
holds the scaled draw. This is what a weighted choice is for, stated of one draw. -/
def RespectsWeights : Prop :=
  ∃ index weight,
    stopsAt (rng.random.1 * totalWeight items) 0 items = some index ∧
      items[index]? = some (weight, (rng.weightedChoice items nonempty).1) ∧ 0 < weight ∧
      weightBefore items index ≤ rng.random.1 * totalWeight items ∧
      rng.random.1 * totalWeight items ≤ weightBefore items (index + 1)

variable (nonneg : ∀ entry ∈ items, 0 ≤ entry.1)

include nonneg in
/-- Weights that are not negative have no negative total. -/
theorem totalWeight_nonneg : 0 ≤ totalWeight items :=
  List.sum_nonneg (by simpa using fun weight item listed => nonneg (weight, item) listed)

include nonneg in
/-- On weights that are not negative the loop always returns, so nothing falls through. Unless
it stops at once, the scaled draw is past the weights before the index. -/
theorem weightedChoice_stops :
    ∃ index weight,
      stopsAt (rng.random.1 * totalWeight items) 0 items = some index ∧
        items[index]? = some (weight, (rng.weightedChoice items nonempty).1) ∧
        (index = 0 ∨ weightBefore items index < rng.random.1 * totalWeight items) ∧
        rng.random.1 * totalWeight items ≤ weightBefore items index + weight := by
  have within : rng.random.1 * totalWeight items ≤ 0 + totalWeight items := by
    rw [zero_add]
    exact mul_le_of_le_one_left (totalWeight_nonneg items nonneg) rng.random_lt_one.le
  obtain ⟨index, stops⟩ := stopsAt_total _ 0 items nonempty within
  obtain ⟨⟨entry, here⟩, short, enough⟩ := stopsAt_spec _ 0 items index stops
  rw [weightBefore_succ items index entry here, zero_add] at enough
  rw [zero_add] at short
  refine ⟨index, entry.1, stops, ?_, short, enough⟩
  have chosen : chooseAt (rng.random.1 * totalWeight items) 0 items = some entry.2 := by
    rw [chooseAt_eq, stops, Option.bind_some, here, Option.map_some]
  have returned : (rng.weightedChoice items nonempty).1 = entry.2 := by
    change (chooseAt (rng.random.1 * totalWeight items) 0 items).getD _ = entry.2
    rw [chosen, Option.getD_some]
  rw [returned, here]

include nonneg in
/-- A draw of zero stops the loop at the first index, whatever its weight. The comparison there
is with a threshold of zero. -/
theorem stopsAt_head (drawn : rng.random.1 = 0) :
    stopsAt (rng.random.1 * totalWeight items) 0 items = some 0 ↔ items ≠ [] := by
  cases items with
  | nil => simp [stopsAt]
  | cons head rest =>
    have reached : 0 ≤ head.1 := nonneg head (by simp)
    simp [stopsAt, drawn, reached]

/-- The first weight, read by index. -/
theorem head_weight (weight : ℚ) (item : α) (first : items[0]? = some (weight, item)) :
    (items.head nonempty).1 = weight := by
  rw [← List.head?_eq_getElem?, List.head?_eq_some_head nonempty, Option.some.injEq] at first
  rw [first]

variable (positive : 0 < totalWeight items)

include nonneg positive in
/-- A choice respects the weights exactly when the draw is not zero or the first weight is
positive. A later weight of zero does no harm, since the running total has already passed. -/
theorem respectsWeights_iff :
    rng.RespectsWeights items nonempty ↔ 0 < rng.random.1 ∨ 0 < (items.head nonempty).1 := by
  constructor
  · rintro ⟨index, weight, stops, chosen, heavy, _⟩
    by_cases drawn : 0 < rng.random.1
    · exact Or.inl drawn
    · have zero : rng.random.1 = 0 := le_antisymm (not_lt.mp drawn) rng.random_nonneg
      -- a draw of zero stops at the first index, so the chosen weight is the first
      obtain rfl : index = 0 := Option.some.inj
        (stops.symm.trans ((stopsAt_head rng items nonneg zero).mpr nonempty))
      exact Or.inr (head_weight items nonempty weight _ chosen ▸ heavy)
  · intro condition
    obtain ⟨index, weight, stops, chosen, short, enough⟩ :=
      weightedChoice_stops rng items nonempty nonneg
    have reaches := enough
    rw [← weightBefore_succ items index _ chosen] at reaches
    cases short with
    | inl start =>
      subst start
      rw [weightBefore_zero, zero_add] at enough
      have heavy : 0 < weight := by
        cases condition with
        | inl drawn => exact (mul_pos drawn positive).trans_le enough
        | inr heavy => exact head_weight items nonempty weight _ chosen ▸ heavy
      refine ⟨0, weight, stops, chosen, heavy, ?_, reaches⟩
      rw [weightBefore_zero]
      exact mul_nonneg rng.random_nonneg positive.le
    | inr short =>
      have heavy : 0 < weight := by linarith
      exact ⟨index, weight, stops, chosen, heavy, short.le, reaches⟩

end Choice

/-- A draw of zero takes the first of two classes although its weight is zero. -/
theorem zero_draw_ignores_weight :
    ∃ rng : Rng, ∃ items : List (ℚ × TrafficClass), ∃ nonempty : items ≠ [],
      (∀ entry ∈ items, 0 ≤ entry.1) ∧ 0 < totalWeight items ∧
        (0, (rng.weightedChoice items nonempty).1) ∈ items ∧
        ¬ rng.RespectsWeights items nonempty := by
  refine ⟨⟨fun _ => ⟨0, 0, le_refl 0, one_pos⟩, 0⟩,
    [(0, .photo), (1, .messaging)], by simp, by simp, by norm_num [totalWeight], ?_, ?_⟩
  · simp [weightedChoice, chooseAt, random]
  · rintro ⟨index, weight, stops, here, heavy, _⟩
    simp only [stopsAt, random, zero_mul, add_zero, le_refl, ↓reduceIte, Option.some.injEq]
      at stops
    subst stops
    simp only [List.getElem?_cons_zero, Option.some.injEq, Prod.mk.injEq] at here
    exact heavy.ne here.1

/-- On a draw of one half the same list respects its weights. -/
theorem half_draw_respects :
    evenRng.RespectsWeights [(0, TrafficClass.photo), (1, TrafficClass.messaging)] (by simp) :=
  (respectsWeights_iff evenRng _ _ (by simp) (by norm_num [totalWeight])).mpr
    (Or.inl (by norm_num [evenRng, random, Draw.half]))

end Rng

namespace DemandGenerator

variable (config : SimulationConfig)

/-- The weights of the mix are not negative. -/
theorem classWeights_nonneg : ∀ entry ∈ classWeights config, 0 ≤ entry.1 := by
  intro entry listed
  obtain ⟨⟨trafficClass, profile⟩, _, rfl⟩ := List.mem_map.mp listed
  exact profile.weightNonneg

/-- A published request is of the class asked for, and leaves the tape. -/
theorem publish_class (step : ℤ) (trafficClass : TrafficClass) (region : Region) (urgency : ℚ)
    (generator after : DemandGenerator) (request : ServiceRequest)
    (published : publish config step trafficClass region urgency generator =
      .ok (request, after)) :
    request.trafficClass = trafficClass ∧ after.rng.tape = generator.rng.tape := by
  obtain ⟨_, _, _, classed, _, _, rfl⟩ := publish_eq_ok published
  exact ⟨classed, rfl⟩

/-- A drawn region leaves the tape. -/
theorem drawRegion_tape (rng after : Rng) (table : List Region) (region : Region)
    (drawn : drawRegion rng table = .ok (region, after)) : after.tape = rng.tape := by
  obtain ⟨_, _, found, same⟩ := (drawRegion_total rng table).mpr (by
    rintro rfl
    simp [drawRegion] at drawn)
  rw [found, Except.ok.injEq, Prod.mk.injEq] at drawn
  rw [← drawn.2, same]

variable (weighted : 0 < Rng.totalWeight (classWeights config))
include weighted

/-- A class drawn without a zero has a positive weight in the mix. -/
theorem weightedChoice_positive (rng : Rng) (drawn : 0 < rng.random.1) :
    ∃ profile, config.profile?
      (rng.weightedChoice (classWeights config) (classWeights_ne_nil config)).1 = some profile ∧
        0 < profile.weight := by
  obtain ⟨index, weight, _, chosen, positive, _⟩ := (Rng.respectsWeights_iff rng _
    (classWeights_ne_nil config) (classWeights_nonneg config) weighted).mpr (Or.inl drawn)
  obtain ⟨⟨trafficClass, profile⟩, listed, same⟩ := List.mem_map.mp (List.mem_of_getElem? chosen)
  simp only [Prod.mk.injEq] at same
  obtain ⟨rfl, named⟩ := same
  rw [← named]
  exact ⟨profile, (Dict.mem_entries_iff config.classMix trafficClass profile).mp listed, positive⟩

/-- Over a whole run of baseline arrivals on a tape without zeros, every request is of a class
with a positive weight. With a zero on the tape, the first class of the mix may come out
whatever its weight. -/
theorem baseline_weighted (step : ℤ) (count : ℕ) (generator after : DemandGenerator)
    (produced : List ServiceRequest) (drawn : ∀ index, 0 < (generator.rng.tape index).unit)
    (generated : baseline config step count generator = .ok (produced, after)) :
    ∀ request ∈ produced, ∃ profile,
      config.profile? request.trafficClass = some profile ∧ 0 < profile.weight := by
  induction count generalizing generator produced with
  | zero =>
    simp only [baseline, Except.ok.injEq, Prod.mk.injEq] at generated
    simp [← generated.1]
  | succ count inductionHypothesis =>
    obtain ⟨region, rng, request, middle, rest, placed, published, later, rfl⟩ :=
      (baseline_succ config step count generator after produced).mp generated
    obtain ⟨named, kept⟩ := publish_class config step _ region _ _ middle request published
    have tape : middle.rng.tape = generator.rng.tape :=
      kept.trans (drawRegion_tape (generator.rng.weightedChoice (classWeights config)
        (classWeights_ne_nil config)).2 rng _ region placed)
    intro tested member
    cases List.mem_cons.mp member with
    | inl here =>
      rw [here, named]
      exact weightedChoice_positive config weighted generator.rng (drawn _)
    | inr there => exact inductionHypothesis middle rest (tape ▸ drawn) later tested there

end DemandGenerator

end Satsim
