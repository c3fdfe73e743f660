import Satsim.Domain.Planning

/-!
# Rising curves

A curve whose points rise in score and in probability interpolates to a function that
rises over all scores and stays between its first and its last probability. Two points
may share a score: the curve then steps up there, and the first of them decides.

`Below` compares curves point by point at the same scores. That is narrower than
comparing functions, and it is what a planner changes: probabilities at fixed scores.
-/

namespace Satsim

namespace AdmissionCurve

/-- Neither scores nor probabilities fall along the points. -/
def Rising (points : List (ℚ × ℚ)) : Prop :=
  points.Pairwise (fun before after => before.1 ≤ after.1 ∧ before.2 ≤ after.2)

/-- The position on a segment of positive width stays between the segment's ends, since it is a
weighted mean of them. -/
theorem segment_bounds (x0 y0 x1 y1 score : ℚ) (wide : x0 < x1) (rising : y0 ≤ y1)
    (left : x0 ≤ score) (right : score ≤ x1) :
    y0 ≤ y0 + (score - x0) / (x1 - x0) * (y1 - y0) ∧
      y0 + (score - x0) / (x1 - x0) * (y1 - y0) ≤ y1 := by
  have width : 0 < x1 - x0 := sub_pos.mpr wide
  have height : 0 ≤ y1 - y0 := sub_nonneg.mpr rising
  have start : 0 ≤ (score - x0) / (x1 - x0) := div_nonneg (sub_nonneg.mpr left) width.le
  have stop : (score - x0) / (x1 - x0) ≤ 1 := (div_le_one width).mpr (by linarith)
  have scaled := mul_le_mul_of_nonneg_right stop height
  have climbed := mul_nonneg start height
  constructor <;> linarith

/-- The position on a segment rises with the score. -/
theorem segment_mono (x0 y0 x1 y1 low high : ℚ) (wide : x0 < x1) (rising : y0 ≤ y1)
    (ordered : low ≤ high) :
    y0 + (low - x0) / (x1 - x0) * (y1 - y0) ≤ y0 + (high - x0) / (x1 - x0) * (y1 - y0) := by
  have width : 0 < x1 - x0 := sub_pos.mpr wide
  have height : 0 ≤ y1 - y0 := sub_nonneg.mpr rising
  gcongr

/-- The last point of a rising list is at least every other. -/
theorem Rising.le_last (points : List (ℚ × ℚ)) (inhabited : points ≠ []) (rising : Rising points)
    (point : ℚ × ℚ) (member : point ∈ points) :
    point.1 ≤ (points.getLast inhabited).1 ∧ point.2 ≤ (points.getLast inhabited).2 := by
  rw [← List.dropLast_append_getLast inhabited] at member rising
  cases List.mem_append.mp member with
  | inl earlier =>
    exact (List.pairwise_append.mp rising).2.2 point earlier _ (by simp)
  | inr last =>
    obtain rfl := List.mem_singleton.mp last
    exact ⟨le_refl _, le_refl _⟩

/-- The first segment contains the score and gives the value, on its line or, without width,
at its right end; or the score is beyond it and the segments after it decide. -/
theorem interpolate_cons (first second : ℚ × ℚ) (rest : List (ℚ × ℚ)) (score : ℚ)
    (rising : Rising (first :: second :: rest)) (left : first.1 ≤ score) :
    (score ≤ second.1 ∧ ∃ value, interpolate score (first :: second :: rest) = some value ∧
        first.2 ≤ value ∧ value ≤ second.2) ∨
      (second.1 < score ∧ interpolate score (first :: second :: rest) =
        interpolate score (second :: rest)) := by
  obtain ⟨x0, y0⟩ := first
  obtain ⟨x1, y1⟩ := second
  obtain ⟨narrow, climbs⟩ := (List.pairwise_cons.mp rising).1 (x1, y1) (by simp)
  cases le_or_gt score x1 with
  | inl inside =>
    refine Or.inl ⟨inside, ?_⟩
    rw [interpolate, if_pos ⟨left, inside⟩]
    split
    · exact ⟨y1, rfl, climbs, le_refl _⟩
    · rename_i apart
      exact ⟨_, rfl, segment_bounds x0 y0 x1 y1 score
        (lt_of_le_of_ne narrow (fun same => apart same.symm)) climbs left inside⟩
  | inr beyond =>
    refine Or.inr ⟨beyond, ?_⟩
    rw [interpolate, if_neg (fun both => absurd both.2 (not_le.mpr beyond))]

/-- Up to its last score, a rising list of at least two points has a value. -/
theorem interpolate_total (first second : ℚ × ℚ) (rest : List (ℚ × ℚ)) (score : ℚ)
    (rising : Rising (first :: second :: rest)) (left : first.1 ≤ score)
    (right : score ≤ ((first :: second :: rest).getLast (List.cons_ne_nil _ _)).1) :
    ∃ value, interpolate score (first :: second :: rest) = some value := by
  induction rest generalizing first second with
  | nil =>
    rcases interpolate_cons first second [] score rising left with
      ⟨_, value, found, _⟩ | ⟨beyond, _⟩
    · exact ⟨value, found⟩
    · exact absurd right (not_le.mpr beyond)
  | cons third rest inductionHypothesis =>
    rcases interpolate_cons first second (third :: rest) score rising left with
      ⟨_, value, found, _⟩ | ⟨beyond, follows⟩
    · exact ⟨value, found⟩
    · rw [List.getLast_cons (List.cons_ne_nil _ _)] at right
      rw [follows]
      exact inductionHypothesis second third (List.pairwise_cons.mp rising).2 beyond.le right

/-- A value is at least the first probability and at most the last. -/
theorem interpolate_bounds (first : ℚ × ℚ) (rest : List (ℚ × ℚ)) (score value : ℚ)
    (rising : Rising (first :: rest)) (left : first.1 ≤ score)
    (found : interpolate score (first :: rest) = some value) :
    first.2 ≤ value ∧ value ≤ ((first :: rest).getLast (List.cons_ne_nil _ _)).2 := by
  induction rest generalizing first with
  | nil => simp [interpolate] at found
  | cons second rest inductionHypothesis =>
    obtain ⟨heads, tail⟩ := List.pairwise_cons.mp rising
    rw [List.getLast_cons (List.cons_ne_nil _ _)]
    rcases interpolate_cons first second rest score rising left with
      ⟨_, other, same, above, below⟩ | ⟨beyond, follows⟩
    · obtain rfl := Option.some.inj (same.symm.trans found)
      exact ⟨above, below.trans
        (Rising.le_last _ (List.cons_ne_nil _ _) tail second (by simp)).2⟩
    · obtain ⟨above, below⟩ := inductionHypothesis second tail beyond.le (follows ▸ found)
      exact ⟨(heads second (by simp)).2.trans above, below⟩

/-- Interpolation rises with the score, from the first point on. The two scores may fall into
different segments. -/
theorem interpolate_mono (first : ℚ × ℚ) (rest : List (ℚ × ℚ)) (low high lower upper : ℚ)
    (rising : Rising (first :: rest)) (left : first.1 ≤ low) (ordered : low ≤ high)
    (lowFound : interpolate low (first :: rest) = some lower)
    (highFound : interpolate high (first :: rest) = some upper) : lower ≤ upper := by
  induction rest generalizing first with
  | nil => simp [interpolate] at lowFound
  | cons second rest inductionHypothesis =>
    obtain ⟨heads, tail⟩ := List.pairwise_cons.mp rising
    rcases interpolate_cons first second rest low rising left with
      ⟨lowInside, value, same, _, below⟩ | ⟨beyond, follows⟩
    · obtain rfl := Option.some.inj (same.symm.trans lowFound)
      cases le_or_gt high second.1 with
      | inl highInside =>
        -- both scores lie on the first segment
        obtain ⟨x0, y0⟩ := first
        obtain ⟨x1, y1⟩ := second
        obtain ⟨narrow, climbs⟩ := heads (x1, y1) (by simp)
        rw [interpolate, if_pos ⟨left, lowInside⟩] at lowFound
        rw [interpolate, if_pos ⟨left.trans ordered, highInside⟩] at highFound
        by_cases flat : x1 = x0
        · rw [if_pos flat] at lowFound highFound
          exact le_of_eq (Option.some.inj (lowFound.symm.trans highFound))
        · rw [if_neg flat] at lowFound highFound
          rw [← Option.some.inj lowFound, ← Option.some.inj highFound]
          exact segment_mono x0 y0 x1 y1 low high
            (lt_of_le_of_ne narrow (fun same => flat same.symm)) climbs ordered
      | inr beyond =>
        -- the higher score lies on a later segment, which starts no lower than this one ends
        rcases interpolate_cons first second rest high rising (left.trans ordered) with
          ⟨inside, _⟩ | ⟨_, later⟩
        · exact absurd inside (not_le.mpr beyond)
        · exact below.trans
            (interpolate_bounds second rest high upper tail beyond.le (later ▸ highFound)).1
    · rcases interpolate_cons first second rest high rising (left.trans ordered) with
        ⟨inside, _⟩ | ⟨_, later⟩
      · exact absurd (ordered.trans inside) (not_le.mpr beyond)
      · exact inductionHypothesis second tail beyond.le (follows ▸ lowFound) (later ▸ highFound)

section Evaluation

variable (first : ℚ × ℚ) (rest : List (ℚ × ℚ))

/-- The last point of a curve with a first point. -/
def lastPoint : ℚ × ℚ := rest.getLastD first

/-- It is the last of its points, so the default of `getLastD` is never read. -/
theorem getLast_eq_lastPoint :
    (first :: rest).getLast (List.cons_ne_nil first rest) = lastPoint first rest :=
  List.getLast_eq_getLastD _

variable (rising : Rising (first :: rest))
include rising

/-- A rising curve evaluates to its first probability up to its first score, to its last from
its last score on, and in between to the value of the segments. -/
theorem admitProbability_cases (score : ℚ) :
    (score ≤ first.1 ∧ (AdmissionCurve.mk (first :: rest)).admitProbability score = first.2) ∨
      (first.1 < score ∧ (lastPoint first rest).1 ≤ score ∧
        (AdmissionCurve.mk (first :: rest)).admitProbability score = (lastPoint first rest).2) ∨
      (first.1 < score ∧ score < (lastPoint first rest).1 ∧
        interpolate score (first :: rest) =
          some ((AdmissionCurve.mk (first :: rest)).admitProbability score)) := by
  simp only [admitProbability, getLast_eq_lastPoint]
  split
  · rename_i before
    exact Or.inl ⟨before, rfl⟩
  rename_i after
  split
  · rename_i beyond
    exact Or.inr (Or.inl ⟨not_le.mp after, beyond, rfl⟩)
  rename_i within
  refine Or.inr (Or.inr ⟨not_le.mp after, not_le.mp within, ?_⟩)
  cases rest with
  | nil => exact absurd (not_le.mp after).le within
  | cons second rest =>
    obtain ⟨value, found⟩ := interpolate_total first second rest score rising
      (not_le.mp after).le (getLast_eq_lastPoint first (second :: rest) ▸ (not_le.mp within).le)
    rw [found, Option.getD_some]

/-- A rising curve stays between its first and its last probability. -/
theorem admitProbability_bounds (score : ℚ) :
    first.2 ≤ (AdmissionCurve.mk (first :: rest)).admitProbability score ∧
      (AdmissionCurve.mk (first :: rest)).admitProbability score ≤ (lastPoint first rest).2 := by
  have span := (Rising.le_last _ (List.cons_ne_nil first rest) rising first (by simp)).2
  rw [getLast_eq_lastPoint] at span
  rcases admitProbability_cases first rest rising score with
    ⟨_, value⟩ | ⟨_, _, value⟩ | ⟨after, _, found⟩
  · rw [value]
    exact ⟨le_refl _, span⟩
  · rw [value]
    exact ⟨span, le_refl _⟩
  · rw [← getLast_eq_lastPoint]
    exact interpolate_bounds first rest score _ rising after.le found

/-- A rising curve rises: a higher score is never less likely to be admitted. -/
theorem admitProbability_mono (low high : ℚ) (ordered : low ≤ high) :
    (AdmissionCurve.mk (first :: rest)).admitProbability low ≤
      (AdmissionCurve.mk (first :: rest)).admitProbability high := by
  rcases admitProbability_cases first rest rising low with
    ⟨_, value⟩ | ⟨after, lowBeyond, _⟩ | ⟨after, _, lowFound⟩
  · rw [value]
    exact (admitProbability_bounds first rest rising high).1
  · rcases admitProbability_cases first rest rising high with
      ⟨before, _⟩ | ⟨_, _, value⟩ | ⟨_, within, _⟩
    · exact absurd (after.trans_le ordered) (not_lt.mpr before)
    · rw [value]
      exact (admitProbability_bounds first rest rising low).2
    · exact absurd (lowBeyond.trans ordered) (not_le.mpr within)
  · rcases admitProbability_cases first rest rising high with
      ⟨before, _⟩ | ⟨_, _, value⟩ | ⟨_, _, highFound⟩
    · exact absurd (after.trans_le ordered) (not_lt.mpr before)
    · rw [value]
      exact (admitProbability_bounds first rest rising low).2
    · exact interpolate_mono first rest low high _ _ rising after.le ordered lowFound highFound

end Evaluation

/-- A curve with points that rise from a probability to a probability. The planners' curves
satisfy it; nothing in the record asks for it. -/
structure Risen (curve : AdmissionCurve) : Prop where
  inhabited : curve.breakpoints ≠ []
  rising : Rising curve.breakpoints
  probabilities : ∀ point ∈ curve.breakpoints, 0 ≤ point.2 ∧ point.2 ≤ 1

namespace Risen

variable {curve : AdmissionCurve} (risen : curve.Risen)
include risen

/-- The curve rises over all scores. -/
theorem mono (low high : ℚ) (ordered : low ≤ high) :
    curve.admitProbability low ≤ curve.admitProbability high := by
  obtain ⟨points⟩ := curve
  obtain ⟨first, rest, rfl⟩ := List.exists_cons_of_ne_nil risen.inhabited
  exact admitProbability_mono first rest risen.rising low high ordered

/-- The curve stays between its first and its last probability. -/
theorem between (score : ℚ) :
    (curve.breakpoints.head risen.inhabited).2 ≤ curve.admitProbability score ∧
      curve.admitProbability score ≤ (curve.breakpoints.getLast risen.inhabited).2 := by
  obtain ⟨points⟩ := curve
  obtain ⟨first, rest, rfl⟩ := List.exists_cons_of_ne_nil risen.inhabited
  obtain ⟨above, below⟩ := admitProbability_bounds first rest risen.rising score
  exact ⟨above, (getLast_eq_lastPoint first rest) ▸ below⟩

/-- An admission probability of such a curve is a probability. -/
theorem unit (score : ℚ) :
    0 ≤ curve.admitProbability score ∧ curve.admitProbability score ≤ 1 := by
  obtain ⟨above, below⟩ := risen.between score
  exact ⟨(risen.probabilities _ (List.head_mem risen.inhabited)).1.trans above,
    below.trans (risen.probabilities _ (List.getLast_mem risen.inhabited)).2⟩

end Risen

/-- A point lies under another: at its score, with no higher probability. -/
def Under (lower upper : ℚ × ℚ) : Prop := lower.1 = upper.1 ∧ lower.2 ≤ upper.2

/-- A curve lies below another when its points lie under the other's, one by one. -/
def Below (low high : AdmissionCurve) : Prop :=
  List.Forall₂ Under low.breakpoints high.breakpoints

/-- Both curves take the same segment, and a position on it is a mean of its two ends. Where one
has no segment the other has none. -/
theorem interpolate_below (score : ℚ) (low high : List (ℚ × ℚ))
    (below : List.Forall₂ Under low high) :
    Option.Rel (· ≤ ·) (interpolate score low) (interpolate score high) := by
  induction below with
  | nil => exact Option.Rel.none
  | @cons first first' rest rest' start tail inductionHypothesis =>
    cases tail with
    | nil => exact Option.Rel.none
    | @cons second second' rest rest' stop tail =>
      obtain ⟨x0, y0⟩ := first
      obtain ⟨x0', y0'⟩ := first'
      obtain ⟨x1, y1⟩ := second
      obtain ⟨x1', y1'⟩ := second'
      obtain ⟨rfl, lower⟩ : x0 = x0' ∧ y0 ≤ y0' := start
      obtain ⟨rfl, upper⟩ : x1 = x1' ∧ y1 ≤ y1' := stop
      rw [interpolate, interpolate]
      split
      · rename_i inside
        split
        · exact Option.Rel.some upper
        · rename_i apart
          have wide : 0 < x1 - x0 :=
            sub_pos.mpr (lt_of_le_of_ne (inside.1.trans inside.2) (fun same => apart same.symm))
          have left : 0 ≤ (score - x0) / (x1 - x0) :=
            div_nonneg (sub_nonneg.mpr inside.1) wide.le
          have right : (score - x0) / (x1 - x0) ≤ 1 :=
            (div_le_one wide).mpr (sub_le_sub_right inside.2 x0)
          apply Option.Rel.some
          have near := mul_le_mul_of_nonneg_left lower (sub_nonneg.mpr right)
          have far := mul_le_mul_of_nonneg_left upper left
          linarith
      · exact inductionHypothesis

/-- Related lists have related last items. -/
theorem forall₂_getLast {α β : Type} {related : α → β → Prop} {left : List α} {right : List β}
    (all : List.Forall₂ related left right) (leftInhabited : left ≠ [])
    (rightInhabited : right ≠ []) :
    related (left.getLast leftInhabited) (right.getLast rightInhabited) := by
  induction all with
  | nil => exact absurd rfl leftInhabited
  | cons head tail inductionHypothesis =>
    cases tail with
    | nil => exact head
    | cons second rest =>
      rw [List.getLast_cons (List.cons_ne_nil _ _), List.getLast_cons (List.cons_ne_nil _ _)]
      exact inductionHypothesis (List.cons_ne_nil _ _) (List.cons_ne_nil _ _)

/-- A curve below another admits no score more often. Neither curve has to rise for this. -/
theorem Below.admitProbability_le {low high : AdmissionCurve} (below : low.Below high)
    (score : ℚ) : low.admitProbability score ≤ high.admitProbability score := by
  obtain ⟨low⟩ := low
  obtain ⟨high⟩ := high
  cases low with
  | nil =>
    obtain rfl := List.forall₂_nil_left_iff.mp below
    exact le_refl 1
  | cons first rest =>
    obtain ⟨first', rest', start, tail, rfl⟩ := List.forall₂_cons_left_iff.mp below
    have last := forall₂_getLast below (List.cons_ne_nil _ _) (List.cons_ne_nil _ _)
    have between := interpolate_below score _ _ below
    simp only [admitProbability]
    rw [← start.1, ← last.1]
    split
    · exact start.2
    split
    · exact last.2
    · revert between
      cases interpolate score (first :: rest) <;>
        cases interpolate score (first' :: rest') <;> rintro ⟨⟩
      · exact last.2
      · assumption

/-- A flat curve gives every score its one probability. -/
theorem constant_admitProbability (probability score : ℚ) :
    (constant probability).admitProbability score = probability := by
  have flat : Rising [((0 : ℚ), probability), (1, probability)] := by simp [Rising]
  have bounds := admitProbability_bounds (0, probability) [(1, probability)] flat score
  exact le_antisymm bounds.2 bounds.1

end AdmissionCurve

end Satsim
