import Satsim.Admission.Monotone

/-!
# Admission follows the score

On a rising curve the probability of admission rises with the score, and the damping by
congestion keeps that order, since it weighs less on a higher score. Each request takes
one draw at its turn, whatever its score, so at the same turn a request is admitted
whenever one with a lower score would be.

The comparison is between two runs that differ in one request. Within a single run two
requests draw different values, and the lower of two scores may well be admitted alone.
-/

namespace Satsim

namespace AdmissionController

/-- At its turn an item takes the next draw and leaves the turns of the others alone. So the
outcome of one item can be studied with the others fixed. -/
theorem flip_turn (curve : AdmissionCurve) (overage : ℚ) (before after : List ScoredRequest)
    (item : ScoredRequest) (rng : Rng) :
    (flip curve overage (before ++ item :: after) rng).1.admitted =
      (flip curve overage before rng).1.admitted ++
        ((if (flip curve overage before rng).2.random.1 <
            admitProbability curve overage item.scoring.score then [item] else []) ++
          (flip curve overage after (flip curve overage before rng).2.advance).1.admitted) := by
  induction before generalizing rng with
  | nil =>
    by_cases lucky : rng.random.1 < admitProbability curve overage item.scoring.score <;>
      simp [flip, lucky]
  | cons head rest inductionHypothesis =>
    have later := inductionHypothesis rng.advance
    by_cases lucky : rng.random.1 < admitProbability curve overage head.scoring.score
    · simpa [flip, lucky] using later
    · simpa [flip, lucky] using later

section Damped

variable {curve : AdmissionCurve} (risen : curve.Risen) (congestion : CongestionState)
include risen

/-- The damping leaves a probability. It never turns one negative, however congested the system
is. -/
theorem damped_unit (score : ℚ) (nonneg : 0 ≤ score) (most : score ≤ 1) :
    0 ≤ admitProbability curve (overage congestion) score ∧
      admitProbability curve (overage congestion) score ≤ 1 := by
  obtain ⟨start, bound⟩ := overage_range congestion
  obtain ⟨above, below⟩ := risen.unit score
  have gap : 0 ≤ 1 - score := sub_nonneg.mpr most
  have shed : 0 ≤ overage congestion * (1 - score) := mul_nonneg start gap
  have factor : overage congestion * (1 - score) ≤ 1 :=
    mul_le_one₀ bound gap (by linarith)
  exact ⟨mul_nonneg above (by linarith), mul_le_one₀ below (by linarith) (by linarith)⟩

/-- The damping keeps the order of the scores, since it weighs less on a higher score. -/
theorem damped_mono (low high : ℚ) (ordered : low ≤ high) (nonneg : 0 ≤ low) (most : high ≤ 1) :
    admitProbability curve (overage congestion) low ≤
      admitProbability curve (overage congestion) high := by
  obtain ⟨start, bound⟩ := overage_range congestion
  have lighter : overage congestion * (1 - high) ≤ overage congestion * (1 - low) :=
    mul_le_mul_of_nonneg_left (by linarith) start
  have factor : overage congestion * (1 - low) ≤ 1 :=
    mul_le_one₀ bound (by linarith) (by linarith)
  exact mul_le_mul (risen.mono low high ordered) (by linarith) (by linarith) (risen.unit high).1

end Damped

/-- Admission never prefers the lower score. On every rising curve between probabilities,
repeated scores allowed, the curve rises over all scores between its first and its last
probability; the probability after damping by any congestion is a probability and rises over
the scores of the unit interval; and whatever stands before and after a request, its draw is
the same, so it is admitted whenever a request with a lower score would be. -/
theorem admission_follows_score (curve : AdmissionCurve) (risen : curve.Risen) :
    (∀ low high, low ≤ high → curve.admitProbability low ≤ curve.admitProbability high) ∧
      (∀ score, (curve.breakpoints.head risen.inhabited).2 ≤ curve.admitProbability score ∧
        curve.admitProbability score ≤ (curve.breakpoints.getLast risen.inhabited).2) ∧
      ∀ congestion : CongestionState,
        (∀ score, 0 ≤ score → score ≤ 1 →
          0 ≤ admitProbability curve (overage congestion) score ∧
            admitProbability curve (overage congestion) score ≤ 1) ∧
        (∀ low high, 0 ≤ low → low ≤ high → high ≤ 1 →
          admitProbability curve (overage congestion) low ≤
            admitProbability curve (overage congestion) high) ∧
        ∀ (controller : AdmissionController) (step : ℤ) (before after : List ScoredRequest),
          controller.plan.admissionCurve = curve → ∃ draw earlier later,
            (∀ item : ScoredRequest,
              (controller.admitScored (before ++ item :: after) congestion step).1.admitted =
                earlier ++ ((if draw < admitProbability curve (overage congestion)
                  item.scoring.score then [item] else []) ++ later)) ∧
            ∀ low high : ScoredRequest, 0 ≤ low.scoring.score →
              low.scoring.score ≤ high.scoring.score → high.scoring.score ≤ 1 →
              draw < admitProbability curve (overage congestion) low.scoring.score →
              draw < admitProbability curve (overage congestion) high.scoring.score := by
  refine ⟨risen.mono, risen.between, ?_⟩
  intro congestion
  refine ⟨damped_unit risen congestion, ?_, ?_⟩
  · intro low high nonneg ordered most
    exact damped_mono risen congestion low high ordered nonneg most
  · rintro controller step before after rfl
    refine ⟨_, _, _, fun item => flip_turn controller.plan.admissionCurve (overage congestion)
      before after item controller.rng, ?_⟩
    intro low high nonneg ordered most drawn
    exact drawn.trans_le (damped_mono risen congestion _ _ ordered nonneg most)

/-- A curve with a step: two of its points share a score. -/
theorem admission_follows_score_step :
    (AdmissionCurve.mk [(0, 0), (1 / 2, 1 / 4), (1 / 2, 3 / 4), (1, 1)]).admitProbability (1 / 2) ≤
      (AdmissionCurve.mk [(0, 0), (1 / 2, 1 / 4), (1 / 2, 3 / 4), (1, 1)]).admitProbability
        (3 / 5) := by
  have risen : (AdmissionCurve.mk [(0, 0), (1 / 2, 1 / 4), (1 / 2, 3 / 4), (1, 1)]).Risen := by
    constructor
    · exact List.cons_ne_nil _ _
    · simp only [AdmissionCurve.Rising]
      norm_num
    · norm_num
  exact (admission_follows_score _ risen).1 _ _ (by norm_num)

end AdmissionController

end Satsim
