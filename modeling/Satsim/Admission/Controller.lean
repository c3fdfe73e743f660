import Satsim.Domain.Planning
import Satsim.Rng

/-!
# Probabilistic admission

Each best-effort request passes a seeded coin flip. Its probability is read from the
plan's curve and damped by live congestion, harder for low scores than for high ones.

The flips use one draw a request, admitted or not. That is what makes two runs over the
same requests comparable draw by draw.
-/

namespace Satsim

/-- The controller's memory: its random source and the plan it last adopted. -/
structure AdmissionController where
  rng : Rng
  plan : ResourcePlan

namespace AdmissionController

/-- Adopt a plan. Only its curve is read later. -/
def updatePolicy (controller : AdmissionController) (plan : ResourcePlan) : AdmissionController :=
  { controller with plan := plan }

/-- Extra shedding pressure from over-subscription and consumer lag, at most one. An infinite
excess counts as one. -/
def overage (congestion : CongestionState) : ℚ :=
  CongestionState.atMostOne (congestion.excess + ((congestion.queuePressure : ℚ) : WithTop ℚ))

/-- The probability of a score: the curve's, damped by the overage. A score of one is not damped
at all. -/
def admitProbability (curve : AdmissionCurve) (overage score : ℚ) : ℚ :=
  curve.admitProbability score * (1 - overage * (1 - score))

/-- One coin flip for each request, in order. The draw is compared strictly, so a probability of
zero admits nothing. -/
def flip (curve : AdmissionCurve) (overage : ℚ) : List ScoredRequest → Rng → AdmissionResult × Rng
  | [], rng => ({}, rng)
  | item :: rest, rng =>
      let (value, rng) := rng.random
      let (result, rng) := flip curve overage rest rng
      if value < admitProbability curve overage item.scoring.score then
        ({ result with admitted := item :: result.admitted }, rng)
      else ({ result with rejected := ⟨item.request, .admissionShed⟩ :: result.rejected }, rng)

/-- Flip for the requests of one step under the adopted plan. The step itself is not read. -/
def admitScored (controller : AdmissionController) (scored : List ScoredRequest)
    (congestion : CongestionState) (_step : ℤ) : AdmissionResult × AdmissionController :=
  let (result, rng) :=
    flip controller.plan.admissionCurve (overage congestion) scored controller.rng
  (result, { controller with rng := rng })

/-- A flip admits an item or rejects its request for shedding. No other reason is ever given
here. -/
theorem flip_partition (curve : AdmissionCurve) (overage : ℚ) (scored : List ScoredRequest)
    (rng : Rng) :
    ((flip curve overage scored rng).1.admitted.map ScoredRequest.request ++
        (flip curve overage scored rng).1.rejected.map RejectedRequest.request).Perm
          (scored.map ScoredRequest.request) ∧
      (flip curve overage scored rng).1.admitted ⊆ scored ∧
        ∀ item ∈ (flip curve overage scored rng).1.rejected, item.reason = .admissionShed := by
  induction scored generalizing rng with
  | nil => simp [flip]
  | cons item rest inductionHypothesis =>
    obtain ⟨parts, kept, reasons⟩ := inductionHypothesis rng.random.2
    by_cases lucky : rng.random.1 < admitProbability curve overage item.scoring.score
    · simp only [flip, lucky, ↓reduceIte, List.map_cons, List.cons_append]
      exact ⟨parts.cons _, List.cons_subset_cons _ kept, reasons⟩
    · simp only [flip, lucky, ↓reduceIte, List.map_cons]
      refine ⟨List.perm_middle.trans (parts.cons _), List.subset_cons_of_subset _ kept, ?_⟩
      intro rejected member
      rcases List.mem_cons.mp member with rfl | later
      · rfl
      · exact reasons rejected later

/-- Every request offered to the controller is admitted or rejected, with its
multiplicity; an admitted item keeps its scoring, and a rejected one is shed. -/
theorem admitScored_partition (controller : AdmissionController) (scored : List ScoredRequest)
    (congestion : CongestionState) (step : ℤ) :
    ((controller.admitScored scored congestion step).1.admitted.map ScoredRequest.request ++
        (controller.admitScored scored congestion step).1.rejected.map RejectedRequest.request).Perm
          (scored.map ScoredRequest.request) ∧
      (controller.admitScored scored congestion step).1.admitted ⊆ scored ∧
        ∀ item ∈ (controller.admitScored scored congestion step).1.rejected,
          item.reason = .admissionShed :=
  flip_partition controller.plan.admissionCurve (overage congestion) scored controller.rng

end AdmissionController

end Satsim
