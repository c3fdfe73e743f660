import Satsim.Admission.Controller
import Satsim.Domain.Curves

/-!
# More congestion never admits more

Two runs of the controller over the same requests draw the same values, one for each
request. The probability of every request falls as the curve falls, as the load and the
backlog grow and as the capacity shrinks; so what the more congested run admits, the
other admits as well.

Nothing is said about probabilities of events. The two runs are compared on one and the
same tape, and the comparison holds on every tape.
-/

namespace Satsim

namespace CongestionState

/-- One state is at least as congested as another: no less load and backlog, no more capacity.
The drop rate is not compared, as admission does not read it. -/
structure Eases (first second : CongestionState) : Prop where
  loadNonneg : 0 ≤ first.offeredLoadUnits
  load : first.offeredLoadUnits ≤ second.offeredLoadUnits
  queue : first.queueDepth ≤ second.queueDepth
  capacity : second.availableCapacityUnits ≤ first.availableCapacityUnits

variable {first second : CongestionState}

/-- Utilization grows with congestion, through a capacity that vanishes. There it becomes
infinite, unless nothing is offered. -/
theorem Eases.utilization (eases : Eases first second) :
    first.utilization ≤ second.utilization := by
  unfold CongestionState.utilization
  cases le_or_gt second.availableCapacityUnits 0 with
  | inl gone =>
    rw [if_pos gone]
    cases eq_or_lt_of_le (eases.loadNonneg.trans eases.load) with
    | inl idle =>
      have unloaded : first.offeredLoadUnits = 0 :=
        le_antisymm (eases.load.trans idle.ge) eases.loadNonneg
      rw [unloaded, ← idle]
      simp
    | inr loaded =>
      rw [if_pos loaded]
      exact le_top
  | inr left =>
    rw [if_neg (not_le.mpr left), if_neg (not_le.mpr (left.trans_le eases.capacity))]
    apply WithTop.coe_le_coe.mpr
    exact div_le_div₀ (eases.loadNonneg.trans eases.load) eases.load left eases.capacity

/-- The excess is the utilization beyond one, where it is finite. -/
theorem excess_eq (state : CongestionState) :
    state.excess = WithTop.map (fun utilization => max 0 (utilization - 1)) state.utilization := by
  unfold excess
  cases state.utilization <;> rfl

/-- So does the excess. -/
theorem Eases.excess (eases : Eases first second) : first.excess ≤ second.excess := by
  have rises : Monotone (fun utilization : ℚ => max 0 (utilization - 1)) :=
    fun low high ordered => max_le_max (le_refl 0) (sub_le_sub_right ordered 1)
  rw [excess_eq, excess_eq]
  exact rises.withTop_map eases.utilization

/-- Queue pressure counts from zero. -/
theorem queuePressure_nonneg (state : CongestionState) : 0 ≤ state.queuePressure := by
  unfold queuePressure
  split
  · exact le_refl 0
  · rename_i backlog
    have depth : (0 : ℚ) ≤ state.queueDepth := by exact_mod_cast (not_le.mp backlog).le
    have room : (0 : ℚ) ≤ max 1 state.availableCapacityUnits := zero_le_one.trans (le_max_left _ _)
    exact le_min zero_le_one (div_nonneg depth room)

/-- The collapse risk counts from zero when the drop rate does. -/
theorem collapseRisk_nonneg (state : CongestionState) (dropped : 0 ≤ state.dropRate) :
    0 ≤ state.collapseRisk := by
  have pressure := state.queuePressure_nonneg
  have excess : 0 ≤ atMostOne state.excess := by
    rw [excess_eq]
    cases state.utilization with
    | top => exact zero_le_one
    | coe utilization => exact le_min zero_le_one (le_max_left _ _)
  exact le_min zero_le_one (by linarith)

/-- Queue pressure grows with the backlog and as the capacity shrinks. -/
theorem Eases.queuePressure (eases : Eases first second) :
    first.queuePressure ≤ second.queuePressure := by
  cases le_or_gt first.queueDepth 0 with
  | inl idle =>
    have none : first.queuePressure = 0 := by rw [CongestionState.queuePressure, if_pos idle]
    rw [none]
    exact second.queuePressure_nonneg
  | inr backlog =>
    have depth : (first.queueDepth : ℚ) ≤ second.queueDepth := by exact_mod_cast eases.queue
    have positive : (0 : ℚ) ≤ second.queueDepth := by
      exact_mod_cast backlog.le.trans eases.queue
    rw [CongestionState.queuePressure, CongestionState.queuePressure,
      if_neg (not_le.mpr backlog), if_neg (not_le.mpr (backlog.trans_le eases.queue))]
    exact min_le_min (le_refl 1) (div_le_div₀ positive depth
      (zero_lt_one.trans_le (le_max_left _ _)) (max_le_max (le_refl 1) eases.capacity))

/-- Cutting off at one keeps the order, at infinity too. -/
theorem atMostOne_mono : Monotone atMostOne := by
  intro low high ordered
  cases high with
  | top => cases low <;> simp [atMostOne]
  | coe high =>
    cases low with
    | top => simp at ordered
    | coe low => exact min_le_min (le_refl 1) (WithTop.coe_le_coe.mp ordered)

end CongestionState

namespace AdmissionController

open CongestionState

/-- The overage grows with congestion, in load and in lag. -/
theorem overage_mono {first second : CongestionState} (eases : Eases first second) :
    overage first ≤ overage second := by
  apply atMostOne_mono
  exact add_le_add eases.excess (WithTop.coe_le_coe.mpr eases.queuePressure)

/-- The overage lies in the unit interval. -/
theorem overage_range (state : CongestionState) : 0 ≤ overage state ∧ overage state ≤ 1 := by
  unfold overage
  rw [excess_eq]
  have pressure := state.queuePressure_nonneg
  cases state.utilization with
  | top => simp [atMostOne]
  | coe utilization =>
    change 0 ≤ min 1 (max 0 (utilization - 1) + state.queuePressure) ∧
      min 1 (max 0 (utilization - 1) + state.queuePressure) ≤ 1
    exact ⟨le_min zero_le_one (add_nonneg (le_max_left _ _) pressure), min_le_left _ _⟩

/-- The probability of a score falls as the curve falls and as the overage grows. The score
stays the same. -/
theorem admitProbability_mono (lower upper : AdmissionCurve) (less more score : ℚ)
    (inside : 0 ≤ score ∧ score ≤ 1)
    (below : lower.admitProbability score ≤ upper.admitProbability score)
    (nonneg : 0 ≤ lower.admitProbability score) (damped : less ≤ more)
    (start : 0 ≤ less) (bound : more ≤ 1) :
    admitProbability lower more score ≤ admitProbability upper less score := by
  have gap : 0 ≤ 1 - score := sub_nonneg.mpr inside.2
  have factor : more * (1 - score) ≤ 1 := by
    calc more * (1 - score) ≤ 1 * (1 - score) := mul_le_mul_of_nonneg_right bound gap
      _ ≤ 1 := by linarith [inside.1]
  have order := mul_le_mul_of_nonneg_right damped gap
  have small := mul_nonneg start gap
  exact mul_le_mul below (by linarith) (by linarith) (nonneg.trans below)

/-- Coins flipped by a lower probability from the same source admit a part of what the
higher one admits, and leave the source where it is left. -/
theorem flip_mono (lower upper : AdmissionCurve) (less more : ℚ) (scored : List ScoredRequest)
    (below : ∀ item ∈ scored, admitProbability lower more item.scoring.score ≤
      admitProbability upper less item.scoring.score) (rng : Rng) :
    (flip lower more scored rng).1.admitted.Sublist (flip upper less scored rng).1.admitted ∧
      (flip lower more scored rng).2 = (flip upper less scored rng).2 ∧
      (flip upper less scored rng).2.used = rng.used + scored.length := by
  induction scored generalizing rng with
  | nil => simp [flip]
  | cons item rest inductionHypothesis =>
    obtain ⟨kept, same, used⟩ := inductionHypothesis
      (fun other member => below other (List.mem_cons_of_mem _ member)) rng.random.2
    have drawn : rng.random.2.used = rng.used + 1 := rfl
    have counted : (flip upper less rest rng.random.2).2.used =
        rng.used + (item :: rest).length := by
      rw [used, drawn, List.length_cons]
      omega
    by_cases unlikely : rng.random.1 < admitProbability lower more item.scoring.score
    · have likely := unlikely.trans_le (below item List.mem_cons_self)
      simp only [flip, unlikely, likely, ↓reduceIte]
      exact ⟨kept.cons_cons item, same, counted⟩
    · by_cases likely : rng.random.1 < admitProbability upper less item.scoring.score
      · simp only [flip, unlikely, likely, ↓reduceIte]
        exact ⟨kept.cons item, same, counted⟩
      · simp only [flip, unlikely, likely, ↓reduceIte]
        exact ⟨kept, same, counted⟩

/-- More congestion never admits more. From the same source, over the same scored requests,
a controller with a lower curve in a more congested state draws as many values, one for
each request, and admits a part of what the other admits. -/
theorem congestion_admits_less (scored : List ScoredRequest)
    (inside : ∀ item ∈ scored, 0 ≤ item.scoring.score ∧ item.scoring.score ≤ 1) (rng : Rng)
    (plan1 plan2 : ResourcePlan)
    (range : ∀ score, 0 ≤ score → score ≤ 1 →
      0 ≤ plan2.admissionCurve.admitProbability score ∧
        plan2.admissionCurve.admitProbability score ≤ plan1.admissionCurve.admitProbability score)
    (congestion1 congestion2 : CongestionState) (eases : Eases congestion1 congestion2)
    (step : ℤ) :
    let first := (AdmissionController.mk rng plan1).admitScored scored congestion1 step
    let second := (AdmissionController.mk rng plan2).admitScored scored congestion2 step
    second.1.admitted.Sublist first.1.admitted ∧ second.2.rng = first.2.rng ∧
      first.2.rng.used = rng.used + scored.length := by
  apply flip_mono
  intro item member
  have score := inside item member
  obtain ⟨nonneg, below⟩ := range item.scoring.score score.1 score.2
  exact admitProbability_mono _ _ _ _ _ score below nonneg (overage_mono eases)
    (overage_range congestion1).1 (overage_range congestion2).2

/-- One low-scored request under the neutral plan, which admits it with certainty in an idle
system and by its score alone in one without capacity. -/
theorem congestion_admits_less_overloaded :
    (CongestionState.mk 0 5 3 0 0).utilization = ⊤ ∧
      ((AdmissionController.mk evenRng (ResourcePlan.passthrough 0 1)).admitScored
          [⟨smallRequest "a" .photo 5, ⟨1 / 4, 1, 1⟩⟩] ⟨0, 5, 3, 0, 0⟩ 0).1.admitted.Sublist
        ((AdmissionController.mk evenRng (ResourcePlan.passthrough 0 1)).admitScored
          [⟨smallRequest "a" .photo 5, ⟨1 / 4, 1, 1⟩⟩] ⟨0, 0, 1, 10, 0⟩ 0).1.admitted := by
  refine ⟨by decide +kernel, (congestion_admits_less _ ?_ evenRng _ _ ?_ ⟨0, 0, 1, 10, 0⟩
    ⟨0, 5, 3, 0, 0⟩ ?_ 0).1⟩
  · intro item member
    obtain rfl := List.mem_singleton.mp member
    norm_num
  · intro score _ _
    have certain : (ResourcePlan.passthrough 0 1).admissionCurve.admitProbability score = 1 :=
      AdmissionCurve.constant_admitProbability 1 score
    rw [certain]
    exact ⟨zero_le_one, le_refl 1⟩
  · constructor <;> norm_num

end AdmissionController

end Satsim
