import Satsim.Domain.Curves
import Satsim.Optimization.Heuristic

/-!
# A worse past never loosens the curve

The heuristic curve has one free number, the probability of the score zero. It falls as the
mean utilization rises, through a clamp, a reciprocal and infinity, and as the mean drop
rate rises. Of two windows with as many states, the one whose states are worse one by one
has the lower curve.

Windows are compared state by state, in order. Two windows whose averages happen to be
ordered need not be comparable in this sense, and nothing is said of them.
-/

namespace Satsim

open Library (Dict)

/-- A later state uses and drops at least as much. -/
structure CongestionState.Worsens (before after : CongestionState) : Prop where
  utilization : before.utilization ≤ after.utilization
  dropRate : before.dropRate ≤ after.dropRate

namespace PlanningWindow

/-- Two windows with a past, the second worse state by state, with drop rates that are rates.
They have equally many states. -/
structure Worse (first second : PlanningWindow) : Prop where
  inhabited : first.recentCongestion ≠ []
  states : List.Forall₂ CongestionState.Worsens first.recentCongestion second.recentCongestion
  firstDrops : ∀ state ∈ first.recentCongestion, 0 ≤ state.dropRate ∧ state.dropRate ≤ 1
  secondDrops : ∀ state ∈ second.recentCongestion, 0 ≤ state.dropRate ∧ state.dropRate ≤ 1

/-- With a past, the mean is a sum of clamped utilizations over their number. -/
theorem meanUtilization_eq (window : PlanningWindow) (clamp : WithTop ℚ)
    (inhabited : window.recentCongestion ≠ []) :
    window.meanUtilization clamp =
      WithTop.map (· / (window.recentCongestion.length : ℚ))
        (window.recentCongestion.map (fun state => min clamp state.utilization)).sum := by
  simp [meanUtilization, inhabited]

/-- With a past, the mean drop rate is an average. -/
theorem meanDropRate_eq (window : PlanningWindow) (inhabited : window.recentCongestion ≠ []) :
    window.meanDropRate =
      (window.recentCongestion.map CongestionState.dropRate).sum /
        window.recentCongestion.length := by
  simp [meanDropRate, inhabited]

/-- The mean of rates is a rate. -/
theorem meanDropRate_unit (window : PlanningWindow) (inhabited : window.recentCongestion ≠ [])
    (drops : ∀ state ∈ window.recentCongestion, 0 ≤ state.dropRate ∧ state.dropRate ≤ 1) :
    0 ≤ window.meanDropRate ∧ window.meanDropRate ≤ 1 := by
  have count : (0 : ℚ) < window.recentCongestion.length := by
    exact_mod_cast List.length_pos_iff.mpr inhabited
  have total : 0 ≤ (window.recentCongestion.map CongestionState.dropRate).sum :=
    List.sum_nonneg (by simpa using fun state member => (drops state member).1)
  have most : (window.recentCongestion.map CongestionState.dropRate).sum ≤
      window.recentCongestion.length := by
    have bounded := List.sum_le_card_nsmul (window.recentCongestion.map CongestionState.dropRate) 1
      (by simpa using fun state member => (drops state member).2)
    simpa using bounded
  rw [meanDropRate_eq window inhabited]
  exact ⟨div_nonneg total count.le, (div_le_one count).mpr most⟩

namespace Worse

variable {first second : PlanningWindow} (worse : Worse first second)
include worse

/-- Windows compared state by state have as many states. -/
theorem length_eq : first.recentCongestion.length = second.recentCongestion.length :=
  worse.states.length_eq

/-- So the worse window has a past too. -/
theorem second_inhabited : second.recentCongestion ≠ [] := by
  intro vacant
  have none := worse.length_eq
  rw [vacant, List.length_nil, List.length_eq_zero_iff] at none
  exact worse.inhabited none

/-- Clamping and averaging keep the order of the utilizations, infinite ones included. Without a
clamp one infinite state makes the mean infinite. -/
theorem meanUtilization_le (clamp : WithTop ℚ) :
    first.meanUtilization clamp ≤ second.meanUtilization clamp := by
  have clamped : List.Forall₂ (· ≤ ·)
      (first.recentCongestion.map (fun state => min clamp state.utilization))
      (second.recentCongestion.map (fun state => min clamp state.utilization)) := by
    rw [List.forall₂_map_left_iff, List.forall₂_map_right_iff]
    exact worse.states.imp (fun _ _ worsens => min_le_min_left clamp worsens.utilization)
  have averages : Monotone (fun total : ℚ => total / (second.recentCongestion.length : ℚ)) :=
    fun low high ordered => div_le_div_of_nonneg_right ordered (Nat.cast_nonneg _)
  rw [meanUtilization_eq first clamp worse.inhabited,
    meanUtilization_eq second clamp worse.second_inhabited, worse.length_eq]
  exact averages.withTop_map clamped.sum_le_sum

/-- The mean drop rate grows with the states. -/
theorem meanDropRate_le : first.meanDropRate ≤ second.meanDropRate := by
  have drops : List.Forall₂ (· ≤ ·) (first.recentCongestion.map CongestionState.dropRate)
      (second.recentCongestion.map CongestionState.dropRate) := by
    rw [List.forall₂_map_left_iff, List.forall₂_map_right_iff]
    exact worse.states.imp (fun _ _ worsens => worsens.dropRate)
  rw [meanDropRate_eq first worse.inhabited, meanDropRate_eq second worse.second_inhabited,
    worse.length_eq]
  exact div_le_div_of_nonneg_right drops.sum_le_sum (Nat.cast_nonneg _)

end Worse

end PlanningWindow

/-- The share of the load that fits, before the drops lower it. -/
def loadFloor : WithTop ℚ → ℚ
  | ⊤ => 0
  | (util : ℚ) => if util ≤ 1 then 1 else 1 / util

/-- The planner's curve has two points, the lower of them set by load and drops. -/
theorem admissionCurve_eq (util : WithTop ℚ) (dropRate : ℚ) :
    admissionCurve util dropRate =
      ⟨[(0, clampUnit (loadFloor util * (1 - dropRate))), (1, 1)]⟩ := by
  cases util <;> rfl

/-- The share that fits is a share. -/
theorem loadFloor_unit (util : WithTop ℚ) : 0 ≤ loadFloor util ∧ loadFloor util ≤ 1 := by
  cases util with
  | top => exact ⟨le_refl 0, zero_le_one⟩
  | coe util =>
    simp only [loadFloor]
    split
    · exact ⟨zero_le_one, le_refl 1⟩
    · rename_i loaded
      have heavy : 1 < util := not_le.mp loaded
      exact ⟨one_div_nonneg.mpr (zero_le_one.trans heavy.le),
        (div_le_one (zero_lt_one.trans heavy)).mpr heavy.le⟩

/-- A heavier load leaves a smaller share. -/
theorem loadFloor_antitone : Antitone loadFloor := by
  intro low high ordered
  cases high with
  | top => exact (loadFloor_unit low).1
  | coe high =>
    cases low with
    | top => exact absurd ordered (by simp)
    | coe low =>
      have below : low ≤ high := WithTop.coe_le_coe.mp ordered
      cases le_or_gt low 1 with
      | inl light =>
        have whole : loadFloor (low : WithTop ℚ) = 1 := if_pos light
        rw [whole]
        exact (loadFloor_unit _).2
      | inr heavy =>
        have lowShare : loadFloor (low : WithTop ℚ) = 1 / low := if_neg (not_le.mpr heavy)
        have highShare : loadFloor (high : WithTop ℚ) = 1 / high :=
          if_neg (not_le.mpr (heavy.trans_le below))
        rw [lowShare, highShare]
        exact one_div_le_one_div_of_le (zero_lt_one.trans heavy) below

/-- The curve rises from a probability to certainty. -/
theorem admissionCurve_risen (util : WithTop ℚ) (dropRate : ℚ) :
    (admissionCurve util dropRate).Risen := by
  have floor := clamp_range (loadFloor util * (1 - dropRate)) 0 1 zero_le_one
  rw [admissionCurve_eq]
  constructor
  · exact List.cons_ne_nil _ _
  · simpa [AdmissionCurve.Rising, clampUnit] using floor.2
  · simpa [clampUnit] using floor

/-- The score one is always admitted. -/
theorem admissionCurve_one (util : WithTop ℚ) (dropRate : ℚ) :
    (admissionCurve util dropRate).admitProbability 1 = 1 := by
  rw [admissionCurve_eq]
  simp [AdmissionCurve.admitProbability]

/-- More load and more drops lower the curve. Its upper point stays pinned at one. -/
theorem admissionCurve_below (lessUtil moreUtil : WithTop ℚ) (lessDrops moreDrops : ℚ)
    (utilization : lessUtil ≤ moreUtil) (drops : lessDrops ≤ moreDrops) (rate : moreDrops ≤ 1) :
    (admissionCurve moreUtil moreDrops).Below (admissionCurve lessUtil lessDrops) := by
  have floor : loadFloor moreUtil * (1 - moreDrops) ≤ loadFloor lessUtil * (1 - lessDrops) :=
    mul_le_mul (loadFloor_antitone utilization) (by linarith) (by linarith)
      (loadFloor_unit lessUtil).1
  have clamped : clampUnit (loadFloor moreUtil * (1 - moreDrops)) ≤
      clampUnit (loadFloor lessUtil * (1 - lessDrops)) :=
    max_le_max_left 0 (min_le_min_left 1 floor)
  rw [admissionCurve_eq, admissionCurve_eq]
  exact List.Forall₂.cons ⟨rfl, clamped⟩ (List.Forall₂.cons ⟨rfl, le_refl _⟩ List.Forall₂.nil)

namespace HeuristicOptimizer

/-- A worse recent past never loosens the planned curve. Of two windows with as many recent
states, at least one, the one whose states use and drop at least as much has the lower
curve at every score; and both curves are probabilities that do not fall with the score and
admit the score one with certainty. -/
theorem worse_past_tightens (planner : HeuristicOptimizer) (first second : PlanningWindow)
    (worse : first.Worse second) :
    (∀ score, (planner.plan second).admissionCurve.admitProbability score ≤
        (planner.plan first).admissionCurve.admitProbability score) ∧
      ∀ window ∈ [first, second],
        (∀ score, 0 ≤ (planner.plan window).admissionCurve.admitProbability score ∧
          (planner.plan window).admissionCurve.admitProbability score ≤ 1) ∧
        (∀ low high, low ≤ high →
          (planner.plan window).admissionCurve.admitProbability low ≤
            (planner.plan window).admissionCurve.admitProbability high) ∧
        (planner.plan window).admissionCurve.admitProbability 1 = 1 := by
  constructor
  · have rate := (second.meanDropRate_unit worse.second_inhabited worse.secondDrops).2
    have below := admissionCurve_below _ _ _ _ (worse.meanUtilization_le planner.utilClamp)
      worse.meanDropRate_le rate
    exact below.admitProbability_le
  · intro window _
    have risen := admissionCurve_risen (window.meanUtilization planner.utilClamp)
      window.meanDropRate
    exact ⟨risen.unit, risen.mono, admissionCurve_one _ _⟩

/-- An idle state against one whose capacity is gone: the second utilization is infinite. -/
theorem worse_past_tightens_outage :
    (CongestionState.mk 0 0 5 0 (1 / 2)).utilization = ⊤ ∧
      ∀ score, (HeuristicOptimizer.plan {} (.mk 0 { step := 0 } [⟨0, 0, 5, 0, 1 / 2⟩]
            Dict.empty Dict.empty [])).admissionCurve.admitProbability score ≤
          (HeuristicOptimizer.plan {} (.mk 0 { step := 0 } [⟨0, 0, 5, 10, 0⟩]
            Dict.empty Dict.empty [])).admissionCurve.admitProbability score := by
  have outage : (CongestionState.mk 0 0 5 0 (1 / 2)).utilization = ⊤ := by decide +kernel
  refine ⟨outage, (worse_past_tightens {} (.mk 0 { step := 0 } [⟨0, 0, 5, 10, 0⟩]
    Dict.empty Dict.empty []) (.mk 0 { step := 0 } [⟨0, 0, 5, 0, 1 / 2⟩] Dict.empty Dict.empty [])
    ⟨List.cons_ne_nil _ _, ?_, ?_, ?_⟩).1⟩
  · exact List.Forall₂.cons ⟨outage ▸ le_top, by norm_num⟩ List.Forall₂.nil
  · norm_num
  · norm_num

end HeuristicOptimizer

end Satsim
