import Satsim.Optimization.Heuristic

/-!
# Which way the fairness weights point

A class's weight is its demand share over its served share, where the served share counts
as at least a millionth, clamped to a range around one. A class served above its share is
never boosted. A class served below it is boosted as long as its demand share is itself a
millionth; a smaller share is divided by more than the class was served, and damped.

The floor is the only exception to the direction. With a demand share below a millionth
a class can be served less than its share and still be damped, which the example at the
end shows.
-/

namespace Satsim

open Library (Dict)

/-- A clamp around one stays at one or above when the value does, and otherwise only when the
range starts there. -/
theorem one_le_clamp (value low high : ℚ) (lowBound : low ≤ 1) (highBound : 1 ≤ high) :
    1 ≤ clamp value low high ↔ low = 1 ∨ 1 ≤ value := by
  unfold clamp
  rw [le_max_iff, le_min_iff]
  constructor
  · rintro (reached | ⟨_, reached⟩)
    · exact Or.inl (le_antisymm lowBound reached)
    · exact Or.inr reached
  · rintro (same | reached)
    · exact Or.inl same.ge
    · exact Or.inr ⟨highBound, reached⟩

/-- What is at most one stays so under a clamp that starts there. -/
theorem clamp_le_one (value low high : ℚ) (lowBound : low ≤ 1) (reached : value ≤ 1) :
    clamp value low high ≤ 1 :=
  max_le lowBound ((min_le_right _ _).trans reached)

namespace PlanningWindow

variable (window : PlanningWindow)

/-- A class's part of the recent demand. Without any demand it is zero by the convention of
division. -/
def demandShare (trafficClass : TrafficClass) : ℚ :=
  window.recentDemandUnits.getD trafficClass 0 / window.recentDemandUnits.values.sum

/-- A class's part of the requests recently served; none when none were. -/
def servedShare (trafficClass : TrafficClass) : ℚ :=
  let servedTotal := window.servedByClass.values.sum
  if 0 < servedTotal then window.servedByClass.getD trafficClass 0 / servedTotal else 0

/-- A part of what was served is never negative. -/
theorem servedShare_nonneg (trafficClass : TrafficClass) : 0 ≤ window.servedShare trafficClass := by
  simp only [servedShare]
  split
  · positivity
  · exact le_refl 0

section Demand

variable (nonneg : ∀ units ∈ window.recentDemandUnits.values, 0 ≤ units)
include nonneg

/-- A class with demand makes the total positive. -/
theorem total_pos (trafficClass : TrafficClass)
    (demanded : 0 < window.recentDemandUnits.getD trafficClass 0) :
    0 < window.recentDemandUnits.values.sum := by
  cases found : window.recentDemandUnits.get? trafficClass with
  | none => simp [Dict.getD, found] at demanded
  | some units =>
    rw [Dict.getD, found, Option.getD_some] at demanded
    have listed : units ∈ window.recentDemandUnits.values :=
      List.mem_map.mpr ⟨_, (Dict.mem_entries_iff _ _ _).mpr found, rfl⟩
    exact demanded.trans_le (List.single_le_sum nonneg units listed)

/-- A class has a demand share exactly when it has demand. -/
theorem demandShares_eq_some (trafficClass : TrafficClass) (share : ℚ) :
    window.demandShares.get? trafficClass = some share ↔
      0 < window.recentDemandUnits.getD trafficClass 0 ∧
        share = window.demandShare trafficClass := by
  simp only [demandShares]
  split
  · rename_i idle
    constructor
    · intro found
      simp at found
    · rintro ⟨demanded, _⟩
      exact absurd (window.total_pos nonneg trafficClass demanded) (not_lt.mpr idle)
  · rw [Dict.ofPairs_filter_eq_some]
    unfold demandShare Dict.getD
    constructor
    · rintro ⟨units, found, demanded, rfl⟩
      rw [found]
      exact ⟨of_decide_eq_true demanded, rfl⟩
    · rintro ⟨demanded, rfl⟩
      cases found : window.recentDemandUnits.get? trafficClass with
      | none => simp [found] at demanded
      | some units =>
        rw [found] at demanded
        exact ⟨units, rfl, decide_eq_true demanded, rfl⟩

/-- A class has a weight exactly when it has demand. -/
theorem fairnessWeights_eq_some (low high : ℚ) (trafficClass : TrafficClass) (weight : ℚ) :
    (window.fairnessWeights low high).get? trafficClass = some weight ↔
      0 < window.recentDemandUnits.getD trafficClass 0 ∧
        weight = clamp (window.demandShare trafficClass /
          max (window.servedShare trafficClass) (1 / 1000000)) low high := by
  simp only [fairnessWeights]
  rw [Dict.ofPairs_map_eq_some]
  constructor
  · rintro ⟨share, found, rfl⟩
    obtain ⟨demanded, rfl⟩ := (window.demandShares_eq_some nonneg trafficClass share).mp found
    exact ⟨demanded, rfl⟩
  · rintro ⟨demanded, rfl⟩
    exact ⟨_, (window.demandShares_eq_some nonneg trafficClass _).mpr ⟨demanded, rfl⟩, rfl⟩

/-- A class served below its share is boosted exactly when the range starts at one, or its
demand share is a millionth. Below that the floor on the served share exceeds the demand share
itself. -/
theorem boosted_iff (low high : ℚ) (lowBound : low ≤ 1) (highBound : 1 ≤ high)
    (trafficClass : TrafficClass)
    (under : window.servedShare trafficClass < window.demandShare trafficClass) :
    (∃ weight, (window.fairnessWeights low high).get? trafficClass = some weight ∧ 1 ≤ weight) ↔
      low = 1 ∨ 1 / 1000000 ≤ window.demandShare trafficClass := by
  have guard : 0 < max (window.servedShare trafficClass) (1 / 1000000) :=
    lt_max_of_lt_right (by norm_num)
  have demanded : 0 < window.recentDemandUnits.getD trafficClass 0 := by
    by_contra idle
    have shareless : window.demandShare trafficClass ≤ 0 :=
      div_nonpos_of_nonpos_of_nonneg (not_lt.mp idle) (List.sum_nonneg nonneg)
    exact absurd ((window.servedShare_nonneg trafficClass).trans_lt under) (not_lt.mpr shareless)
  have weights := window.fairnessWeights_eq_some nonneg low high trafficClass
  constructor
  · rintro ⟨weight, stored, boosted⟩
    obtain ⟨_, rfl⟩ := (weights weight).mp stored
    apply ((one_le_clamp _ _ _ lowBound highBound).mp boosted).imp_right
    intro reached
    exact (le_max_right _ _).trans ((one_le_div guard).mp reached)
  · intro condition
    refine ⟨_, (weights _).mpr ⟨demanded, rfl⟩, ?_⟩
    apply (one_le_clamp _ _ _ lowBound highBound).mpr
    apply condition.imp_right
    intro enough
    rw [one_le_div guard]
    exact max_le under.le enough

end Demand

end PlanningWindow

/-- Weights that point the right way: in their range, one for every class with demand, no
class damped that was served less than its demand share, none boosted that was served
more. -/
structure FairlyDirected (low high : ℚ) (window : PlanningWindow)
    (weights : Dict TrafficClass ℚ) : Prop where
  bounded : ∀ trafficClass weight, weights.get? trafficClass = some weight →
    low ≤ weight ∧ weight ≤ high
  covering : ∀ trafficClass, 0 < window.recentDemandUnits.getD trafficClass 0 →
    (weights.get? trafficClass).isSome
  boosts : ∀ trafficClass, window.servedShare trafficClass < window.demandShare trafficClass →
    ∃ weight, weights.get? trafficClass = some weight ∧ 1 ≤ weight
  damps : ∀ trafficClass weight, weights.get? trafficClass = some weight →
    window.demandShare trafficClass < window.servedShare trafficClass → weight ≤ 1

namespace HeuristicOptimizer

/-- The weights of a plan point the right way exactly when their range starts at one, or every
class served below its demand share has a demand share of a millionth at least. -/
theorem fairness_direction (planner : HeuristicOptimizer) (window : PlanningWindow)
    (lowBound : planner.fairnessMin ≤ 1) (highBound : 1 ≤ planner.fairnessMax)
    (nonneg : ∀ units ∈ window.recentDemandUnits.values, 0 ≤ units) :
    FairlyDirected planner.fairnessMin planner.fairnessMax window
        (planner.plan window).fairnessWeights ↔
      planner.fairnessMin = 1 ∨ ∀ trafficClass,
        window.servedShare trafficClass < window.demandShare trafficClass →
          1 / 1000000 ≤ window.demandShare trafficClass := by
  have weights := window.fairnessWeights_eq_some nonneg planner.fairnessMin planner.fairnessMax
  have boosted := window.boosted_iff nonneg planner.fairnessMin planner.fairnessMax lowBound
    highBound
  constructor
  · intro directed
    by_cases starts : planner.fairnessMin = 1
    · exact Or.inl starts
    · apply Or.inr
      intro trafficClass under
      exact Or.resolve_left ((boosted trafficClass under).mp (directed.boosts trafficClass under))
        starts
  · intro condition
    constructor
    · intro trafficClass weight stored
      obtain ⟨_, rfl⟩ := (weights trafficClass weight).mp stored
      exact clamp_range _ _ _ (lowBound.trans highBound)
    · intro trafficClass demanded
      exact Option.isSome_iff_exists.mpr ⟨_, (weights trafficClass _).mpr ⟨demanded, rfl⟩⟩
    · intro trafficClass under
      exact (boosted trafficClass under).mpr
        (condition.imp_right (fun enough => enough trafficClass under))
    · intro trafficClass weight stored above
      obtain ⟨_, rfl⟩ := (weights trafficClass weight).mp stored
      apply clamp_le_one _ _ _ lowBound
      rw [div_le_one (lt_max_of_lt_right (by norm_num))]
      exact above.le.trans (le_max_left _ _)

/-- A window whose two classes are demanded alike, and one of them served. -/
def starvedWindow : PlanningWindow where
  step := 1
  snapshot := { step := 1 }
  recentDemandUnits := Dict.ofPairs [(.messaging, 50), (.photo, 50)]
  recentCounters := [{ step := 0, servedByClass := Dict.ofPairs [(.messaging, 40)] }]

/-- On the starved window the weights of the default planner point the right way. -/
theorem fairness_direction_starved : ∃ planner : HeuristicOptimizer,
    FairlyDirected planner.fairnessMin planner.fairnessMax starvedWindow
      (planner.plan starvedWindow).fairnessWeights := by
  refine ⟨{}, (fairness_direction {} starvedWindow (by norm_num) (by norm_num) ?_).mpr
    (Or.inr ?_)⟩
  · decide +kernel
  · intro trafficClass
    cases trafficClass <;> decide +kernel

/-- A window with a unit of demand beside a billion, and nothing served. -/
def dwarfedWindow : PlanningWindow where
  step := 1
  snapshot := { step := 1 }
  recentDemandUnits := Dict.ofPairs [(.photo, 1000000000), (.messaging, 1)]

/-- The class with one unit was not served, and is damped to the bottom of the range. -/
theorem fairness_direction_dwarfed : ∃ planner : HeuristicOptimizer,
    planner.fairnessMin ≤ 1 ∧ 1 ≤ planner.fairnessMax ∧
      (∀ units ∈ dwarfedWindow.recentDemandUnits.values, 0 ≤ units) ∧
      dwarfedWindow.servedShare .messaging < dwarfedWindow.demandShare .messaging ∧
      (planner.plan dwarfedWindow).fairnessWeights.get? .messaging = some (1 / 2) ∧
      ¬ FairlyDirected planner.fairnessMin planner.fairnessMax dwarfedWindow
        (planner.plan dwarfedWindow).fairnessWeights := by
  have under : dwarfedWindow.servedShare .messaging < dwarfedWindow.demandShare .messaging := by
    decide +kernel
  have weighed : (HeuristicOptimizer.plan {} dwarfedWindow).fairnessWeights.get? .messaging =
      some (1 / 2) := by
    decide +kernel
  refine ⟨{}, by norm_num, by norm_num, by decide +kernel, under, weighed, ?_⟩
  intro directed
  obtain ⟨weight, stored, boosted⟩ := directed.boosts .messaging under
  rw [weighed] at stored
  obtain rfl := Option.some.inj stored
  norm_num at boosted

end HeuristicOptimizer

end Satsim
