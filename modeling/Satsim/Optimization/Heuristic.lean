import Satsim.Config
import Satsim.Ports

/-!
# The closed-form planner

The signals all planners share, and the heuristic planner: an admission curve from the
offered load, class budgets from demand shares, fairness weights from the gap between
demand and service, and for each region the fleet with the most capacity there.

Every planner starts from these signals, so facts about them are facts about all
planners. The dictionaries keep the order in which classes and regions were first met,
as in the source.
-/

namespace Satsim

open Library (Dict)

namespace PlanningWindow

variable (window : PlanningWindow)

/-- `_mean_utilization`; each utilization is clamped before the average is taken. Without recent
states the demand over the capacity stands in. -/
def meanUtilization (clamp : WithTop ℚ) : WithTop ℚ :=
  if window.recentCongestion.isEmpty then
    let totalDemand := window.recentDemandUnits.values.sum
    let capacity := window.snapshot.totalCapacity
    if 0 < capacity then min clamp ((totalDemand / capacity : ℚ) : WithTop ℚ)
    else ((0 : ℚ) : WithTop ℚ)
  else
    let utils := window.recentCongestion.map (fun state => min clamp state.utilization)
    WithTop.map (· / (utils.length : ℚ)) utils.sum

/-- The average drop rate of the recent states, zero without any. -/
def meanDropRate : ℚ :=
  if window.recentCongestion.isEmpty then 0
  else (window.recentCongestion.map CongestionState.dropRate).sum / window.recentCongestion.length

/-- Each class's share of the recent demand; classes without demand have none. -/
def demandShares : Dict TrafficClass ℚ :=
  let total := window.recentDemandUnits.values.sum
  if total ≤ 0 then Dict.empty
  else
    Dict.ofPairs ((window.recentDemandUnits.entries.filter (fun entry => decide (0 < entry.2))).map
      (fun entry => (entry.1, entry.2 / total)))

/-- How many of each class the recent steps served. -/
def servedByClass : Dict TrafficClass ℕ :=
  Dict.tally (window.recentCounters.flatMap (fun counters => counters.servedByClass.entries))

/-- Boost classes served less than their demand share, damp those served more. The served share
counts as at least a millionth in the quotient. -/
def fairnessWeights (low high : ℚ) : Dict TrafficClass ℚ :=
  let served := window.servedByClass
  let servedTotal := served.values.sum
  Dict.ofPairs (window.demandShares.entries.map (fun entry =>
    let servedShare : ℚ := if 0 < servedTotal then served.getD entry.1 0 / servedTotal else 0
    (entry.1, clamp (entry.2 / max servedShare (1 / 1000000)) low high)))

end PlanningWindow

/-- `_admission_curve`: the floor is about one over the utilization, lowered by drops; an
infinite utilization leaves none. -/
def admissionCurve (util : WithTop ℚ) (dropRate : ℚ) : AdmissionCurve :=
  let floor : ℚ := match util with
    | ⊤ => 0
    | (util : ℚ) => if util ≤ 1 then 1 else 1 / util
  ⟨[(0, clampUnit (floor * (1 - dropRate))), (1, 1)]⟩

/-- The capacity of each fleet in each region, over all beams of a snapshot. -/
def capacityByRegionFleet (snapshot : ConstellationSnapshot) : Dict Region (Dict FleetId ℚ) :=
  snapshot.beams.foldl (fun table beam =>
    table.set beam.region
      ((table.getD beam.region Dict.empty).bump beam.fleet beam.capacityUnits)) Dict.empty

/-- Whether one fleet's entry is ranked above another's: by capacity, then by name. -/
def outranks (later earlier : FleetId × ℚ) : Bool :=
  decide (earlier.2 < later.2 ∨ earlier.2 = later.2 ∧ earlier.1.value < later.1.value)

/-- The first of the entries that none outranks. An empty row has none. -/
def largestFleet : List (FleetId × ℚ) → Option FleetId
  | [] => none
  | first :: rest =>
      some (rest.foldl (fun best entry => if outranks entry best then entry else best) first).1

/-- For each region the fleet with the most capacity there. -/
def fleetHints (snapshot : ConstellationSnapshot) : Dict Region FleetId :=
  Dict.ofPairs ((capacityByRegionFleet snapshot).entries.filterMap (fun entry =>
    (largestFleet entry.2.entries).map (fun fleet => (entry.1, fleet))))

/-- The parameters of the planner, as a configuration accepts them. It has no state. -/
structure HeuristicOptimizer where
  validForSteps : ℤ := 1
  utilClamp : WithTop ℚ := ((10 : ℚ) : WithTop ℚ)
  fairnessMin : ℚ := 1 / 2
  fairnessMax : ℚ := 3 / 2

namespace HeuristicOptimizer

/-- The plan of a window, in closed form. -/
def plan (planner : HeuristicOptimizer) (window : PlanningWindow) : ResourcePlan :=
  { generatedAtStep := window.step
    validForSteps := planner.validForSteps
    admissionCurve := admissionCurve (window.meanUtilization planner.utilClamp) window.meanDropRate
    fairnessWeights := window.fairnessWeights planner.fairnessMin planner.fairnessMax
    airtimeBudgets := Dict.ofPairs (window.demandShares.entries.map
      (fun entry => (entry.1, window.snapshot.totalCapacity * entry.2)))
    fleetHints := fleetHints window.snapshot }

/-- The heuristic planner that a configuration selects. -/
def ofConfig (config : OptimizerConfig) : HeuristicOptimizer where
  validForSteps := config.cadenceSteps
  utilClamp := config.utilizationClamp
  fairnessMin := config.fairnessWeightMin
  fairnessMax := config.fairnessWeightMax

/-- The planner as the loop sees it; it keeps no memory. -/
def optimizer (planner : HeuristicOptimizer) : Optimizer Unit where
  plan _ window := (planner.plan window, ())

end HeuristicOptimizer

end Satsim
