import Satsim.Domain.Models
import Satsim.Library.Dict

/-!
# Plans, windows, emergency decisions and step counters

The Tier-3 plan the loop consults, the window it is computed from, the decision of
the Tier-2 lane, and the counters recorded for each step.

Histories in a window are lists, oldest first. A plan carries more than the loop reads;
the rest is kept because planners compute it and promises are made about it.
-/

namespace Satsim

open Library (Dict)

/-- A score-to-probability mapping as breakpoints with linear interpolation. Nothing asks the
breakpoints to be sorted here. -/
structure AdmissionCurve where
  breakpoints : List (ℚ × ℚ)
  deriving DecidableEq, Repr

namespace AdmissionCurve

/-- The flat curve of one probability. -/
def constant (probability : ℚ) : AdmissionCurve := ⟨[(0, probability), (1, probability)]⟩

/-- The first segment that contains the score; a segment of width zero yields its right end. On
unsorted points no segment may contain a score between the ends. -/
def interpolate (score : ℚ) : List (ℚ × ℚ) → Option ℚ
  | (x0, y0) :: (x1, y1) :: rest =>
      if x0 ≤ score ∧ score ≤ x1 then
        if x1 = x0 then some y1
        else some (y0 + (score - x0) / (x1 - x0) * (y1 - y0))
      else interpolate score ((x1, y1) :: rest)
  | _ => none

/-- The probability of admission at a score: the first or last breakpoint's outside their range,
interpolated between. A curve without breakpoints admits everything. -/
def admitProbability (curve : AdmissionCurve) (score : ℚ) : ℚ :=
  match curve.breakpoints with
  | [] => 1
  | first :: rest =>
      let last := (first :: rest).getLast (List.cons_ne_nil first rest)
      if score ≤ first.1 then first.2
      else if last.1 ≤ score then last.2
      else (interpolate score (first :: rest)).getD last.2

end AdmissionCurve

/-- The counters recorded for one step: how many requests went where, breakdowns of some of
these numbers by class, region, fleet or reason, and indicators of the step. -/
structure StepCounters where
  step : ℤ
  admitted : ℕ := 0
  rejected : ℕ := 0
  served : ℕ := 0
  deferred : ℕ := 0
  dropped : ℕ := 0
  degraded : ℕ := 0
  servedByClass : Dict TrafficClass ℕ := Dict.empty
  servedByRegion : Dict Region ℕ := Dict.empty
  servedByFleet : Dict FleetId ℕ := Dict.empty
  rejectedByReason : Dict RejectReason ℕ := Dict.empty
  servedWaitSteps : List ℤ := []
  fairnessIndex : ℚ := 1
  utilization : ℚ := 0
  collapseRisk : ℚ := 0
  queueDepth : ℤ := 0
  offeredLoadUnits : ℚ := 0
  availableCapacityUnits : ℚ := 0
  degradeMode : DegradeMode := .normal
  fallbackActivations : ℕ := 0
  circuitBreakerTrips : ℕ := 0
  deriving DecidableEq

/-- What a Tier-3 planner sees: the recent past and the current capacity. -/
structure PlanningWindow where
  step : ℤ
  snapshot : ConstellationSnapshot
  recentCongestion : List CongestionState := []
  recentDemandUnits : Dict TrafficClass ℚ := Dict.empty
  recentDemandByRegion : Dict (Region × TrafficClass) ℚ := Dict.empty
  recentCounters : List StepCounters := []

/-- What the Tier-3 planner hands down. Besides the curve and the weights it carries budgets and
hints, which only advise. -/
structure ResourcePlan where
  generatedAtStep : ℤ
  validForSteps : ℤ
  admissionCurve : AdmissionCurve
  fairnessWeights : Dict TrafficClass ℚ := Dict.empty
  airtimeBudgets : Dict TrafficClass ℚ := Dict.empty
  regionClassBudgets : Dict (Region × TrafficClass) ℚ := Dict.empty
  fleetHints : Dict Region FleetId := Dict.empty
  deriving DecidableEq

/-- The neutral plan a loop starts with: every request admitted, no caps. -/
def ResourcePlan.passthrough (step validForSteps : ℤ) : ResourcePlan :=
  { generatedAtStep := step, validForSteps := validForSteps,
    admissionCurve := AdmissionCurve.constant 1 }

/-- What the Tier-2 lane decides: reservations beside the admitted requests, in the same order,
and the shed ones. -/
structure EmergencyDecision where
  admitted : List ServiceRequest := []
  reservations : List Allocation := []
  shed : List RejectedRequest := []
  reservedUnitsUsed : ℚ := 0
  deriving DecidableEq, Repr

end Satsim
