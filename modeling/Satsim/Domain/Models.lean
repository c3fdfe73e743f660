import Satsim.Domain.Enums

/-!
# Domain models exchanged across the ports

Capacities, costs, scores and probabilities are exact rationals; steps and sizes
are integers. An absent limit stays absent: `none` where the source has `None` or
an infinite cap. A utilization may be infinite and is a rational with a top.

The records are those of the source with the fields that some modelled function reads.
They carry no invariants, since the source builds them freely; what is guaranteed of a
record is proved of the functions that make it.
-/

namespace Satsim

/-- The slack every capacity comparison of the source allows. -/
def slack : ℚ := 1 / 1000000000

/-- The slack is positive, so comparisons allow strictly more than exact ones. -/
theorem slack_pos : 0 < slack := by norm_num [slack]

/-- Bring a value between two bounds. The lower bound wins when the bounds cross. -/
def clamp (value low high : ℚ) : ℚ := max low (min high value)

/-- Between bounds in order, a clamped value lies within them. -/
theorem clamp_range (value low high : ℚ) (ordered : low ≤ high) :
    low ≤ clamp value low high ∧ clamp value low high ≤ high :=
  ⟨le_max_left _ _, max_le ordered (min_le_left _ _)⟩

/-- Clamp to the unit interval, the source's default bounds. -/
def clampUnit (value : ℚ) : ℚ := clamp value 0 1

/-- `min value cap`, where an absent cap is infinite. -/
def capped (value : ℚ) : Option ℚ → ℚ
  | none => value
  | some cap => min value cap

/-- A cap never adds. -/
theorem capped_le (value : ℚ) (cap : Option ℚ) : capped value cap ≤ value := by
  cases cap <;> simp [capped]

/-- Nor is the result above the cap. -/
theorem capped_le_cap (value cap : ℚ) : capped value (some cap) ≤ cap := min_le_right value cap

/-- More capacity gives more under the same cap. All monotonicity of offers rests on this. -/
theorem capped_mono {less more : ℚ} (below : less ≤ more) (cap : Option ℚ) :
    capped less cap ≤ capped more cap := by
  cases cap with
  | none => exact below
  | some cap => exact min_le_min_right cap below

/-- What names a request for the whole of its life. Conservation is stated of identities, since
a retried request is a different record. -/
structure Identity where
  requestId : String
  arrivalStep : ℤ
  deadlineStep : ℤ
  deriving DecidableEq, Repr

/-- One request. Its priority is that of its class; its retry count is all that changes over its
life. -/
structure ServiceRequest where
  requestId : String
  trafficClass : TrafficClass
  region : Region
  sizeBytes : ℤ
  linkQuality : ℚ
  urgency : ℚ
  arrivalStep : ℤ
  deadlineStep : ℤ
  retryCount : ℤ := 0
  preferredBand : Option Band := none
  deriving DecidableEq, Repr

namespace ServiceRequest

/-- How long a request has waited, never negative: a request ahead of its arrival has not
waited. -/
def waitingSteps (request : ServiceRequest) (currentStep : ℤ) : ℤ :=
  max 0 (currentStep - request.arrivalStep)

/-- Past its deadline. In the step of its deadline a request may still be served. -/
def isExpired (request : ServiceRequest) (currentStep : ℤ) : Bool :=
  decide (request.deadlineStep < currentStep)

/-- The test as an inequality. -/
@[simp] theorem isExpired_iff (request : ServiceRequest) (currentStep : ℤ) :
    request.isExpired currentStep = true ↔ request.deadlineStep < currentStep := by
  simp [isExpired]

/-- The same for a request that is in time. -/
theorem not_isExpired_iff (request : ServiceRequest) (currentStep : ℤ) :
    request.isExpired currentStep = false ↔ currentStep ≤ request.deadlineStep := by
  simp [isExpired]

/-- What a request keeps through every retry: only its retry count changes. -/
def identity (request : ServiceRequest) : Identity :=
  ⟨request.requestId, request.arrivalStep, request.deadlineStep⟩

end ServiceRequest

/-- A beam of one satellite over one region, in one band, with its capacity in a step. -/
structure Beam where
  beamId : String
  fleet : FleetId
  satelliteId : String
  region : Region
  band : Band
  capacityUnits : ℚ
  deriving DecidableEq, Repr

/-- A satellite and the beams it shows. -/
structure Satellite where
  satelliteId : String
  fleet : FleetId
  beams : List Beam := []
  deriving DecidableEq, Repr

/-- What is visible in one step: the satellites that answered, with their beams. -/
structure ConstellationSnapshot where
  step : ℤ
  satellites : List Satellite := []
  deriving DecidableEq, Repr

namespace ConstellationSnapshot

/-- All beams of a snapshot, in the order of its satellites. Identifiers may repeat. -/
def beams (snapshot : ConstellationSnapshot) : List Beam :=
  snapshot.satellites.flatMap Satellite.beams

/-- The capacity of all beams together. -/
def totalCapacity (snapshot : ConstellationSnapshot) : ℚ :=
  (snapshot.beams.map Beam.capacityUnits).sum

end ConstellationSnapshot

/-- Caps that come with a permission; an absent cap is none. -/
structure RegulatoryConstraints where
  maxAirtimeUnits : Option ℚ := none
  maxPower : Option ℚ := none
  deriving DecidableEq, Repr

/-- The verdict on one triple of region, fleet and band, with the caps of a permission or the
reason of a refusal. -/
structure RegulatoryDecision where
  allowed : Bool
  constraints : Option RegulatoryConstraints := none
  reason : Option String := none
  deriving DecidableEq, Repr

/-- A fleet and a band a request may use, with the caps that apply to it. -/
structure CandidateOption where
  fleet : FleetId
  band : Band
  constraints : RegulatoryConstraints := {}
  deriving DecidableEq, Repr

/-- What scoring says of a request: its rank, its price and its chance of delivery. -/
structure RequestScore where
  score : ℚ
  estimatedCostUnits : ℚ
  deliveryProbability : ℚ
  deriving DecidableEq, Repr

/-- A request with its score. -/
structure ScoredRequest where
  request : ServiceRequest
  scoring : RequestScore
  deriving DecidableEq, Repr

/-- A scored request with its legal options, as schedulers receive it. -/
structure ScheduleCandidate where
  request : ServiceRequest
  options : List CandidateOption
  scoring : RequestScore
  degradable : Bool := false
  deriving DecidableEq, Repr

/-- A grant: to whom, on which beam, how much, and whether it is degraded. Only the beam's
identifier is recorded, not its position. -/
structure Allocation where
  requestId : String
  fleet : FleetId
  beamId : String
  band : Band
  allocatedUnits : ℚ
  deliveryProbability : ℚ
  degraded : Bool := false
  deriving DecidableEq, Repr

/-- The units a list of allocations takes from the beams with one identifier. Beams that share
it are not told apart. -/
def unitsOn (beamId : String) (allocations : List Allocation) : ℚ :=
  ((allocations.filter (fun allocation => decide (allocation.beamId = beamId))).map
    Allocation.allocatedUnits).sum

/-- A request that was turned away, with the reason. -/
structure RejectedRequest where
  request : ServiceRequest
  reason : RejectReason
  deriving DecidableEq, Repr

/-- The two sides of an admission decision. -/
structure AdmissionResult where
  admitted : List ScoredRequest := []
  rejected : List RejectedRequest := []
  deriving DecidableEq, Repr

/-- What a scheduler returns: grants, where each candidate went, and two indicators of the step.
The defaults are those of a step without a scheduler. -/
structure SchedulingResult where
  allocations : List Allocation := []
  served : List ServiceRequest := []
  deferred : List ServiceRequest := []
  dropped : List RejectedRequest := []
  fairnessIndex : ℚ := 1
  utilization : ℚ := 0
  deriving DecidableEq, Repr

/-- Offered load, capacity and queue in one step, with the drop rate of the step before. -/
structure CongestionState where
  step : ℤ
  queueDepth : ℤ
  offeredLoadUnits : ℚ
  availableCapacityUnits : ℚ
  dropRate : ℚ := 0
  deriving DecidableEq, Repr

namespace CongestionState

/-- Offered load over capacity; infinite when load meets no capacity at all. Without load it is
zero even then. -/
def utilization (state : CongestionState) : WithTop ℚ :=
  if state.availableCapacityUnits ≤ 0 then
    if 0 < state.offeredLoadUnits then ⊤ else ((0 : ℚ) : WithTop ℚ)
  else ((state.offeredLoadUnits / state.availableCapacityUnits : ℚ) : WithTop ℚ)

/-- The queue relative to the capacity, at most one. Capacities below one count as one. -/
def queuePressure (state : CongestionState) : ℚ :=
  if state.queueDepth ≤ 0 then 0
  else min 1 (state.queueDepth / max 1 state.availableCapacityUnits)

/-- The amount by which utilization exceeds one, infinite when utilization is. -/
def excess (state : CongestionState) : WithTop ℚ :=
  match state.utilization with
  | ⊤ => ⊤
  | (utilization : ℚ) => ((max 0 (utilization - 1) : ℚ) : WithTop ℚ)

/-- `min 1` of a possibly infinite quantity is finite. -/
def atMostOne : WithTop ℚ → ℚ
  | ⊤ => 1
  | (value : ℚ) => min 1 value

/-- Half the excess, half the drop rate and half the queue pressure, at most one. Each part
alone can account for half at most, as long as the drop rate is a rate. -/
def collapseRisk (state : CongestionState) : ℚ :=
  min 1 (1 / 2 * atMostOne state.excess + 1 / 2 * state.dropRate + 1 / 2 * state.queuePressure)

end CongestionState

/-- A request of one unit over a perfect link, for runs on fixed inputs. -/
def smallRequest (requestId : String) (trafficClass : TrafficClass) (deadlineStep : ℤ) :
    ServiceRequest where
  requestId := requestId
  trafficClass := trafficClass
  region := .na
  sizeBytes := 4096
  linkQuality := 1
  urgency := 1 / 2
  arrivalStep := 0
  deadlineStep := deadlineStep

/-- One satellite with one beam of ten units, for runs on fixed inputs. -/
def oneBeam : ConstellationSnapshot where
  step := 0
  satellites := [⟨"s", .legacyLeo, [⟨"b", .legacyLeo, "s", .na, .ku, 10⟩]⟩]

end Satsim
