import Satsim.Admission.Controller
import Satsim.Admission.EmergencyLane
import Satsim.Library.Runs
import Satsim.Resilience
import Satsim.Runtime.Snapshots
import Satsim.Scheduling.Contract

/-!
# The Tier-1 control loop

One step gathers the constellation, replans on its cadence, ingests arrivals and
retries, runs the lane and admission, filters by law, schedules with a fallback and a
safe mode, requeues what was deferred, and records counters. A step returns the next
state with a trace of every intermediate value, in the order they are computed; the
counters are a part of it. A source or a scheduler that does not return stops the run.

Left out is what has no influence on later steps: the telemetry events, the console and
the sink, which receives the counters as they are returned here. Exceptions of a
scheduler are replies, and exceptions of a client are lookups that raised.
-/

namespace Satsim

open Library

/-- A deferred request and the earliest step it may be retried. The request carries the retry it
is about to make. -/
structure RetryEntry where
  request : ServiceRequest
  eligibleStep : ℤ
  deriving DecidableEq, Repr

/-- The parts a loop is wired from; the lane, the controller and the scorer are built from the
configuration. The type parameters are the states of the source, of the two schedulers and of
the planner. -/
structure ControlLoop (σ π φ ο : Type) where
  config : SimulationConfig
  requestSource : RequestSource σ
  constellations : List ConstellationClient
  regulatory : RegulatoryPolicy
  scheduler : ResourceScheduler π
  fallbackScheduler : ResourceScheduler φ
  optimizer : Optimizer ο

/-- What the loop carries from step to step: the states of its parts, the breakers, the plan in
force, the retry queue, the bounded histories and the last drop rate. The source mutates these
fields in place. -/
structure LoopState (σ π φ ο : Type) where
  source : σ
  scheduler : π
  fallback : φ
  optimizer : ο
  admission : AdmissionController
  rng : Rng
  breakers : Dict FleetId CircuitBreaker
  plan : ResourcePlan
  retryQueue : List RetryEntry
  recentCongestion : List CongestionState
  recentCounters : List StepCounters
  recentDemand : List (Dict (Region × TrafficClass) ℚ)
  lastDropRate : ℚ

/-- What happened to one client's lookup in a step: not attempted, answered, or raised, with the
breaker's report on whether that newly tripped it. -/
inductive LookupOutcome where
  | heldOpen
  | answered (snapshot : ConstellationSnapshot)
  | raised (tripped : Bool)
  deriving DecidableEq

/-- One client of the list, and what came of asking it. -/
structure Lookup where
  client : ConstellationClient
  outcome : LookupOutcome

/-- The snapshot of an answered lookup. The others contribute nothing to the merged one. -/
def Lookup.snapshot? (lookup : Lookup) : Option ConstellationSnapshot :=
  match lookup.outcome with
  | .answered snapshot => some snapshot
  | _ => none

/-- Whether the lookup newly tripped its breaker, which is what the counters count. -/
def Lookup.tripped (lookup : Lookup) : Bool :=
  match lookup.outcome with
  | .raised tripped => tripped
  | _ => false

/-- Every intermediate value of one step, in the order they are computed. The source returns the
counters alone; the rest is recorded here so that invariants can speak of it. `held` and
`released` are the two parts of the retry queue, `remaining` is the snapshot less the
reservations, and `requeued` is what is put back. -/
structure StepTrace where
  step : ℤ
  lookups : List Lookup
  snapshot : ConstellationSnapshot
  plan : ResourcePlan
  held : List RetryEntry
  polled : List ServiceRequest
  released : List ServiceRequest
  scored : List ScoredRequest
  decision : EmergencyDecision
  remaining : ConstellationSnapshot
  bestEffort : List ScoredRequest
  congestion : CongestionState
  admitted : AdmissionResult
  candidates : List ScheduleCandidate
  noLegal : List RejectedRequest
  result : SchedulingResult
  mode : DegradeMode
  requeued : List RetryEntry
  requeueDrops : List RejectedRequest
  counters : StepCounters

namespace StepTrace

variable (trace : StepTrace)

/-- The requests that enter the step: new arrivals and released retries. -/
def arrivals : List ServiceRequest := trace.polled ++ trace.released

/-- Served in this step, by the lane and then by the scheduler. -/
def served : List ServiceRequest := trace.decision.admitted ++ trace.result.served

/-- The reservations of the lane, then the grants of the scheduler. They stand in the order of
the served requests. -/
def allocations : List Allocation := trace.decision.reservations ++ trace.result.allocations

/-- Whether a shed request may still be served by Tier 1. Only a full lane lets a request spill;
the other reasons drop it. -/
def spills (item : RejectedRequest) : Bool := decide (item.reason = .emergencyLaneFull)

/-- What the lane sheds for good. -/
def emergencyDrops : List RejectedRequest :=
  trace.decision.shed.filter (fun item => !spills item)

/-- The three places where a request is dropped: by the scheduler, by the lane and on the way
back to the queue. -/
def dropped : List RejectedRequest :=
  trace.result.dropped ++ trace.emergencyDrops ++ trace.requeueDrops

/-- What admission turns away, and what has no legal option. -/
def rejected : List RejectedRequest := trace.admitted.rejected ++ trace.noLegal

end StepTrace

namespace ControlLoop

variable {σ π φ ο : Type} (loop : ControlLoop σ π φ ο)

/-- A closed breaker with the configured threshold and cooldown. -/
def freshBreaker : CircuitBreaker :=
  { failureThreshold := loop.config.overload.breakerFailureThreshold
    cooldownSteps := loop.config.overload.breakerCooldownSteps }

/-- Clients of one fleet share a breaker, since breakers are kept by fleet. -/
def initialBreakers : Dict FleetId CircuitBreaker :=
  Dict.ofPairs (loop.constellations.map (fun client => (client.fleetId, loop.freshBreaker)))

/-- The state a run starts from: empty queue and histories, closed breakers, the pass-through
plan in force and with the controller. The generators are handed in as the composition root
derives them. -/
def initial (source : σ) (scheduler : π) (fallback : φ) (optimizer : ο)
    (admissionRng rng : Rng) : LoopState σ π φ ο where
  source := source
  scheduler := scheduler
  fallback := fallback
  optimizer := optimizer
  admission := { rng := admissionRng, plan := ResourcePlan.passthrough 0 1 }
  rng := rng
  breakers := loop.initialBreakers
  plan := ResourcePlan.passthrough 0 1
  retryQueue := []
  recentCongestion := []
  recentCounters := []
  recentDemand := []
  lastDropRate := 0

/-- Look up each client in turn, unless its fleet's breaker holds it open. The breakers are
threaded through, so the second client of a fleet meets the breaker as the first has left it. -/
def gather (step : ℤ) : List ConstellationClient → Dict FleetId CircuitBreaker →
    List Lookup × Dict FleetId CircuitBreaker
  | [], breakers => ([], breakers)
  | client :: rest, breakers =>
      let breaker := breakers.getD client.fleetId loop.freshBreaker
      if breaker.allow step = false then
        let (lookups, breakers) := gather step rest breakers
        (⟨client, .heldOpen⟩ :: lookups, breakers)
      else
        match client.visibleResources step with
        | some snapshot =>
            let (lookups, breakers) :=
              gather step rest (breakers.set client.fleetId breaker.recordSuccess)
            (⟨client, .answered snapshot⟩ :: lookups, breakers)
        | none =>
            let (tripped, breaker) := breaker.recordFailure step
            let (lookups, breakers) := gather step rest (breakers.set client.fleetId breaker)
            (⟨client, .raised tripped⟩ :: lookups, breakers)

/-- Recent demand by region and class, over the whole history and not by step. -/
def aggregateDemandByRegion (recentDemand : List (Dict (Region × TrafficClass) ℚ)) :
    Dict (Region × TrafficClass) ℚ :=
  Dict.tally (recentDemand.flatMap Dict.entries)

/-- On the cadence, plan from the recent past and broadcast the plan to admission. The window
shows the snapshot of this step and the histories up to the step before. -/
def maybeReplan (step : ℤ) (snapshot : ConstellationSnapshot) (state : LoopState σ π φ ο) :
    LoopState σ π φ ο :=
  if step % loop.config.optimizer.cadenceSteps ≠ 0 then state
  else
    let byRegion := aggregateDemandByRegion state.recentDemand
    let byClass := Dict.tally (byRegion.entries.map (fun entry => (entry.1.2, entry.2)))
    let (plan, optimizer) := loop.optimizer.plan state.optimizer
      { step := step
        snapshot := snapshot
        recentCongestion := state.recentCongestion
        recentDemandUnits := byClass
        recentDemandByRegion := byRegion
        recentCounters := state.recentCounters }
    { state with plan := plan
                 optimizer := optimizer
                 admission := state.admission.updatePolicy plan }

/-- Whether the backoff of an entry has elapsed. -/
def due (step : ℤ) (entry : RetryEntry) : Bool := decide (entry.eligibleStep ≤ step)

/-- A request with its score under the plan in force. -/
def score (plan : ResourcePlan) (step : ℤ) (request : ServiceRequest) : ScoredRequest :=
  ⟨request, evaluateScore loop.config.scoring request step plan⟩

/-- Whether the request is for the lane. -/
def isUrgent (request : ServiceRequest) : Bool := decide (request.trafficClass ∈ urgentClasses)

/-- Best-effort load: what is not urgent, and what spilled out of the lane, by id. So an urgent
request that shares the id of a spilled one is offered to admission as well. -/
def bestEffortOf (scored : List ScoredRequest) (decision : EmergencyDecision) :
    List ScoredRequest :=
  let spilloverIds :=
    (decision.shed.filter StepTrace.spills).map (fun item => item.request.requestId)
  scored.filter (fun item =>
    !isUrgent item.request || decide (item.request.requestId ∈ spilloverIds))

/-- The congestion that admission sees: retries and backlog, the load offered, the capacity the
lane has left, and the drop rate of the step before. -/
def congestionOf (step queueDepth : ℤ) (bestEffort : List ScoredRequest)
    (remaining : ConstellationSnapshot) (lastDropRate : ℚ) : CongestionState :=
  { step := step
    queueDepth := queueDepth
    offeredLoadUnits := (bestEffort.map (fun item => item.scoring.estimatedCostUnits)).sum
    availableCapacityUnits := remaining.totalCapacity
    dropRate := lastDropRate }

/-- Whether a class may be degraded; one outside the mix may not. -/
def isDegradable (trafficClass : TrafficClass) : Bool :=
  (loop.config.profile? trafficClass).elim false ClassProfile.degradable

/-- A candidate keeps the score it was admitted with. -/
def candidateOf (item : ScoredRequest) : ScheduleCandidate :=
  { request := item.request
    options := loop.regulatory.allowedOptions item.request
    scoring := item.scoring
    degradable := loop.isDegradable item.request.trafficClass }

/-- An admitted request without a legal option is rejected; the others are candidates. -/
def lawless (item : ScoredRequest) : Bool :=
  decide (loop.regulatory.allowedOptions item.request = [])

/-- The candidates, and the rejections for want of a legal option, both in order. -/
def buildCandidates (admitted : List ScoredRequest) :
    List ScheduleCandidate × List RejectedRequest :=
  ((admitted.filter (fun item => !loop.lawless item)).map loop.candidateOf,
    (admitted.filter loop.lawless).map (fun item => ⟨item.request, .noLegalOption⟩))

/-- The result of a scheduling stage, the mode it was reached in, and the states left. -/
structure Scheduled (π φ : Type) where
  result : SchedulingResult
  mode : DegradeMode
  primary : π
  fallback : φ

/-- The primary scheduler, then the fallback, then safe mode, which defers everything. A call
that does not return is none of these and ends the run. -/
def runScheduler (candidates : List ScheduleCandidate) (snapshot : ConstellationSnapshot)
    (step : ℤ) (primary : π) (fallback : φ) : Option (Scheduled π φ) := do
  let (reply, primary) ← loop.scheduler.schedule primary candidates snapshot step
  match reply with
  | .returned result => pure ⟨result, .normal, primary, fallback⟩
  | .raised =>
      let (reply, fallback) ← loop.fallbackScheduler.schedule fallback candidates snapshot step
      match reply with
      | .returned result => pure ⟨result, .fallback, primary, fallback⟩
      | .raised =>
          pure ⟨{ deferred := candidates.map ScheduleCandidate.request }, .safe, primary, fallback⟩

/-- The degrade modes in which a fallback was activated. -/
def fallbackActivations : DegradeMode → ℕ
  | .normal => 0
  | .fallback => 1
  | .safe => 1

/-- The retries a class is allowed; one outside the mix has none. -/
def retryBudget (trafficClass : TrafficClass) : ℤ :=
  (loop.config.profile? trafficClass).elim 0 ClassProfile.retryBudget

/-- Exponential backoff, capped, with jitter drawn when the base is positive. The cap is on the
exponential and not on the sum. -/
def backoffSteps (retryCount : ℤ) (rng : Rng) : ℤ × Rng :=
  let base := loop.config.overload.retryBackoffBaseSteps
  let backoff := min loop.config.overload.retryBackoffMaxSteps (base * 2 ^ retryCount.toNat)
  if positive : 0 < base then
    let (jitter, rng) := rng.randint 0 base positive.le
    (backoff + jitter, rng)
  else (backoff + 0, rng)

/-- The entry a deferred request is put back with. -/
def requeue (step : ℤ) (request : ServiceRequest) (delay : ℤ) : RetryEntry :=
  { request := { request with retryCount := request.retryCount + 1 }
    eligibleStep := step + delay }

/-- Requeue each deferred request within its budget while the queue has room, and drop the
others; `queue` is the queue as it stands when the request's turn comes. A request is not asked
whether its deadline has passed. -/
def handleDeferred (step : ℤ) : List ServiceRequest → List RetryEntry → Rng →
    List RetryEntry × List RejectedRequest × Rng
  | [], _, rng => ([], [], rng)
  | request :: rest, queue, rng =>
      if loop.retryBudget request.trafficClass ≤ request.retryCount then
        let (requeued, drops, rng) := handleDeferred step rest queue rng
        (requeued, ⟨request, .retryBudgetExhausted⟩ :: drops, rng)
      else if loop.config.overload.queueCapacity ≤ queue.length then
        let (requeued, drops, rng) := handleDeferred step rest queue rng
        (requeued, ⟨request, .noCapacity⟩ :: drops, rng)
      else
        let (delay, rng) := loop.backoffSteps request.retryCount rng
        let entry := requeue step request delay
        let (requeued, drops, rng) := handleDeferred step rest (queue ++ [entry]) rng
        (entry :: requeued, drops, rng)

/-- How often each key occurs, keyed in the order of first occurrence. -/
def countOne {κ : Type} [DecidableEq κ] (keys : List κ) : Dict κ ℕ :=
  Dict.tally (keys.map (fun key => (key, 1)))

/-- `_build_counters`: the step's lists as counts, with the waits of the served requests and the
quotients that are reported. The capacity is that of the merged snapshot, before the lane has
taken its part. -/
def buildCounters (step : ℤ) (congestion : CongestionState) (snapshot : ConstellationSnapshot)
    (served : List ServiceRequest) (allocations : List Allocation) (deferredCount : ℕ)
    (dropped rejected : List RejectedRequest) (admittedCount : ℕ) (fairnessIndex : ℚ)
    (degradeMode : DegradeMode) (circuitBreakerTrips : ℕ) : StepCounters :=
  { step := step
    admitted := admittedCount
    rejected := rejected.length
    served := served.length
    deferred := deferredCount
    dropped := dropped.length
    degraded := (allocations.filter Allocation.degraded).length
    servedByClass := countOne (served.map ServiceRequest.trafficClass)
    servedByRegion := countOne (served.map ServiceRequest.region)
    servedByFleet := countOne (allocations.map Allocation.fleet)
    rejectedByReason := countOne ((dropped ++ rejected).map RejectedRequest.reason)
    servedWaitSteps := served.map (fun request => max 0 (step - request.arrivalStep))
    fairnessIndex := fairnessIndex
    utilization := reportedUtilization (allocations.map Allocation.allocatedUnits).sum
      snapshot.totalCapacity
    collapseRisk := congestion.collapseRisk
    queueDepth := congestion.queueDepth
    offeredLoadUnits := congestion.offeredLoadUnits
    availableCapacityUnits := congestion.availableCapacityUnits
    degradeMode := degradeMode
    fallbackActivations := fallbackActivations degradeMode
    circuitBreakerTrips := circuitBreakerTrips }

/-- Append to a bounded history, which forgets its oldest items. -/
def remember {α : Type} (history : List α) (item : α) : List α :=
  (history ++ [item]).drop (history.length + 1 - loop.config.overload.historyCapacity.toNat)

/-- Dropped among all that was decided in the step; requests put off are not among them. -/
def dropRate (counters : StepCounters) : ℚ :=
  let handled := counters.served + counters.dropped + counters.rejected
  if 0 < handled then counters.dropped / handled else 0

/-- The airtime cost of what was scored, by region and class. Offered demand counts a retry
again. -/
def demandOf (scored : List ScoredRequest) : Dict (Region × TrafficClass) ℚ :=
  Dict.tally (scored.map (fun item =>
    ((item.request.region, item.request.trafficClass), item.scoring.estimatedCostUnits)))

/-- One time step, stage by stage in the order of the source. A stage that does not return ends
it. -/
def step (step : ℤ) (state : LoopState σ π φ ο) : Option (LoopState σ π φ ο × StepTrace) := do
  let (lookups, breakers) := loop.gather step loop.constellations state.breakers
  let snapshot := mergeSnapshots step (lookups.filterMap Lookup.snapshot?)
  let state := loop.maybeReplan step snapshot { state with breakers := breakers }
  let released := (state.retryQueue.filter (due step)).map RetryEntry.request
  let held := state.retryQueue.filter (fun entry => !due step entry)
  let (polled, source) ←
    loop.requestSource.poll state.source step loop.config.arrival.maxBatchPerStep
  let scored := (polled ++ released).map (loop.score state.plan step)
  let urgent := (scored.map ScoredRequest.request).filter isUrgent
  let decision := EmergencyLane.reserve loop.config.emergency loop.regulatory loop.config.scoring
    urgent snapshot state.plan step
  let remaining := subtractReservations snapshot decision.reservations
  let bestEffort := bestEffortOf scored decision
  let backlog := max 0 (loop.requestSource.backlog source)
  let congestion := congestionOf step (held.length + backlog) bestEffort remaining
    state.lastDropRate
  let (admitted, admission) := state.admission.admitScored bestEffort congestion step
  let (candidates, noLegal) := loop.buildCandidates admitted.admitted
  let scheduled ← loop.runScheduler candidates remaining step state.scheduler state.fallback
  let (requeued, requeueDrops, rng) :=
    loop.handleDeferred step scheduled.result.deferred held state.rng
  let served := decision.admitted ++ scheduled.result.served
  let allocations := decision.reservations ++ scheduled.result.allocations
  let emergencyDrops := decision.shed.filter (fun item => !StepTrace.spills item)
  let dropped := scheduled.result.dropped ++ emergencyDrops ++ requeueDrops
  let rejected := admitted.rejected ++ noLegal
  let counters := buildCounters step congestion snapshot served allocations requeued.length dropped
    rejected (admitted.admitted.length + decision.admitted.length) scheduled.result.fairnessIndex
    scheduled.mode (lookups.filter Lookup.tripped).length
  pure ({ state with source := source
                     scheduler := scheduled.primary
                     fallback := scheduled.fallback
                     admission := admission
                     rng := rng
                     retryQueue := held ++ requeued
                     recentCongestion := loop.remember state.recentCongestion congestion
                     recentCounters := loop.remember state.recentCounters counters
                     recentDemand := loop.remember state.recentDemand (demandOf scored)
                     lastDropRate := dropRate counters },
    { step := step, lookups := lookups, snapshot := snapshot, plan := state.plan, held := held,
      polled := polled, released := released, scored := scored, decision := decision,
      remaining := remaining, bestEffort := bestEffort, congestion := congestion,
      admitted := admitted, candidates := candidates, noLegal := noLegal,
      result := scheduled.result, mode := scheduled.mode, requeued := requeued,
      requeueDrops := requeueDrops, counters := counters })

/-- Consecutive steps from a starting step, with the trace of each. -/
def run (start : ℤ) (count : ℕ) (state : LoopState σ π φ ο) :
    Option (LoopState σ π φ ο × List StepTrace) :=
  Runs.run (fun index state => loop.step (start + index) state) count state

end ControlLoop

end Satsim
