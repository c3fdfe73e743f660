import Satsim.Runtime.Telemetry

/-!
# Reading a run: the capacity slack summary

The summary is computed from the recorded counters alone, so it knows a drop only by the
reason the loop recorded for it. Its waste figure counts the drops for want of capacity
and for missed deadlines in steps with spare capacity. A request that the scheduler could
not place and that has no retries left is recorded under a third reason, which is how the
figure comes to miss it.

The account below is exact: what the figure counts and what it misses add up to what was
turned away. The condition under which it bounds the waste is read off this equation.
-/

namespace Satsim

open Library

/-- `_SPARE_UTILIZATION`: below it a step counts as having spare capacity. -/
def spareUtilization : ℚ := 9 / 10

/-- `_BY_DESIGN_REASONS`: shed by the value policy, or without a legal option. -/
def isByDesign (reason : RejectReason) : Bool :=
  decide (reason ∈ [RejectReason.admissionShed, .noLegalOption])

/-- `_SCARCITY_REASONS`. An exhausted retry budget is in neither of the two sets. -/
def isScarcity (reason : RejectReason) : Bool :=
  decide (reason ∈ [RejectReason.noCapacity, .deadlineMissed])

/-- Offered load over schedulable capacity, for each step; zero where nothing could be
scheduled. -/
def demandPressureSeries (steps : List StepCounters) : List ℚ :=
  steps.map (fun counters =>
    if 0 < counters.availableCapacityUnits then
      counters.offeredLoadUnits / counters.availableCapacityUnits
    else 0)

/-- How many rejections of a step were recorded under the selected reasons. -/
def reasonTotal (selected : RejectReason → Bool) (counters : StepCounters) : ℕ :=
  ((counters.rejectedByReason.entries.filter (fun entry => selected entry.1)).map Prod.snd).sum

/-- Whether a step has spare capacity, by its reported utilization. -/
def isSpare (counters : StepCounters) : Bool := decide (counters.utilization < spareUtilization)

/-- The summary, by the source's three keys. -/
structure CapacitySlackSummary where
  meanDemandPressure : ℚ
  byDesignRejectFrac : ℚ
  scarcityWhileIdle : ℚ
  deriving DecidableEq

/-- The source adds up all three in one loop over the steps; here each is a sum of its own. -/
def capacitySlackSummary (steps : List StepCounters) : CapacitySlackSummary :=
  let pressures := demandPressureSeries steps
  let byDesign := (steps.map (reasonTotal isByDesign)).sum
  let totalRejected := (steps.map (reasonTotal (fun _ => true))).sum
  let scarcityWhileIdle := ((steps.filter isSpare).map
    (reasonTotal (fun reason => !isByDesign reason && isScarcity reason))).sum
  { meanDemandPressure := if pressures = [] then 0 else pressures.sum / pressures.length
    byDesignRejectFrac := if totalRejected = 0 then 0 else byDesign / totalRejected
    scarcityWhileIdle := scarcityWhileIdle }

/-- The requests a step drops because their deadline has passed, or because the scheduler
could not place them and they were not put back, whatever reason is recorded. -/
def StepTrace.turnedAway (trace : StepTrace) : List ServiceRequest :=
  ((trace.result.dropped ++ trace.emergencyDrops).map RejectedRequest.request).filter
      (fun request => request.isExpired trace.step) ++
    trace.requeueDrops.map RejectedRequest.request

/-- The waste figure counts no reason that is by design, so the order in which the source asks
does not matter. -/
theorem wasted_iff (reason : RejectReason) :
    (!isByDesign reason && isScarcity reason) = isScarcity reason := by
  cases reason <;> rfl

namespace ControlLoop

variable {σ π φ ο : Type} (loop : ControlLoop σ π φ ο)

/-- Of the requests that are not put back, those recorded for scarcity and those without retries
left make up the whole. The full queue is recorded as want of capacity. -/
theorem handleDeferred_scarcity (t : ℤ) (deferred : List ServiceRequest) (queue : List RetryEntry)
    (rng : Rng) :
    (loop.handleDeferred t deferred queue rng).2.1.countP (fun item => isScarcity item.reason) +
        deferred.countP (fun request => !loop.withinBudget request) =
      (loop.handleDeferred t deferred queue rng).2.1.length := by
  induction deferred generalizing queue rng with
  | nil => rfl
  | cons request rest inductionHypothesis =>
    have spent : isScarcity .retryBudgetExhausted = false := rfl
    have full : isScarcity .noCapacity = true := rfl
    rcases loop.handleDeferred_cons t request rest queue rng with
      ⟨reason, ⟨outside, rfl⟩ | ⟨inside, _, rfl⟩, stands⟩ | ⟨entry, after, inside, _, _, stands⟩
    · have later := inductionHypothesis queue rng
      simp only [stands, List.countP_cons, List.length_cons, outside, spent, Bool.not_false,
        Bool.false_eq_true, ↓reduceIte]
      omega
    · have later := inductionHypothesis queue rng
      simp only [stands, List.countP_cons, List.length_cons, inside, full, Bool.not_true,
        Bool.false_eq_true, ↓reduceIte]
      omega
    · simpa [stands, List.countP_cons, inside] using inductionHypothesis _ _

variable {t : ℤ} {state next : LoopState σ π φ ο} {trace : StepTrace}

/-- The reasons a step records are those of its drops and rejections. -/
theorem Stepped.reasonTotal_counters (stepped : loop.Stepped t state next trace)
    (selected : RejectReason → Bool) :
    reasonTotal selected trace.counters =
      (trace.dropped ++ trace.rejected).countP (fun item => selected item.reason) := by
  rw [stepped.counters]
  simp only [reasonTotal, buildCounters]
  rw [countOne_total, List.countP_map]
  rfl

/-- Admission and the law reject for their own reasons, neither of which is scarcity. So only
drops can be counted as waste. -/
theorem Stepped.rejected_deliberate (stepped : loop.Stepped t state next trace) :
    trace.rejected.countP (fun item => isScarcity item.reason) = 0 := by
  rw [List.countP_eq_zero]
  intro item member
  cases List.mem_append.mp member with
  | inl shed =>
    obtain ⟨controller, admitted⟩ := stepped.admitted
    rw [admitted] at shed
    simp [(controller.admitScored_partition _ _ _).2.2 item shed, isScarcity]
  | inr lawless =>
    have built := congrArg Prod.snd stepped.candidates
    rw [show trace.noLegal = _ from built] at lawless
    obtain ⟨_, _, rfl⟩ := List.mem_map.mp lawless
    simp [isScarcity]

/-- The lane and the scheduler record scarcity for the requests whose deadline has
passed, and for no others. -/
theorem Stepped.expired_scarcity (stepped : loop.Stepped t state next trace)
    (contracted : loop.Contracted) (item : RejectedRequest)
    (member : item ∈ trace.result.dropped ++ trace.emergencyDrops) :
    isScarcity item.reason = item.request.isExpired trace.step := by
  rw [stepped.step]
  cases List.mem_append.mp member with
  | inl scheduled =>
    have operating : trace.mode ≠ .safe := by
      intro safe
      simp [stepped.safe_result loop safe] at scheduled
    obtain ⟨reason, late⟩ := (stepped.settles loop contracted operating).late item scheduled
    rw [reason, (item.request.isExpired_iff t).mpr late]
    rfl
  | inr shed =>
    obtain ⟨listed, kept⟩ := List.mem_filter.mp shed
    rw [stepped.decision] at listed
    cases EmergencyLane.reserve_shed _ _ _ _ _ _ _ item listed with
    | inl full =>
      simp [StepTrace.spills, full] at kept
    | inr verdict =>
      rcases EmergencyLane.screen_deadline _ _ _ _ verdict with ⟨reason, late⟩ | ⟨reason, timely⟩
      · rw [reason, late]
        rfl
      · rw [reason, timely]
        rfl

/-- What a step turns away is what it records for scarcity, and the deferred requests
that have no retries left. -/
theorem Stepped.turnedAway_length (stepped : loop.Stepped t state next trace)
    (contracted : loop.Contracted) :
    reasonTotal (fun reason => !isByDesign reason && isScarcity reason) trace.counters +
        trace.result.deferred.countP (fun request => !loop.withinBudget request) =
      trace.turnedAway.length := by
  have expired : (trace.result.dropped ++ trace.emergencyDrops).countP
      (fun item => isScarcity item.reason) =
        (trace.result.dropped ++ trace.emergencyDrops).countP
          (fun item => item.request.isExpired trace.step) :=
    List.countP_congr (fun item member => by
      rw [stepped.expired_scarcity loop contracted item member])
  have unplaced := loop.handleDeferred_scarcity t trace.result.deferred trace.held state.rng
  rw [stepped.deferred] at unplaced
  have deliberate := stepped.rejected_deliberate
  rw [stepped.reasonTotal_counters]
  simp only [wasted_iff, StepTrace.dropped, StepTrace.turnedAway, List.countP_append,
    List.length_append, List.length_map, List.filter_map, Function.comp_def,
    ← List.countP_eq_length_filter] at *
  omega

/-- Over a run, the waste figure and the deferred requests without retries left, both in
steps with spare capacity, add up to the requests turned away in these steps. -/
theorem run_wasted (contracted : loop.Contracted) (start : ℤ) (count : ℕ)
    (initial final : LoopState σ π φ ο) (traces : List StepTrace)
    (completed : loop.run start count initial = some (final, traces)) :
    (capacitySlackSummary (traces.map StepTrace.counters)).scarcityWhileIdle +
        (((traces.filter (fun trace => isSpare trace.counters)).flatMap
          (fun trace => trace.result.deferred)).countP
            (fun request => !loop.withinBudget request) : ℕ) =
      (((traces.filter (fun trace => isSpare trace.counters)).flatMap
        StepTrace.turnedAway).length : ℕ) := by
  have each : ∀ trace ∈ traces.filter (fun trace => isSpare trace.counters),
      reasonTotal (fun reason => !isByDesign reason && isScarcity reason) trace.counters +
        trace.result.deferred.countP (fun request => !loop.withinBudget request) =
          trace.turnedAway.length := by
    intro trace member
    obtain ⟨state, next, stepped⟩ := loop.run_stepped start count initial final traces completed
      trace (List.mem_filter.mp member).1
    exact stepped.turnedAway_length loop contracted
  have total := congrArg List.sum (List.map_congr_left each)
  rw [List.sum_map_add] at total
  simp only [capacitySlackSummary, List.filter_map, List.map_map, Function.comp_def,
    List.countP_flatMap, List.length_flatMap]
  exact_mod_cast total

/-- In every run the waste figure is at least the number of requests turned away in steps
of utilization below nine tenths, if and only if in these steps no request the scheduler
defers has used up its retries. -/
theorem waste_bound_iff (loop : ControlLoop σ Rng Rng ο) (primary fallback : InRepoScheduler)
    (primaryFaults fallbackFaults : ℤ → Option Rng) (start : ℤ) (count : ℕ) (source : σ)
    (optimizer : ο) (schedulerRng fallbackRng admissionRng rng : Rng)
    (final : LoopState σ Rng Rng ο) (traces : List StepTrace)
    (completed : (loop.equipped primary fallback primaryFaults fallbackFaults).run start count
      ((loop.equipped primary fallback primaryFaults fallbackFaults).initial source schedulerRng
        fallbackRng optimizer admissionRng rng) = some (final, traces)) :
    (((traces.filter (fun trace => isSpare trace.counters)).flatMap
        StepTrace.turnedAway).length : ℚ) ≤
      (capacitySlackSummary (traces.map StepTrace.counters)).scarcityWhileIdle ↔
    ∀ trace ∈ traces, isSpare trace.counters → ∀ request ∈ trace.result.deferred,
      request.retryCount < loop.retryBudget request.trafficClass := by
  have wasted := run_wasted _ (loop.equipped_contracted primary fallback primaryFaults
    fallbackFaults) start count _ final traces completed
  rw [← wasted, add_le_iff_nonpos_right, Nat.cast_nonpos, List.countP_eq_zero]
  have budget (request : ServiceRequest) : (loop.equipped primary fallback primaryFaults
      fallbackFaults).withinBudget request =
        decide (request.retryCount < loop.retryBudget request.trafficClass) := rfl
  constructor
  · intro unspent trace member spare request deferred
    have inside := unspent request (List.mem_flatMap.mpr
      ⟨trace, List.mem_filter.mpr ⟨member, spare⟩, deferred⟩)
    simpa [budget] using inside
  · intro within request deferred
    obtain ⟨trace, kept, listed⟩ := List.mem_flatMap.mp deferred
    obtain ⟨member, spare⟩ := List.mem_filter.mp kept
    simpa [budget] using within trace member spare request listed

/-- Only the first step of the faulty run defers anything, within its budget. -/
theorem waste_bound_faulty :
    (((faultyRun.2.filter (fun trace => isSpare trace.counters)).flatMap
        StepTrace.turnedAway).length : ℚ) ≤
      (capacitySlackSummary (faultyRun.2.map StepTrace.counters)).scarcityWhileIdle :=
  (waste_bound_iff smallLoop (.heuristic (1 / 4)) (.heuristic (1 / 4)) firstStepFault firstStepFault
    0 3 _ () evenRng evenRng evenRng evenRng _ _ (Option.some_get faultyRun_returns).symm).mpr
      (by decide +kernel)

/-- A loop without faults, under the greedy scheduler. -/
def steadyLoop : ControlLoop (List (List ServiceRequest)) Rng Rng Unit :=
  smallLoop.equipped (.heuristic (1 / 4)) (.heuristic (1 / 4)) (fun _ => none) (fun _ => none)

/-- The start of a steady run over one photo that is larger than the beam. -/
def steadyStart : LoopState (List (List ServiceRequest)) Rng Rng Unit :=
  steadyLoop.initial [[{ smallRequest "a" .photo 5 with sizeBytes := 45056 }]] evenRng evenRng ()
    evenRng evenRng

/-- The four steps of the run return, which evaluation finds. -/
theorem steadyRun_returns : (steadyLoop.run 0 4 steadyStart).isSome = true := by decide +kernel

/-- The photo is deferred until its retries are used up and then dropped, on an idle beam
and ahead of its deadline; the waste figure stays at nothing. -/
theorem waste_escapes : ∃ final traces, steadyLoop.run 0 4 steadyStart = some (final, traces) ∧
    (capacitySlackSummary (traces.map StepTrace.counters)).scarcityWhileIdle <
      (((traces.filter (fun trace => isSpare trace.counters)).flatMap
        StepTrace.turnedAway).length : ℚ) :=
  ⟨_, _, (Option.some_get steadyRun_returns).symm, by decide +kernel⟩

end ControlLoop

end Satsim
