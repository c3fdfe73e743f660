import Satsim.Ingest.Sampled
import Satsim.Runtime.Feedback
import Satsim.Runtime.Retry
import Satsim.Runtime.Throughput
import Satsim.Scheduling.FairnessIndex

/-!
# What the indicators of a step report

A fairness index, a utilization and a collapse risk are recorded in every step, each meant as
a share of one. The index measures service for candidates that are told apart by their ids
and have positive costs, and a utilization counts from zero for grants that do. Neither is
checked anywhere. Both follow from where the requests come from: the generator samples
positive sizes under ids that never repeat, and a retry changes neither.

The ranges hold in exact arithmetic. A reader of the telemetry may take them as given,
and they are not given by the types: a source that published empty requests, or repeated
an id, would break the measure of fairness.
-/

namespace Satsim

open Library

/-- Jain's index lies in the unit interval, whatever the values: a nonpositive sum gives zero,
and otherwise the squares bound it. -/
theorem jainIndex_range (values : List ℚ) : 0 ≤ jainIndex values ∧ jainIndex values ≤ 1 := by
  unfold jainIndex
  split
  · exact ⟨zero_le_one, le_refl 1⟩
  split
  · exact ⟨le_refl 0, zero_le_one⟩
  · rename_i positive
    have total : 0 < values.sum := not_le.mp positive
    have squared : 0 < values.sum * values.sum := mul_pos total total
    have bound := Jain.sum_mul_sum_le values
    have divisor := squared.trans_le bound
    exact ⟨div_nonneg squared.le divisor.le, (div_le_one divisor).mpr bound⟩

/-- The reported utilization is cut at one, and counts from zero when what is allocated does. -/
theorem reportedUtilization_range (allocated totalCapacity : ℚ) (nonneg : 0 ≤ allocated) :
    0 ≤ reportedUtilization allocated totalCapacity ∧
      reportedUtilization allocated totalCapacity ≤ 1 := by
  refine ⟨le_min zero_le_one ?_, min_le_left _ _⟩
  split
  · rename_i capacity
    exact div_nonneg nonneg capacity.le
  · exact le_refl 0

/-- The lane grants each request its cost, which is positive when its size is. It never
degrades. -/
theorem EmergencyLane.reserve_positive (config : EmergencyConfig) (regulatory : RegulatoryPolicy)
    (scoring : ScoringConfig) (urgent : List ServiceRequest) (snapshot : ConstellationSnapshot)
    (plan : ResourcePlan) (step : ℤ) (sized : ∀ request ∈ urgent, 0 < request.sizeBytes) :
    ∀ allocation ∈ (reserve config regulatory scoring urgent snapshot plan step).reservations,
      0 < allocation.allocatedUnits := by
  intro allocation member
  obtain ⟨pair, placed, rfl⟩ := List.mem_map.mp member
  have ranked : pair.1 ∈ rank config urgent step := Greedy.placed_mem _ _ _ _ pair placed
  have granted : pair.2.allocatedUnits = cost scoring pair.1 := by
    refine (Greedy.run_invariant (fun _ => false) _ (fun _ => True)
      (fun request allocation => allocation.allocatedUnits = cost scoring request) ?_ _ _
      trivial).2 pair placed
    intro state request allocation next _ _ served
    obtain ⟨_, _, placed, _⟩ := admitOne_inv config regulatory scoring _ state next request
      allocation served
    obtain ⟨_, _, _, _, rfl⟩ := place_inv regulatory request _ _ _ _ placed
    exact ⟨trivial, rfl⟩
  rw [granted]
  exact cost_pos scoring pair.1 (sized pair.1 ((mem_rank config urgent step pair.1).mp ranked).1)

/-- The indicators of a step, each a share of one. None of the three bounds is checked by the
source. -/
structure StepCounters.InRange (counters : StepCounters) : Prop where
  fairness : 0 ≤ counters.fairnessIndex ∧ counters.fairnessIndex ≤ 1
  utilization : 0 ≤ counters.utilization ∧ counters.utilization ≤ 1
  collapse : 0 ≤ counters.collapseRisk ∧ counters.collapseRisk ≤ 1

namespace ControlLoop

section Step

variable {σ π φ ο : Type} {t : ℤ} {trace : StepTrace}

/-- A candidate is scored under the plan of its step, and keeps the score through admission. -/
theorem Stepped.candidate_scored (loop : ControlLoop σ π φ ο) {state next : LoopState σ π φ ο}
    (stepped : loop.Stepped t state next trace) (candidate : ScheduleCandidate)
    (member : candidate ∈ trace.candidates) :
    candidate.scoring = evaluateScore loop.config.scoring candidate.request t trace.plan := by
  obtain ⟨item, scored, rfl⟩ := stepped.candidate_item loop candidate member
  rw [stepped.scored] at scored
  obtain ⟨request, _, rfl⟩ := List.mem_map.mp scored
  rfl

/-- Candidates of positive size have positive costs. -/
theorem Stepped.costs_pos (loop : ControlLoop σ π φ ο) {state next : LoopState σ π φ ο}
    (stepped : loop.Stepped t state next trace)
    (sized : ∀ request ∈ trace.arrivals, 0 < request.sizeBytes) :
    ∀ candidate ∈ trace.candidates, 0 < candidate.scoring.estimatedCostUnits := by
  intro candidate member
  have arrived := (stepped.candidate_arrived loop candidate member).1
  rw [stepped.candidate_scored loop candidate member]
  exact EmergencyLane.cost_pos loop.config.scoring candidate.request
    (sized candidate.request arrived)

variable (loop : ControlLoop σ Rng Rng ο) (primary fallback : InRepoScheduler)
  (primaryFaults fallbackFaults : ℤ → Option Rng) {state next : LoopState σ Rng Rng ο}
  (stepped : (loop.equipped primary fallback primaryFaults fallbackFaults).Stepped t state next
    trace)
include stepped

/-- Outside safe mode the result is what one of the two schedulers returned. -/
theorem Stepped.result_returned (operating : trace.mode ≠ .safe) :
    ∃ (scheduler : InRepoScheduler) (rng final : Rng),
      scheduler.schedule rng trace.candidates trace.remaining t = some (trace.result, final) := by
  rcases runScheduler_inv _ _ _ _ _ _ _ stepped.scheduled with
    ⟨_, called⟩ | ⟨_, _, called⟩ | ⟨safe, _⟩
  · exact ⟨primary, _, _, primary.port_returned _ _ _ _ _ _
      (ResourceScheduler.withFaults_returned _ _ _ _ _ _ _ _ called).2⟩
  · exact ⟨fallback, _, _, fallback.port_returned _ _ _ _ _ _
      (ResourceScheduler.withFaults_returned _ _ _ _ _ _ _ _ called).2⟩
  · exact absurd safe operating

variable (sized : ∀ request ∈ trace.arrivals, 0 < request.sizeBytes)
include sized

/-- The scheduling stage grants positive units, and outside safe mode it reports their index. In
safe mode the index is the default one. -/
theorem Stepped.result_reported :
    (trace.mode ≠ .safe → trace.result.fairnessIndex =
        fairnessOf trace.candidates trace.result.allocations) ∧
      ∀ allocation ∈ trace.result.allocations, 0 < allocation.allocatedUnits := by
  by_cases safe : trace.mode = .safe
  · exact ⟨fun operating => absurd safe operating, by simp [stepped.safe_result _ safe]⟩
  · obtain ⟨scheduler, rng, final, returned⟩ :=
      stepped.result_returned loop primary fallback primaryFaults fallbackFaults safe
    obtain ⟨reported, positive⟩ := scheduler.schedule_reports rng final _ _ t trace.result returned
      (stepped.costs_pos _ sized)
    exact ⟨fun _ => reported, positive⟩

/-- Outside safe mode the index measures the service of the candidates. -/
theorem Stepped.measures (distinct : (trace.arrivals.map ServiceRequest.requestId).Nodup)
    (operating : trace.mode ≠ .safe) (offered : trace.candidates ≠ []) :
    MeasuresService trace.candidates trace.result := by
  have settled := stepped.settles _
    (loop.equipped_contracted primary fallback primaryFaults fallbackFaults) operating
  obtain ⟨reported, positive⟩ :=
    stepped.result_reported loop primary fallback primaryFaults fallbackFaults sized
  have ids : (trace.candidates.map fun candidate => candidate.request.requestId).Nodup := by
    have part := subperm_map ServiceRequest.requestId _ _ (stepped.candidates_subperm _)
    rw [List.map_map] at part
    exact subperm_nodup _ _ part distinct
  exact settled.measuresService ids offered (reported operating) positive

/-- Both tiers grant positive units. -/
theorem Stepped.grants_positive :
    ∀ allocation ∈ trace.allocations, 0 < allocation.allocatedUnits := by
  rw [StepTrace.allocations, List.forall_mem_append]
  constructor
  · rw [stepped.decision]
    apply EmergencyLane.reserve_positive
    intro request urgent
    rw [stepped.scored_requests] at urgent
    exact sized request (List.mem_filter.mp urgent).1
  · exact (stepped.result_reported loop primary fallback primaryFaults fallbackFaults sized).2

/-- The indicators of a step are in range: the index always, the utilization for positive
grants, and the risk for a drop rate that counts from zero. -/
theorem Stepped.inRange (dropped : 0 ≤ trace.congestion.dropRate) :
    trace.counters.InRange := by
  obtain ⟨reported, _⟩ :=
    stepped.result_reported loop primary fallback primaryFaults fallbackFaults sized
  rw [stepped.counters]
  constructor
  · by_cases safe : trace.mode = .safe
    · -- Safe mode leaves the index at its default, one.
      simp [buildCounters, stepped.safe_result _ safe]
    · simp only [buildCounters, reported safe]
      exact jainIndex_range _
  · refine reportedUtilization_range _ _ (List.sum_nonneg ?_)
    intro units member
    obtain ⟨allocation, granted, rfl⟩ := List.mem_map.mp member
    exact (stepped.grants_positive loop primary fallback primaryFaults fallbackFaults sized
      allocation granted).le
  · exact ⟨trace.congestion.collapseRisk_nonneg dropped, min_le_left _ _⟩

end Step

section Run

variable {π φ ο : Type} (loop : ControlLoop SyntheticRequestSource π φ ο)

/-- In a run over the synthetic source every arrival is as it was sampled, however often it was
put back, since being put back changes the retry count alone. -/
theorem run_sampled (deferring : loop.Deferring) (config : SimulationConfig) (math : Rng.MathExp)
    (fuel : ℕ) (sourced : loop.requestSource = SyntheticRequestSource.port config math fuel)
    (start : ℤ) (count : ℕ) (initial final : LoopState SyntheticRequestSource π φ ο)
    (stocked : initial.source.Stocked config) (vacant : initial.retryQueue = [])
    (traces : List StepTrace) (completed : loop.run start count initial = some (final, traces)) :
    ∀ trace ∈ traces, ∀ request ∈ trace.arrivals, config.Samples request := by
  refine (loop.run_invariant start (fun _ traces state => state.source.Stocked config ∧
      (∀ entry ∈ state.retryQueue, config.Samples entry.request) ∧
        ∀ trace ∈ traces, ∀ request ∈ trace.arrivals, config.Samples request)
    initial ⟨stocked, by simp [vacant], by simp⟩ ?_ count final traces completed).2.2
  rintro count traces state next trace ⟨filled, queued, earlier⟩ stepped
  have called := stepped.polled
  rw [sourced] at called
  obtain ⟨polled, refilled⟩ := SyntheticRequestSource.port_stocked config math fuel state.source
    next.source _ _ trace.polled filled called
  have arrived : ∀ request ∈ trace.arrivals, config.Samples request := by
    rw [StepTrace.arrivals, List.forall_mem_append]
    refine ⟨polled, fun request released => ?_⟩
    obtain ⟨entry, waiting, _, rfl⟩ := (stepped.mem_released loop request).mp released
    exact queued entry waiting
  refine ⟨refilled, ?_, ?_⟩
  · rw [stepped.queue, List.forall_mem_append]
    constructor
    · exact fun entry held => queued entry ((stepped.mem_held loop entry).mp held).1
    · intro entry requeued
      obtain ⟨request, entered, _, _, _, rfl⟩ :=
        stepped.requeued_arrived loop deferring entry requeued
      exact (arrived request entered).retried (request.retryCount + 1)
  · rw [List.forall_mem_append]
    exact ⟨earlier, by simpa using arrived⟩

/-- Every step of a run is congested by a drop rate that counts from zero. -/
theorem run_dropRate_nonneg {σ : Type} (loop : ControlLoop σ π φ ο) (start : ℤ) (count : ℕ)
    (initial final : LoopState σ π φ ο) (undropped : 0 ≤ initial.lastDropRate)
    (traces : List StepTrace) (completed : loop.run start count initial = some (final, traces)) :
    ∀ trace ∈ traces, 0 ≤ trace.congestion.dropRate := by
  refine (Runs.run_invariant _ (fun _ traces (state : LoopState σ π φ ο) =>
      0 ≤ state.lastDropRate ∧ ∀ trace ∈ traces, 0 ≤ trace.congestion.dropRate)
    initial ⟨undropped, by simp⟩ ?_ count final traces completed).2
  rintro count traces state next trace ⟨dropped, earlier⟩ stepped
  constructor
  · rw [(loop.step_remembered _ state next trace stepped).lastDropRate]
    exact dropRate_nonneg _
  · rw [List.forall_mem_append]
    refine ⟨earlier, ?_⟩
    simpa [loop.step_congestion _ state next trace stepped] using dropped

/-- In a run whose arrivals have positive sizes every indicator recorded is a share of one,
whichever schedulers raise. -/
theorem run_inRange {σ ο : Type} (loop : ControlLoop σ Rng Rng ο)
    (primary fallback : InRepoScheduler) (primaryFaults fallbackFaults : ℤ → Option Rng)
    (start : ℤ) (count : ℕ) (initial final : LoopState σ Rng Rng ο)
    (undropped : 0 ≤ initial.lastDropRate) (traces : List StepTrace)
    (completed : (loop.equipped primary fallback primaryFaults fallbackFaults).run start count
      initial = some (final, traces))
    (sized : ∀ trace ∈ traces, ∀ request ∈ trace.arrivals, 0 < request.sizeBytes) :
    ∀ trace ∈ traces, trace.counters.InRange := by
  intro trace member
  have dropped := run_dropRate_nonneg _ start count _ final undropped traces completed trace member
  obtain ⟨state, next, stepped⟩ := run_stepped _ start count _ final traces completed trace member
  exact stepped.inRange _ primary fallback primaryFaults fallbackFaults (sized trace member) dropped

end Run

/-- The indicators of a simulation are shares of one, and its fairness index measures service.
Whatever is configured, whatever the streams and the planner, and whichever of the two schedulers
raise when: in every step each arrival is as the generator sampled it, the index measures the
service of the candidates unless the step is in safe mode or has none, and the three indicators
recorded lie in the unit interval. -/
theorem simulation_indicators {ο : Type} (config : SimulationConfig) (math : Rng.MathExp)
    (fuel : ℕ) (optimizer : Optimizer ο) (primary fallback : InRepoScheduler)
    (primaryFaults fallbackFaults : ℤ → Option Rng) (start : ℤ) (count : ℕ) (planner : ο)
    (demandRng schedulerRng fallbackRng admissionRng rng : Rng)
    (final : LoopState SyntheticRequestSource Rng Rng ο) (traces : List StepTrace)
    (completed : ((buildSimulation config math fuel optimizer).equipped primary fallback
      primaryFaults fallbackFaults).run start count
        (((buildSimulation config math fuel optimizer).equipped primary fallback primaryFaults
          fallbackFaults).initial (SyntheticRequestSource.initial demandRng) schedulerRng
            fallbackRng planner admissionRng rng) = some (final, traces))
    (trace : StepTrace) (member : trace ∈ traces) :
    (∀ request ∈ trace.arrivals, config.Samples request) ∧
      (trace.mode ≠ .safe → trace.candidates ≠ [] →
        MeasuresService trace.candidates trace.result) ∧ trace.counters.InRange := by
  have contracted := (buildSimulation config math fuel optimizer).equipped_contracted primary
    fallback primaryFaults fallbackFaults
  have sampled := run_sampled _ (contracted.deferring _) config math fuel rfl start count _ final
    (SyntheticRequestSource.initial_stocked config demandRng) rfl traces completed
  have sized : ∀ trace ∈ traces, ∀ request ∈ trace.arrivals, 0 < request.sizeBytes :=
    fun trace member request arrived => (sampled trace member request arrived).size_pos
  obtain ⟨ids, _⟩ := run_polled _ config math fuel rfl start count demandRng _ final rfl traces
    completed
  have distinct := run_arrivals_distinct _ contracted start count _ final rfl traces completed ids
    trace member
  obtain ⟨state, next, stepped⟩ := run_stepped _ start count _ final traces completed trace member
  refine ⟨sampled trace member, ?_, ?_⟩
  · exact stepped.measures _ primary fallback primaryFaults fallbackFaults (sized trace member)
      distinct
  · exact run_inRange _ primary fallback primaryFaults fallbackFaults start count _ final
      (le_refl 0) traces completed sized trace member

/-- The third photo meets no capacity at all, which alone makes for half of the collapse risk. -/
theorem simulation_indicators_fault :
    let traces := ((faultLoop.run 0 3 faultStart).get faultRun_returns).2
    traces.map (fun trace => trace.counters.collapseRisk) = [0, 0, 1 / 2] ∧
      ∀ trace ∈ traces, trace.counters.InRange := by
  constructor
  · decide +kernel
  · intro trace member
    exact (simulation_indicators faultConfig Rng.coarseExp 0 smallLoop.optimizer
      (.heuristic (1 / 4)) (.heuristic (1 / 4)) (fun _ => none) (fun _ => none) 0 3 () evenRng
      evenRng evenRng evenRng evenRng _ _ (Option.some_get faultRun_returns).symm trace member).2.2

end ControlLoop

end Satsim
