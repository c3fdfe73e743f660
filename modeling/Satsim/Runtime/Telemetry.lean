import Satsim.Runtime.Conservation

/-!
# The telemetry ledger

The counters of a step are assembled from lists that the lane, admission, the law, the
scheduler and the retry queue produce. Since each stage splits what it is given, the
counters reconcile: with what entered the step, with each other, and over a run with the
summary the run returns.

Every equation is between numbers a reader can see, but for two that the counters do not
tell: how many requests entered a step, and how many of them the lane dropped by itself.
-/

namespace Satsim

open Library

/-- Aggregate outcome of a completed run, summed across steps. -/
structure RunSummary where
  steps : ℕ := 0
  served : ℕ := 0
  deferred : ℕ := 0
  dropped : ℕ := 0
  rejected : ℕ := 0
  retryBacklog : ℕ := 0
  fallbackActivations : ℕ := 0
  circuitBreakerTrips : ℕ := 0
  servedByClass : Dict TrafficClass ℕ := Dict.empty
  deriving DecidableEq

namespace RunSummary

/-- One pass of the loop over the steps: each figure grows by that of the step, and the classes
by key. -/
def add (summary : RunSummary) (counters : StepCounters) : RunSummary :=
  { summary with
    steps := summary.steps + 1
    served := summary.served + counters.served
    deferred := summary.deferred + counters.deferred
    dropped := summary.dropped + counters.dropped
    rejected := summary.rejected + counters.rejected
    fallbackActivations := summary.fallbackActivations + counters.fallbackActivations
    circuitBreakerTrips := summary.circuitBreakerTrips + counters.circuitBreakerTrips
    servedByClass := counters.servedByClass.entries.foldl
      (fun dict entry => dict.bump entry.1 entry.2) summary.servedByClass }

end RunSummary

namespace ControlLoop

variable {σ π φ ο : Type} (loop : ControlLoop σ π φ ο)

/-- The summary of some steps and of the state they lead to, whose queue is the backlog. -/
def summarize (final : LoopState σ π φ ο) (traces : List StepTrace) : RunSummary :=
  { (traces.map StepTrace.counters).foldl RunSummary.add {} with
    retryBacklog := final.retryQueue.length }

/-- `ControlLoop.run`: the whole simulation, from its first step. It returns the state as well,
which the source keeps in the loop. -/
def runSummary (state : LoopState σ π φ ο) : Option (LoopState σ π φ ο × RunSummary) := do
  let (final, traces) ← loop.run 0 loop.config.durationSteps.toNat state
  pure (final, summarize final traces)

end ControlLoop

/-- A tally of single occurrences totals the occurrences of the selected keys. -/
theorem countOne_total {κ : Type} [DecidableEq κ] (selected : κ → Bool) (keys : List κ) :
    (((ControlLoop.countOne keys).entries.filter (fun entry => selected entry.1)).map
      Prod.snd).sum = keys.countP selected := by
  rw [ControlLoop.countOne, Dict.sum_tally, List.filter_map, List.map_map]
  simp [Function.comp_def, List.countP_eq_length_filter]

/-- A tally of single occurrences totals the number of keys. -/
theorem countOne_sum {κ : Type} [DecidableEq κ] (keys : List κ) :
    (ControlLoop.countOne keys).values.sum = keys.length := by
  have total := countOne_total (fun _ => true) keys
  rw [List.filter_true] at total
  simpa [Dict.values] using total

/-- A tally of single occurrences counts each key, so a breakdown may be read as a count over
the list. -/
theorem countOne_getD {κ : Type} [DecidableEq κ] (keys : List κ) (key : κ) :
    (ControlLoop.countOne keys).getD key 0 = keys.count key := by
  rw [ControlLoop.countOne, Dict.getD_tally, Dict.sumUnder, List.filter_map, List.map_map]
  simp [Function.comp_def, List.count_eq_countP, List.countP_eq_length_filter, beq_eq_decide]

/-- A key that does not occur has no entry, rather than an entry of zero. -/
theorem countOne_none {κ : Type} [DecidableEq κ] (keys : List κ) (key : κ) (absent : key ∉ keys) :
    (ControlLoop.countOne keys).get? key = none := by
  rw [← Option.not_isSome_iff_eq_none, ControlLoop.countOne, Dict.tally_isSome]
  simpa [Function.comp_def] using absent

namespace ControlLoop

variable {σ π φ ο : Type} (loop : ControlLoop σ π φ ο)

variable {t : ℤ} {state next : LoopState σ π φ ο} {trace : StepTrace}

/-- Each served request has one allocation, in the lane as in the scheduler. -/
theorem Stepped.allocations_length (stepped : loop.Stepped t state next trace)
    (contracted : loop.Contracted) : trace.allocations.length = trace.served.length := by
  have lane := (EmergencyLane.reserve_lawful loop.config.emergency loop.regulatory
    loop.config.scoring ((trace.scored.map ScoredRequest.request).filter isUrgent)
    trace.snapshot trace.plan t).length_eq
  rw [← stepped.decision] at lane
  have scheduled : trace.result.served.length = trace.result.allocations.length := by
    by_cases safe : trace.mode = .safe
    · simp [stepped.safe_result loop safe]
    · exact (stepped.settles loop contracted safe).lawful.length_eq
  simp only [StepTrace.allocations, StepTrace.served, List.length_append]
  omega

/-- The stages of a step split what they are given, so their lengths add up. Every equation
between counters comes from one of these. -/
theorem Stepped.lengths (stepped : loop.Stepped t state next trace) (contracted : loop.Contracted)
    (distinct : (trace.arrivals.map ServiceRequest.requestId).Nodup) :
    trace.decision.admitted.length + trace.emergencyDrops.length + trace.bestEffort.length =
        trace.arrivals.length ∧
      trace.admitted.admitted.length + trace.admitted.rejected.length = trace.bestEffort.length ∧
      trace.candidates.length + trace.noLegal.length = trace.admitted.admitted.length ∧
      trace.result.served.length + trace.result.deferred.length + trace.result.dropped.length =
        trace.candidates.length ∧
      trace.requeued.length + trace.requeueDrops.length = trace.result.deferred.length := by
  have lane := (stepped.lane_partition loop distinct).length_eq
  obtain ⟨controller, admitted⟩ := stepped.admitted
  have flipped := (controller.admitScored_partition trace.bestEffort trace.congestion t).1.length_eq
  rw [← admitted] at flipped
  have lawful := (loop.buildCandidates_partition trace.admitted.admitted).length_eq
  rw [← stepped.candidates] at lawful
  have settled := (stepped.result_partition loop contracted).length_eq
  have requeued := (loop.handleDeferred_partition t trace.result.deferred trace.held
    state.rng).length_eq
  rw [stepped.deferred] at requeued
  simp only [List.length_append, List.length_map] at lane flipped lawful settled requeued
  exact ⟨lane, flipped, lawful, settled, requeued⟩

/-- A deferred request is dropped for its spent retries or for want of room, in this order of
asking. -/
theorem handleDeferred_reasons (t : ℤ) (deferred : List ServiceRequest) (queue : List RetryEntry)
    (rng : Rng) (item : RejectedRequest)
    (member : item ∈ (loop.handleDeferred t deferred queue rng).2.1) :
    item.reason = .retryBudgetExhausted ∨ item.reason = .noCapacity := by
  induction deferred generalizing queue rng with
  | nil => simp [handleDeferred] at member
  | cons request rest inductionHypothesis =>
    rcases loop.handleDeferred_cons t request rest queue rng with
      ⟨reason, why, stands⟩ | ⟨entry, after, _, _, _, stands⟩
    · rw [stands] at member
      rcases List.mem_cons.mp member with rfl | later
      · exact why.imp And.right (fun full => full.2.2)
      · exact inductionHypothesis queue rng later
    · rw [stands] at member
      exact inductionHypothesis _ _ member

/-- Why each request is dropped or rejected: the scheduler and the lane drop for deadlines
and spent retries, the queue for spent retries and want of room, admission rejects to
shed, and the law for want of an option. -/
theorem Stepped.reasons (stepped : loop.Stepped t state next trace) (contracted : loop.Contracted) :
    (∀ item ∈ trace.emergencyDrops,
        item.reason = .deadlineMissed ∨ item.reason = .retryBudgetExhausted) ∧
      (∀ item ∈ trace.dropped, item.reason = .deadlineMissed ∨
        item.reason = .retryBudgetExhausted ∨ item.reason = .noCapacity) ∧
      (∀ item ∈ trace.admitted.rejected, item.reason = .admissionShed) ∧
      ∀ item ∈ trace.noLegal, item.reason = .noLegalOption := by
  have lane : ∀ item ∈ trace.emergencyDrops,
      item.reason = .deadlineMissed ∨ item.reason = .retryBudgetExhausted := by
    intro item member
    obtain ⟨listed, kept⟩ := List.mem_filter.mp member
    rw [stepped.decision] at listed
    cases EmergencyLane.reserve_shed _ _ _ _ _ _ _ item listed with
    | inl full =>
      simp [StepTrace.spills, full] at kept
    | inr verdict =>
      exact (EmergencyLane.screen_deadline _ _ _ _ verdict).imp And.left And.left
  refine ⟨lane, ?_, ?_, ?_⟩
  · intro item member
    cases List.mem_append.mp member with
    | inl early =>
      cases List.mem_append.mp early with
      | inl scheduled =>
        have operating : trace.mode ≠ .safe := by
          intro safe
          simp [stepped.safe_result loop safe] at scheduled
        exact Or.inl ((stepped.settles loop contracted operating).late item scheduled).1
      | inr shed =>
        exact (lane item shed).imp_right Or.inl
    | inr requeued =>
      have dropped : item ∈
          (loop.handleDeferred t trace.result.deferred trace.held state.rng).2.1 := by
        rw [stepped.deferred]
        exact requeued
      exact Or.inr (loop.handleDeferred_reasons _ _ _ _ item dropped)
  · intro item member
    obtain ⟨controller, admitted⟩ := stepped.admitted
    rw [admitted] at member
    exact (controller.admitScored_partition _ _ _).2.2 item member
  · intro item member
    have built := congrArg Prod.snd stepped.candidates
    rw [show trace.noLegal = _ from built] at member
    obtain ⟨_, _, rfl⟩ := List.mem_map.mp member
    rfl

/-- The counters of a step reconcile with what entered it and with each other, given the number
of the lane's own drops. Each field is one equation that a reader of the telemetry may check. -/
structure Reconciled (counters : StepCounters) (ingested laneDrops : ℕ) : Prop where
  ingested : ingested = counters.served + counters.deferred + counters.dropped + counters.rejected
  byClass : counters.servedByClass.values.sum = counters.served
  byRegion : counters.servedByRegion.values.sum = counters.served
  byFleet : counters.servedByFleet.values.sum = counters.served
  waits : counters.servedWaitSteps.length = counters.served
  byReason : counters.rejectedByReason.values.sum = counters.dropped + counters.rejected
  spilled : counters.rejectedByReason.get? .emergencyLaneFull = none
  degraded : counters.degraded ≤ counters.served
  lane : laneDrops ≤ counters.dropped
  admitted : counters.admitted = counters.served + counters.deferred +
    (counters.dropped - laneDrops) + counters.rejectedByReason.getD .noLegalOption 0

/-- Every step with distinct arrivals reconciles, whatever mode it is in. The counters are
lengths of lists, and the stages split these lists. -/
theorem Stepped.reconciled (stepped : loop.Stepped t state next trace)
    (contracted : loop.Contracted)
    (distinct : (trace.arrivals.map ServiceRequest.requestId).Nodup) :
    Reconciled trace.counters trace.arrivals.length trace.emergencyDrops.length := by
  obtain ⟨entered, flipped, lawful, settled, requeued⟩ :=
    stepped.lengths loop contracted distinct
  obtain ⟨_, drops, shed, lawless⟩ := stepped.reasons loop contracted
  have each := stepped.allocations_length loop contracted
  have served : trace.served.length =
      trace.decision.admitted.length + trace.result.served.length := List.length_append
  have dropped : trace.dropped.length = trace.result.dropped.length +
      trace.emergencyDrops.length + trace.requeueDrops.length := by
    simp [StepTrace.dropped, Nat.add_assoc]
  have rejected : trace.rejected.length =
      trace.admitted.rejected.length + trace.noLegal.length := List.length_append
  have lawlessCount : ((trace.dropped ++ trace.rejected).map RejectedRequest.reason).count
      .noLegalOption = trace.noLegal.length := by
    have none : ((trace.dropped ++ trace.admitted.rejected).map RejectedRequest.reason).count
        .noLegalOption = 0 := by
      rw [List.count_eq_zero]
      intro member
      obtain ⟨item, listed, reason⟩ := List.mem_map.mp member
      cases List.mem_append.mp listed with
      | inl dropped =>
        simpa [reason] using drops item dropped
      | inr refused =>
        simpa [reason] using shed item refused
    have all : (trace.noLegal.map RejectedRequest.reason).count .noLegalOption =
        (trace.noLegal.map RejectedRequest.reason).length := by
      rw [List.count_eq_length]
      intro reason member
      obtain ⟨item, listed, rfl⟩ := List.mem_map.mp member
      exact (lawless item listed).symm
    rw [StepTrace.rejected, ← List.append_assoc, List.map_append, List.count_append, none, all,
      List.length_map, zero_add]
  rw [stepped.counters]
  constructor
  · simp only [buildCounters]
    omega
  · simp only [buildCounters, countOne_sum, List.length_map]
  · simp only [buildCounters, countOne_sum, List.length_map]
  · simp only [buildCounters, countOne_sum, List.length_map, each]
  · simp only [buildCounters, List.length_map]
  · simp only [buildCounters, countOne_sum, List.length_map, List.length_append]
  · apply countOne_none
    intro member
    obtain ⟨item, listed, reason⟩ := List.mem_map.mp member
    cases List.mem_append.mp listed with
    | inl dropped =>
      simpa [reason] using drops item dropped
    | inr refused =>
      cases List.mem_append.mp refused with
      | inl flip =>
        simpa [reason] using shed item flip
      | inr law =>
        simpa [reason] using lawless item law
  · exact (List.length_filter_le _ _).trans each.le
  · simp only [buildCounters]
    omega
  · simp only [buildCounters, countOne_getD, lawlessCount]
    omega

/-- In a run over requests with distinct ids every step's counters reconcile. Distinct arrivals
follow from distinct polls by the ledger. -/
theorem run_reconciled (contracted : loop.Contracted) (start : ℤ) (count : ℕ)
    (initial final : LoopState σ π φ ο) (vacant : initial.retryQueue = []) (traces : List StepTrace)
    (completed : loop.run start count initial = some (final, traces))
    (distinct : ((traces.flatMap StepTrace.polled).map ServiceRequest.requestId).Nodup)
    (trace : StepTrace) (member : trace ∈ traces) :
    Reconciled trace.counters trace.arrivals.length trace.emergencyDrops.length := by
  obtain ⟨_, _, stepped⟩ := loop.run_stepped start count initial final traces completed trace member
  exact stepped.reconciled loop contracted
    (loop.run_arrivals_distinct contracted start count initial final vacant traces completed
      distinct trace member)

end ControlLoop

/-- Adding the counters of several steps adds each figure up, to whatever was there before. -/
theorem RunSummary.foldl_add (steps : List StepCounters) (summary : RunSummary) :
    (steps.foldl RunSummary.add summary).steps = summary.steps + steps.length ∧
      (steps.foldl RunSummary.add summary).served =
        summary.served + (steps.map StepCounters.served).sum ∧
      (steps.foldl RunSummary.add summary).deferred =
        summary.deferred + (steps.map StepCounters.deferred).sum ∧
      (steps.foldl RunSummary.add summary).dropped =
        summary.dropped + (steps.map StepCounters.dropped).sum ∧
      (steps.foldl RunSummary.add summary).rejected =
        summary.rejected + (steps.map StepCounters.rejected).sum ∧
      (steps.foldl RunSummary.add summary).fallbackActivations =
        summary.fallbackActivations + (steps.map StepCounters.fallbackActivations).sum ∧
      (steps.foldl RunSummary.add summary).circuitBreakerTrips =
        summary.circuitBreakerTrips + (steps.map StepCounters.circuitBreakerTrips).sum ∧
      ∀ trafficClass, (steps.foldl RunSummary.add summary).servedByClass.getD trafficClass 0 =
        summary.servedByClass.getD trafficClass 0 +
          (steps.map (fun counters => counters.servedByClass.getD trafficClass 0)).sum := by
  induction steps generalizing summary with
  | nil => simp
  | cons counters rest inductionHypothesis =>
    obtain ⟨steps, served, deferred, dropped, rejected, fallbacks, trips, classes⟩ :=
      inductionHypothesis (summary.add counters)
    simp only [List.foldl_cons, List.map_cons, List.sum_cons, List.length_cons, steps, served,
      deferred, dropped, rejected, fallbacks, trips, classes]
    simp only [RunSummary.add, Dict.getD_foldl_bump, Dict.sumUnder_entries]
    refine ⟨by omega, by omega, by omega, by omega, by omega, by omega, by omega, ?_⟩
    intro trafficClass
    omega

namespace ControlLoop

/-- The telemetry ledger reconciles. In every run over requests with distinct ids, with any
in-repo schedulers and any faults, the counters of each step account for every request
polled or retried in it, every breakdown adds up to what it breaks down, and the
admitted requests are those served, deferred, dropped after admission or without a legal
option. The summary of the run is the sum of its steps. -/
theorem telemetry_reconciles {σ ο : Type} (loop : ControlLoop σ Rng Rng ο)
    (primary fallback : InRepoScheduler) (primaryFaults fallbackFaults : ℤ → Option Rng)
    (start : ℤ) (count : ℕ) (source : σ) (optimizer : ο)
    (schedulerRng fallbackRng admissionRng rng : Rng) (final : LoopState σ Rng Rng ο)
    (traces : List StepTrace)
    (completed : (loop.equipped primary fallback primaryFaults fallbackFaults).run start count
      ((loop.equipped primary fallback primaryFaults fallbackFaults).initial source schedulerRng
        fallbackRng optimizer admissionRng rng) = some (final, traces))
    (distinct : ((traces.flatMap StepTrace.polled).map ServiceRequest.requestId).Nodup) :
    (∀ trace ∈ traces,
      Reconciled trace.counters (trace.polled.length + trace.released.length)
          trace.emergencyDrops.length ∧
        ∀ item ∈ trace.emergencyDrops,
          item.reason = .deadlineMissed ∨ item.reason = .retryBudgetExhausted) ∧
      (summarize final traces).steps = traces.length ∧
      (summarize final traces).served = (traces.map (fun trace => trace.counters.served)).sum ∧
      (summarize final traces).deferred = (traces.map (fun trace => trace.counters.deferred)).sum ∧
      (summarize final traces).dropped = (traces.map (fun trace => trace.counters.dropped)).sum ∧
      (summarize final traces).rejected = (traces.map (fun trace => trace.counters.rejected)).sum ∧
      (summarize final traces).fallbackActivations =
        (traces.map (fun trace => trace.counters.fallbackActivations)).sum ∧
      (summarize final traces).circuitBreakerTrips =
        (traces.map (fun trace => trace.counters.circuitBreakerTrips)).sum ∧
      (∀ trafficClass, (summarize final traces).servedByClass.getD trafficClass 0 =
        (traces.map (fun trace => trace.counters.servedByClass.getD trafficClass 0)).sum) ∧
      (summarize final traces).retryBacklog = final.retryQueue.length := by
  have contracted := loop.equipped_contracted primary fallback primaryFaults fallbackFaults
  constructor
  · intro trace member
    have reconciled := run_reconciled _ contracted start count _ final rfl traces completed
      distinct trace member
    obtain ⟨_, _, stepped⟩ := run_stepped _ start count _ final traces completed trace member
    rw [StepTrace.arrivals, List.length_append] at reconciled
    exact ⟨reconciled, (stepped.reasons _ contracted).1⟩
  · simpa [summarize, Function.comp_def, Dict.getD] using
      RunSummary.foldl_add (traces.map StepTrace.counters) {}

/-- The faulty run serves two requests in three steps, one of them after it was deferred. -/
theorem telemetry_reconciles_faulty :
    faultyRun.2.map (fun trace => trace.counters.served) = [1, 1, 0] ∧
      (summarize faultyRun.1 faultyRun.2).served =
        (faultyRun.2.map (fun trace => trace.counters.served)).sum :=
  ⟨by decide +kernel, (telemetry_reconciles smallLoop (.heuristic (1 / 4)) (.heuristic (1 / 4))
    firstStepFault firstStepFault 0 3 _ () evenRng evenRng evenRng evenRng faultyRun.1 faultyRun.2
    (Option.some_get faultyRun_returns).symm (by decide +kernel)).2.2.1⟩

end ControlLoop

end Satsim
