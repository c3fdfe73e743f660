import Satsim.Runtime.Loop

/-!
# What one step does

`step_inv` is the only place that opens the step: it says how each recorded value is
computed from the state and from the values recorded before it. The specifications of
the stages follow, one for each; every invariant over runs is derived from these.

Nothing is assumed of the schedulers, the source or the planner here. The equations hold
of every step that returns, and what a contract adds is added in the modules on wiring
and conservation.
-/

namespace Satsim

open Library

namespace ControlLoop

variable {σ π φ ο : Type} (loop : ControlLoop σ π φ ο)

/-- The relation between a state, the state after a step and the step's trace. Each field is the
equation of one recorded value, or of one part of the next state, so later proofs pick the
equations they need and never unfold the step. -/
structure Stepped (t : ℤ) (state next : LoopState σ π φ ο) (trace : StepTrace) : Prop where
  step : trace.step = t
  lookups : trace.lookups = (loop.gather t loop.constellations state.breakers).1
  snapshot : trace.snapshot = mergeSnapshots t (trace.lookups.filterMap Lookup.snapshot?)
  held : trace.held = state.retryQueue.filter (fun entry => !due t entry)
  released : trace.released = (state.retryQueue.filter (due t)).map RetryEntry.request
  polled : loop.requestSource.poll state.source t loop.config.arrival.maxBatchPerStep =
    some (trace.polled, next.source)
  scored : trace.scored = (trace.polled ++ trace.released).map (loop.score trace.plan t)
  decision : trace.decision = EmergencyLane.reserve loop.config.emergency loop.regulatory
    loop.config.scoring ((trace.scored.map ScoredRequest.request).filter isUrgent)
    trace.snapshot trace.plan t
  remaining : trace.remaining = subtractReservations trace.snapshot trace.decision.reservations
  bestEffort : trace.bestEffort = bestEffortOf trace.scored trace.decision
  admitted : ∃ controller : AdmissionController,
    trace.admitted = (controller.admitScored trace.bestEffort trace.congestion t).1
  candidates : (trace.candidates, trace.noLegal) = loop.buildCandidates trace.admitted.admitted
  scheduled : loop.runScheduler trace.candidates trace.remaining t state.scheduler state.fallback =
    some ⟨trace.result, trace.mode, next.scheduler, next.fallback⟩
  deferred : loop.handleDeferred t trace.result.deferred trace.held state.rng =
    (trace.requeued, trace.requeueDrops, next.rng)
  queue : next.retryQueue = trace.held ++ trace.requeued
  counters : trace.counters = buildCounters t trace.congestion trace.snapshot trace.served
    trace.allocations trace.requeued.length trace.dropped trace.rejected
    (trace.admitted.admitted.length + trace.decision.admitted.length) trace.result.fairnessIndex
    trace.mode (trace.lookups.filter Lookup.tripped).length

/-- Replanning changes the plan, the planner and the controller, and nothing else. In particular
it leaves the queue and the generators. -/
theorem maybeReplan_frame (t : ℤ) (snapshot : ConstellationSnapshot) (state : LoopState σ π φ ο) :
    (loop.maybeReplan t snapshot state).source = state.source ∧
      (loop.maybeReplan t snapshot state).scheduler = state.scheduler ∧
        (loop.maybeReplan t snapshot state).fallback = state.fallback ∧
          (loop.maybeReplan t snapshot state).rng = state.rng ∧
            (loop.maybeReplan t snapshot state).retryQueue = state.retryQueue := by
  unfold maybeReplan
  split <;> simp

/-- A step that returns relates its states and its trace. This is where the step is opened, once
and for all. -/
theorem step_inv (t : ℤ) (state next : LoopState σ π φ ο) (trace : StepTrace)
    (stepped : loop.step t state = some (next, trace)) : loop.Stepped t state next trace := by
  have frame := loop.maybeReplan_frame t
    (mergeSnapshots t ((loop.gather t loop.constellations state.breakers).1.filterMap
      Lookup.snapshot?))
    { state with breakers := (loop.gather t loop.constellations state.breakers).2 }
  simp only [step, Option.bind_eq_bind, Option.bind_eq_some_iff, Option.pure_def,
    Option.some.injEq, Prod.mk.injEq, Prod.exists] at stepped
  generalize loop.maybeReplan t _ _ = replanned at frame stepped
  obtain ⟨sameSource, samePrimary, sameFallback, sameRng, sameQueue⟩ := frame
  obtain ⟨polled, source, ingested, scheduled, ran, rfl, rfl⟩ := stepped
  rw [sameSource] at ingested
  rw [samePrimary, sameFallback, sameQueue] at ran
  exact
    { step := rfl
      lookups := rfl
      snapshot := rfl
      held := congrArg _ sameQueue
      released := congrArg _ (congrArg _ sameQueue)
      polled := ingested
      scored := rfl
      decision := rfl
      remaining := rfl
      bestEffort := rfl
      admitted := ⟨_, rfl⟩
      candidates := rfl
      scheduled := by simpa only [sameQueue] using ran
      deferred := by simp only [sameRng, sameQueue]
      queue := rfl
      counters := rfl }

/-- What a step leaves for later steps beyond what its trace shows: the breakers, the plan
in force with the planner and the controller it was broadcast to, and the histories. -/
structure Remembered (t : ℤ) (state next : LoopState σ π φ ο) (trace : StepTrace) : Prop where
  breakers : next.breakers = (loop.gather t loop.constellations state.breakers).2
  plan : next.plan = trace.plan
  replanned : ∃ breakers,
    trace.plan = (loop.maybeReplan t trace.snapshot { state with breakers := breakers }).plan ∧
      next.optimizer =
        (loop.maybeReplan t trace.snapshot { state with breakers := breakers }).optimizer ∧
      ∃ controller : AdmissionController, controller =
          (loop.maybeReplan t trace.snapshot { state with breakers := breakers }).admission ∧
        (trace.admitted, next.admission) =
          controller.admitScored trace.bestEffort trace.congestion t
  recentCongestion : next.recentCongestion = loop.remember state.recentCongestion trace.congestion
  recentCounters : next.recentCounters = loop.remember state.recentCounters trace.counters
  recentDemand : next.recentDemand = loop.remember state.recentDemand (demandOf trace.scored)
  lastDropRate : next.lastDropRate = dropRate trace.counters

/-- Replanning leaves the breakers and the histories alone. -/
theorem maybeReplan_histories (t : ℤ) (snapshot : ConstellationSnapshot)
    (state : LoopState σ π φ ο) :
    (loop.maybeReplan t snapshot state).breakers = state.breakers ∧
      (loop.maybeReplan t snapshot state).recentCongestion = state.recentCongestion ∧
        (loop.maybeReplan t snapshot state).recentCounters = state.recentCounters ∧
          (loop.maybeReplan t snapshot state).recentDemand = state.recentDemand := by
  unfold maybeReplan
  split <;> simp

/-- A step that returns remembers what it did: the second half of what can be read off an opened
step. -/
theorem step_remembered (t : ℤ) (state next : LoopState σ π φ ο) (trace : StepTrace)
    (stepped : loop.step t state = some (next, trace)) : loop.Remembered t state next trace := by
  obtain ⟨sameBreakers, sameCongestion, sameCounters, sameDemand⟩ := loop.maybeReplan_histories t
    (mergeSnapshots t ((loop.gather t loop.constellations state.breakers).1.filterMap
      Lookup.snapshot?))
    { state with breakers := (loop.gather t loop.constellations state.breakers).2 }
  simp only [step, Option.bind_eq_bind, Option.bind_eq_some_iff, Option.pure_def,
    Option.some.injEq, Prod.mk.injEq, Prod.exists] at stepped
  obtain ⟨polled, source, _, scheduled, _, rfl, rfl⟩ := stepped
  exact
    { breakers := sameBreakers
      plan := rfl
      replanned := ⟨_, rfl, rfl, _, rfl, rfl⟩
      recentCongestion := congrArg (loop.remember · _) sameCongestion
      recentCounters := congrArg (loop.remember · _) sameCounters
      recentDemand := congrArg (loop.remember · _) sameDemand
      lastDropRate := rfl }

/-- The first client is looked up, with some outcome that is truthful, before the others. The
breakers after it are whatever the first lookup has left. -/
theorem gather_cons (t : ℤ) (client : ConstellationClient) (rest : List ConstellationClient)
    (breakers : Dict FleetId CircuitBreaker) :
    ∃ outcome after, (loop.gather t (client :: rest) breakers).1 =
        ⟨client, outcome⟩ :: (loop.gather t rest after).1 ∧
      ∀ snapshot, outcome = .answered snapshot → client.visibleResources t = some snapshot := by
  simp only [gather]
  split
  · exact ⟨.heldOpen, breakers, rfl, by simp⟩
  · split
    · rename_i shown seen
      exact ⟨.answered shown, _, rfl, fun snapshot same => seen.trans (by simpa using same)⟩
    · exact ⟨.raised _, _, rfl, by simp⟩

/-- Each client has one lookup in order; an answer is what the client shows. -/
theorem gather_spec (t : ℤ) (clients : List ConstellationClient)
    (breakers : Dict FleetId CircuitBreaker) :
    (loop.gather t clients breakers).1.map Lookup.client = clients ∧
      ∀ lookup ∈ (loop.gather t clients breakers).1, ∀ snapshot,
        lookup.outcome = .answered snapshot → lookup.client.visibleResources t = some snapshot := by
  induction clients generalizing breakers with
  | nil => simp [gather]
  | cons client rest inductionHypothesis =>
    obtain ⟨outcome, after, gathered, truthful⟩ := loop.gather_cons t client rest breakers
    obtain ⟨listed, answers⟩ := inductionHypothesis after
    rw [gathered]
    constructor
    · rw [List.map_cons, listed]
    · intro lookup member snapshot answered
      rcases List.mem_cons.mp member with rfl | later
      · exact truthful snapshot answered
      · exact answers lookup later snapshot answered

/-- The snapshots a step gathers are among those its clients show, in order: a breaker may keep
one back, and none is made up. -/
theorem gather_shown (t : ℤ) (clients : List ConstellationClient)
    (breakers : Dict FleetId CircuitBreaker) :
    ((loop.gather t clients breakers).1.filterMap Lookup.snapshot?).Sublist
      (clients.filterMap (fun client => client.visibleResources t)) := by
  induction clients generalizing breakers with
  | nil => simp [gather]
  | cons client rest inductionHypothesis =>
    obtain ⟨outcome, after, gathered, truthful⟩ := loop.gather_cons t client rest breakers
    have others := inductionHypothesis after
    rw [gathered]
    cases outcome with
    | answered snapshot =>
      have seen := truthful snapshot rfl
      simpa only [List.filterMap_cons, Lookup.snapshot?, seen] using others.cons_cons snapshot
    | heldOpen => exact others.trans ((List.sublist_cons_self client rest).filterMap _)
    | raised tripped => exact others.trans ((List.sublist_cons_self client rest).filterMap _)

/-- Every admitted item becomes a candidate or is rejected as lawless, once. It is the step of
the conservation law that passes through regulation. -/
theorem buildCandidates_partition (admitted : List ScoredRequest) :
    ((loop.buildCandidates admitted).1.map ScheduleCandidate.request ++
      (loop.buildCandidates admitted).2.map RejectedRequest.request).Perm
        (admitted.map ScoredRequest.request) := by
  simp only [buildCandidates, List.map_map, Function.comp_def, candidateOf]
  rw [← List.map_append]
  exact (List.perm_append_comm.trans (List.filter_append_perm loop.lawless admitted)).map _

/-- A candidate is an admitted item with its legal options, of which it has some. -/
theorem mem_buildCandidates (admitted : List ScoredRequest) (candidate : ScheduleCandidate) :
    candidate ∈ (loop.buildCandidates admitted).1 ↔
      ∃ item ∈ admitted, loop.regulatory.allowedOptions item.request ≠ [] ∧
        loop.candidateOf item = candidate := by
  simp [buildCandidates, lawless, and_assoc]

/-- The scheduling stage returns the primary's result, or the fallback's after the primary
raised, or defers every candidate after both raised. The mode tells which, and the states left
are those of the calls that were made. -/
theorem runScheduler_inv (candidates : List ScheduleCandidate) (snapshot : ConstellationSnapshot)
    (t : ℤ) (primary : π) (fallback : φ) (scheduled : Scheduled π φ)
    (ran : loop.runScheduler candidates snapshot t primary fallback = some scheduled) :
    (scheduled.mode = .normal ∧ loop.scheduler.schedule primary candidates snapshot t =
        some (.returned scheduled.result, scheduled.primary)) ∨
      (scheduled.mode = .fallback ∧ loop.scheduler.schedule primary candidates snapshot t =
        some (.raised, scheduled.primary) ∧
          loop.fallbackScheduler.schedule fallback candidates snapshot t =
            some (.returned scheduled.result, scheduled.fallback)) ∨
      (scheduled.mode = .safe ∧ loop.scheduler.schedule primary candidates snapshot t =
        some (.raised, scheduled.primary) ∧
          loop.fallbackScheduler.schedule fallback candidates snapshot t =
            some (.raised, scheduled.fallback) ∧
              scheduled.result = { deferred := candidates.map ScheduleCandidate.request }) := by
  simp only [runScheduler, Option.bind_eq_bind, Option.bind_eq_some_iff, Prod.exists] at ran
  obtain ⟨reply, afterPrimary, called, ran⟩ := ran
  cases reply with
  | returned result =>
    simp only [Option.pure_def, Option.some.injEq] at ran
    subst ran
    exact Or.inl ⟨rfl, called⟩
  | raised =>
    simp only [Option.bind_eq_some_iff, Prod.exists] at ran
    obtain ⟨second, afterFallback, retried, ran⟩ := ran
    cases second with
    | returned result =>
      simp only [Option.pure_def, Option.some.injEq] at ran
      subst ran
      exact Or.inr (Or.inl ⟨rfl, called, retried⟩)
    | raised =>
      simp only [Option.pure_def, Option.some.injEq] at ran
      subst ran
      exact Or.inr (Or.inr ⟨rfl, called, retried, rfl⟩)

/-- A backoff is not negative and at most the capped exponential plus the base. The jitter is
drawn between zero and the base, both included. -/
theorem backoffSteps_bounds (retryCount : ℤ) (rng : Rng) :
    0 ≤ (loop.backoffSteps retryCount rng).1 ∧
      (loop.backoffSteps retryCount rng).1 ≤ min loop.config.overload.retryBackoffMaxSteps
          (loop.config.overload.retryBackoffBaseSteps * 2 ^ retryCount.toNat) +
        loop.config.overload.retryBackoffBaseSteps := by
  have base := loop.config.overload.backoffBaseNonneg
  have cap := loop.config.overload.backoffMaxPositive
  have power : 0 ≤ loop.config.overload.retryBackoffBaseSteps * 2 ^ retryCount.toNat := by
    positivity
  unfold backoffSteps
  dsimp only
  split
  · rename_i positive
    have jitter := rng.randint_mem 0 loop.config.overload.retryBackoffBaseSteps positive.le
    simp only
    omega
  · simp only
    omega

/-- Whether a deferred request may be put back as far as its class is concerned. -/
def withinBudget (request : ServiceRequest) : Bool :=
  decide (request.retryCount < loop.retryBudget request.trafficClass)

/-- The deferred requests that find room: those within their budget, in order, until the queue
is full. This closed form replaces the recursion wherever the outcome alone matters. -/
def readmitted (queue : List RetryEntry) (deferred : List ServiceRequest) : List ServiceRequest :=
  (deferred.filter loop.withinBudget).take
    (loop.config.overload.queueCapacity - queue.length).toNat

/-- The first deferred request is dropped, for its budget or for the queue, or put back at the
end of the queue; the others follow. Every lemma on requeueing goes by induction along this case
split. -/
theorem handleDeferred_cons (t : ℤ) (request : ServiceRequest) (rest : List ServiceRequest)
    (queue : List RetryEntry) (rng : Rng) :
    (∃ reason, (loop.withinBudget request = false ∧ reason = .retryBudgetExhausted ∨
          loop.withinBudget request = true ∧
            loop.config.overload.queueCapacity ≤ queue.length ∧ reason = .noCapacity) ∧
        loop.handleDeferred t (request :: rest) queue rng =
          ((loop.handleDeferred t rest queue rng).1,
            ⟨request, reason⟩ :: (loop.handleDeferred t rest queue rng).2.1,
            (loop.handleDeferred t rest queue rng).2.2)) ∨
      ∃ entry after, loop.withinBudget request = true ∧
        (queue.length : ℤ) < loop.config.overload.queueCapacity ∧
        entry = requeue t request (loop.backoffSteps request.retryCount rng).1 ∧
        loop.handleDeferred t (request :: rest) queue rng =
          (entry :: (loop.handleDeferred t rest (queue ++ [entry]) after).1,
            (loop.handleDeferred t rest (queue ++ [entry]) after).2.1,
            (loop.handleDeferred t rest (queue ++ [entry]) after).2.2) := by
  simp only [handleDeferred]
  split
  · rename_i exhausted
    exact Or.inl ⟨_, Or.inl ⟨by simpa [withinBudget] using exhausted, rfl⟩, rfl⟩
  rename_i within
  have inside : loop.withinBudget request = true := by simpa [withinBudget] using within
  split
  · rename_i full
    exact Or.inl ⟨_, Or.inr ⟨inside, full, rfl⟩, rfl⟩
  · rename_i vacancy
    exact Or.inr ⟨_, _, inside, not_le.mp vacancy, rfl, rfl⟩

/-- Every deferred request is requeued, with its identity, or dropped, once. The identity leaves
out the retry count, which is what requeueing changes. -/
theorem handleDeferred_partition (t : ℤ) (deferred : List ServiceRequest) (queue : List RetryEntry)
    (rng : Rng) :
    ((loop.handleDeferred t deferred queue rng).1.map (fun entry => entry.request.identity) ++
      (loop.handleDeferred t deferred queue rng).2.1.map (fun item => item.request.identity)).Perm
        (deferred.map ServiceRequest.identity) := by
  induction deferred generalizing queue rng with
  | nil => simp [handleDeferred]
  | cons request rest inductionHypothesis =>
    rcases loop.handleDeferred_cons t request rest queue rng with
      ⟨reason, _, stands⟩ | ⟨entry, after, _, _, rfl, stands⟩
    · rw [stands]
      exact List.perm_middle.trans ((inductionHypothesis queue rng).cons _)
    · rw [stands]
      exact (inductionHypothesis _ _).cons _

/-- A requeued entry is a deferred request within its budget, counted once more, and
waits for a backoff of its retry count. -/
theorem handleDeferred_requeued (t : ℤ) (deferred : List ServiceRequest) (queue : List RetryEntry)
    (rng : Rng) (entry : RetryEntry)
    (member : entry ∈ (loop.handleDeferred t deferred queue rng).1) :
    ∃ request ∈ deferred, request.retryCount < loop.retryBudget request.trafficClass ∧
      ∃ drawn, entry = requeue t request (loop.backoffSteps request.retryCount drawn).1 := by
  induction deferred generalizing queue rng with
  | nil => simp [handleDeferred] at member
  | cons request rest inductionHypothesis =>
    rcases loop.handleDeferred_cons t request rest queue rng with
      ⟨reason, _, stands⟩ | ⟨first, after, within, _, entered, stands⟩
    · rw [stands] at member
      obtain ⟨other, listed, found⟩ := inductionHypothesis queue rng member
      exact ⟨other, List.mem_cons_of_mem _ listed, found⟩
    · rw [stands] at member
      rcases List.mem_cons.mp member with rfl | later
      · exact ⟨request, List.mem_cons_self, of_decide_eq_true within, rng, entered⟩
      · obtain ⟨other, listed, found⟩ := inductionHypothesis _ _ later
        exact ⟨other, List.mem_cons_of_mem _ listed, found⟩

/-- Each deferred request is dropped, or put back with some delay. Nothing is lost between the
two. -/
theorem handleDeferred_resolved (t : ℤ) (deferred : List ServiceRequest) (queue : List RetryEntry)
    (rng : Rng) (request : ServiceRequest) (member : request ∈ deferred) :
    (∃ item ∈ (loop.handleDeferred t deferred queue rng).2.1, item.request = request) ∨
      ∃ delay, requeue t request delay ∈ (loop.handleDeferred t deferred queue rng).1 := by
  induction deferred generalizing queue rng with
  | nil => simp at member
  | cons first rest inductionHypothesis =>
    rcases loop.handleDeferred_cons t first rest queue rng with
      ⟨reason, _, stands⟩ | ⟨entry, after, _, _, rfl, stands⟩
    · rw [stands]
      rcases List.mem_cons.mp member with rfl | later
      · exact Or.inl ⟨_, List.mem_cons_self, rfl⟩
      · exact (inductionHypothesis queue rng later).imp_left
          (fun ⟨item, dropped, same⟩ => ⟨item, List.mem_cons_of_mem _ dropped, same⟩)
    · rw [stands]
      rcases List.mem_cons.mp member with rfl | later
      · exact Or.inr ⟨_, List.mem_cons_self⟩
      · exact (inductionHypothesis _ _ later).imp_right
          (fun ⟨delay, requeued⟩ => ⟨delay, List.mem_cons_of_mem _ requeued⟩)

/-- What is put back is what finds room, counted once more. -/
theorem handleDeferred_readmitted (t : ℤ) (deferred : List ServiceRequest)
    (queue : List RetryEntry) (rng : Rng) :
    (loop.handleDeferred t deferred queue rng).1.map RetryEntry.request =
      (loop.readmitted queue deferred).map
        (fun request => { request with retryCount := request.retryCount + 1 }) := by
  induction deferred generalizing queue rng with
  | nil => simp [handleDeferred, readmitted]
  | cons request rest inductionHypothesis =>
    rcases loop.handleDeferred_cons t request rest queue rng with
      ⟨reason, ⟨outside, _⟩ | ⟨_, full, _⟩, stands⟩ | ⟨entry, after, inside, vacancy, rfl, stands⟩
    · rw [stands]
      simpa [readmitted, List.filter_cons, outside] using inductionHypothesis queue rng
    · have filled : (loop.config.overload.queueCapacity - queue.length).toNat = 0 := by omega
      rw [stands]
      simpa [readmitted, filled] using inductionHypothesis queue rng
    · have left : (loop.config.overload.queueCapacity - queue.length).toNat =
          (loop.config.overload.queueCapacity - (queue.length + 1 : ℕ)).toNat + 1 := by omega
      rw [stands]
      simp only [readmitted] at inductionHypothesis ⊢
      rw [List.filter_cons_of_pos inside, left, List.take_succ_cons, List.map_cons, List.map_cons,
        inductionHypothesis]
      simp [requeue]

/-- A queue within its capacity stays within it: what is put back is counted against the room
there is at its turn. -/
theorem handleDeferred_capacity (t : ℤ) (deferred : List ServiceRequest) (queue : List RetryEntry)
    (rng : Rng) (room : (queue.length : ℤ) ≤ loop.config.overload.queueCapacity) :
    ((queue ++ (loop.handleDeferred t deferred queue rng).1).length : ℤ) ≤
      loop.config.overload.queueCapacity := by
  induction deferred generalizing queue rng with
  | nil => simpa [handleDeferred] using room
  | cons request rest inductionHypothesis =>
    rcases loop.handleDeferred_cons t request rest queue rng with
      ⟨reason, _, stands⟩ | ⟨entry, after, _, vacancy, _, stands⟩
    · rw [stands]
      exact inductionHypothesis queue rng room
    · have next := inductionHypothesis (queue ++ [entry]) after
        (by simp only [List.length_append, List.length_cons, List.length_nil]; omega)
      rw [stands]
      simpa using next

section Congruence

variable {α β γ δ : Type} (other : ControlLoop α β γ δ)
variable (overload : other.config.overload = loop.config.overload)
include overload

/-- Lookups depend on the overload settings of a loop only, so two loops that share them look
alike at one list of clients. -/
theorem gather_congr (t : ℤ) (clients : List ConstellationClient)
    (breakers : Dict FleetId CircuitBreaker) :
    other.gather t clients breakers = loop.gather t clients breakers := by
  induction clients generalizing breakers with
  | nil => rfl
  | cons client rest inductionHypothesis =>
    simp only [gather, freshBreaker, overload, inductionHypothesis]
    rfl

/-- What becomes of the deferred requests depends on these and on the class mix. -/
theorem handleDeferred_congr (mix : other.config.classMix = loop.config.classMix) (t : ℤ)
    (deferred : List ServiceRequest) (queue : List RetryEntry) (rng : Rng) :
    other.handleDeferred t deferred queue rng = loop.handleDeferred t deferred queue rng := by
  induction deferred generalizing queue rng with
  | nil => rfl
  | cons request rest inductionHypothesis =>
    simp only [handleDeferred, retryBudget, SimulationConfig.profile?, mix, backoffSteps, overload,
      inductionHypothesis]

end Congruence

section Trace

variable {t : ℤ} {state next : LoopState σ π φ ο} {trace : StepTrace}

/-- The scored requests are the arrivals, in order. -/
theorem Stepped.scored_requests (stepped : loop.Stepped t state next trace) :
    trace.scored.map ScoredRequest.request = trace.arrivals := by
  simp [stepped.scored, StepTrace.arrivals, score, Function.comp_def]

/-- A candidate is built from a scored request, by way of admission and the legal filter. -/
theorem Stepped.candidate_item (stepped : loop.Stepped t state next trace)
    (candidate : ScheduleCandidate) (member : candidate ∈ trace.candidates) :
    ∃ item ∈ trace.scored, loop.candidateOf item = candidate := by
  have built : candidate ∈ (loop.buildCandidates trace.admitted.admitted).1 := by
    rw [← stepped.candidates]
    exact member
  obtain ⟨item, admitted, _, rfl⟩ := (loop.mem_buildCandidates _ candidate).mp built
  obtain ⟨controller, shaped⟩ := stepped.admitted
  have offered : item ∈ trace.bestEffort :=
    (controller.admitScored_partition trace.bestEffort trace.congestion t).2.1 (shaped ▸ admitted)
  rw [stepped.bestEffort] at offered
  exact ⟨item, (List.mem_filter.mp offered).1, rfl⟩

/-- A candidate is an arrival with its legal options. It brings the retry count with which it
arrived. -/
theorem Stepped.candidate_arrived (stepped : loop.Stepped t state next trace)
    (candidate : ScheduleCandidate) (member : candidate ∈ trace.candidates) :
    candidate.request ∈ trace.arrivals ∧
      candidate.options = loop.regulatory.allowedOptions candidate.request := by
  obtain ⟨item, scored, rfl⟩ := stepped.candidate_item loop candidate member
  refine ⟨?_, rfl⟩
  rw [← stepped.scored_requests]
  exact List.mem_map.mpr ⟨item, scored, rfl⟩

/-- What the lane serves has arrived in this step; the lane keeps no queue of its own. -/
theorem Stepped.lane_arrived (stepped : loop.Stepped t state next trace)
    (request : ServiceRequest) (member : request ∈ trace.decision.admitted) :
    request ∈ trace.arrivals := by
  have urgent := (EmergencyLane.reserve_partition loop.config.emergency loop.regulatory
    loop.config.scoring ((trace.scored.map ScoredRequest.request).filter isUrgent)
    trace.snapshot trace.plan t).subset
  rw [← stepped.decision, stepped.scored_requests] at urgent
  exact (List.mem_filter.mp (urgent (List.mem_append_left _ member))).1

/-- A beam of the merged snapshot was shown by a client whose lookup was answered. -/
theorem Stepped.beam_seen (stepped : loop.Stepped t state next trace) (beam : Beam)
    (shown : beam ∈ trace.snapshot.beams) :
    ∃ lookup ∈ trace.lookups, lookup.client ∈ loop.constellations ∧ ∃ snapshot,
      lookup.outcome = .answered snapshot ∧ lookup.client.visibleResources t = some snapshot ∧
        beam ∈ snapshot.beams := by
  obtain ⟨clients, answers⟩ := loop.gather_spec t loop.constellations state.breakers
  rw [← stepped.lookups] at clients answers
  rw [stepped.snapshot, merge_beams] at shown
  obtain ⟨snapshot, seen, shown⟩ := List.mem_flatMap.mp shown
  obtain ⟨lookup, member, answer⟩ := List.mem_filterMap.mp seen
  have answered : lookup.outcome = .answered snapshot := by
    unfold Lookup.snapshot? at answer
    split at answer
    · rename_i shown same
      rw [same, Option.some.inj answer]
    · simp at answer
  have listed : lookup.client ∈ loop.constellations := by
    rw [← clients]
    exact List.mem_map.mpr ⟨lookup, member, rfl⟩
  exact ⟨lookup, member, listed, snapshot, answered,
    answers lookup member snapshot answered, shown⟩

end Trace

/-- An invariant of the step count, the traces and the state that each step extends holds after
every run. It is the induction rule of the whole development: step lemmas on the left, run
lemmas on the right. -/
theorem run_invariant (start : ℤ) (invariant : ℕ → List StepTrace → LoopState σ π φ ο → Prop)
    (initial : LoopState σ π φ ο) (starts : invariant 0 [] initial)
    (extended : ∀ (count : ℕ) traces state next trace, invariant count traces state →
      loop.Stepped (start + count) state next trace →
      invariant (count + 1) (traces ++ [trace]) next)
    (count : ℕ) (final : LoopState σ π φ ο) (traces : List StepTrace)
    (completed : loop.run start count initial = some (final, traces)) :
    invariant count traces final :=
  Runs.run_invariant _ invariant initial starts
    (fun count traces state next trace holds stepped =>
      extended count traces state next trace holds (loop.step_inv _ state next trace stepped))
    count final traces completed

/-- The same, with the run up to each step in hand, for invariants that use earlier results
about runs. -/
theorem run_reached (start : ℤ) (invariant : ℕ → List StepTrace → LoopState σ π φ ο → Prop)
    (initial : LoopState σ π φ ο) (starts : invariant 0 [] initial)
    (extended : ∀ (count : ℕ) traces state next trace,
      loop.run start count initial = some (state, traces) → invariant count traces state →
      loop.Stepped (start + count) state next trace →
      invariant (count + 1) (traces ++ [trace]) next)
    (count : ℕ) (final : LoopState σ π φ ο) (traces : List StepTrace)
    (completed : loop.run start count initial = some (final, traces)) :
    invariant count traces final :=
  Runs.run_reached _ invariant initial starts
    (fun count traces state next trace reached holds stepped =>
      extended count traces state next trace reached holds
        (loop.step_inv _ state next trace stepped))
    count final traces completed

/-- The first steps of a run are a run, so what holds after every run holds at every step of
one. -/
theorem run_prefix (start : ℤ) (count : ℕ) (initial final : LoopState σ π φ ο)
    (traces : List StepTrace) (completed : loop.run start count initial = some (final, traces))
    (shorter : ℕ) (within : shorter ≤ count) :
    ∃ middle, loop.run start shorter initial = some (middle, traces.take shorter) :=
  Runs.run_prefix _ count initial final traces completed shorter within

/-- The steps of a run are numbered from where it starts. -/
theorem run_numbered (start : ℤ) (count : ℕ) (initial final : LoopState σ π φ ο)
    (traces : List StepTrace) (completed : loop.run start count initial = some (final, traces)) :
    traces.length = count ∧
      ∀ (index : ℕ) trace, traces[index]? = some trace → trace.step = start + index := by
  refine loop.run_invariant start (fun count traces _ => traces.length = count ∧
    ∀ (index : ℕ) trace, traces[index]? = some trace → trace.step = start + index) initial
    ⟨rfl, by simp⟩ ?_ count final traces completed
  rintro count traces state next trace ⟨counted, numbered⟩ stepped
  refine ⟨by simp [counted], ?_⟩
  intro index tested found
  rw [List.getElem?_append] at found
  split at found
  · exact numbered index tested found
  · obtain ⟨rfl, rfl⟩ : index = traces.length ∧ trace = tested := by
      rw [List.getElem?_singleton] at found
      split at found
      · exact ⟨by omega, Option.some.inj found⟩
      · simp at found
    rw [stepped.step, counted]

/-- Every trace of a run is the trace of a step, between some two states. -/
theorem run_stepped (start : ℤ) (count : ℕ) (initial final : LoopState σ π φ ο)
    (traces : List StepTrace) (completed : loop.run start count initial = some (final, traces))
    (trace : StepTrace) (member : trace ∈ traces) :
    ∃ state next, loop.Stepped trace.step state next trace := by
  refine loop.run_invariant start (fun _ traces _ => ∀ trace ∈ traces,
    ∃ state next, loop.Stepped trace.step state next trace) initial (by simp) ?_ count final traces
    completed trace member
  intro count traces state next trace earlier stepped tested listed
  cases List.mem_append.mp listed with
  | inl before =>
    exact earlier tested before
  | inr last =>
    obtain rfl := List.mem_singleton.mp last
    exact ⟨state, next, stepped.step.symm ▸ stepped⟩

/-- What was polled before a step has distinct ids when everything polled has. -/
theorem polled_distinct_before (traces : List StepTrace) (trace : StepTrace)
    (distinct : (((traces ++ [trace]).flatMap StepTrace.polled).map
      ServiceRequest.requestId).Nodup) :
    ((traces.flatMap StepTrace.polled).map ServiceRequest.requestId).Nodup := by
  rw [List.flatMap_append, List.map_append] at distinct
  exact (List.nodup_append.mp distinct).1

end ControlLoop

end Satsim
