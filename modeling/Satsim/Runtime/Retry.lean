import Satsim.Runtime.Wiring

/-!
# Retry discipline

A queue entry has a lineage: the request was polled once and then deferred and put back
some number of times. The lineage's length is the retry count, the class budget bounds
it, and each round delays the request by at most its capped backoff and jitter, or by
one step when the backoff is nothing. Since an entry is released at the first step that
reaches its eligible step, the delays of its lineage bound its whole life.

A lineage speaks of a path through the steps, the tally of a count over all of them. The
first needs no distinct ids, the second does; where both apply, they agree.
-/

namespace Satsim

open Library

/-- How a request came to be as it is: polled in step `s` as `original`, and since then deferred
and put back `k` times in steps of these traces. It is the history that the retry count stands
for. -/
inductive Lineage (traces : List StepTrace) (original : ServiceRequest) (s : ℤ) :
    ℕ → ServiceRequest → Prop
  | polled (trace : StepTrace) (member : trace ∈ traces) (step : trace.step = s)
      (arrived : original ∈ trace.polled) : Lineage traces original s 0 original
  | again (k : ℕ) (request : ServiceRequest) (before : Lineage traces original s k request)
      (trace : StepTrace) (member : trace ∈ traces) (arrived : request ∈ trace.arrivals)
      (deferred : request ∈ trace.result.deferred) (entry : RetryEntry)
      (requeued : entry ∈ trace.requeued)
      (counted : entry.request = { request with retryCount := request.retryCount + 1 }) :
      Lineage traces original s (k + 1) entry.request

/-- More traces keep a lineage. -/
theorem Lineage.extend {traces more : List StepTrace} {original request : ServiceRequest} {s : ℤ}
    {k : ℕ} (lineage : Lineage traces original s k request) (included : traces ⊆ more) :
    Lineage more original s k request := by
  induction lineage with
  | polled trace member step arrived => exact .polled trace (included member) step arrived
  | again k request _ trace member arrived deferred entry requeued counted inductionHypothesis =>
    exact .again k request inductionHypothesis trace (included member) arrived deferred entry
      requeued counted

/-- The longest a request waits in its `i`-th round: its capped backoff and the largest jitter,
and at least one step, since what is put back is released in a later step. -/
def roundBound (overload : OverloadConfig) (i : ℕ) : ℤ :=
  max 1 (min overload.retryBackoffMaxSteps (overload.retryBackoffBaseSteps * 2 ^ i) +
    overload.retryBackoffBaseSteps)

/-- The longest a request waits in its first `k` rounds together. -/
def lifetimeBound (overload : OverloadConfig) (k : ℕ) : ℤ :=
  ∑ i ∈ Finset.range k, roundBound overload i

/-- One more round adds its bound. -/
theorem lifetimeBound_succ (overload : OverloadConfig) (k : ℕ) :
    lifetimeBound overload (k + 1) = lifetimeBound overload k + roundBound overload k :=
  Finset.sum_range_succ _ _

/-- How often a request id was put back in these traces. -/
def timesRequeued (traces : List StepTrace) (requestId : String) : ℕ :=
  ((traces.flatMap StepTrace.requeued).map (fun entry => entry.request.requestId)).count requestId

namespace ControlLoop

variable {σ π φ ο : Type} (loop : ControlLoop σ π φ ο)

/-- A request that stands at step `now` with a lineage of its retry count, within the bound of
its life so far. It is said of arrivals, as the next structure is of queue entries. -/
structure Aged (traces : List StepTrace) (now : ℤ) (request : ServiceRequest) (original :
    ServiceRequest) (s : ℤ) (k : ℕ) : Prop where
  lineage : Lineage traces original s k request
  counted : request.retryCount = k
  lived : now ≤ s + lifetimeBound loop.config.overload k

/-- What holds of a queue entry after the step before `now`: a lineage, a retry count
within the budget, an eligible step that is not in the past, and a bound on its life. -/
structure Disciplined (traces : List StepTrace) (now : ℤ) (entry : RetryEntry) (original :
    ServiceRequest) (s : ℤ) (k : ℕ) : Prop
    extends Aged loop traces (max entry.eligibleStep now) entry.request original s k where
  positive : 1 ≤ k
  budget : entry.request.retryCount ≤ loop.retryBudget entry.request.trafficClass
  future : now - 1 ≤ entry.eligibleStep

variable {t : ℤ} {state next : LoopState σ π φ ο} {trace : StepTrace}

/-- When the queue is disciplined and polled requests enter fresh, every arrival of the
step is aged. -/
theorem Stepped.arrival_aged (stepped : loop.Stepped t state next trace) (traces : List StepTrace)
    (fresh : ∀ request ∈ trace.polled, request.retryCount = 0)
    (disciplined : ∀ entry ∈ state.retryQueue, ∃ original s k,
      loop.Disciplined traces t entry original s k)
    (request : ServiceRequest) (arrived : request ∈ trace.arrivals) :
    ∃ original s k, loop.Aged (traces ++ [trace]) t request original s k := by
  cases List.mem_append.mp arrived with
  | inl polled =>
    refine ⟨request, t, 0, .polled trace (by simp) stepped.step polled, fresh request polled, ?_⟩
    simp [lifetimeBound]
  | inr released =>
    obtain ⟨entry, queued, _, rfl⟩ := (stepped.mem_released loop request).mp released
    obtain ⟨original, s, k, kept⟩ := disciplined entry queued
    exact ⟨original, s, k, kept.lineage.extend (List.subset_append_left _ _), kept.counted,
      (le_max_right _ _).trans kept.lived⟩

/-- A requeued arrival is a disciplined entry: its lineage is one longer, and the delay
it waits is within the bound of the round. -/
theorem requeue_disciplined (traces : List StepTrace) (member : trace ∈ traces)
    (request original : ServiceRequest) (s : ℤ) (k : ℕ) (drawn : Rng)
    (aged : loop.Aged traces t request original s k) (arrived : request ∈ trace.arrivals)
    (deferred : request ∈ trace.result.deferred)
    (within : request.retryCount < loop.retryBudget request.trafficClass)
    (requeued : requeue t request (loop.backoffSteps request.retryCount drawn).1 ∈ trace.requeued) :
    loop.Disciplined traces (t + 1)
      (requeue t request (loop.backoffSteps request.retryCount drawn).1) original s (k + 1) := by
  obtain ⟨nonneg, bounded⟩ := loop.backoffSteps_bounds request.retryCount drawn
  have counted := aged.counted
  have lived := aged.lived
  have exponent : request.retryCount.toNat = k := by omega
  rw [exponent] at bounded
  have round : max 1 (loop.backoffSteps request.retryCount drawn).1 ≤
      roundBound loop.config.overload k := max_le_max (le_refl 1) bounded
  refine ⟨⟨.again k request aged.lineage trace member arrived deferred _ requeued rfl, ?_, ?_⟩,
    by omega, ?_, ?_⟩
  · simp only [requeue, counted]
    push_cast
    ring
  · rw [lifetimeBound_succ]
    simp only [requeue]
    omega
  · simp only [requeue]
    omega
  · simp only [requeue]
    omega

/-- A step keeps the queue disciplined: the entries it holds, and those it puts back. -/
theorem Stepped.disciplined (stepped : loop.Stepped t state next trace)
    (deferring : loop.Deferring) (traces : List StepTrace)
    (fresh : ∀ request ∈ trace.polled, request.retryCount = 0)
    (disciplined : ∀ entry ∈ state.retryQueue, ∃ original s k,
      loop.Disciplined traces t entry original s k) :
    ∀ entry ∈ next.retryQueue, ∃ original s k,
      loop.Disciplined (traces ++ [trace]) (t + 1) entry original s k := by
  intro entry member
  rw [stepped.queue] at member
  cases List.mem_append.mp member with
  | inl held =>
    obtain ⟨queued, waiting⟩ := (stepped.mem_held loop entry).mp held
    obtain ⟨original, s, k, kept⟩ := disciplined entry queued
    have lived := kept.lived
    refine ⟨original, s, k, ⟨kept.lineage.extend (List.subset_append_left _ _), kept.counted, ?_⟩,
      kept.positive, kept.budget, by omega⟩
    -- A held entry waits past this step, so its eligible step is the later of the two.
    omega
  | inr requeued =>
    obtain ⟨request, arrived, deferred, within, drawn, rfl⟩ :=
      stepped.requeued_arrived loop deferring entry requeued
    obtain ⟨original, s, k, aged⟩ :=
      stepped.arrival_aged loop traces fresh disciplined request arrived
    exact ⟨original, s, k + 1, loop.requeue_disciplined _ (by simp) request original s k drawn aged
      arrived deferred within requeued⟩

/-- A queue within its capacity stays within it. -/
theorem Stepped.bounded (stepped : loop.Stepped t state next trace)
    (room : (state.retryQueue.length : ℤ) ≤ loop.config.overload.queueCapacity) :
    (next.retryQueue.length : ℤ) ≤ loop.config.overload.queueCapacity := by
  have fewer : trace.held.length ≤ state.retryQueue.length := by
    rw [stepped.held]
    exact List.length_filter_le _ _
  have bounded := loop.handleDeferred_capacity t trace.result.deferred trace.held state.rng
    (by omega)
  rw [stepped.deferred] at bounded
  rw [stepped.queue]
  exact bounded

/-- The candidates of a step are a part of its arrivals. -/
theorem Stepped.candidates_subperm (stepped : loop.Stepped t state next trace) :
    (trace.candidates.map ScheduleCandidate.request).Subperm trace.arrivals := by
  obtain ⟨controller, shaped⟩ := stepped.admitted
  have admitted := (controller.admitScored_partition trace.bestEffort trace.congestion t).1
  have lawful := loop.buildCandidates_partition trace.admitted.admitted
  rw [← shaped] at admitted
  rw [← stepped.candidates] at lawful
  have scored := stepped.scored_requests loop
  rw [← scored]
  have candidates := (List.sublist_append_left _ _).subperm.trans lawful.subperm
  have offered := (List.sublist_append_left _ _).subperm.trans admitted.subperm
  refine candidates.trans (offered.trans ?_)
  rw [stepped.bestEffort]
  exact (List.filter_sublist.map _).subperm

/-- The ids put back in a step are a part of the ids that arrived in it. -/
theorem Stepped.requeued_subperm (stepped : loop.Stepped t state next trace)
    (deferring : loop.Deferring) :
    (trace.requeued.map (fun entry => entry.request.requestId)).Subperm
      (trace.arrivals.map ServiceRequest.requestId) := by
  have parts := loop.handleDeferred_partition t trace.result.deferred trace.held state.rng
  rw [stepped.deferred] at parts
  have requeued := subperm_map Identity.requestId _ _
    ((List.sublist_append_left _ _).subperm.trans parts.subperm)
  simp only [List.map_map, Function.comp_def, ServiceRequest.identity] at requeued
  exact requeued.trans (subperm_map _ _ _
    ((stepped.deferred_offered loop deferring).trans (stepped.candidates_subperm loop)))

/-- With distinct ids, a queue entry's retry count is how often its id was put back, and no id
that was never polled was put back. The first is a count over the whole run, where a lineage is
a path through it. -/
structure Tallied (traces : List StepTrace) (queue : List RetryEntry) : Prop where
  distinct : (queue.map (fun entry => entry.request.requestId)).Nodup
  known : ∀ entry ∈ queue, entry.request.requestId ∈
    (traces.flatMap StepTrace.polled).map ServiceRequest.requestId
  fresh : ∀ requestId, requestId ∉ (traces.flatMap StepTrace.polled).map ServiceRequest.requestId →
    timesRequeued traces requestId = 0
  counted : ∀ entry ∈ queue, entry.request.retryCount =
    timesRequeued traces entry.request.requestId

/-- A step adds what it puts back. -/
theorem timesRequeued_append (traces : List StepTrace) (trace : StepTrace) (requestId : String) :
    timesRequeued (traces ++ [trace]) requestId = timesRequeued traces requestId +
      (trace.requeued.map (fun entry => entry.request.requestId)).count requestId := by
  simp [timesRequeued]

/-- The ids that arrive in a step and those it holds are all different. -/
theorem Stepped.ids_distinct (stepped : loop.Stepped t state next trace)
    (traces : List StepTrace) (tallied : Tallied traces state.retryQueue)
    (distinct : (((traces ++ [trace]).flatMap StepTrace.polled).map
      ServiceRequest.requestId).Nodup) :
    (trace.held.map (fun entry => entry.request.requestId) ++
      trace.arrivals.map ServiceRequest.requestId).Nodup := by
  have queued : (trace.held.map (fun entry => entry.request.requestId) ++
      trace.released.map ServiceRequest.requestId).Perm
        (state.retryQueue.map (fun entry => entry.request.requestId)) := by
    have parts := (List.perm_append_comm.trans (List.filter_append_perm (due t)
      state.retryQueue)).map (fun entry => entry.request.requestId)
    simpa [stepped.held, stepped.released, Function.comp_def] using parts
  have moved : (trace.held.map (fun entry => entry.request.requestId) ++
      trace.arrivals.map ServiceRequest.requestId).Perm
        (trace.polled.map ServiceRequest.requestId ++
          state.retryQueue.map (fun entry => entry.request.requestId)) := by
    rw [StepTrace.arrivals, List.map_append]
    exact (List.perm_append_comm_assoc _ _ _).trans (queued.append_left _)
  rw [List.flatMap_append, List.map_append] at distinct
  obtain ⟨_, polled, apart⟩ := List.nodup_append'.mp distinct
  refine moved.nodup_iff.mpr (List.nodup_append'.mpr ⟨by simpa using polled, tallied.distinct, ?_⟩)
  intro requestId arrived waiting
  obtain ⟨entry, queued, rfl⟩ := List.mem_map.mp waiting
  exact apart (tallied.known entry queued) (by simpa using arrived)

/-- A step adds what it polls. -/
theorem mem_polled_append (traces : List StepTrace) (trace : StepTrace) (requestId : String) :
    requestId ∈ ((traces ++ [trace]).flatMap StepTrace.polled).map ServiceRequest.requestId ↔
      requestId ∈ (traces.flatMap StepTrace.polled).map ServiceRequest.requestId ∨
        requestId ∈ trace.polled.map ServiceRequest.requestId := by
  simp only [List.flatMap_append, List.flatMap_singleton, List.map_append, List.mem_append]

/-- An arrival's id has been polled. -/
theorem Stepped.arrival_known (stepped : loop.Stepped t state next trace) (traces : List StepTrace)
    (tallied : Tallied traces state.retryQueue) (request : ServiceRequest)
    (arrived : request ∈ trace.arrivals) : request.requestId ∈
      ((traces ++ [trace]).flatMap StepTrace.polled).map ServiceRequest.requestId := by
  rw [mem_polled_append]
  cases List.mem_append.mp arrived with
  | inl polled =>
    exact Or.inr (List.mem_map_of_mem polled)
  | inr released =>
    obtain ⟨entry, queued, _, rfl⟩ := (stepped.mem_released loop request).mp released
    exact Or.inl (tallied.known entry queued)

/-- An arrival's retry count is how often its id was put back before the step. -/
theorem Stepped.arrival_counted (stepped : loop.Stepped t state next trace)
    (traces : List StepTrace) (enters : ∀ request ∈ trace.polled, request.retryCount = 0)
    (tallied : Tallied traces state.retryQueue)
    (distinct : (((traces ++ [trace]).flatMap StepTrace.polled).map
      ServiceRequest.requestId).Nodup) (request : ServiceRequest)
    (arrived : request ∈ trace.arrivals) :
    request.retryCount = timesRequeued traces request.requestId := by
  cases List.mem_append.mp arrived with
  | inl polled =>
    have unseen : request.requestId ∉
        (traces.flatMap StepTrace.polled).map ServiceRequest.requestId := by
      rw [List.flatMap_append, List.map_append] at distinct
      intro seen
      exact (List.disjoint_of_nodup_append distinct) seen
        (List.mem_map_of_mem (by simpa using polled))
    rw [enters request polled, tallied.fresh _ unseen, Nat.cast_zero]
  | inr released =>
    obtain ⟨entry, queued, _, rfl⟩ := (stepped.mem_released loop request).mp released
    exact tallied.counted entry queued

/-- A step keeps the tally. What it puts back had arrived, with the tally as its retry count. -/
theorem Stepped.tallied (stepped : loop.Stepped t state next trace) (deferring : loop.Deferring)
    (traces : List StepTrace) (enters : ∀ request ∈ trace.polled, request.retryCount = 0)
    (tallied : Tallied traces state.retryQueue)
    (distinct : (((traces ++ [trace]).flatMap StepTrace.polled).map
      ServiceRequest.requestId).Nodup) :
    Tallied (traces ++ [trace]) next.retryQueue := by
  obtain ⟨heldDistinct, arrivedDistinct, apart⟩ := List.nodup_append'.mp
    (stepped.ids_distinct loop traces tallied distinct)
  have requeued := stepped.requeued_subperm loop deferring
  have requeuedDistinct := subperm_nodup _ _ requeued arrivedDistinct
  constructor
  case distinct =>
    rw [stepped.queue, List.map_append, List.nodup_append']
    exact ⟨heldDistinct, requeuedDistinct, fun requestId held back =>
      apart held (requeued.subset back)⟩
  case known =>
    intro entry member
    rw [stepped.queue] at member
    cases List.mem_append.mp member with
    | inl held =>
      have queued := ((stepped.mem_held loop entry).mp held).1
      exact (mem_polled_append _ _ _).mpr (Or.inl (tallied.known entry queued))
    | inr back =>
      obtain ⟨request, arrived, _, _, _, rfl⟩ := stepped.requeued_arrived loop deferring entry back
      exact stepped.arrival_known loop traces tallied request arrived
  case fresh =>
    intro requestId unseen
    have absent : requestId ∉ trace.requeued.map (fun entry => entry.request.requestId) := by
      intro back
      obtain ⟨request, arrived, rfl⟩ := List.mem_map.mp (requeued.subset back)
      exact unseen (stepped.arrival_known loop traces tallied request arrived)
    rw [timesRequeued_append, List.count_eq_zero_of_not_mem absent,
      tallied.fresh requestId (fun seen => unseen ((mem_polled_append _ _ _).mpr (Or.inl seen)))]
  case counted =>
    intro entry member
    rw [timesRequeued_append]
    rw [stepped.queue] at member
    cases List.mem_append.mp member with
    | inl held =>
      have absent : entry.request.requestId ∉
          trace.requeued.map (fun entry => entry.request.requestId) := fun back =>
        apart (List.mem_map_of_mem held) (requeued.subset back)
      rw [List.count_eq_zero_of_not_mem absent, Nat.add_zero]
      exact tallied.counted entry ((stepped.mem_held loop entry).mp held).1
    | inr back =>
      rw [List.count_eq_one_of_mem requeuedDistinct (List.mem_map_of_mem back)]
      obtain ⟨request, arrived, _, _, _, rfl⟩ := stepped.requeued_arrived loop deferring entry back
      have counted := stepped.arrival_counted loop traces enters tallied distinct request arrived
      simp only [requeue]
      push_cast
      omega

/-- Over a run with distinct ids the tally is kept. -/
theorem run_tallied (deferring : loop.Deferring) (start : ℤ) (count : ℕ)
    (initial final : LoopState σ π φ ο) (vacant : initial.retryQueue = [])
    (traces : List StepTrace) (completed : loop.run start count initial = some (final, traces))
    (enters : ∀ request ∈ traces.flatMap StepTrace.polled, request.retryCount = 0)
    (distinct : ((traces.flatMap StepTrace.polled).map ServiceRequest.requestId).Nodup) :
    Tallied traces final.retryQueue := by
  refine loop.run_invariant start (fun _ traces state =>
    (∀ request ∈ traces.flatMap StepTrace.polled, request.retryCount = 0) →
      ((traces.flatMap StepTrace.polled).map ServiceRequest.requestId).Nodup →
        Tallied traces state.retryQueue) initial ?_ ?_ count final traces completed enters distinct
  · intro _ _
    constructor <;> simp [vacant, timesRequeued]
  · intro count traces state next trace tallied stepped enters distinct
    have before := polled_distinct_before traces trace distinct
    refine stepped.tallied loop deferring traces (fun request polled => enters request ?_)
      (tallied (fun request polled => enters request ?_) before) distinct
    · simpa using Or.inr polled
    · rw [List.flatMap_append]
      exact List.mem_append_left _ polled

/-- Retry discipline. In every state a run reaches, with requests entering at retry count
zero and whatever the schedulers defer: the queue is within its capacity; every entry's
retry count is the length of its lineage, at least one and within its class's budget; its
eligible step is not before the last step, and not after the step it was polled by more
than the rounds of its lineage allow. With distinct ids the retry count is also how often
the id was put back. -/
theorem retry_discipline (loop : ControlLoop σ π φ ο) (deferring : loop.Deferring) (start : ℤ)
    (count : ℕ) (source : σ) (primary : π) (fallback : φ) (optimizer : ο)
    (admissionRng rng : Rng) (final : LoopState σ π φ ο) (traces : List StepTrace)
    (completed : loop.run start count (loop.initial source primary fallback optimizer admissionRng
      rng) = some (final, traces))
    (enters : ∀ request ∈ traces.flatMap StepTrace.polled, request.retryCount = 0) :
    (final.retryQueue.length : ℤ) ≤ loop.config.overload.queueCapacity ∧
      (∀ entry ∈ final.retryQueue, ∃ original s, ∃ k : ℕ,
        Lineage traces original s k entry.request ∧ entry.request.retryCount = k ∧ 1 ≤ k ∧
          entry.request.retryCount ≤ loop.retryBudget entry.request.trafficClass ∧
            start + count - 1 ≤ entry.eligibleStep ∧
              entry.eligibleStep ≤ s + ∑ i ∈ Finset.range k,
                max 1 (min loop.config.overload.retryBackoffMaxSteps
                  (loop.config.overload.retryBackoffBaseSteps * 2 ^ i) +
                    loop.config.overload.retryBackoffBaseSteps)) ∧
        (((traces.flatMap StepTrace.polled).map ServiceRequest.requestId).Nodup →
          ∀ entry ∈ final.retryQueue, entry.request.retryCount =
            timesRequeued traces entry.request.requestId) := by
  refine ⟨?_, ?_, fun distinct =>
    (run_tallied loop deferring start count _ final rfl traces completed enters distinct).counted⟩
  · refine loop.run_invariant start (fun _ _ state =>
      (state.retryQueue.length : ℤ) ≤ loop.config.overload.queueCapacity) _ ?_ ?_ count final traces
      completed
    · simpa [initial] using loop.config.overload.queuePositive.le
    · intro count traces state next trace room stepped
      exact stepped.bounded loop room
  · have disciplined := loop.run_invariant start (fun count traces state =>
      (∀ request ∈ traces.flatMap StepTrace.polled, request.retryCount = 0) →
        ∀ entry ∈ state.retryQueue, ∃ original s k,
          loop.Disciplined traces (start + count) entry original s k) _ ?_ ?_ count final traces
      completed enters
    · intro entry member
      obtain ⟨original, s, k, kept⟩ := disciplined entry member
      have lived := kept.lived
      have future := kept.future
      exact ⟨original, s, k, kept.lineage, kept.counted, kept.positive, kept.budget, future,
        (le_max_left _ _).trans lived⟩
    · simp [initial]
    · intro count traces state next trace earlier stepped enters
      have before := earlier (fun request polled => enters request (by
        rw [List.flatMap_append]
        exact List.mem_append_left _ polled))
      have after := stepped.disciplined loop deferring traces
        (fun request polled => enters request (by simpa using Or.inr polled)) before
      simpa only [Nat.cast_add, Nat.cast_one, ← add_assoc] using after

/-- The first step of the faulty run returns. -/
theorem firstStep_returns : (faultyLoop.run 0 1 (faultyStart
    [[smallRequest "a" .emergencySos 5, smallRequest "b" .photo 5]])).isSome = true := by
  decide +kernel

/-- After the first step one entry is queued, put back once. -/
theorem retry_discipline_faulty :
    ∃ final traces, faultyLoop.run 0 1 (faultyStart
        [[smallRequest "a" .emergencySos 5, smallRequest "b" .photo 5]]) = some (final, traces) ∧
      final.retryQueue.length = 1 ∧ ∀ entry ∈ final.retryQueue,
        entry.request.retryCount = timesRequeued traces entry.request.requestId :=
  ⟨_, _, (Option.some_get firstStep_returns).symm, by decide +kernel,
    (retry_discipline faultyLoop (Contracted.deferring _ (smallLoop.wired_contracted _ _ _ _)) 0 1 _
      evenRng evenRng () evenRng evenRng _ _ (Option.some_get firstStep_returns).symm
      (by decide +kernel)).2.2 (by decide +kernel)⟩

end ControlLoop

end Satsim
