import Satsim.Runtime.Wiring

/-!
# Request conservation

Each stage of a step splits its requests between its outputs. Put together, the stages
move every request that enters a step to exactly one of four places: served, dropped,
rejected, or put back on the retry queue. Over a run this is a ledger round for each
step, so the ledger of the whole run stays balanced whatever the schedulers do.

Requests are followed by identity, which leaves out the retry count. Multisets keep
count of them, so a request that appeared twice somewhere would be noticed. The ledger
and its rounds are those of the library.
-/

namespace Satsim

open Library

/-- The identities of some requests, with multiplicity and without order. -/
def identities (requests : List ServiceRequest) : Multiset Identity :=
  Multiset.ofList (requests.map ServiceRequest.identity)

/-- Those of the requests of some rejections, whatever the reasons. -/
def rejectedIdentities (items : List RejectedRequest) : Multiset Identity :=
  identities (items.map RejectedRequest.request)

/-- Those of a queue. -/
def queuedIdentities (queue : List RetryEntry) : Multiset Identity :=
  identities (queue.map RetryEntry.request)

/-- Lists one after the other add up. -/
theorem identities_append (left right : List ServiceRequest) :
    identities (left ++ right) = identities left + identities right := by
  simp [identities]

/-- The order does not matter. -/
theorem identities_perm (left right : List ServiceRequest) (same : left.Perm right) :
    identities left = identities right :=
  Multiset.coe_eq_coe.mpr (same.map _)

/-- Rejections add up too. -/
theorem rejectedIdentities_append (left right : List RejectedRequest) :
    rejectedIdentities (left ++ right) = rejectedIdentities left + rejectedIdentities right := by
  simp [rejectedIdentities, identities_append]

/-- And queues. -/
theorem queuedIdentities_append (left right : List RetryEntry) :
    queuedIdentities (left ++ right) = queuedIdentities left + queuedIdentities right := by
  simp [queuedIdentities, identities_append]

namespace ControlLoop

variable {σ π φ ο : Type} (loop : ControlLoop σ π φ ο)

variable {t : ℤ} {state next : LoopState σ π φ ο} {trace : StepTrace}

/-- The lane and the spillover by id split the arrivals: served by the lane, dropped by the
lane, or best effort. Distinct ids are needed, since the spillover is found by id: a twin of a
spilled request would count twice. -/
theorem Stepped.lane_partition (stepped : loop.Stepped t state next trace)
    (distinct : (trace.arrivals.map ServiceRequest.requestId).Nodup) :
    (trace.decision.admitted ++ trace.emergencyDrops.map RejectedRequest.request ++
      trace.bestEffort.map ScoredRequest.request).Perm trace.arrivals := by
  have scored := stepped.scored_requests
  have split : (trace.decision.admitted ++ trace.decision.shed.map RejectedRequest.request).Perm
      (trace.arrivals.filter isUrgent) := by
    rw [stepped.decision, scored]
    exact EmergencyLane.reserve_partition loop.config.emergency loop.regulatory loop.config.scoring
      (trace.arrivals.filter isUrgent) trace.snapshot trace.plan t
  -- The shed requests that spill, and those the lane drops.
  generalize spilled : trace.decision.shed.filter StepTrace.spills = spill
  have shed : (trace.emergencyDrops ++ spill).Perm trace.decision.shed := by
    rw [← spilled]
    exact List.perm_append_comm.trans (List.filter_append_perm StepTrace.spills trace.decision.shed)
  have urgent : (trace.decision.admitted ++ trace.emergencyDrops.map RejectedRequest.request ++
      spill.map RejectedRequest.request).Perm (trace.arrivals.filter isUrgent) := by
    rw [List.append_assoc, ← List.map_append]
    exact ((shed.map RejectedRequest.request).append_left _).trans split
  have urgentDistinct : ((trace.arrivals.filter isUrgent).map ServiceRequest.requestId).Nodup :=
    distinct.sublist (List.filter_sublist.map _)
  have recovered := filter_keys ServiceRequest.requestId _ _ _ urgent urgentDistinct
  have bestEffort : trace.bestEffort.map ScoredRequest.request = trace.arrivals.filter
      (fun request => !isUrgent request || decide (request.requestId ∈
        (spill.map RejectedRequest.request).map ServiceRequest.requestId)) := by
    rw [stepped.bestEffort, bestEffortOf, spilled, ← scored, List.filter_map]
    simp only [List.map_map, Function.comp_def]
  have offered := filter_or_perm (fun request : ServiceRequest => !isUrgent request)
    (fun request => decide (request.requestId ∈
      (spill.map RejectedRequest.request).map ServiceRequest.requestId)) trace.arrivals
  rw [← bestEffort] at offered
  simp only [Bool.not_not] at offered
  generalize trace.decision.admitted ++ trace.emergencyDrops.map RejectedRequest.request = lane
    at urgent ⊢
  calc (lane ++ trace.bestEffort.map ScoredRequest.request).Perm
        (lane ++ (trace.arrivals.filter (fun request => !isUrgent request) ++
          spill.map RejectedRequest.request)) :=
        (offered.symm.trans (recovered.append_left _)).append_left _
    List.Perm _ (trace.arrivals.filter (fun request => !isUrgent request) ++
        (lane ++ spill.map RejectedRequest.request)) := List.perm_append_comm_assoc _ _ _
    List.Perm _ (trace.arrivals.filter (fun request => !isUrgent request) ++
        trace.arrivals.filter isUrgent) := urgent.append_left _
    List.Perm _ trace.arrivals :=
        List.perm_append_comm.trans (List.filter_append_perm isUrgent trace.arrivals)

/-- Whatever mode a step is in, its result settles the candidates between served, deferred and
dropped. In safe mode that is by construction. -/
theorem Stepped.result_partition (stepped : loop.Stepped t state next trace)
    (contracted : loop.Contracted) :
    (trace.result.served ++ trace.result.deferred ++
      trace.result.dropped.map RejectedRequest.request).Perm
        (trace.candidates.map ScheduleCandidate.request) := by
  by_cases safe : trace.mode = .safe
  · simp [stepped.safe_result loop safe]
  · exact (stepped.settles loop contracted safe).partition

/-- Best-effort requests end as rejected or as candidates, and candidates as served,
dropped or deferred. -/
theorem Stepped.bestEffort_identities (stepped : loop.Stepped t state next trace)
    (contracted : loop.Contracted) :
    identities (trace.bestEffort.map ScoredRequest.request) =
      identities trace.result.served + rejectedIdentities trace.result.dropped +
        rejectedIdentities trace.rejected + identities trace.result.deferred := by
  obtain ⟨controller, admitted⟩ := stepped.admitted
  have shaped := identities_perm _ _
    (controller.admitScored_partition trace.bestEffort trace.congestion t).1
  rw [← admitted] at shaped
  have lawful := identities_perm _ _ (loop.buildCandidates_partition trace.admitted.admitted)
  rw [← stepped.candidates] at lawful
  have settled := identities_perm _ _ (stepped.result_partition loop contracted)
  simp only [identities_append] at shaped lawful settled
  rw [← shaped, ← lawful, ← settled]
  simp only [StepTrace.rejected, rejectedIdentities_append]
  simp only [rejectedIdentities]
  abel

/-- Deferred requests are requeued or dropped. The retry count goes up, and the identity
stays. -/
theorem Stepped.deferred_identities (stepped : loop.Stepped t state next trace) :
    identities trace.result.deferred =
      queuedIdentities trace.requeued + rejectedIdentities trace.requeueDrops := by
  have parts := loop.handleDeferred_partition t trace.result.deferred trace.held state.rng
  rw [stepped.deferred] at parts
  simp only [identities, queuedIdentities, rejectedIdentities, List.map_map, Function.comp_def,
    Multiset.coe_add]
  exact (Multiset.coe_eq_coe.mpr parts).symm

/-- The queue before a step is what it holds and what it releases; nothing expires in the
queue. -/
theorem Stepped.queue_split (stepped : loop.Stepped t state next trace) :
    queuedIdentities state.retryQueue =
      queuedIdentities trace.held + identities trace.released := by
  have parts := List.perm_append_comm.trans (List.filter_append_perm (due t) state.retryQueue)
  have moved := identities_perm _ _ (parts.map RetryEntry.request)
  rw [List.map_append, identities_append] at moved
  rw [stepped.held, stepped.released]
  exact moved.symm

/-- The ledger of a run: what its traces polled, served, dropped and rejected, and what the
queue holds. Balanced means that the first is the sum of the others. -/
def ledger (traces : List StepTrace) (queue : List RetryEntry) : Ledger Identity where
  arrived := identities (traces.flatMap StepTrace.polled)
  served := identities (traces.flatMap StepTrace.served)
  dropped := rejectedIdentities (traces.flatMap StepTrace.dropped)
  rejected := rejectedIdentities (traces.flatMap StepTrace.rejected)
  held := queuedIdentities queue

/-- What the queue holds has arrived, so the arrivals of a step have distinct ids when
everything polled has. -/
theorem Stepped.arrivals_distinct (stepped : loop.Stepped t state next trace)
    (traces : List StepTrace) (balanced : (ledger traces state.retryQueue).Balanced)
    (distinct : (((traces ++ [trace]).flatMap StepTrace.polled).map
      ServiceRequest.requestId).Nodup) :
    (trace.arrivals.map ServiceRequest.requestId).Nodup := by
  have ids (requests : List ServiceRequest) : (identities requests).map Identity.requestId =
      Multiset.ofList (requests.map ServiceRequest.requestId) := by
    simp [identities, ServiceRequest.identity, Function.comp_def]
  have released : identities trace.released ≤ identities (traces.flatMap StepTrace.polled) := by
    calc identities trace.released
        ≤ queuedIdentities state.retryQueue := by
          rw [stepped.queue_split]
          exact Multiset.le_add_left _ _
      _ ≤ (ledger traces state.retryQueue).arrived := by
          rw [balanced]
          exact Multiset.le_add_left _ _
  have entered : identities trace.arrivals ≤
      identities ((traces ++ [trace]).flatMap StepTrace.polled) := by
    simp only [StepTrace.arrivals, List.flatMap_append, List.flatMap_singleton, identities_append]
    rw [add_comm]
    exact Multiset.add_le_add_right released
  have unique : ((identities ((traces ++ [trace]).flatMap StepTrace.polled)).map
      Identity.requestId).Nodup := by
    rw [ids]
    exact distinct
  have moved := Multiset.nodup_of_le (Multiset.map_le_map entered) unique
  rwa [ids] at moved

/-- A step is a round of the ledger: what was polled goes somewhere, and what was queued goes
somewhere or stays. -/
theorem Stepped.round (stepped : loop.Stepped t state next trace) (contracted : loop.Contracted)
    (traces : List StepTrace)
    (distinct : (trace.arrivals.map ServiceRequest.requestId).Nodup) :
    Ledger.Round (ledger traces state.retryQueue) (ledger (traces ++ [trace]) next.retryQueue)
      (identities trace.polled) (identities trace.served) (rejectedIdentities trace.dropped)
      (rejectedIdentities trace.rejected) where
  settled := by
    refine ⟨identities trace.released, queuedIdentities trace.held,
      queuedIdentities trace.requeued, stepped.queue_split, ?_, ?_⟩
    · have lane := identities_perm _ _ (stepped.lane_partition loop distinct)
      rw [identities_append, identities_append, stepped.bestEffort_identities loop contracted,
        stepped.deferred_identities] at lane
      simp only [StepTrace.arrivals, identities_append] at lane
      rw [← lane]
      simp only [StepTrace.served, StepTrace.dropped, identities_append, rejectedIdentities_append]
      simp only [rejectedIdentities]
      abel
    · simp only [ledger, stepped.queue, queuedIdentities_append]
  arrived := by simp [ledger, identities_append]
  served := by simp [ledger, identities_append]
  dropped := by simp [ledger, rejectedIdentities_append]
  rejected := by simp [ledger, rejectedIdentities_append]

/-- The ledger of every run is balanced, when no id is polled twice. Rounds keep the balance,
and the empty ledger is balanced. -/
theorem run_balanced (contracted : loop.Contracted) (start : ℤ) (count : ℕ)
    (initial final : LoopState σ π φ ο) (vacant : initial.retryQueue = []) (traces : List StepTrace)
    (completed : loop.run start count initial = some (final, traces))
    (distinct : ((traces.flatMap StepTrace.polled).map ServiceRequest.requestId).Nodup) :
    (ledger traces final.retryQueue).Balanced := by
  refine loop.run_invariant start (fun _ traces state =>
    ((traces.flatMap StepTrace.polled).map ServiceRequest.requestId).Nodup →
      (ledger traces state.retryQueue).Balanced) initial ?_ ?_ count final traces completed distinct
  · intro _
    have nothing : ledger [] initial.retryQueue = Ledger.empty := by
      rw [vacant]
      rfl
    exact nothing ▸ Ledger.empty_balanced
  · intro count traces state next trace balanced stepped distinct
    have before := polled_distinct_before traces trace distinct
    have entered := stepped.arrivals_distinct loop traces (balanced before) distinct
    exact Ledger.round_balanced _ _ _ _ _ _ (stepped.round loop contracted traces entered)
      (balanced before)

/-- So no two arrivals of a step have the same id. -/
theorem run_arrivals_distinct (contracted : loop.Contracted) (start : ℤ) (count : ℕ)
    (initial final : LoopState σ π φ ο) (vacant : initial.retryQueue = []) (traces : List StepTrace)
    (completed : loop.run start count initial = some (final, traces))
    (distinct : ((traces.flatMap StepTrace.polled).map ServiceRequest.requestId).Nodup) :
    ∀ trace ∈ traces, (trace.arrivals.map ServiceRequest.requestId).Nodup := by
  refine loop.run_reached start (fun _ traces _ =>
    ((traces.flatMap StepTrace.polled).map ServiceRequest.requestId).Nodup →
      ∀ trace ∈ traces, (trace.arrivals.map ServiceRequest.requestId).Nodup)
    initial (by simp) ?_ count final traces completed distinct
  intro count traces state next trace reached earlier stepped distinct
  have before := polled_distinct_before traces trace distinct
  have balanced := loop.run_balanced contracted start count initial state vacant traces reached
    before
  rw [List.forall_mem_append]
  exact ⟨earlier before, by simpa using stepped.arrivals_distinct loop traces balanced distinct⟩

/-- The counters of a step are the lengths of what its trace lists, so conservation can be read
off the telemetry. -/
theorem Stepped.counted (stepped : loop.Stepped t state next trace) :
    trace.counters.served = trace.served.length ∧
      trace.counters.dropped = trace.dropped.length ∧
        trace.counters.rejected = trace.rejected.length := by
  rw [stepped.counters]
  exact ⟨rfl, rfl, rfl⟩

/-- Over a run the counters add up to the lengths of what the traces list. -/
theorem run_counted (start : ℤ) (count : ℕ) (initial final : LoopState σ π φ ο)
    (traces : List StepTrace) (completed : loop.run start count initial = some (final, traces)) :
    (traces.map (fun trace => trace.counters.served)).sum =
        (traces.flatMap StepTrace.served).length ∧
      (traces.map (fun trace => trace.counters.dropped)).sum =
          (traces.flatMap StepTrace.dropped).length ∧
        (traces.map (fun trace => trace.counters.rejected)).sum =
          (traces.flatMap StepTrace.rejected).length := by
  have counted (trace : StepTrace) (member : trace ∈ traces) :=
    (loop.run_stepped start count initial final traces completed trace member).elim
      (fun _ rest => rest.elim (fun _ stepped => stepped.counted loop))
  simp only [List.length_flatMap]
  refine ⟨?_, ?_, ?_⟩ <;> congr 1 <;> apply List.map_congr_left <;> intro trace member
  · exact (counted trace member).1
  · exact (counted trace member).2.1
  · exact (counted trace member).2.2

/-- Request conservation. In every run over requests with distinct ids, with any in-repo
primary, the heuristic fallback and any faults, every polled request is served, dropped,
rejected or queued exactly once in total, under the identity it was polled with, and the
cumulative counters and the queue add up to the requests polled. -/
theorem request_conservation (loop : ControlLoop σ Rng Rng ο) (primary : InRepoScheduler)
    (primaryFaults : ℤ → Option Rng) (degradeMinFraction : ℚ) (fallbackFaults : ℤ → Option Rng)
    (start : ℤ) (count : ℕ) (source : σ) (optimizer : ο)
    (schedulerRng fallbackRng admissionRng rng : Rng) (final : LoopState σ Rng Rng ο)
    (traces : List StepTrace)
    (completed : (loop.wired primary primaryFaults degradeMinFraction fallbackFaults).run start
      count ((loop.wired primary primaryFaults degradeMinFraction fallbackFaults).initial source
        schedulerRng fallbackRng optimizer admissionRng rng) = some (final, traces))
    (distinct : ((traces.flatMap StepTrace.polled).map ServiceRequest.requestId).Nodup) :
    (∀ request ∈ traces.flatMap StepTrace.polled,
      ((traces.flatMap StepTrace.served).map ServiceRequest.identity).count request.identity +
        ((traces.flatMap StepTrace.dropped).map (fun item => item.request.identity)).count
          request.identity +
        ((traces.flatMap StepTrace.rejected).map (fun item => item.request.identity)).count
          request.identity +
        (final.retryQueue.map (fun entry => entry.request.identity)).count request.identity = 1) ∧
      (traces.map (fun trace => trace.counters.served)).sum +
        (traces.map (fun trace => trace.counters.dropped)).sum +
        (traces.map (fun trace => trace.counters.rejected)).sum + final.retryQueue.length =
          (traces.flatMap StepTrace.polled).length := by
  have contracted := loop.wired_contracted primary primaryFaults degradeMinFraction fallbackFaults
  have balanced := run_balanced _ contracted start count _ final rfl traces completed distinct
  constructor
  · intro request polled
    have once : (ledger traces final.retryQueue).arrived.Nodup := by
      have keyed : ((traces.flatMap StepTrace.polled).map ServiceRequest.identity).Nodup := by
        apply List.Nodup.of_map Identity.requestId
        simpa [Function.comp_def, ServiceRequest.identity] using distinct
      exact Multiset.coe_nodup.mpr keyed
    have placed := Ledger.places_once _ balanced once request.identity
      (Multiset.mem_coe.mpr (List.mem_map.mpr ⟨request, polled, rfl⟩))
    simpa [Ledger.places, ledger, identities, rejectedIdentities, queuedIdentities,
      Function.comp_def] using placed
  · obtain ⟨served, dropped, rejected⟩ := run_counted _ start count _ final traces completed
    rw [served, dropped, rejected]
    simpa [ledger, identities, rejectedIdentities, queuedIdentities] using
      Ledger.card_places _ balanced

/-- In the faulty run the lane serves one request at once; the other is deferred in safe
mode and served in the second step. -/
theorem request_conservation_faulty :
    faultyRun.2.map StepTrace.mode = [.safe, .normal, .normal] ∧
      (faultyRun.2.map (fun trace => trace.counters.served)).sum +
        (faultyRun.2.map (fun trace => trace.counters.dropped)).sum +
        (faultyRun.2.map (fun trace => trace.counters.rejected)).sum +
          faultyRun.1.retryQueue.length = (faultyRun.2.flatMap StepTrace.polled).length :=
  ⟨by decide +kernel, (request_conservation smallLoop (.heuristic (1 / 4)) firstStepFault
    (1 / 4) firstStepFault 0 3 _ () evenRng evenRng evenRng evenRng faultyRun.1 faultyRun.2
    (Option.some_get faultyRun_returns).symm (by decide +kernel)).2⟩

end ControlLoop

end Satsim
