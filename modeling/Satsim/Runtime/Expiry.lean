import Satsim.Runtime.Wiring

/-!
# Expiry

The lane and every scheduler refuse a request whose deadline has passed, and the requeue
code relies on that. Safe mode builds its own result, which defers every candidate,
expired ones included, so there an expired request can be put back. These results say
when that happens, and that in every other mode it does not.

The condition is put in terms of the step before anything is decided: the fault plans,
the candidates, their budgets and the room beside the entries in backoff. It is an
equivalence, so nothing else can put an expired request back.
-/

namespace Satsim

namespace ControlLoop

variable {σ π φ ο : Type} (loop : ControlLoop σ π φ ο)

variable {t : ℤ} {state next : LoopState σ π φ ο} {trace : StepTrace}

/-- No request is put back after its deadline, and every expired candidate is dropped or
rejected in the step. The deadline step itself is still in time. -/
structure ResolvesExpired (t : ℤ) (trace : StepTrace) : Prop where
  timely : ∀ entry ∈ trace.requeued, t ≤ entry.request.deadlineStep
  resolved : ∀ candidate ∈ trace.candidates, candidate.request.deadlineStep < t →
    ∃ item ∈ trace.dropped ++ trace.rejected, item.request = candidate.request

/-- The requests a step puts back are those of its deferred ones that find room beside the held
entries. The deadline plays no part in it. -/
theorem Stepped.requeued_requests (stepped : loop.Stepped t state next trace) :
    trace.requeued.map RetryEntry.request =
      (loop.readmitted trace.held trace.result.deferred).map
        (fun request => { request with retryCount := request.retryCount + 1 }) := by
  have readmitted := loop.handleDeferred_readmitted t trace.result.deferred trace.held state.rng
  rwa [stepped.deferred] at readmitted

/-- The requests put back are timely when those that find room are. -/
theorem Stepped.requeued_timely (stepped : loop.Stepped t state next trace) :
    (∀ entry ∈ trace.requeued, t ≤ entry.request.deadlineStep) ↔
      ∀ request ∈ loop.readmitted trace.held trace.result.deferred, t ≤ request.deadlineStep := by
  have same := congrArg (List.map ServiceRequest.deadlineStep) (stepped.requeued_requests loop)
  simp only [List.map_map, Function.comp_def] at same
  calc (∀ entry ∈ trace.requeued, t ≤ entry.request.deadlineStep)
      ↔ ∀ deadline ∈ trace.requeued.map (fun entry => entry.request.deadlineStep),
          t ≤ deadline := by simp
    _ ↔ ∀ request ∈ loop.readmitted trace.held trace.result.deferred, t ≤ request.deadlineStep := by
        rw [same]
        simp

/-- A result that settles its candidates drops every expired one, so in the first two modes a
step resolves them. -/
theorem Stepped.settled_expired (stepped : loop.Stepped t state next trace)
    (settled : Settles trace.candidates trace.remaining t trace.result) :
    ResolvesExpired t trace where
  timely := by
    rw [stepped.requeued_timely loop]
    intro request found
    have deferred := (List.mem_filter.mp (List.mem_of_mem_take found)).1
    exact settled.timely request (List.mem_append_right _ deferred)
  resolved := by
    intro candidate offered expired
    have placed := settled.partition.symm.subset (List.mem_map_of_mem offered)
    cases List.mem_append.mp placed with
    | inl kept =>
      exact absurd (settled.timely _ kept) (not_le.mpr expired)
    | inr dropped =>
      obtain ⟨item, listed, same⟩ := List.mem_map.mp dropped
      exact ⟨item, List.mem_append_left _ (List.mem_append_left _ (List.mem_append_left _ listed)),
        same⟩

/-- A deferred request that is not put back is dropped, so a step that puts back no
expired request resolves all it defers. -/
theorem Stepped.deferred_expired (stepped : loop.Stepped t state next trace)
    (timely : ∀ entry ∈ trace.requeued, t ≤ entry.request.deadlineStep)
    (request : ServiceRequest) (deferred : request ∈ trace.result.deferred)
    (expired : request.deadlineStep < t) : ∃ item ∈ trace.dropped, item.request = request := by
  have resolved := loop.handleDeferred_resolved t trace.result.deferred trace.held state.rng
    request deferred
  rw [stepped.deferred] at resolved
  rcases resolved with ⟨item, dropped, same⟩ | ⟨delay, requeued⟩
  · exact ⟨item, List.mem_append_right _ dropped, same⟩
  · exact absurd (timely _ requeued) (not_le.mpr expired)

/-- In safe mode the candidates that find room are put back, whatever their deadline. -/
theorem Stepped.safe_expired (stepped : loop.Stepped t state next trace)
    (safe : trace.mode = .safe) :
    ResolvesExpired t trace ↔
      ∀ request ∈ loop.readmitted trace.held (trace.candidates.map ScheduleCandidate.request),
        t ≤ request.deadlineStep := by
  have deferred := congrArg SchedulingResult.deferred (stepped.safe_result loop safe)
  have timely := stepped.requeued_timely loop
  rw [deferred] at timely
  refine ⟨fun resolves => timely.mp resolves.timely, fun found => ?_⟩
  refine ⟨timely.mpr found, ?_⟩
  intro candidate offered expired
  obtain ⟨item, dropped, same⟩ := stepped.deferred_expired loop (timely.mpr found)
    candidate.request (by rw [deferred]; exact List.mem_map_of_mem offered) expired
  exact ⟨item, List.mem_append_left _ dropped, same⟩

/-- The scheduling stage of an equipped loop is in safe mode in the steps in which both
fault plans name a fault. -/
theorem equipped_safe (loop : ControlLoop σ Rng Rng ο) (primary fallback : InRepoScheduler)
    (primaryFaults fallbackFaults : ℤ → Option Rng) (t : ℤ) (state next : LoopState σ Rng Rng ο)
    (trace : StepTrace)
    (stepped : (loop.equipped primary fallback primaryFaults fallbackFaults).Stepped t state next
      trace) :
    trace.mode = .safe ↔ (primaryFaults t).isSome ∧ (fallbackFaults t).isSome := by
  rcases runScheduler_inv _ _ _ _ _ _ _ stepped.scheduled with
    ⟨mode, returned⟩ | ⟨mode, _, returned⟩ | ⟨mode, raised, again, _⟩
  · have healthy := (ResourceScheduler.withFaults_returned _ _ _ _ _ _ _ _ returned).1
    dsimp only at mode
    simp [mode, healthy]
  · have healthy := (ResourceScheduler.withFaults_returned _ _ _ _ _ _ _ _ returned).1
    dsimp only at mode
    simp [mode, healthy]
  · dsimp only at mode
    simp [mode, InRepoScheduler.withFaults_raised _ _ _ _ _ _ _ raised,
      InRepoScheduler.withFaults_raised _ _ _ _ _ _ _ again]

/-- In every step of every run, whatever in-repo schedulers are wired and whichever raise,
expired requests are resolved and none is put back, if and only if: where both schedulers
raise, none of the candidates that are within their budget and find room beside the
entries still in backoff has expired. -/
theorem expired_resolved_iff (loop : ControlLoop σ Rng Rng ο) (primary fallback : InRepoScheduler)
    (primaryFaults fallbackFaults : ℤ → Option Rng) (start : ℤ) (count : ℕ) (source : σ)
    (optimizer : ο) (schedulerRng fallbackRng admissionRng rng : Rng)
    (final : LoopState σ Rng Rng ο) (traces : List StepTrace)
    (completed : (loop.equipped primary fallback primaryFaults fallbackFaults).run start count
      ((loop.equipped primary fallback primaryFaults fallbackFaults).initial source schedulerRng
        fallbackRng optimizer admissionRng rng) = some (final, traces)) :
    ∀ trace ∈ traces, ResolvesExpired trace.step trace ↔
      ((primaryFaults trace.step).isSome → (fallbackFaults trace.step).isSome →
        ∀ request ∈ loop.readmitted trace.held (trace.candidates.map ScheduleCandidate.request),
          trace.step ≤ request.deadlineStep) := by
  intro trace member
  obtain ⟨state, next, stepped⟩ := run_stepped _ start count _ final traces completed trace member
  have mode := equipped_safe loop primary fallback primaryFaults fallbackFaults _ _ _ _ stepped
  by_cases safe : trace.mode = .safe
  · have both := mode.mp safe
    simp only [both.1, both.2, true_imp_iff]
    exact stepped.safe_expired _ safe
  · have settled := stepped.settles _ (loop.equipped_contracted primary fallback primaryFaults
      fallbackFaults) safe
    refine ⟨fun _ first second => absurd (mode.mpr ⟨first, second⟩) safe, fun _ => ?_⟩
    exact stepped.settled_expired _ settled

/-- In the faulty run safe mode comes first, while nothing has expired. -/
theorem expired_resolved_faulty : (∃ trace ∈ faultyRun.2, trace.mode = .safe) ∧
    ∀ trace ∈ faultyRun.2, ResolvesExpired trace.step trace := by
  have readmitted : ∀ trace ∈ faultyRun.2, (firstStepFault trace.step).isSome →
      (firstStepFault trace.step).isSome → ∀ request ∈ smallLoop.readmitted trace.held
        (trace.candidates.map ScheduleCandidate.request), trace.step ≤ request.deadlineStep := by
    decide +kernel
  constructor
  · decide +kernel
  · intro trace member
    apply (expired_resolved_iff smallLoop (.heuristic (1 / 4)) (.heuristic (1 / 4))
      firstStepFault firstStepFault 0 3 _ () evenRng evenRng evenRng evenRng _ _
      (Option.some_get faultyRun_returns).symm trace member).mpr
    exact readmitted trace member

/-- Both schedulers raise in every step. -/
def failingLoop : ControlLoop (List (List ServiceRequest)) Rng Rng Unit :=
  smallLoop.equipped (.heuristic (1 / 4)) (.heuristic (1 / 4)) (fun _ => some evenRng)
    (fun _ => some evenRng)

/-- The start of a run over one photo that must be served in the step it arrives in. -/
def failingStart : LoopState (List (List ServiceRequest)) Rng Rng Unit :=
  failingLoop.initial [[smallRequest "a" .photo 0]] evenRng evenRng () evenRng evenRng

/-- Its two steps return, which evaluation finds. -/
theorem failingRun_returns : (failingLoop.run 0 2 failingStart).isSome = true := by decide +kernel

/-- A photo with a deadline of its arrival step is put back in that step, and put back
again in the next, when it has expired. -/
theorem expired_requeued : ∃ final traces, failingLoop.run 0 2 failingStart = some (final, traces) ∧
    ∃ trace ∈ traces, ¬ResolvesExpired trace.step trace ∧
      ∃ entry ∈ trace.requeued, entry.request.deadlineStep < trace.step := by
  refine ⟨_, _, (Option.some_get failingRun_returns).symm, ?_⟩
  have late : ∃ trace ∈ ((failingLoop.run 0 2 failingStart).get failingRun_returns).2,
      ∃ entry ∈ trace.requeued, entry.request.deadlineStep < trace.step := by decide +kernel
  obtain ⟨trace, member, entry, requeued, expired⟩ := late
  exact ⟨trace, member,
    fun resolves => absurd (resolves.timely entry requeued) (not_le.mpr expired),
    entry, requeued, expired⟩

end ControlLoop

end Satsim
