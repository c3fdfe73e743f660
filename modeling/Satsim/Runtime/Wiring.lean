import Satsim.Network.Constellation
import Satsim.Network.Regulatory
import Satsim.Runtime.Step
import Satsim.Scheduling.Selection

/-!
# Wiring the schedulers

The loop is stated for any primary and fallback scheduler. Here it is wired with those
of the repository, each allowed to raise in any steps, which is how normal operation,
fallback and safe mode come to alternate. The concrete runs of later modules are runs of
the small configuration, wired at the end.

A fault plan says in which steps a scheduler raises, and with which state it is left.
Since any plan is allowed, a result about all of them covers every history of faults,
whatever may have caused them.
-/

namespace Satsim

namespace ControlLoop

variable {σ π φ ο : Type} (loop : ControlLoop σ π φ ο)

/-- A primary and a fallback scheduler that both keep the contract. It is all that conservation
asks of them. -/
structure Contracted : Prop where
  primary : loop.scheduler.KeepsContract
  fallback : loop.fallbackScheduler.KeepsContract

/-- A primary and a fallback scheduler that defer only what they were offered. This is weaker,
and enough for the retry queue. -/
structure Deferring : Prop where
  primary : loop.scheduler.DefersOffered
  fallback : loop.fallbackScheduler.DefersOffered

/-- Schedulers that keep the contract do so. -/
theorem Contracted.deferring (contracted : loop.Contracted) : loop.Deferring where
  primary := contracted.primary.defersOffered
  fallback := contracted.fallback.defersOffered

/-- A primary and a fallback scheduler that both keep the budgets of distinct beams. -/
structure Budgeted : Prop where
  primary : loop.scheduler.KeepsBudgets
  fallback : loop.fallbackScheduler.KeepsBudgets

/-- The loop with two in-repo schedulers; each raises in the steps its fault plan names,
leaving the state the plan says. -/
def equipped (loop : ControlLoop σ Rng Rng ο) (primary fallback : InRepoScheduler)
    (primaryFaults fallbackFaults : ℤ → Option Rng) : ControlLoop σ Rng Rng ο :=
  { loop with
    scheduler := primary.port.withFaults primaryFaults
    fallbackScheduler := fallback.port.withFaults fallbackFaults }

/-- In-repo schedulers keep the contract under any fault plans. -/
theorem equipped_contracted (loop : ControlLoop σ Rng Rng ο) (primary fallback : InRepoScheduler)
    (primaryFaults fallbackFaults : ℤ → Option Rng) :
    (loop.equipped primary fallback primaryFaults fallbackFaults).Contracted where
  primary := ResourceScheduler.withFaults_keepsContract _ _ primary.port_keepsContract
  fallback := ResourceScheduler.withFaults_keepsContract _ _ fallback.port_keepsContract

/-- And the budgets. -/
theorem equipped_budgeted (loop : ControlLoop σ Rng Rng ο) (primary fallback : InRepoScheduler)
    (primaryFaults fallbackFaults : ℤ → Option Rng) :
    (loop.equipped primary fallback primaryFaults fallbackFaults).Budgeted where
  primary := ResourceScheduler.withFaults_keepsBudgets _ _ primary.port_keepsBudgets
  fallback := ResourceScheduler.withFaults_keepsBudgets _ _ fallback.port_keepsBudgets

/-- The loop as the repository wires it: the heuristic scheduler is the fallback. -/
def wired (loop : ControlLoop σ Rng Rng ο) (primary : InRepoScheduler)
    (primaryFaults : ℤ → Option Rng) (degradeMinFraction : ℚ) (fallbackFaults : ℤ → Option Rng) :
    ControlLoop σ Rng Rng ο :=
  loop.equipped primary (.heuristic degradeMinFraction) primaryFaults fallbackFaults

/-- In particular as the repository wires them. -/
theorem wired_contracted (loop : ControlLoop σ Rng Rng ο) (primary : InRepoScheduler)
    (primaryFaults : ℤ → Option Rng) (degradeMinFraction : ℚ) (fallbackFaults : ℤ → Option Rng) :
    (loop.wired primary primaryFaults degradeMinFraction fallbackFaults).Contracted :=
  loop.equipped_contracted _ _ _ _

variable {t : ℤ} {state next : LoopState σ π φ ο} {trace : StepTrace}

/-- Outside safe mode a step's result settles its candidates, whichever of the two schedulers it
came from. -/
theorem Stepped.settles (stepped : loop.Stepped t state next trace) (contracted : loop.Contracted)
    (operating : trace.mode ≠ .safe) :
    Settles trace.candidates trace.remaining t trace.result := by
  rcases loop.runScheduler_inv _ _ _ _ _ _ stepped.scheduled with
    ⟨_, called⟩ | ⟨_, _, called⟩ | ⟨safe, _⟩
  · exact contracted.primary _ _ _ _ _ _ called
  · exact contracted.fallback _ _ _ _ _ _ called
  · exact absurd safe operating

/-- In safe mode both schedulers raised and every candidate is deferred. -/
theorem Stepped.safe_result (stepped : loop.Stepped t state next trace)
    (safe : trace.mode = .safe) :
    trace.result = { deferred := trace.candidates.map ScheduleCandidate.request } := by
  rcases loop.runScheduler_inv _ _ _ _ _ _ stepped.scheduled with
    ⟨mode, _⟩ | ⟨mode, _⟩ | ⟨_, _, _, deferred⟩
  · exact absurd (mode.symm.trans safe) (by decide)
  · exact absurd (mode.symm.trans safe) (by decide)
  · exact deferred

/-- What a step defers is a part of its candidates, in every mode. -/
theorem Stepped.deferred_offered (stepped : loop.Stepped t state next trace)
    (deferring : loop.Deferring) :
    trace.result.deferred.Subperm (trace.candidates.map ScheduleCandidate.request) := by
  rcases loop.runScheduler_inv _ _ _ _ _ _ stepped.scheduled with
    ⟨_, called⟩ | ⟨_, _, called⟩ | ⟨safe, _⟩
  · exact deferring.primary _ _ _ _ _ _ called
  · exact deferring.fallback _ _ _ _ _ _ called
  · rw [stepped.safe_result loop safe]

/-- A requeued entry is an arrival that was deferred within its budget, counted once
more, and waits for a backoff of its retry count. -/
theorem Stepped.requeued_arrived (stepped : loop.Stepped t state next trace)
    (deferring : loop.Deferring) (entry : RetryEntry) (member : entry ∈ trace.requeued) :
    ∃ request ∈ trace.arrivals, request ∈ trace.result.deferred ∧
      request.retryCount < loop.retryBudget request.trafficClass ∧
        ∃ drawn, entry = requeue t request (loop.backoffSteps request.retryCount drawn).1 := by
  have requeued : entry ∈
      (loop.handleDeferred t trace.result.deferred trace.held state.rng).1 := by
    rw [stepped.deferred]
    exact member
  obtain ⟨request, deferred, within, drawn⟩ := loop.handleDeferred_requeued _ _ _ _ entry requeued
  obtain ⟨candidate, offered, rfl⟩ := List.mem_map.mp
    ((stepped.deferred_offered loop deferring).subset deferred)
  exact ⟨_, (stepped.candidate_arrived loop candidate offered).1, deferred, within, drawn⟩

/-- A released request was an entry of the queue that is due. -/
theorem Stepped.mem_released (stepped : loop.Stepped t state next trace)
    (request : ServiceRequest) :
    request ∈ trace.released ↔
      ∃ entry ∈ state.retryQueue, entry.eligibleStep ≤ t ∧ entry.request = request := by
  simp [stepped.released, due, and_assoc]

/-- A held entry was in the queue and is not due. -/
theorem Stepped.mem_held (stepped : loop.Stepped t state next trace) (entry : RetryEntry) :
    entry ∈ trace.held ↔ entry ∈ state.retryQueue ∧ t < entry.eligibleStep := by
  simp [stepped.held, due]

/-- What holds of the identity of every polled request holds of every arrival and of every queue
entry, through any number of retries. Being put back keeps an identity. -/
theorem run_arrivals (deferring : loop.Deferring) (holds : Identity → Prop) (start : ℤ) (count : ℕ)
    (initial final : LoopState σ π φ ο) (vacant : initial.retryQueue = [])
    (traces : List StepTrace) (completed : loop.run start count initial = some (final, traces))
    (entering : ∀ request ∈ traces.flatMap StepTrace.polled, holds request.identity) :
    (∀ trace ∈ traces, ∀ request ∈ trace.arrivals, holds request.identity) ∧
      ∀ entry ∈ final.retryQueue, holds entry.request.identity := by
  refine loop.run_invariant start (fun _ traces state =>
    (∀ request ∈ traces.flatMap StepTrace.polled, holds request.identity) →
      (∀ trace ∈ traces, ∀ request ∈ trace.arrivals, holds request.identity) ∧
        ∀ entry ∈ state.retryQueue, holds entry.request.identity)
    initial (by simp [vacant]) ?_ count final traces completed entering
  intro count traces state next trace earlier stepped entering
  have before := earlier (fun request member => entering request (by
    rw [List.flatMap_append]
    exact List.mem_append_left _ member))
  have arrived : ∀ request ∈ trace.arrivals, holds request.identity := by
    intro request member
    cases List.mem_append.mp member with
    | inl polled =>
      exact entering request (by simpa using Or.inr polled)
    | inr released =>
      obtain ⟨entry, queued, _, rfl⟩ := (stepped.mem_released loop request).mp released
      exact before.2 entry queued
  constructor
  · intro tested member
    cases List.mem_append.mp member with
    | inl old =>
      exact before.1 tested old
    | inr last =>
      exact (List.mem_singleton.mp last) ▸ arrived
  · intro entry member
    rw [stepped.queue] at member
    cases List.mem_append.mp member with
    | inl held =>
      exact before.2 entry ((stepped.mem_held loop entry).mp held).1
    | inr requeued =>
      obtain ⟨request, entered, _, _, _, rfl⟩ :=
        stepped.requeued_arrived loop deferring entry requeued
      exact arrived request entered

end ControlLoop

/-- A source that yields listed batches, one for each poll. -/
def listedSource : RequestSource (List (List ServiceRequest)) where
  poll batches _ _ := some (batches.headD [], batches.tail)
  backlog _ := 0

/-- A loop over the small configuration, with every plan the neutral one. -/
def smallLoop : ControlLoop (List (List ServiceRequest)) Rng Rng Unit where
  config := smallConfig
  requestSource := listedSource
  constellations := (buildFakeConstellations smallConfig).map FakeConstellation.toClient
  regulatory := tableRegulatoryPolicy smallConfig.regionRules
  scheduler := (InRepoScheduler.heuristic (1 / 4)).port
  fallbackScheduler := (InRepoScheduler.heuristic (1 / 4)).port
  optimizer := { plan := fun _ _ => (ResourcePlan.passthrough 0 1, ()) }

/-- Raise in the first step only. -/
def firstStepFault (step : ℤ) : Option Rng := if step = 0 then some evenRng else none

/-- Both schedulers raise in the first step, so the run starts in safe mode. -/
def faultyLoop : ControlLoop (List (List ServiceRequest)) Rng Rng Unit :=
  smallLoop.wired (.heuristic (1 / 4)) firstStepFault (1 / 4) firstStepFault

/-- The start of a faulty run over these batches. -/
def faultyStart (batches : List (List ServiceRequest)) :
    LoopState (List (List ServiceRequest)) Rng Rng Unit :=
  faultyLoop.initial batches evenRng evenRng () evenRng evenRng

/-- Three steps of the faulty loop return. -/
theorem faultyRun_returns : (faultyLoop.run 0 3 (faultyStart
    [[smallRequest "a" .emergencySos 5, smallRequest "b" .photo 5]])).isSome = true := by
  decide +kernel

/-- Three steps of the faulty loop over one urgent request and one photo. Later modules read
their examples off this run. -/
def faultyRun : LoopState (List (List ServiceRequest)) Rng Rng Unit × List StepTrace :=
  (faultyLoop.run 0 3 (faultyStart
    [[smallRequest "a" .emergencySos 5, smallRequest "b" .photo 5]])).get faultyRun_returns

end Satsim
