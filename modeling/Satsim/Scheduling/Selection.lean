import Satsim.Mac.Contention
import Satsim.Mac.Slot
import Satsim.Scheduling.Fluid

/-!
# The schedulers of the repository behind their port

Each scheduler implements the same port, so the loop's results are stated for any
scheduler that keeps the contract and instantiated here once. The random source is
state for the contention scheduler only. Making a scheduler raise in some steps keeps
what it promises of the results it does return.

The contract and the budgets are kept by every scheduler here. Results that need more,
such as an order of service, are stated for the schedulers that have it, since random
access has none.
-/

namespace Satsim

/-- Every result this scheduler returns settles its candidates. A call that raises, or that does
not return, owes nothing. -/
def ResourceScheduler.KeepsContract {σ : Type} (scheduler : ResourceScheduler σ) : Prop :=
  ∀ state candidates snapshot step result final,
    scheduler.schedule state candidates snapshot step = some (.returned result, final) →
      Settles candidates snapshot step result

/-- Every result this scheduler returns keeps the budget of distinct beams, whatever the state
of its generator. -/
def ResourceScheduler.KeepsBudgets {σ : Type} (scheduler : ResourceScheduler σ) : Prop :=
  ∀ state candidates snapshot step result final,
    scheduler.schedule state candidates snapshot step = some (.returned result, final) →
      (snapshot.beams.map Beam.beamId).Nodup → (∀ beam ∈ snapshot.beams, 0 ≤ beam.capacityUnits) →
        Fitting snapshot result

/-- Every result this scheduler returns defers only what it was offered, and nothing
twice. Which candidates these are is left open. -/
def ResourceScheduler.DefersOffered {σ : Type} (scheduler : ResourceScheduler σ) : Prop :=
  ∀ state candidates snapshot step result final,
    scheduler.schedule state candidates snapshot step = some (.returned result, final) →
      result.deferred.Subperm (candidates.map ScheduleCandidate.request)

/-- A scheduler that settles its candidates defers a part of them: the deferred requests are one
side of the partition. -/
theorem ResourceScheduler.KeepsContract.defersOffered {σ : Type} {scheduler : ResourceScheduler σ}
    (kept : scheduler.KeepsContract) : scheduler.DefersOffered := by
  intro state candidates snapshot step result final returned
  have parts := (kept state candidates snapshot step result final returned).partition
  exact (((List.sublist_append_right _ _).trans (List.sublist_append_left _ _)).subperm).trans
    parts.subperm

/-- The four schedulers, with their parameters. -/
inductive InRepoScheduler where
  | heuristic (degradeMinFraction : ℚ)
  | priorityFair (maxUnitsPerRequest degradeMinFraction : ℚ)
  | slotMac (config : MacConfig)
  | contentionMac (config : MacConfig) (fuel : ℕ)

namespace InRepoScheduler

/-- A call; only random access draws, and only it may fail to return. The others hand the
generator on as it was. -/
def schedule : InRepoScheduler → Rng → List ScheduleCandidate → ConstellationSnapshot → ℤ →
    Option (SchedulingResult × Rng)
  | .heuristic fraction, rng, candidates, snapshot, step =>
      some ((heuristicScheduler fraction).schedule candidates snapshot step, rng)
  | .priorityFair cap fraction, rng, candidates, snapshot, step =>
      some ((priorityFairScheduler cap fraction).schedule candidates snapshot step, rng)
  | .slotMac config, rng, candidates, snapshot, step =>
      some (SlotMacScheduler.schedule config candidates snapshot step, rng)
  | .contentionMac config fuel, rng, candidates, snapshot, step =>
      ContentionMacScheduler.schedule config fuel candidates snapshot step rng

/-- A scheduler behind the port of the loop. None of them raises, so every result it has is
returned. -/
def port (scheduler : InRepoScheduler) : ResourceScheduler Rng where
  schedule rng candidates snapshot step := do
    let (result, rng) ← scheduler.schedule rng candidates snapshot step
    pure (.returned result, rng)

/-- What the port returns is the result of the call. -/
theorem port_returned (scheduler : InRepoScheduler) (rng final : Rng)
    (candidates : List ScheduleCandidate) (snapshot : ConstellationSnapshot) (step : ℤ)
    (result : SchedulingResult)
    (returned : scheduler.port.schedule rng candidates snapshot step =
      some (.returned result, final)) :
    scheduler.schedule rng candidates snapshot step = some (result, final) := by
  simp only [port, Option.bind_eq_bind, Option.bind_eq_some_iff, Option.pure_def,
    Option.some.injEq, Prod.mk.injEq, Prod.exists, SchedulerReply.returned.injEq] at returned
  obtain ⟨_, _, scheduled, rfl, rfl⟩ := returned
  exact scheduled

/-- The contract, scheduler by scheduler. -/
theorem schedule_settles (scheduler : InRepoScheduler) (rng final : Rng)
    (candidates : List ScheduleCandidate) (snapshot : ConstellationSnapshot) (step : ℤ)
    (result : SchedulingResult)
    (returned : scheduler.schedule rng candidates snapshot step = some (result, final)) :
    Settles candidates snapshot step result := by
  cases scheduler with
  | heuristic fraction =>
    simp only [schedule, Option.some.injEq, Prod.mk.injEq] at returned
    exact returned.1 ▸ GreedyScheduler.schedule_settles _ candidates snapshot step
  | priorityFair cap fraction =>
    simp only [schedule, Option.some.injEq, Prod.mk.injEq] at returned
    exact returned.1 ▸ GreedyScheduler.schedule_settles _ candidates snapshot step
  | slotMac config =>
    simp only [schedule, Option.some.injEq, Prod.mk.injEq] at returned
    exact returned.1 ▸ SlotMacScheduler.schedule_settles config candidates snapshot step
  | contentionMac config fuel =>
    exact ContentionMacScheduler.schedule_settles config fuel candidates snapshot step rng final
      result returned

/-- The budgets, scheduler by scheduler. Random access meets them since those who share a block
share its airtime. -/
theorem schedule_fitting (scheduler : InRepoScheduler) (rng final : Rng)
    (candidates : List ScheduleCandidate) (snapshot : ConstellationSnapshot) (step : ℤ)
    (result : SchedulingResult)
    (returned : scheduler.schedule rng candidates snapshot step = some (result, final))
    (distinct : (snapshot.beams.map Beam.beamId).Nodup)
    (capacities : ∀ beam ∈ snapshot.beams, 0 ≤ beam.capacityUnits) : Fitting snapshot result := by
  cases scheduler with
  | heuristic fraction =>
    simp only [schedule, Option.some.injEq, Prod.mk.injEq] at returned
    exact returned.1 ▸ GreedyScheduler.schedule_fitting _ candidates snapshot step
      distinct capacities
  | priorityFair cap fraction =>
    simp only [schedule, Option.some.injEq, Prod.mk.injEq] at returned
    exact returned.1 ▸ GreedyScheduler.schedule_fitting _ candidates snapshot step
      distinct capacities
  | slotMac config =>
    simp only [schedule, Option.some.injEq, Prod.mk.injEq] at returned
    exact returned.1 ▸
      SlotMacScheduler.schedule_fitting config candidates snapshot step distinct capacities
  | contentionMac config fuel =>
    exact ContentionMacScheduler.schedule_fitting config fuel candidates snapshot step rng final
      result returned distinct capacities

/-- The port keeps the contract of its scheduler. -/
theorem port_keepsContract (scheduler : InRepoScheduler) : scheduler.port.KeepsContract :=
  fun rng candidates snapshot step result final returned =>
    schedule_settles scheduler rng final candidates snapshot step result
      (port_returned scheduler rng final candidates snapshot step result returned)

/-- And its budgets. -/
theorem port_keepsBudgets (scheduler : InRepoScheduler) : scheduler.port.KeepsBudgets :=
  fun rng candidates snapshot step result final returned =>
    schedule_fitting scheduler rng final candidates snapshot step result
      (port_returned scheduler rng final candidates snapshot step result returned)

end InRepoScheduler

/-- A faulty scheduler returns a result in a step without a fault only, and there it is the
scheduler's own. What a contract says of returned results so passes through any fault plan. -/
theorem ResourceScheduler.withFaults_returned {σ : Type} (faults : ℤ → Option σ)
    (scheduler : ResourceScheduler σ) (state final : σ) (candidates : List ScheduleCandidate)
    (snapshot : ConstellationSnapshot) (step : ℤ) (result : SchedulingResult)
    (returned : (scheduler.withFaults faults).schedule state candidates snapshot step =
      some (.returned result, final)) : (faults step).isSome = false ∧
        scheduler.schedule state candidates snapshot step = some (.returned result, final) := by
  cases fault : faults step with
  | none => exact ⟨rfl, by simpa only [withFaults, fault] using returned⟩
  | some left => simp [withFaults, fault] at returned

/-- A faulty scheduler keeps the contract in the steps where it returns. -/
theorem ResourceScheduler.withFaults_keepsContract {σ : Type} (faults : ℤ → Option σ)
    (scheduler : ResourceScheduler σ) (kept : scheduler.KeepsContract) :
    (scheduler.withFaults faults).KeepsContract :=
  fun state candidates snapshot step result final returned =>
    kept state candidates snapshot step result final
      (withFaults_returned faults scheduler state final candidates snapshot step result returned).2

/-- A faulty scheduler keeps the budgets in the steps where it returns. -/
theorem ResourceScheduler.withFaults_keepsBudgets {σ : Type} (faults : ℤ → Option σ)
    (scheduler : ResourceScheduler σ) (kept : scheduler.KeepsBudgets) :
    (scheduler.withFaults faults).KeepsBudgets :=
  fun state candidates snapshot step result final returned =>
    kept state candidates snapshot step result final
      (withFaults_returned faults scheduler state final candidates snapshot step result returned).2

/-- An in-repo scheduler raises in a step with a fault only, since it never raises by itself. -/
theorem InRepoScheduler.withFaults_raised (faults : ℤ → Option Rng) (scheduler : InRepoScheduler)
    (rng final : Rng) (candidates : List ScheduleCandidate) (snapshot : ConstellationSnapshot)
    (step : ℤ)
    (raised : (scheduler.port.withFaults faults).schedule rng candidates snapshot step =
      some (.raised, final)) : (faults step).isSome = true := by
  cases fault : faults step with
  | none =>
    simp [ResourceScheduler.withFaults, fault, port, Option.bind_eq_some_iff] at raised
  | some left => rfl

/-- The primary scheduler a configuration selects, with the parameters it is built with. The
bound of random access on its draws is the model's own. -/
def selectedScheduler (config : SimulationConfig) (fuel : ℕ) : InRepoScheduler :=
  match config.scheduler with
  | .slotMac => .slotMac config.mac
  | .contentionMac => .contentionMac config.mac fuel
  | .priorityFair => .priorityFair config.schedulerParams.priorityFairMaxUnitsPerRequest
      config.schedulerParams.degradeMinFraction
  | .heuristic => .heuristic config.schedulerParams.degradeMinFraction

end Satsim
