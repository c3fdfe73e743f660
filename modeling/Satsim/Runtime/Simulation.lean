import Satsim.Ingest.Delivery
import Satsim.Runtime.BeamIdentity
import Satsim.Runtime.Capacity
import Satsim.Runtime.Conservation

/-!
# The wired simulation

The composition root: the synthetic source, one fake constellation for each fleet, the
rule table and the scheduler the configuration selects. What the loop's invariants ask of
a request source, the synthetic one delivers: ids that are never polled twice, requests
that enter without retries, and none ahead of its arrival. What the capacity results ask
of the snapshots, the fake constellations deliver when no fleet is configured twice.

Results of other modules ask for fresh requests, distinct ids or distinct beams as
premises. Here they are shown of the simulation as it is built, so that what remains is
a statement about configurations and streams.
-/

namespace Satsim

open Library

variable {π φ ο : Type}

/-- `build_simulation`; the planner is left open, since the loop does not depend on which one it
is. -/
def buildSimulation (config : SimulationConfig) (math : Rng.MathExp) (fuel : ℕ)
    (optimizer : Optimizer ο) : ControlLoop SyntheticRequestSource Rng Rng ο where
  config := config
  requestSource := SyntheticRequestSource.port config math fuel
  constellations := (buildFakeConstellations config).map FakeConstellation.toClient
  regulatory := tableRegulatoryPolicy config.regionRules
  scheduler := (selectedScheduler config fuel).port
  fallbackScheduler := (InRepoScheduler.heuristic config.schedulerParams.degradeMinFraction).port
  optimizer := optimizer

/-- The wired simulation is one whose schedulers never raise, so what holds of all fault plans
holds of it. -/
theorem buildSimulation_equipped (config : SimulationConfig) (math : Rng.MathExp) (fuel : ℕ)
    (optimizer : Optimizer ο) : buildSimulation config math fuel optimizer =
      (buildSimulation config math fuel optimizer).equipped (selectedScheduler config fuel)
        (.heuristic config.schedulerParams.degradeMinFraction) (fun _ => none) (fun _ => none) :=
  rfl

/-- Its schedulers keep the contract. -/
theorem buildSimulation_contracted (config : SimulationConfig) (math : Rng.MathExp) (fuel : ℕ)
    (optimizer : Optimizer ο) : (buildSimulation config math fuel optimizer).Contracted := by
  rw [buildSimulation_equipped]
  exact ControlLoop.equipped_contracted _ _ _ _ _

namespace ControlLoop

/-- The polls of a run are a sequence of polls of the source, whose ledger they keep. -/
theorem run_delivered (loop : ControlLoop SyntheticRequestSource π φ ο) (config : SimulationConfig)
    (math : Rng.MathExp) (fuel : ℕ)
    (sourced : loop.requestSource = SyntheticRequestSource.port config math fuel) (start : ℤ)
    (count : ℕ) (demandRng : Rng) (initial final : LoopState SyntheticRequestSource π φ ο)
    (fresh : initial.source = SyntheticRequestSource.initial demandRng) (traces : List StepTrace)
    (completed : loop.run start count initial = some (final, traces)) :
    ∃ polls, SyntheticRequestSource.Delivered polls final.source ∧
      polls.map (fun polled => (polled.step, polled.returned)) =
        traces.map (fun trace => (trace.step, trace.polled)) := by
  refine loop.run_invariant start (fun _ traces state =>
    ∃ polls, SyntheticRequestSource.Delivered polls state.source ∧
      polls.map (fun polled => (polled.step, polled.returned)) =
        traces.map (fun trace => (trace.step, trace.polled))) initial ?_ ?_ count final traces
    completed
  · exact ⟨[], fresh ▸ SyntheticRequestSource.initial_delivered demandRng, rfl⟩
  · rintro count traces state next trace ⟨polls, delivered, same⟩ stepped
    have called := stepped.polled
    simp only [sourced, SyntheticRequestSource.port] at called
    split at called
    · rename_i polled after returned
      simp only [Option.some.injEq, Prod.mk.injEq] at called
      obtain ⟨returns, rfl⟩ := called
      obtain ⟨step, _, extended⟩ := SyntheticRequestSource.poll_delivered config math fuel polls
        state.source next.source _ _ polled returned delivered
      refine ⟨polls ++ [polled], extended, ?_⟩
      simp only [List.map_append, same, List.map_cons, List.map_nil, step, stepped.step, returns]
    · simp at called

/-- What a run polls from the synthetic source: no id twice, nothing retried, nothing ahead of
its arrival. These are the premises that the results over arbitrary sources ask for. -/
theorem run_polled (loop : ControlLoop SyntheticRequestSource π φ ο) (config : SimulationConfig)
    (math : Rng.MathExp) (fuel : ℕ)
    (sourced : loop.requestSource = SyntheticRequestSource.port config math fuel) (start : ℤ)
    (count : ℕ) (demandRng : Rng) (initial final : LoopState SyntheticRequestSource π φ ο)
    (fresh : initial.source = SyntheticRequestSource.initial demandRng) (traces : List StepTrace)
    (completed : loop.run start count initial = some (final, traces)) :
    ((traces.flatMap StepTrace.polled).map ServiceRequest.requestId).Nodup ∧
      (∀ request ∈ traces.flatMap StepTrace.polled, request.retryCount = 0) ∧
        ∀ trace ∈ traces, ∀ request ∈ trace.polled, request.arrivalStep ≤ trace.step := by
  obtain ⟨polls, delivered, same⟩ := loop.run_delivered config math fuel sourced start count
    demandRng initial final fresh traces completed
  have returned : polls.flatMap Poll.returned = traces.flatMap StepTrace.polled := by
    have batches := congrArg (List.flatMap Prod.snd) same
    simpa only [List.flatMap_map] using batches
  refine ⟨?_, ?_, ?_⟩
  · have ids := (delivered.account.map ServiceRequest.requestId).nodup_iff.mp
      delivered.issued.distinct
    rw [List.map_append, returned] at ids
    exact (List.nodup_append.mp ids).1
  · intro request member
    rw [← returned] at member
    obtain ⟨pair, generated, listed⟩ := List.mem_flatMap.mp
      (delivered.account.symm.subset (List.mem_append_left _ member))
    exact (delivered.arrived pair generated request listed).2
  · intro trace member request polled
    have paired : (trace.step, trace.polled) ∈
        polls.map (fun polled => (polled.step, polled.returned)) := by
      rw [same]
      exact List.mem_map_of_mem member
    obtain ⟨poll, listed, equal⟩ := List.mem_map.mp paired
    obtain ⟨step, batch⟩ := Prod.mk.inj equal
    rw [← step]
    exact delivered.timely poll listed request (by rw [batch]; exact polled)

/-- The wired simulation conserves requests, on every stream and with any planner. -/
theorem simulation_balanced (config : SimulationConfig) (math : Rng.MathExp) (fuel : ℕ)
    (optimizer : Optimizer ο) (planner : ο) (start : ℤ) (count : ℕ)
    (demandRng schedulerRng fallbackRng admissionRng rng : Rng)
    (final : LoopState SyntheticRequestSource Rng Rng ο) (traces : List StepTrace)
    (completed : (buildSimulation config math fuel optimizer).run start count
      ((buildSimulation config math fuel optimizer).initial
        (SyntheticRequestSource.initial demandRng) schedulerRng fallbackRng planner admissionRng
          rng) = some (final, traces)) :
    (ledger traces final.retryQueue).Balanced :=
  run_balanced _ (buildSimulation_contracted config math fuel optimizer) start count _ final rfl
    traces completed (run_polled _ config math fuel rfl start count demandRng _ final rfl traces
      completed).1

/-- What a step sees is a part of what the configured fleets show. -/
theorem Stepped.fleets_shown (loop : ControlLoop SyntheticRequestSource π φ ο)
    (config : SimulationConfig)
    (fleets : loop.constellations =
      (buildFakeConstellations config).map FakeConstellation.toClient) (t : ℤ)
    (state next : LoopState SyntheticRequestSource π φ ο) (trace : StepTrace)
    (stepped : loop.Stepped t state next trace) :
    trace.snapshot.beams.Sublist (visibleSnapshot config t).beams := by
  have gathered := loop.gather_shown t loop.constellations state.breakers
  rw [← stepped.lookups, fleets] at gathered
  rw [stepped.snapshot, visibleSnapshot, merge_beams, merge_beams]
  apply List.Sublist.flatMap
  simpa only [List.filterMap_map, Function.comp_def, FakeConstellation.toClient] using gathered

/-- In the simulation of fleets that are configured once each, with any in-repo schedulers,
whichever raise and whatever outages are planned, both tiers together keep every beam
within its capacity and two slacks in every step. -/
theorem simulation_within_capacity (config : SimulationConfig) (math : Rng.MathExp) (fuel : ℕ)
    (optimizer : Optimizer ο) (primary fallback : InRepoScheduler)
    (primaryFaults fallbackFaults : ℤ → Option Rng) (start : ℤ) (count : ℕ)
    (initial final : LoopState SyntheticRequestSource Rng Rng ο) (traces : List StepTrace)
    (completed : ((buildSimulation config math fuel optimizer).equipped primary fallback
      primaryFaults fallbackFaults).run start count initial = some (final, traces))
    (once : (config.fleets.map FleetConfig.fleet).Nodup) (trace : StepTrace)
    (member : trace ∈ traces) (beam : Beam) (shown : beam ∈ trace.snapshot.beams) :
    unitsOn beam.beamId trace.allocations ≤ beam.capacityUnits + 2 * slack := by
  obtain ⟨state, next, stepped⟩ := run_stepped _ start count initial final traces completed trace
    member
  have seen := Stepped.fleets_shown _ config rfl _ state next trace stepped
  apply run_within_capacity _ (equipped_budgeted _ primary fallback primaryFaults fallbackFaults)
    start count initial final traces completed trace member
  · exact (fleets_distinct config trace.step once).sublist (seen.map Beam.beamId)
  · intro other listed
    exact visibleSnapshot_nonneg config trace.step other (seen.subset listed)
  · exact shown

end ControlLoop

end Satsim
