import Satsim.Runtime.Lawful
import Satsim.Runtime.Simulation

/-!
# What a fleet can carry

A fleet takes part in a step when it is online and has not failed yet. Then both tiers
together grant on its beams at most their capacity, and in every other step nothing. So what
a run grants on a fleet is bounded by the steps in which the fleet takes part, however long
the run is, and a configured expansion or fault shows in the grants from its step on.

The bound is on what is granted and not on what is asked for. Two slacks for each beam
come from the two tiers, as in the bound for a single beam.
-/

namespace Satsim

open Library

/-- The fleet is online in the step and has not failed yet. A fleet that fails does not come
back. -/
def FleetConfig.up (fleet : FleetConfig) (step : ℤ) : Bool :=
  decide (fleet.onlineAtStep ≤ step) && !fleet.failFromStep.any fun failFrom =>
    decide (failFrom ≤ step)

/-- The capacity of all beams of a fleet, with two slacks a beam. -/
def FleetConfig.ceiling (fleet : FleetConfig) : ℚ :=
  fleet.numSatellites * fleet.beamsPerSatellite * (fleet.capacityPerBeam + 2 * slack)

/-- The airtime granted on a fleet. -/
def unitsOfFleet (fleet : FleetId) (allocations : List Allocation) : ℚ :=
  ((allocations.filter fun allocation => decide (allocation.fleet = fleet)).map
    Allocation.allocatedUnits).sum

/-- A fleet whose client shows a beam is up. -/
theorem FleetConfig.up_of_lit (fleet : FleetConfig) (config : SimulationConfig) (step : ℤ)
    (lit : (fakeConstellation config fleet).lit step = true) : fleet.up step = true := by
  simp only [FakeConstellation.lit, FakeConstellation.failed, fakeConstellation, Bool.and_eq_true,
    Bool.not_eq_true', and_assoc] at lit
  obtain ⟨operating, online, _⟩ := lit
  have online : fleet.onlineAtStep ≤ step := of_decide_eq_true online
  cases fails : fleet.failFromStep with
  | none => simp [up, fails, online]
  | some failFrom =>
    rw [fails] at operating
    have before : ¬ failFrom ≤ step := of_decide_eq_false operating
    simp [up, fails, online, not_le.mp before]

/-- Every beam that is seen is of a configured fleet. -/
theorem visible_configured (config : SimulationConfig) (step : ℤ) (beam : Beam)
    (shown : beam ∈ (visibleSnapshot config step).beams) :
    ∃ fleet ∈ config.fleets, beam.fleet = fleet.fleet := by
  rw [visibleSnapshot, merge_beams] at shown
  obtain ⟨snapshot, seen, shown⟩ := List.mem_flatMap.mp shown
  obtain ⟨client, built, seen⟩ := List.mem_filterMap.mp seen
  obtain ⟨fleet, configured, rfl⟩ := List.mem_map.mp built
  exact ⟨fleet, configured,
    (fakeConstellation config fleet).showsOwnFleet step snapshot seen beam shown⟩

/-- A beam that is seen of a fleet configured once is one of its client's beams, with their
capacity, and the fleet is up. With a fleet configured twice it might be of the other entry. -/
theorem visible_of_fleet (config : SimulationConfig)
    (once : (config.fleets.map FleetConfig.fleet).Nodup) (fleet : FleetConfig)
    (member : fleet ∈ config.fleets) (step : ℤ) (beam : Beam)
    (shown : beam ∈ (visibleSnapshot config step).beams) (own : beam.fleet = fleet.fleet) :
    fleet.up step = true ∧ beam.capacityUnits = fleet.capacityPerBeam ∧
      beam.beamId ∈ (fakeConstellation config fleet).beamIds := by
  rw [visibleSnapshot, merge_beams] at shown
  obtain ⟨snapshot, seen, shown⟩ := List.mem_flatMap.mp shown
  obtain ⟨client, built, seen⟩ := List.mem_filterMap.mp seen
  obtain ⟨source, configured, rfl⟩ := List.mem_map.mp built
  obtain rfl : source = fleet := List.inj_on_of_nodup_map once configured member
    (((fakeConstellation config source).showsOwnFleet step snapshot seen beam shown).symm.trans own)
  have named : beam.beamId ∈ (((fakeConstellation config source).visibleResources step).elim []
      ConstellationSnapshot.beams).map Beam.beamId := by
    rw [seen]
    exact List.mem_map_of_mem shown
  rw [FakeConstellation.visible_beamIds] at named
  split at named
  · rename_i lit
    obtain ⟨nonempty, i, j, rfl⟩ := FakeConstellation.visible_beam _ step snapshot seen beam shown
    exact ⟨source.up_of_lit config step lit, rfl, named⟩
  · simp at named

/-- A client has as many identifiers as beams. -/
theorem beamIds_length (client : FakeConstellation) :
    client.beamIds.length = client.numSatellites.toNat * client.beamsPerSatellite.toNat := by
  simp [FakeConstellation.beamIds, List.length_flatMap]

/-- What steps grant within a ceiling while a fleet is up, and nothing while it is not, is
together within the ceiling of the steps in which it is up. -/
theorem unitsOfFleet_total (fleet : FleetConfig) (traces : List StepTrace)
    (perStep : ∀ trace ∈ traces, unitsOfFleet fleet.fleet trace.allocations ≤
      if fleet.up trace.step then fleet.ceiling else 0) :
    unitsOfFleet fleet.fleet (traces.flatMap StepTrace.allocations) ≤
      traces.countP (fun trace => fleet.up trace.step) * fleet.ceiling := by
  induction traces with
  | nil => simp [unitsOfFleet]
  | cons trace rest inductionHypothesis =>
    have later := inductionHypothesis fun other listed =>
      perStep other (List.mem_cons_of_mem _ listed)
    have here := perStep trace List.mem_cons_self
    rw [List.flatMap_cons, unitsOfFleet, List.filter_append, List.map_append, List.sum_append,
      ← unitsOfFleet, ← unitsOfFleet, List.countP_cons]
    refine (add_le_add here later).trans (le_of_eq ?_)
    split <;> push_cast <;> ring

/-- On distinct beams, what is granted on a fleet is what is granted on its beams. -/
theorem unitsOfFleet_eq (beams : List Beam) (distinct : (beams.map Beam.beamId).Nodup)
    (allocations : List Allocation)
    (named : ∀ allocation ∈ allocations, ∃ beam ∈ beams, allocation.beamId = beam.beamId ∧
      allocation.fleet = beam.fleet) (fleet : FleetId) :
    unitsOfFleet fleet allocations = ((beams.filter fun beam => decide (beam.fleet = fleet)).map
      fun beam => unitsOn beam.beamId allocations).sum := by
  have own : ((beams.filter fun beam => decide (beam.fleet = fleet)).map Beam.beamId).Nodup :=
    distinct.sublist (List.filter_sublist.map _)
  rw [unitsOfFleet, Greedy.held_total Beam.beamId _ own Allocation.beamId Allocation.allocatedUnits]
  · refine congrArg List.sum (List.map_congr_left fun beam shown => ?_)
    obtain ⟨listed, ofFleet⟩ := List.mem_filter.mp shown
    rw [unitsOn_eq_held, Greedy.held, Greedy.held, List.filter_filter]
    congr 2
    refine List.filter_congr fun allocation granted => ?_
    obtain ⟨source, member, sameId, sameFleet⟩ := named allocation granted
    by_cases onBeam : allocation.beamId = beam.beamId
    · obtain rfl : source = beam :=
        List.inj_on_of_nodup_map distinct member listed (sameId.symm.trans onBeam)
      simpa [onBeam, sameFleet] using ofFleet
    · simp [onBeam]
  · intro allocation granted
    obtain ⟨listed, ofFleet⟩ := List.mem_filter.mp granted
    obtain ⟨beam, member, sameId, sameFleet⟩ := named allocation listed
    refine List.mem_map.mpr ⟨beam, List.mem_filter.mpr ⟨member, ?_⟩, sameId.symm⟩
    rwa [← sameFleet]

/-- A step shows no more beams of a fleet than are configured, since each shows every identifier
at most once. -/
theorem shown_count (config : SimulationConfig)
    (once : (config.fleets.map FleetConfig.fleet).Nodup) (fleet : FleetConfig)
    (member : fleet ∈ config.fleets) (step : ℤ) (beams : List Beam)
    (seen : beams.Sublist (visibleSnapshot config step).beams) :
    ((beams.filter fun beam => decide (beam.fleet = fleet.fleet)).length : ℚ) ≤
      fleet.numSatellites * fleet.beamsPerSatellite := by
  have ids : ((beams.filter fun beam => decide (beam.fleet = fleet.fleet)).map
      Beam.beamId).Nodup :=
    (fleets_distinct config step once).sublist ((List.filter_sublist.trans seen).map Beam.beamId)
  have listed : (beams.filter fun beam => decide (beam.fleet = fleet.fleet)).map Beam.beamId ⊆
      (fakeConstellation config fleet).beamIds := by
    intro name given
    obtain ⟨beam, shown, rfl⟩ := List.mem_map.mp given
    exact (visible_of_fleet config once fleet member step beam
      (seen.subset (List.mem_of_mem_filter shown))
      (of_decide_eq_true (List.mem_filter.mp shown).2)).2.2
  have fewer := (ids.subperm listed).length_le
  rw [List.length_map, beamIds_length] at fewer
  have configured : ((fleet.numSatellites.toNat * fleet.beamsPerSatellite.toNat : ℕ) : ℤ) =
      fleet.numSatellites * fleet.beamsPerSatellite := by
    rw [Nat.cast_mul, Int.toNat_of_nonneg fleet.satellitesNonneg,
      Int.toNat_of_nonneg fleet.beamsNonneg]
  have counted : ((beams.filter fun beam => decide (beam.fleet = fleet.fleet)).length : ℤ) ≤
      fleet.numSatellites * fleet.beamsPerSatellite := by
    rw [← configured]
    exact_mod_cast fewer
  exact_mod_cast counted

/-- The ceiling is not negative, as no part of it is. -/
theorem FleetConfig.ceiling_nonneg (fleet : FleetConfig) : 0 ≤ fleet.ceiling := by
  have satellites : (0 : ℚ) ≤ fleet.numSatellites := by exact_mod_cast fleet.satellitesNonneg
  have carried : (0 : ℚ) ≤ fleet.beamsPerSatellite := by exact_mod_cast fleet.beamsNonneg
  have share : 0 ≤ fleet.capacityPerBeam + 2 * slack :=
    add_nonneg fleet.capacityNonneg (mul_nonneg (by norm_num) slack_pos.le)
  exact mul_nonneg (mul_nonneg satellites carried) share

/-- Beams within their capacity and two slacks carry no more than the ceiling of a fleet, and
nothing when it is not up. -/
theorem unitsOfFleet_le (config : SimulationConfig)
    (once : (config.fleets.map FleetConfig.fleet).Nodup) (fleet : FleetConfig)
    (member : fleet ∈ config.fleets) (step : ℤ) (beams : List Beam)
    (seen : beams.Sublist (visibleSnapshot config step).beams) (allocations : List Allocation)
    (named : ∀ allocation ∈ allocations, ∃ beam ∈ beams, allocation.beamId = beam.beamId ∧
      allocation.fleet = beam.fleet)
    (within : ∀ beam ∈ beams, unitsOn beam.beamId allocations ≤ beam.capacityUnits + 2 * slack) :
    unitsOfFleet fleet.fleet allocations ≤ if fleet.up step then fleet.ceiling else 0 := by
  have counted := shown_count config once fleet member step beams seen
  have ofFleet (beam : Beam)
      (shown : beam ∈ beams.filter fun beam => decide (beam.fleet = fleet.fleet)) :=
    visible_of_fleet config once fleet member step beam
      (seen.subset (List.mem_of_mem_filter shown)) (of_decide_eq_true (List.mem_filter.mp shown).2)
  rw [unitsOfFleet_eq beams ((fleets_distinct config step once).sublist (seen.map Beam.beamId))
    allocations named]
  by_cases vacant : beams.filter (fun beam => decide (beam.fleet = fleet.fleet)) = []
  · rw [vacant, List.map_nil, List.sum_nil]
    split
    · exact fleet.ceiling_nonneg
    · exact le_refl 0
  · obtain ⟨first, shown⟩ := List.exists_mem_of_ne_nil _ vacant
    rw [if_pos (ofFleet first shown).1]
    have bounded : ∀ units ∈ (beams.filter fun beam => decide (beam.fleet = fleet.fleet)).map
        (fun beam => unitsOn beam.beamId allocations),
        units ≤ fleet.capacityPerBeam + 2 * slack := by
      intro units listed
      obtain ⟨beam, shown, rfl⟩ := List.mem_map.mp listed
      rw [← (ofFleet beam shown).2.1]
      exact within beam (List.mem_of_mem_filter shown)
    have total := List.sum_le_card_nsmul _ _ bounded
    rw [List.length_map, nsmul_eq_mul] at total
    exact total.trans (mul_le_mul_of_nonneg_right counted
      (add_nonneg fleet.capacityNonneg (mul_nonneg (by norm_num) slack_pos.le)))

namespace ControlLoop

variable {ο : Type}

/-- What a fleet can carry. In the simulation of fleets that are configured once each, with any
in-repo schedulers, whichever raise, and any planner: every grant of a step is on a configured
fleet that is online and has not failed; what both tiers grant on a fleet in a step is within its
ceiling; and what a run grants on it is within the ceiling of the steps in which it is up. -/
theorem fleet_throughput (config : SimulationConfig) (math : Rng.MathExp) (fuel : ℕ)
    (optimizer : Optimizer ο) (primary fallback : InRepoScheduler)
    (primaryFaults fallbackFaults : ℤ → Option Rng) (start : ℤ) (count : ℕ)
    (initial final : LoopState SyntheticRequestSource Rng Rng ο) (traces : List StepTrace)
    (completed : ((buildSimulation config math fuel optimizer).equipped primary fallback
      primaryFaults fallbackFaults).run start count initial = some (final, traces))
    (once : (config.fleets.map FleetConfig.fleet).Nodup) :
    (∀ trace ∈ traces, ∀ allocation ∈ trace.allocations, ∃ fleet ∈ config.fleets,
      fleet.fleet = allocation.fleet ∧ fleet.up trace.step = true) ∧
      ∀ fleet ∈ config.fleets,
        (∀ trace ∈ traces, unitsOfFleet fleet.fleet trace.allocations ≤
          if fleet.up trace.step then fleet.ceiling else 0) ∧
        unitsOfFleet fleet.fleet (traces.flatMap StepTrace.allocations) ≤
          traces.countP (fun trace => fleet.up trace.step) * fleet.ceiling := by
  set loop := (buildSimulation config math fuel optimizer).equipped primary fallback primaryFaults
    fallbackFaults with wired
  have seen (trace : StepTrace) (listed : trace ∈ traces) :
      trace.snapshot.beams.Sublist (visibleSnapshot config trace.step).beams := by
    obtain ⟨state, next, stepped⟩ := run_stepped loop start count initial final traces completed
      trace listed
    exact stepped.fleets_shown loop config rfl _ state next trace
  have named (trace : StepTrace) (listed : trace ∈ traces) (allocation : Allocation)
      (granted : allocation ∈ trace.allocations) : ∃ beam ∈ trace.snapshot.beams,
        allocation.beamId = beam.beamId ∧ allocation.fleet = beam.fleet := by
    obtain ⟨state, next, stepped⟩ := run_stepped loop start count initial final traces completed
      trace listed
    have lawful := stepped.lawful loop (equipped_contracted _ primary fallback primaryFaults
      fallbackFaults) rfl (by
        intro client constellation
        obtain ⟨fake, _, rfl⟩ := List.mem_map.mp constellation
        exact fake.showsOwnFleet)
    obtain ⟨request, _, grant⟩ := paired_right lawful allocation granted
    obtain ⟨beam, shown, sameId, sameFleet, _⟩ := grant.beam
    exact ⟨beam, shown, sameId, sameFleet⟩
  have perStep (fleet : FleetConfig) (member : fleet ∈ config.fleets) (trace : StepTrace)
      (listed : trace ∈ traces) : unitsOfFleet fleet.fleet trace.allocations ≤
        if fleet.up trace.step then fleet.ceiling else 0 :=
    unitsOfFleet_le config once fleet member trace.step trace.snapshot.beams (seen trace listed)
      trace.allocations (named trace listed) fun beam shown =>
        simulation_within_capacity config math fuel optimizer primary fallback primaryFaults
          fallbackFaults start count initial final traces completed once trace listed beam shown
  refine ⟨?_, fun fleet member => ⟨perStep fleet member, ?_⟩⟩
  · intro trace listed allocation granted
    obtain ⟨beam, shown, _, sameFleet⟩ := named trace listed allocation granted
    have visible := (seen trace listed).subset shown
    obtain ⟨fleet, member, own⟩ := visible_configured config trace.step beam visible
    exact ⟨fleet, member, (sameFleet.trans own).symm,
      (visible_of_fleet config once fleet member trace.step beam visible own).1⟩
  · exact unitsOfFleet_total fleet traces (perStep fleet member)

end ControlLoop

/-- The configuration, which the validators accept. -/
def faultConfig : SimulationConfig := { faultFields with accepted := by decide +kernel }

/-- Its simulation with the heuristic scheduler, which never raises. -/
def faultLoop : ControlLoop SyntheticRequestSource Rng Rng Unit :=
  (buildSimulation faultConfig Rng.coarseExp 0 smallLoop.optimizer).equipped (.heuristic (1 / 4))
    (.heuristic (1 / 4)) (fun _ => none) (fun _ => none)

/-- Its start, on one stream for all. -/
def faultStart : LoopState SyntheticRequestSource Rng Rng Unit :=
  faultLoop.initial (SyntheticRequestSource.initial evenRng) evenRng evenRng () evenRng evenRng

/-- Its three steps return, which evaluation finds. -/
theorem faultRun_returns : (faultLoop.run 0 3 faultStart).isSome = true := by decide +kernel

/-- Only the first step grants, and what it grants is within the ceiling of one step. -/
theorem ControlLoop.fleet_throughput_fault :
    let traces := ((faultLoop.run 0 3 faultStart).get faultRun_returns).2
    traces.map (fun trace => trace.allocations.length) = [2, 0, 0] ∧
      ∀ fleet ∈ faultConfig.fleets,
        unitsOfFleet fleet.fleet (traces.flatMap StepTrace.allocations) ≤
          traces.countP (fun trace => fleet.up trace.step) * fleet.ceiling := by
  obtain ⟨_, bounded⟩ := fleet_throughput faultConfig Rng.coarseExp 0 smallLoop.optimizer
    (.heuristic (1 / 4)) (.heuristic (1 / 4)) (fun _ => none) (fun _ => none) 0 3 faultStart _ _
    (Option.some_get faultRun_returns).symm (by decide)
  exact ⟨by decide +kernel, fun fleet member => (bounded fleet member).2⟩

end Satsim
