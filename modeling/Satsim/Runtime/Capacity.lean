import Satsim.Runtime.Wiring

/-!
# One budget for each beam across the tiers

The lane reserves from a fraction of each beam, the loop subtracts what it reserved, and
a scheduler grants from the rest. Each allocator may overdraw a beam by the comparison
slack and the subtraction clamps at zero; together they stay within the beam's capacity
and two slacks, so the clamp on the reported utilization hides nothing larger.

The slacks are exact here and stand for the tolerance in the comparisons of the source.
Whether floating-point sums stay within them is not a matter of this model.
-/

namespace Satsim

open Library

/-- An allocation that fits a list of beams names one of them. -/
theorem Fits.names {beams : List Beam} {legal : FleetId → Band → Option ℚ → Prop}
    {request : ServiceRequest} {allocation : Allocation}
    (fits : Fits beams legal request allocation) :
    allocation.beamId ∈ beams.map Beam.beamId := by
  obtain ⟨beam, shown, _, same, _⟩ := fits.taken
  exact List.mem_map.mpr ⟨beam, shown, same.symm⟩

/-- Every right member of a positional pairing is paired. -/
theorem paired_right {α β : Type} {relation : α → β → Prop} {left : List α} {right : List β}
    (paired : List.Forall₂ relation left right) (item : β) (member : item ∈ right) :
    ∃ partner ∈ left, relation partner item := by
  induction paired with
  | nil => simp at member
  | cons related rest inductionHypothesis =>
    rcases List.mem_cons.mp member with rfl | later
    · exact ⟨_, List.mem_cons_self, related⟩
    · obtain ⟨partner, listed, found⟩ := inductionHypothesis later
      exact ⟨partner, List.mem_cons_of_mem _ listed, found⟩

/-- What fits the net snapshot fits beside the reservations, when these overdraw no beam by more
than the slack. The clamp of the subtraction is where the second slack comes from. -/
theorem fits_beside (snapshot : ConstellationSnapshot) (reservations : List Allocation)
    (result : SchedulingResult) (capacities : ∀ beam ∈ snapshot.beams, 0 ≤ beam.capacityUnits)
    (reserved : ∀ beam ∈ snapshot.beams,
      unitsOn beam.beamId reservations ≤ beam.capacityUnits + slack)
    (fitting : Fitting (subtractReservations snapshot reservations) result) :
    ∀ beam ∈ snapshot.beams, unitsOn beam.beamId reservations +
      unitsOn beam.beamId result.allocations ≤ beam.capacityUnits + 2 * slack := by
  intro beam shown
  have held := reserved beam shown
  have positive := slack_pos
  have granted := fitting _ (mem_subtract snapshot reservations capacities beam shown)
  simp only at granted
  -- The clamp leaves either the difference or nothing.
  rcases max_cases 0 (beam.capacityUnits - unitsOn beam.beamId reservations) with
    ⟨clamped, _⟩ | ⟨difference, _⟩
  · linarith
  · linarith

/-- Allocations on distinct beams, within each beam's capacity and two slacks, are within the
total and two slacks for each beam. -/
theorem total_within (snapshot : ConstellationSnapshot) (allocations : List Allocation)
    (distinct : (snapshot.beams.map Beam.beamId).Nodup)
    (named : ∀ allocation ∈ allocations, allocation.beamId ∈ snapshot.beams.map Beam.beamId)
    (within : ∀ beam ∈ snapshot.beams,
      unitsOn beam.beamId allocations ≤ beam.capacityUnits + 2 * slack) :
    (allocations.map Allocation.allocatedUnits).sum ≤
      snapshot.totalCapacity + snapshot.beams.length * (2 * slack) := by
  rw [Greedy.held_total Beam.beamId snapshot.beams distinct Allocation.beamId
    Allocation.allocatedUnits _ named]
  calc (snapshot.beams.map (fun beam => unitsOn beam.beamId allocations)).sum
      ≤ (snapshot.beams.map (fun beam => beam.capacityUnits + 2 * slack)).sum :=
        List.sum_le_sum within
    _ = snapshot.totalCapacity + snapshot.beams.length * (2 * slack) := by
        simp [ConstellationSnapshot.totalCapacity, List.sum_map_add]

/-- The lane overdraws no beam by more than the slack: its pool is a fraction of the beam, and
the fraction is at most one. -/
theorem lane_within (config : EmergencyConfig) (regulatory : RegulatoryPolicy)
    (scoring : ScoringConfig) (urgent : List ServiceRequest) (snapshot : ConstellationSnapshot)
    (plan : ResourcePlan) (step : ℤ) (distinct : (snapshot.beams.map Beam.beamId).Nodup)
    (beam : Beam) (shown : beam ∈ snapshot.beams) (capacity : 0 ≤ beam.capacityUnits) :
    unitsOn beam.beamId (EmergencyLane.reserve config regulatory scoring urgent snapshot plan
      step).reservations ≤ beam.capacityUnits + slack := by
  have reserved := EmergencyLane.reserve_unitsOn config regulatory scoring urgent snapshot plan step
    distinct beam shown capacity
  have within : beam.capacityUnits * config.reservedFraction ≤ beam.capacityUnits :=
    mul_le_of_le_one_right capacity config.reservedRange.2
  linarith

/-- The lane and a settling scheduler name beams of the snapshot only, so counting by identifier
misses nothing. -/
theorem tiers_named (config : EmergencyConfig) (regulatory : RegulatoryPolicy)
    (scoring : ScoringConfig) (urgent : List ServiceRequest) (snapshot : ConstellationSnapshot)
    (plan : ResourcePlan) (step : ℤ) (candidates : List ScheduleCandidate)
    (result : SchedulingResult)
    (settled : Settles candidates (subtractReservations snapshot
      (EmergencyLane.reserve config regulatory scoring urgent snapshot plan step).reservations) step
        result) (allocation : Allocation)
    (member : allocation ∈ (EmergencyLane.reserve config regulatory scoring urgent snapshot plan
      step).reservations ++ result.allocations) :
    allocation.beamId ∈ snapshot.beams.map Beam.beamId := by
  cases List.mem_append.mp member with
  | inl early =>
    obtain ⟨_, _, _, fits⟩ := paired_right (EmergencyLane.reserve_lawful config regulatory scoring
      urgent snapshot plan step) allocation early
    exact fits.names
  | inr late =>
    obtain ⟨_, _, _, _, _, fits⟩ := paired_right settled.lawful allocation late
    exact subtract_view Beam.beamId (fun _ _ => rfl) snapshot _ ▸ fits.names

/-- Cross-tier capacity safety. On distinct beams of nonnegative capacity, after any
reservations of the lane: every beam keeps at least the unreserved fraction for the
scheduler, up to the slack; what the lane and any in-repo scheduler grant on a beam is
within its capacity and two slacks; and so is the grand total, beam for beam. -/
theorem cross_tier_capacity (config : EmergencyConfig) (regulatory : RegulatoryPolicy)
    (scoring : ScoringConfig) (urgent : List ServiceRequest) (snapshot : ConstellationSnapshot)
    (plan : ResourcePlan) (step : ℤ) (scheduler : InRepoScheduler)
    (candidates : List ScheduleCandidate) (rng final : Rng) (result : SchedulingResult)
    (distinct : (snapshot.beams.map Beam.beamId).Nodup)
    (capacities : ∀ beam ∈ snapshot.beams, 0 ≤ beam.capacityUnits)
    (returned : scheduler.schedule rng candidates
      (subtractReservations snapshot (EmergencyLane.reserve config regulatory scoring urgent
        snapshot plan step).reservations) step = some (result, final)) :
    (∀ beam ∈ snapshot.beams,
      (∃ left ∈ (subtractReservations snapshot (EmergencyLane.reserve config regulatory scoring
          urgent snapshot plan step).reservations).beams, left.beamId = beam.beamId ∧
        (1 - config.reservedFraction) * beam.capacityUnits - slack ≤ left.capacityUnits) ∧
      unitsOn beam.beamId (EmergencyLane.reserve config regulatory scoring urgent snapshot
          plan step).reservations + unitsOn beam.beamId result.allocations ≤
        beam.capacityUnits + 2 * slack) ∧
    (((EmergencyLane.reserve config regulatory scoring urgent snapshot plan step).reservations ++
        result.allocations).map Allocation.allocatedUnits).sum ≤
      snapshot.totalCapacity + snapshot.beams.length * (2 * slack) := by
  have named := tiers_named config regulatory scoring urgent snapshot plan step candidates result
    (scheduler.schedule_settles rng final candidates _ step result returned)
  have lane (beam : Beam) (shown : beam ∈ snapshot.beams) :=
    EmergencyLane.reserve_unitsOn config regulatory scoring urgent snapshot plan step distinct beam
      shown (capacities beam shown)
  have reserved (beam : Beam) (shown : beam ∈ snapshot.beams) :=
    lane_within config regulatory scoring urgent snapshot plan step distinct beam shown
      (capacities beam shown)
  generalize (EmergencyLane.reserve config regulatory scoring urgent snapshot plan
    step).reservations = reservations at *
  have ids := subtract_view Beam.beamId (fun _ _ => rfl) snapshot reservations
  have perBeam := fits_beside snapshot reservations result capacities reserved
    (scheduler.schedule_fitting rng final candidates _ step result returned (ids ▸ distinct)
      (subtract_capacity snapshot reservations capacities))
  refine ⟨fun beam shown => ⟨?_, perBeam beam shown⟩, ?_⟩
  · refine ⟨_, mem_subtract snapshot reservations capacities beam shown, rfl,
      le_trans ?_ (le_max_right _ _)⟩
    have held := lane beam shown
    linarith
  · apply total_within snapshot _ distinct named
    intro beam shown
    rw [unitsOn_append]
    exact perBeam beam shown

/-- Three candidates of two blocks each, by random access where two may share a block. -/
def contenders : List ScheduleCandidate :=
  ["x", "y", "z"].map (fun name =>
    { request := smallRequest name .photo 5, options := [⟨.legacyLeo, .ku, {}⟩],
      scoring := ⟨1 / 2, 1, 1⟩ })

/-- What the lane reserves for one urgent request on the one beam. -/
def afterLane : List Allocation :=
  (EmergencyLane.reserve smallConfig.emergency smallLoop.regulatory smallConfig.scoring
    [smallRequest "a" .emergencySos 5] oneBeam (ResourcePlan.passthrough 0 1) 0).reservations

/-- The call returns on the stream that counts up. -/
theorem contention_returns : ((InRepoScheduler.contentionMac { captureCapacity := 2 } 9).schedule
    countingRng contenders (subtractReservations oneBeam afterLane) 0).isSome = true := by
  decide +kernel

/-- One reservation and three recovered transmissions on one beam stay within its budget. -/
theorem cross_tier_capacity_shared :
    ∃ result final, (InRepoScheduler.contentionMac { captureCapacity := 2 } 9).schedule countingRng
        contenders (subtractReservations oneBeam afterLane) 0 = some (result, final) ∧
      (afterLane ++ result.allocations).length = 4 ∧
        ((afterLane ++ result.allocations).map Allocation.allocatedUnits).sum ≤
          oneBeam.totalCapacity + oneBeam.beams.length * (2 * slack) :=
  ⟨_, _, (Option.some_get contention_returns).symm, by decide +kernel,
    (cross_tier_capacity smallConfig.emergency smallLoop.regulatory smallConfig.scoring
      [smallRequest "a" .emergencySos 5] oneBeam (ResourcePlan.passthrough 0 1) 0
      (.contentionMac { captureCapacity := 2 } 9) contenders countingRng _ _ (by decide)
      (by decide +kernel) (Option.some_get contention_returns).symm).2⟩

namespace ControlLoop

variable {σ π φ ο : Type} (loop : ControlLoop σ π φ ο)

variable {t : ℤ} {state next : LoopState σ π φ ο} {trace : StepTrace}

/-- The result of a step fits the net snapshot in every mode; safe mode grants nothing. This is
where the budgets of the schedulers meet the loop. -/
theorem Stepped.fitting (stepped : loop.Stepped t state next trace) (budgeted : loop.Budgeted)
    (distinct : (trace.snapshot.beams.map Beam.beamId).Nodup)
    (capacities : ∀ beam ∈ trace.snapshot.beams, 0 ≤ beam.capacityUnits) :
    Fitting trace.remaining trace.result := by
  have ids : (trace.remaining.beams.map Beam.beamId).Nodup := by
    rw [stepped.remaining, subtract_view Beam.beamId (fun _ _ => rfl)]
    exact distinct
  have left : ∀ beam ∈ trace.remaining.beams, 0 ≤ beam.capacityUnits := by
    rw [stepped.remaining]
    exact subtract_capacity _ _ capacities
  rcases loop.runScheduler_inv _ _ _ _ _ _ stepped.scheduled with
    ⟨_, called⟩ | ⟨_, _, called⟩ | ⟨_, _, _, nothing⟩
  · exact budgeted.primary _ _ _ _ _ _ called ids left
  · exact budgeted.fallback _ _ _ _ _ _ called ids left
  · intro beam shown
    have positive := slack_pos
    have capacity := left beam shown
    dsimp only at nothing
    simp only [nothing, unitsOn_nil]
    linarith

/-- In every step of every run, whichever schedulers raise, what both tiers grant on a beam
is within its capacity and two slacks, when the beams shown are distinct. -/
theorem run_within_capacity (budgeted : loop.Budgeted) (start : ℤ) (count : ℕ)
    (initial final : LoopState σ π φ ο) (traces : List StepTrace)
    (completed : loop.run start count initial = some (final, traces)) (trace : StepTrace)
    (member : trace ∈ traces) (distinct : (trace.snapshot.beams.map Beam.beamId).Nodup)
    (capacities : ∀ beam ∈ trace.snapshot.beams, 0 ≤ beam.capacityUnits) :
    ∀ beam ∈ trace.snapshot.beams,
      unitsOn beam.beamId trace.allocations ≤ beam.capacityUnits + 2 * slack := by
  obtain ⟨state, next, stepped⟩ := loop.run_stepped start count initial final traces completed trace
    member
  have fitting := stepped.fitting loop budgeted distinct capacities
  rw [stepped.remaining] at fitting
  intro beam shown
  rw [StepTrace.allocations, unitsOn_append]
  refine fits_beside trace.snapshot _ trace.result capacities ?_ fitting beam shown
  intro other listed
  rw [stepped.decision]
  exact lane_within _ _ _ _ _ _ _ distinct other listed (capacities other listed)

end ControlLoop

end Satsim
