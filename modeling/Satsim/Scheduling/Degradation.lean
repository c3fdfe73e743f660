import Satsim.Scheduling.Priority

/-!
# Full and partial grants

A granting scheduler gives a candidate its need, or marks the grant as degraded. What a
degraded grant promises is stated for one turn of a pass, against the beams as the candidates
served before have left them: in airtime for the fluid schedulers, in whole blocks for
granted access. A cap that no candidate reaches leaves no trace.

The promises are about the grants that are made. When a grant is refused is another
question, taken up with the residual capacity of a pass.
-/

namespace Satsim

open Library

namespace GreedyScheduler

variable (scheduler : GreedyScheduler)

/-- The beams at the turn that follows some candidates: the pass itself, cut short there. -/
def beamsAfter (snapshot : ConstellationSnapshot) (step : ℤ) (before : List ScheduleCandidate) :
    List BeamState :=
  (Greedy.run (fun candidate => candidate.request.isExpired step) scheduler.allocate before
    (snapshot.beams.map (fun beam => ⟨beam, beam.capacityUnits⟩))).2

/-- What a grant owes a candidate at a turn. A whole grant is the cost; a degraded one says why
it had to be, in terms of the beams as they then stood, and that its part is worth having. -/
structure Owes (beams : List BeamState) (candidate : ScheduleCandidate) (allocation : Allocation) :
    Prop where
  whole : allocation.degraded = false →
    allocation.allocatedUnits = candidate.scoring.estimatedCostUnits
  willing : allocation.degraded = true → candidate.degradable = true
  less : allocation.degraded = true →
    allocation.allocatedUnits < candidate.scoring.estimatedCostUnits
  floored : allocation.degraded = true → scheduler.degradeMinFraction *
    capped candidate.scoring.estimatedCostUnits scheduler.cap ≤ allocation.allocatedUnits + slack
  limited : allocation.degraded = true → ∀ limit ∈ scheduler.cap, allocation.allocatedUnits ≤ limit
  exhausted : allocation.degraded = true → ∀ state ∈ beams, ∀ amount,
    scheduler.allocatable candidate state = some amount →
      amount + slack < candidate.scoring.estimatedCostUnits

/-- One placement of the beam loop, read off what it charges. The part of a degraded grant is
the most that any beam could give. -/
theorem allocate_owes (beams charged : List BeamState) (candidate : ScheduleCandidate)
    (allocation : Allocation)
    (granted : scheduler.allocate beams candidate = some (allocation, charged)) :
    scheduler.Owes beams candidate allocation := by
  obtain ⟨slot, bound, amount, units, degraded, gives, rfl, rfl, _, whole, partly⟩ :=
    scheduler.allocate_inv beams charged candidate allocation granted
  constructor
  · exact whole
  · intro marked
    exact (partly marked).1
  · intro marked
    obtain ⟨_, rfl, _, _, exhausted⟩ := partly marked
    exact (lt_add_of_pos_right _ slack_pos).trans
      (exhausted _ (List.getElem_mem bound) _ gives)
  · intro marked
    obtain ⟨_, rfl, _, floored, _⟩ := partly marked
    exact floored
  · intro marked limit limited
    obtain ⟨_, rfl, _⟩ := partly marked
    obtain ⟨regCap, _, _, rfl⟩ := (scheduler.allocatable_eq_some candidate _ units).mp gives
    exact (congrArg (capped _) limited).le.trans (capped_le_cap _ limit)
  · intro marked
    exact (partly marked).2.2.2.2

/-- Every grant of a call, at its turn. The candidates before it in the order of service have
been served, those after it have not. -/
def GrantsAsOwed (candidates : List ScheduleCandidate) (snapshot : ConstellationSnapshot)
    (step : ℤ) : Prop :=
  ∀ allocation ∈ (scheduler.schedule candidates snapshot step).allocations,
    ∃ candidate before after, byScore candidates = before ++ candidate :: after ∧
      (candidate.request, allocation) ∈ (scheduler.schedule candidates snapshot step).served.zip
        (scheduler.schedule candidates snapshot step).allocations ∧
      scheduler.Owes (scheduler.beamsAfter snapshot step before) candidate allocation

/-- A pass hands out what it owes, since every grant was placed at some turn. -/
theorem schedule_owes (candidates : List ScheduleCandidate) (snapshot : ConstellationSnapshot)
    (step : ℤ) : scheduler.GrantsAsOwed candidates snapshot step := by
  rintro allocation member
  obtain ⟨candidate, before, after, charged, order, served, answered⟩ :=
    assemble_turn candidates snapshot step scheduler.allocate _ allocation member
  exact ⟨candidate, before, after, order, served,
    scheduler.allocate_owes _ charged candidate allocation answered⟩

end GreedyScheduler

namespace SlotMacScheduler

variable (config : MacConfig)

/-- The grids at the turn that follows some candidates, as they are for the beams. -/
def gridsAfter (snapshot : ConstellationSnapshot) (step : ℤ) (before : List ScheduleCandidate) :
    List BeamGrid :=
  (Greedy.run (fun candidate => candidate.request.isExpired step) (assign config) before
    (snapshot.beams.map (freshGrid config))).2

/-- What a grant of some blocks of a grid owes a candidate at a turn. Needs and floors are in
whole blocks, so the promise is on their number and the airtime follows from what a block is
worth. -/
structure Owes (grids : List BeamGrid) (candidate : ScheduleCandidate) (grid : BeamGrid) (rbs : ℤ)
    (allocation : Allocation) : Prop where
  listed : grid ∈ grids
  named : allocation.beamId = grid.beam.beamId
  worth : grid.rbUnits = rbUnits config grid.beam.capacityUnits
  units : allocation.allocatedUnits = rbs * grid.rbUnits
  whole : allocation.degraded = false → rbs = rbsNeeded config candidate.request
  willing : allocation.degraded = true → candidate.degradable = true
  less : allocation.degraded = true → rbs < rbsNeeded config candidate.request ∧
    allocation.allocatedUnits < rbsNeeded config candidate.request * grid.rbUnits
  floored : allocation.degraded = true → config.degradeMinFraction *
    (min (rbsNeeded config candidate.request)
      (rbsCap config (rbsNeeded config candidate.request)) : ℤ) ≤ rbs
  limited : allocation.degraded = true →
    ∀ limit ∈ config.maxRbsPerRequest, rbs ≤ limit
  exhausted : allocation.degraded = true → ∀ other ∈ grids, ∀ offered,
    assignable config candidate other = some offered →
      offered < rbsNeeded config candidate.request

/-- Grids keep the airtime of their blocks through a pass: only the count of the free ones
changes. -/
theorem gridsAfter_worth (snapshot : ConstellationSnapshot) (step : ℤ)
    (before : List ScheduleCandidate) (grid : BeamGrid)
    (member : grid ∈ gridsAfter config snapshot step before) :
    grid.rbUnits = rbUnits config grid.beam.capacityUnits := by
  have kept := (Greedy.run_invariant (fun candidate : ScheduleCandidate =>
    candidate.request.isExpired step) (assign config)
    (fun grids => ∀ grid ∈ grids, grid.rbUnits = rbUnits config grid.beam.capacityUnits)
    (fun _ _ => True) ?_ before (snapshot.beams.map (freshGrid config)) ?_).1
  · exact kept grid member
  · intro grids candidate allocation taken worth _ granted
    obtain ⟨slot, bound, _, rbs, _, _, _, _, rfl, _⟩ :=
      assign_inv config grids taken candidate allocation granted
    refine ⟨?_, trivial⟩
    intro grid member
    obtain ⟨index, inside, rfl⟩ := List.getElem_of_mem member
    have inside' : index < grids.length := by simpa using inside
    have before := worth _ (List.getElem_mem inside')
    rw [List.getElem_modify]
    split <;> exact before
  · intro grid member
    obtain ⟨beam, _, rfl⟩ := List.mem_map.mp member
    rfl

/-- One placement of the grid loop, in blocks. The worth of a block enters as a hypothesis,
since a grid carries it as a field. -/
theorem assign_owes (grids taken : List BeamGrid) (candidate : ScheduleCandidate)
    (allocation : Allocation)
    (worth : ∀ grid ∈ grids, grid.rbUnits = rbUnits config grid.beam.capacityUnits)
    (granted : assign config grids candidate = some (allocation, taken)) :
    ∃ grid rbs, Owes config grids candidate grid rbs allocation := by
  obtain ⟨slot, bound, offered, rbs, degraded, offers, positive, within, rfl, rfl, whole, partly⟩ :=
    assign_inv config grids taken candidate allocation granted
  obtain ⟨_, _, limited, cap, _, legal⟩ := assignable_bounds config candidate _ offered offers
  have valuable := (regulatoryCap_worth cap _ _ rbs positive (within.trans legal)).1
  refine ⟨grids[slot], rbs, List.getElem_mem bound, rfl, worth _ (List.getElem_mem bound), rfl,
    whole, ?_, ?_, ?_, ?_, ?_⟩
  · intro marked
    exact (partly marked).1
  · intro marked
    obtain ⟨_, rfl, _, exhausted⟩ := partly marked
    have fewer := exhausted _ (List.getElem_mem bound) _ offers
    have cast : (rbs : ℚ) < rbsNeeded config candidate.request := by exact_mod_cast fewer
    exact ⟨fewer, mul_lt_mul_of_pos_right cast valuable⟩
  · intro marked
    obtain ⟨_, rfl, floored, _⟩ := partly marked
    exact (Int.le_ceil _).trans (by exact_mod_cast floored)
  · intro marked limit capped
    have bounded : rbsCap config (rbsNeeded config candidate.request) = limit := by
      rw [rbsCap, show config.maxRbsPerRequest = some limit from capped, Option.getD_some]
    omega
  · intro marked
    exact (partly marked).2.2.2

/-- Every grant of a call, at its turn, for some grid and number of blocks that account
for it. -/
def GrantsAsOwed (candidates : List ScheduleCandidate) (snapshot : ConstellationSnapshot)
    (step : ℤ) : Prop :=
  ∀ allocation ∈ (schedule config candidates snapshot step).allocations,
    ∃ candidate before after, byScore candidates = before ++ candidate :: after ∧
      (candidate.request, allocation) ∈ (schedule config candidates snapshot step).served.zip
        (schedule config candidates snapshot step).allocations ∧
      ∃ grid rbs,
        Owes config (gridsAfter config snapshot step before) candidate grid rbs allocation

/-- Granted access hands out what it owes. Random access makes degraded attempts as well, but
what an attempt is given is settled by who else transmits. -/
theorem schedule_owes (candidates : List ScheduleCandidate) (snapshot : ConstellationSnapshot)
    (step : ℤ) : GrantsAsOwed config candidates snapshot step := by
  rintro allocation member
  obtain ⟨candidate, before, after, taken, order, served, answered⟩ :=
    assemble_turn candidates snapshot step (assign config) _ allocation member
  exact ⟨candidate, before, after, order, served, assign_owes config _ taken candidate allocation
    (gridsAfter_worth config snapshot step before) answered⟩

end SlotMacScheduler

/-- The degradation contract. Every grant of a granting scheduler is the candidate's need, or
is marked as degraded; then the candidate is degradable, and the grant is below the need,
within the per-request cap, at least the configured part of the need under that cap, and
made when no eligible beam could have carried the need. -/
theorem degradation_contract (candidates : List ScheduleCandidate)
    (snapshot : ConstellationSnapshot) (step : ℤ) :
    (∀ fraction, (heuristicScheduler fraction).GrantsAsOwed candidates snapshot step) ∧
      (∀ cap fraction, (priorityFairScheduler cap fraction).GrantsAsOwed candidates snapshot step) ∧
      ∀ config, SlotMacScheduler.GrantsAsOwed config candidates snapshot step := by
  refine ⟨?_, ?_, ?_⟩
  · intro fraction
    exact (heuristicScheduler fraction).schedule_owes candidates snapshot step
  · intro cap fraction
    exact (priorityFairScheduler cap fraction).schedule_owes candidates snapshot step
  · intro config
    exact SlotMacScheduler.schedule_owes config candidates snapshot step

section Cap

variable (cap fraction : ℚ) (candidate : ScheduleCandidate)
  (within : candidate.scoring.estimatedCostUnits ≤ cap)
include within

/-- A cap that a cost does not exceed decides neither whether a beam can give the cost nor, if
it cannot, what it can give. Either the beam has the cost to give, or it has less than the cost
and so less than the cap. -/
theorem offers_uncapped (state : BeamState) :
    (priorityFairScheduler cap fraction).fullOffer candidate state =
        (heuristicScheduler fraction).fullOffer candidate state ∧
      (priorityFairScheduler cap fraction).degradeOffer candidate state =
        (heuristicScheduler fraction).degradeOffer candidate state := by
  have positive := slack_pos
  unfold GreedyScheduler.fullOffer GreedyScheduler.degradeOffer GreedyScheduler.allocatable
  cases (optionCaps candidate.options).get? (state.beam.fleet, state.beam.band) with
  | none => exact ⟨rfl, rfl⟩
  | some regCap =>
    by_cases located : state.beam.region ≠ candidate.request.region
    · simp [located]
    · simp only [located, ↓reduceIte, Option.bind_some, priorityFairScheduler, heuristicScheduler]
      generalize capped state.remaining regCap = amount
      simp only [capped]
      by_cases covered : candidate.scoring.estimatedCostUnits ≤ amount + slack
      · have both : candidate.scoring.estimatedCostUnits ≤ min amount cap + slack := by
          rw [← min_add_add_right]
          exact le_min covered (by linarith)
        simp [covered, both]
      · have small : min amount cap = amount := min_eq_left (by linarith [not_le.mp covered])
        simp [covered, small]

/-- The whole placement is then the same, the floor of a degraded grant included: the cap enters
it as the smaller of the cost and the cap. -/
theorem allocate_uncapped (beams : List BeamState) :
    (priorityFairScheduler cap fraction).allocate beams candidate =
      (heuristicScheduler fraction).allocate beams candidate := by
  have full : (priorityFairScheduler cap fraction).fullOffer candidate =
      (heuristicScheduler fraction).fullOffer candidate :=
    funext (fun state => (offers_uncapped cap fraction candidate within state).1)
  have part : (priorityFairScheduler cap fraction).degradeOffer candidate =
      (heuristicScheduler fraction).degradeOffer candidate :=
    funext (fun state => (offers_uncapped cap fraction candidate within state).2)
  have floor :
      capped candidate.scoring.estimatedCostUnits (priorityFairScheduler cap fraction).cap =
        capped candidate.scoring.estimatedCostUnits (heuristicScheduler fraction).cap :=
    min_eq_left within
  simp only [GreedyScheduler.allocate, full, part, floor]
  rfl

end Cap

/-- The fairness cap is the only difference: under a cap that no candidate's cost exceeds, the
capped scheduler returns what the uncapped one does. -/
theorem fairness_cap_only (cap fraction : ℚ) (candidates : List ScheduleCandidate)
    (snapshot : ConstellationSnapshot) (step : ℤ)
    (within : ∀ candidate ∈ candidates, candidate.scoring.estimatedCostUnits ≤ cap) :
    (priorityFairScheduler cap fraction).schedule candidates snapshot step =
      (heuristicScheduler fraction).schedule candidates snapshot step := by
  have served : (priorityFairScheduler cap fraction).serve candidates snapshot step =
      (heuristicScheduler fraction).serve candidates snapshot step := by
    apply Greedy.run_congr
    intro candidate listed beams
    exact allocate_uncapped cap fraction candidate
      (within candidate ((mem_byScore candidates candidate).mp listed)) beams
  rw [GreedyScheduler.schedule, GreedyScheduler.schedule, served]

/-- A cap equal to the larger cost, which the hypothesis still admits. -/
theorem fairness_cap_only_touched :
    (priorityFairScheduler 9 (1 / 4)).schedule [sized "a" 8, sized "b" 9] oneBeam 0 =
      (heuristicScheduler (1 / 4)).schedule [sized "a" 8, sized "b" 9] oneBeam 0 :=
  fairness_cap_only 9 (1 / 4) [sized "a" 8, sized "b" 9] oneBeam 0 (by decide +kernel)

end Satsim
