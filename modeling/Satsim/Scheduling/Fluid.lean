import Satsim.Scheduling.Contract

/-!
# Fluid schedulers

Both schedulers treat a beam as one number and serve candidates by descending score.
A candidate takes its whole cost from the eligible beam with the most free capacity,
or, when it is degradable, a part of it from the beam that can give the most. They
differ in the cap on what one request may take.

The pass is `Greedy.run` over a list of beam states, so its invariants come from the
library: what a single placement keeps, pays and lowers is proved here, and the rules of
greedy service carry it through. Comparisons allow the source's tolerance of a
billionth, which is where `slack` enters.
-/

namespace Satsim

open Library

/-- The greedy allocator, with the cap on one request's airtime. A missing cap is the source's
infinity. -/
structure GreedyScheduler where
  cap : Option ℚ
  degradeMinFraction : ℚ
  deriving DecidableEq

namespace GreedyScheduler

variable (scheduler : GreedyScheduler)

/-- What a beam can give a candidate, when it is legal and in the right region: the least of its
free capacity, the regulatory cap and the scheduler's own. -/
def allocatable (candidate : ScheduleCandidate) (state : BeamState) : Option ℚ :=
  match (optionCaps candidate.options).get? (state.beam.fleet, state.beam.band) with
  | none => none
  | some regCap =>
      if state.beam.region ≠ candidate.request.region then none
      else some (capped (capped state.remaining regCap) scheduler.cap)

/-- A beam that can give the whole need competes with its free capacity, so that the emptiest
beam wins and not the one whose cap is the highest. -/
def fullOffer (candidate : ScheduleCandidate) (state : BeamState) : Option ℚ :=
  (scheduler.allocatable candidate state).bind fun amount =>
    if candidate.scoring.estimatedCostUnits ≤ amount + slack then some state.remaining else none

/-- A beam that cannot give the whole need competes with what it can give. -/
def degradeOffer (candidate : ScheduleCandidate) (state : BeamState) : Option ℚ :=
  (scheduler.allocatable candidate state).bind fun amount =>
    if candidate.scoring.estimatedCostUnits ≤ amount + slack then none else some amount

/-- The allocation written for a beam. Fleet, beam and band are those of the beam, never those
of the option. -/
def grant (candidate : ScheduleCandidate) (state : BeamState) (units : ℚ) (degraded : Bool) :
    Allocation :=
  { requestId := candidate.request.requestId
    fleet := state.beam.fleet
    beamId := state.beam.beamId
    band := state.beam.band
    allocatedUnits := units
    deliveryProbability := candidate.scoring.deliveryProbability
    degraded := degraded }

/-- The beam loop updates one of two incumbents for each beam, by whether the beam
offers the whole need; a search for each incumbent reads the same values. A partial
grant needs a degradable candidate and at least the degradation floor. -/
def allocate (beams : List BeamState) (candidate : ScheduleCandidate) :
    Option (Allocation × List BeamState) :=
  let need := candidate.scoring.estimatedCostUnits
  let fullBest := Greedy.scan (scheduler.fullOffer candidate) beams 0 ⟨none, ((-1 : ℚ) : WithBot ℚ)⟩
  match fullBest.slot with
  | some slot => do
      let state ← beams[slot]?
      pure (grant candidate state need false, beams.modify slot (BeamState.charge need))
  | none => do
      let degradeBest :=
        Greedy.scan (scheduler.degradeOffer candidate) beams 0 ⟨none, ((0 : ℚ) : WithBot ℚ)⟩
      let slot ← degradeBest.slot
      let state ← beams[slot]?
      let degradeAllocatable := degradeBest.bar.unbotD 0
      let floor := scheduler.degradeMinFraction * capped need scheduler.cap
      if candidate.degradable = true ∧ floor ≤ degradeAllocatable + slack then
        let amount := min degradeAllocatable need
        pure (grant candidate state amount true, beams.modify slot (BeamState.charge amount))
      else none

/-- The pass over the candidates, on every beam of the snapshot. It returns what was decided and
what is left on the beams; the source keeps the second in a local variable, and results that
speak of residual capacity read it here. -/
def serve (candidates : List ScheduleCandidate) (snapshot : ConstellationSnapshot) (step : ℤ) :
    Greedy.Outcome ScheduleCandidate Allocation × List BeamState :=
  Greedy.run (fun candidate => candidate.request.isExpired step) scheduler.allocate
    (byScore candidates) (snapshot.beams.map (fun beam => ⟨beam, beam.capacityUnits⟩))

/-- The call: what the pass decided, assembled. What is left on the beams is forgotten, since
every step starts from a fresh snapshot. -/
def schedule (candidates : List ScheduleCandidate) (snapshot : ConstellationSnapshot) (step : ℤ) :
    SchedulingResult :=
  assemble candidates snapshot (scheduler.serve candidates snapshot step).1

/-- A beam can give something only when an option of the candidate covers it and the beam serves
its region; then it gives the least of the three bounds. -/
theorem allocatable_eq_some (candidate : ScheduleCandidate) (state : BeamState) (amount : ℚ) :
    scheduler.allocatable candidate state = some amount ↔
      ∃ regCap, (optionCaps candidate.options).get? (state.beam.fleet, state.beam.band) =
          some regCap ∧ state.beam.region = candidate.request.region ∧
        capped (capped state.remaining regCap) scheduler.cap = amount := by
  unfold allocatable
  cases (optionCaps candidate.options).get? (state.beam.fleet, state.beam.band) with
  | none => simp
  | some regCap =>
    by_cases located : state.beam.region = candidate.request.region <;> simp [located]

/-- What a beam can give is within its free capacity and within a legal cap. This half is what
the loop's invariants use. -/
theorem allocatable_bounds (candidate : ScheduleCandidate) (state : BeamState) (amount : ℚ)
    (gives : scheduler.allocatable candidate state = some amount) :
    amount ≤ state.remaining ∧ state.beam.region = candidate.request.region ∧
      ∃ cap, candidate.Legal state.beam.fleet state.beam.band cap ∧
        amount ≤ capped state.remaining cap := by
  obtain ⟨regCap, found, located, rfl⟩ :=
    (scheduler.allocatable_eq_some candidate state amount).mp gives
  exact ⟨(capped_le _ _).trans (capped_le _ _), located, regCap,
    optionCaps_legal candidate _ _ _ found, capped_le _ _⟩

/-- A grant charges one beam with no more than it can give, up to the slack. A whole
grant is the candidate's cost; a partial one goes to a degradable candidate, is what
the beam can give, is positive, and reaches the floor, when no beam can give the cost. -/
theorem allocate_inv (beams charged : List BeamState) (candidate : ScheduleCandidate)
    (allocation : Allocation)
    (granted : scheduler.allocate beams candidate = some (allocation, charged)) :
    ∃ slot, ∃ bound : slot < beams.length, ∃ amount units degraded,
      scheduler.allocatable candidate beams[slot] = some amount ∧
        charged = beams.modify slot (BeamState.charge units) ∧
          allocation = grant candidate beams[slot] units degraded ∧ units ≤ amount + slack ∧
            (degraded = false → units = candidate.scoring.estimatedCostUnits) ∧
              (degraded = true → candidate.degradable = true ∧ units = amount ∧ 0 < amount ∧
                scheduler.degradeMinFraction *
                  capped candidate.scoring.estimatedCostUnits scheduler.cap ≤ amount + slack ∧
                ∀ state ∈ beams, ∀ other, scheduler.allocatable candidate state = some other →
                  other + slack < candidate.scoring.estimatedCostUnits) := by
  simp only [allocate] at granted
  split at granted
  · rename_i slot found
    obtain ⟨bound, offered, offers, _⟩ := Greedy.scan_slot _ _ _ slot found
    simp only [List.getElem?_eq_getElem bound, Option.bind_eq_bind, Option.bind_some,
      Option.pure_def, Option.some.injEq, Prod.mk.injEq] at granted
    simp only [fullOffer, Option.bind_eq_some_iff] at offers
    obtain ⟨amount, gives, offers⟩ := offers
    split at offers
    · rename_i covered
      exact ⟨slot, bound, amount, _, false, gives, granted.2.symm, granted.1.symm, covered,
        fun _ => rfl, by simp⟩
    · simp at offers
  · rename_i missing
    have short := Greedy.scan_none _ _ _ missing
    simp only [Option.bind_eq_bind, Option.bind_eq_some_iff] at granted
    obtain ⟨slot, found, state, read, granted⟩ := granted
    obtain ⟨bound, offered, offers, bar, above, _⟩ := Greedy.scan_slot _ _ _ slot found
    obtain rfl : beams[slot] = state := by simpa [List.getElem?_eq_getElem bound] using read
    simp only [bar, WithBot.unbotD_coe] at granted
    simp only [degradeOffer, Option.bind_eq_some_iff] at offers
    obtain ⟨amount, gives, offers⟩ := offers
    split at offers
    · simp at offers
    · rename_i lacking
      obtain rfl : amount = offered := by simpa using offers
      split at granted
      · rename_i floored
        have positive : 0 < amount := by exact_mod_cast above
        -- The beam cannot give the whole need, so the smaller of the two is the amount.
        have partialGrant : min amount candidate.scoring.estimatedCostUnits = amount :=
          min_eq_left (by linarith [slack_pos, not_le.mp lacking])
        -- A beam that could give the need would be overdrawn by one, and the need is positive.
        have exhausted : ∀ state ∈ beams, ∀ other,
            scheduler.allocatable candidate state = some other →
              other + slack < candidate.scoring.estimatedCostUnits := by
          intro state member other otherGives
          by_contra covered
          have offered : scheduler.fullOffer candidate state = some state.remaining := by
            rw [fullOffer, otherGives, Option.bind_some, if_pos (not_lt.mp covered)]
          have overdrawn : state.remaining ≤ -1 := by
            exact_mod_cast short state member _ offered
          have free := (scheduler.allocatable_bounds candidate state other otherGives).1
          have small : slack < 1 := by norm_num [slack]
          linarith [not_le.mp lacking, not_lt.mp covered, slack_pos]
        simp only [partialGrant, Option.pure_def, Option.some.injEq, Prod.mk.injEq] at granted
        exact ⟨slot, bound, amount, amount, true, gives, granted.2.symm, granted.1.symm,
          by linarith [slack_pos], by simp,
          fun _ => ⟨floored.1, rfl, positive, floored.2, exhausted⟩⟩
      · simp at granted

/-- A grant is a payment from the beam states: one beam gives what it charges, and the beam
named in the allocation is that one. The slack is the overdraft that the comparison with the
need allows. -/
theorem allocate_pays (beams charged : List BeamState) (candidate : ScheduleCandidate)
    (allocation : Allocation)
    (granted : scheduler.allocate beams candidate = some (allocation, charged)) :
    Greedy.Pays BeamState.beamId BeamState.remaining (-slack) beams charged
      allocation.beamId allocation.allocatedUnits := by
  obtain ⟨slot, bound, amount, units, degraded, gives, rfl, rfl, covered, _⟩ :=
    scheduler.allocate_inv beams charged candidate allocation granted
  obtain ⟨free, _⟩ := scheduler.allocatable_bounds candidate _ amount gives
  exact BeamState.charge_pays units slot beams bound (covered.trans (add_le_add_left free slack))

/-- A grant keeps the beams and is lawful on one of them: it stays in its region, under the cap
of an option for its fleet and band. -/
theorem allocate_fits (beams charged : List BeamState) (candidate : ScheduleCandidate)
    (allocation : Allocation)
    (granted : scheduler.allocate beams candidate = some (allocation, charged)) :
    charged.map BeamState.beam = beams.map BeamState.beam ∧
      Fits (beams.map BeamState.beam) candidate.Legal candidate.request allocation := by
  obtain ⟨slot, bound, amount, units, degraded, gives, rfl, rfl, covered, _⟩ :=
    scheduler.allocate_inv beams charged candidate allocation granted
  obtain ⟨_, located, cap, legal, within⟩ := scheduler.allocatable_bounds candidate _ amount gives
  refine ⟨BeamState.beams_modify units slot beams, rfl, beams[slot].beam,
    List.mem_map.mpr ⟨_, List.getElem_mem bound, rfl⟩, cap, rfl, rfl, rfl, located, legal, ?_⟩
  exact within_cap _ _ _ (covered.trans (add_le_add_left within slack))

/-- The fluid schedulers meet the contract on every input, duplicate beams and negative
capacities included. -/
theorem schedule_settles (candidates : List ScheduleCandidate) (snapshot : ConstellationSnapshot)
    (step : ℤ) :
    Settles candidates snapshot step (scheduler.schedule candidates snapshot step) := by
  refine assemble_settles candidates snapshot step scheduler.allocate
    (fun beams => beams.map BeamState.beam = snapshot.beams) ?_ _ ?_
  · intro beams candidate allocation charged same granted
    obtain ⟨kept, fits⟩ := scheduler.allocate_fits beams charged candidate allocation granted
    exact ⟨kept.trans same, same ▸ fits⟩
  · simp [Function.comp_def]

/-- On distinct beams of nonnegative capacity the fluid schedulers keep every budget. -/
theorem schedule_fitting (candidates : List ScheduleCandidate) (snapshot : ConstellationSnapshot)
    (step : ℤ) (distinct : (snapshot.beams.map Beam.beamId).Nodup)
    (capacities : ∀ beam ∈ snapshot.beams, 0 ≤ beam.capacityUnits) :
    Fitting snapshot (scheduler.schedule candidates snapshot step) := by
  intro beam shown
  refine run_unitsOn _ scheduler.allocate id
    (fun beams candidate allocation charged granted =>
      scheduler.allocate_pays beams charged candidate allocation granted)
    (byScore candidates) (snapshot.beams.map (fun beam => ⟨beam, beam.capacityUnits⟩)) ?_ ?_
    ⟨beam, beam.capacityUnits⟩ (List.mem_map.mpr ⟨beam, shown, rfl⟩)
  · intro state member
    obtain ⟨beam, shown, rfl⟩ := List.mem_map.mp member
    exact capacities beam shown
  · simpa [BeamState.beamId, Function.comp_def] using distinct

end GreedyScheduler

/-- Greedy by score without a cap on one request, so one request may take a whole beam. -/
def heuristicScheduler (degradeMinFraction : ℚ) : GreedyScheduler := ⟨none, degradeMinFraction⟩

/-- Greedy by score under a cap on one request. A request above the cap is not refused: if it
may be degraded, it is offered what the cap leaves of it. -/
def priorityFairScheduler (maxUnitsPerRequest degradeMinFraction : ℚ) : GreedyScheduler :=
  ⟨some maxUnitsPerRequest, degradeMinFraction⟩

end Satsim
