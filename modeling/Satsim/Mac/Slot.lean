import Satsim.Mac.Grid

/-!
# Granted access

A central allocator gives whole resource blocks, highest score first, on the eligible
beam that can assign the most. Every grid's count of free blocks stays between zero
and the size of the grid, and a grant takes exactly the blocks it is worth.

Here the resource of the pass is a list of grids, and the amount paid is airtime: blocks
times what one is worth. The worth never changes, so counting blocks and counting
airtime come to the same.
-/

namespace Satsim

open Library

/-- A beam, its free blocks in this step, and the airtime of one block. -/
structure BeamGrid where
  beam : Beam
  freeRbs : ℤ
  rbUnits : ℚ
  deriving DecidableEq, Repr

namespace BeamGrid

/-- The identifier of the grid's beam. -/
def beamId (grid : BeamGrid) : String := grid.beam.beamId

/-- The airtime of the free blocks, which is the balance that grants are paid from. -/
def freeUnits (grid : BeamGrid) : ℚ := grid.freeRbs * grid.rbUnits

/-- Take blocks off the grid. What remains is worth as much a block as before. -/
def take (rbs : ℤ) (grid : BeamGrid) : BeamGrid := { grid with freeRbs := grid.freeRbs - rbs }

/-- Taking blocks does not touch the beam. -/
@[simp] theorem beam_take (rbs : ℤ) (grid : BeamGrid) : (grid.take rbs).beam = grid.beam := rfl

/-- Nor the worth of a block. -/
@[simp] theorem rbUnits_take (rbs : ℤ) (grid : BeamGrid) :
    (grid.take rbs).rbUnits = grid.rbUnits := rfl

/-- The free blocks fall by what was taken. -/
@[simp] theorem freeRbs_take (rbs : ℤ) (grid : BeamGrid) :
    (grid.take rbs).freeRbs = grid.freeRbs - rbs := rfl

end BeamGrid

namespace SlotMacScheduler

variable (config : MacConfig)

/-- The grid of a beam at the start of a step: every block free, each worth its part of the
capacity. -/
def freshGrid (beam : Beam) : BeamGrid :=
  { beam := beam
    freeRbs := config.resourceBlocksPerBeam
    rbUnits := rbUnits config beam.capacityUnits }

/-- The blocks a grid can assign to a candidate, when the beam is eligible: free blocks, under
the per-request cap and under the airtime cap. -/
def assignable (candidate : ScheduleCandidate) (grid : BeamGrid) : Option ℤ :=
  match (optionCaps candidate.options).get? (grid.beam.fleet, grid.beam.band) with
  | none => none
  | some optionCap =>
      if grid.beam.region ≠ candidate.request.region then none
      else
        let needed := rbsNeeded config candidate.request
        some (min grid.freeRbs (min (rbsCap config needed)
          (regulatoryCapRbs optionCap grid.rbUnits grid.freeRbs)))

/-- The allocation of some blocks of a grid, worth their airtime. -/
def grant (candidate : ScheduleCandidate) (grid : BeamGrid) (rbs : ℤ) (degraded : Bool) :
    Allocation :=
  { requestId := candidate.request.requestId
    fleet := grid.beam.fleet
    beamId := grid.beam.beamId
    band := grid.beam.band
    allocatedUnits := rbs * grid.rbUnits
    deliveryProbability := min 1 (max 0 candidate.request.linkQuality)
    degraded := degraded }

/-- Assign on the grid that offers the most blocks, at least one: the whole need when it fits
the per-request cap and the offer, else a degradable candidate's offer when it reaches the
floor. The first of equal offers wins. -/
def assign (grids : List BeamGrid) (candidate : ScheduleCandidate) :
    Option (Allocation × List BeamGrid) := do
  let needed := rbsNeeded config candidate.request
  let cap := rbsCap config needed
  let best := Greedy.scan (assignable config candidate) grids 0 ⟨none, ((0 : ℤ) : WithBot ℤ)⟩
  let slot ← best.slot
  let grid ← grids[slot]?
  let bestAssignable := best.bar.unbotD 0
  if needed ≤ cap ∧ needed ≤ bestAssignable then
    pure (grant candidate grid needed false, grids.modify slot (BeamGrid.take needed))
  else
    let floor := ⌈config.degradeMinFraction * (min needed cap : ℤ)⌉
    if candidate.degradable = true ∧ floor ≤ bestAssignable then
      pure (grant candidate grid bestAssignable true,
        grids.modify slot (BeamGrid.take bestAssignable))
    else none

/-- The pass over the candidates, on a fresh grid for each beam. -/
def serve (candidates : List ScheduleCandidate) (snapshot : ConstellationSnapshot) (step : ℤ) :
    Greedy.Outcome ScheduleCandidate Allocation × List BeamGrid :=
  Greedy.run (fun candidate => candidate.request.isExpired step) (assign config)
    (byScore candidates) (snapshot.beams.map (freshGrid config))

/-- A call of the granted-access scheduler. -/
def schedule (candidates : List ScheduleCandidate) (snapshot : ConstellationSnapshot) (step : ℤ) :
    SchedulingResult :=
  assemble candidates snapshot (serve config candidates snapshot step).1

/-- A grid can assign something only when an option of the candidate covers its beam. -/
theorem assignable_eq_some (candidate : ScheduleCandidate) (grid : BeamGrid) (offered : ℤ) :
    assignable config candidate grid = some offered ↔
      ∃ optionCap, (optionCaps candidate.options).get? (grid.beam.fleet, grid.beam.band) =
          some optionCap ∧ grid.beam.region = candidate.request.region ∧
        min grid.freeRbs (min (rbsCap config (rbsNeeded config candidate.request))
          (regulatoryCapRbs optionCap grid.rbUnits grid.freeRbs)) = offered := by
  unfold assignable
  cases (optionCaps candidate.options).get? (grid.beam.fleet, grid.beam.band) with
  | none => simp
  | some optionCap =>
    by_cases located : grid.beam.region = candidate.request.region <;> simp [located]

/-- What a grid can assign is free, legal and in the request's region. -/
theorem assignable_bounds (candidate : ScheduleCandidate) (grid : BeamGrid) (offered : ℤ)
    (offers : assignable config candidate grid = some offered) :
    offered ≤ grid.freeRbs ∧ grid.beam.region = candidate.request.region ∧
      offered ≤ rbsCap config (rbsNeeded config candidate.request) ∧
        ∃ cap, candidate.Legal grid.beam.fleet grid.beam.band cap ∧
          offered ≤ regulatoryCapRbs cap grid.rbUnits grid.freeRbs := by
  obtain ⟨optionCap, found, located, rfl⟩ :=
    (assignable_eq_some config candidate grid offered).mp offers
  exact ⟨by omega, located, by omega, optionCap, optionCaps_legal candidate _ _ _ found, by omega⟩

/-- A grant takes a positive number of blocks from one grid that can assign them: the whole
need, or a degradable candidate's offer when it reaches the floor and no grid can assign the
need. Everything proved of grants starts here. -/
theorem assign_inv (grids taken : List BeamGrid) (candidate : ScheduleCandidate)
    (allocation : Allocation) (granted : assign config grids candidate = some (allocation, taken)) :
    ∃ slot, ∃ bound : slot < grids.length, ∃ offered rbs degraded,
      assignable config candidate grids[slot] = some offered ∧ 0 < rbs ∧ rbs ≤ offered ∧
        taken = grids.modify slot (BeamGrid.take rbs) ∧
          allocation = grant candidate grids[slot] rbs degraded ∧
            (degraded = false → rbs = rbsNeeded config candidate.request) ∧
              (degraded = true → candidate.degradable = true ∧ rbs = offered ∧
                degradeFloor config (rbsNeeded config candidate.request) ≤ offered ∧
                ∀ grid ∈ grids, ∀ other, assignable config candidate grid = some other →
                  other < rbsNeeded config candidate.request) := by
  simp only [assign, Option.bind_eq_bind, Option.bind_eq_some_iff] at granted
  obtain ⟨slot, found, grid, read, granted⟩ := granted
  obtain ⟨bound, offered, offers, bar, above, largest⟩ := Greedy.scan_slot _ _ _ slot found
  obtain rfl : grids[slot] = grid := by simpa [List.getElem?_eq_getElem bound] using read
  simp only [bar, WithBot.unbotD_coe] at granted
  have positive : 0 < offered := by exact_mod_cast above
  split at granted
  · rename_i whole
    simp only [Option.pure_def, Option.some.injEq, Prod.mk.injEq] at granted
    exact ⟨slot, bound, offered, _, false, offers,
      Int.lt_of_lt_of_le one_pos (rbsNeeded_pos config candidate.request), whole.2,
      granted.2.symm, granted.1.symm, fun _ => rfl, by simp⟩
  · rename_i short
    split at granted
    · rename_i floored
      simp only [Option.pure_def, Option.some.injEq, Prod.mk.injEq] at granted
      -- No grid assigns more than the best one or than the cap, one of which is short.
      have exhausted : ∀ grid ∈ grids, ∀ other, assignable config candidate grid = some other →
          other < rbsNeeded config candidate.request := by
        intro grid member other otherOffers
        have fewer := largest grid member other otherOffers
        have within := (assignable_bounds config candidate grid other otherOffers).2.2.1
        by_contra enough
        exact short ⟨by omega, by omega⟩
      exact ⟨slot, bound, offered, offered, true, offers, positive, le_refl _, granted.2.symm,
        granted.1.symm, by simp, fun _ => ⟨floored.1, rfl, floored.2, exhausted⟩⟩
    · simp at granted

/-- A grant is a payment of airtime that leaves no grid below zero. -/
theorem assign_pays (grids taken : List BeamGrid) (candidate : ScheduleCandidate)
    (allocation : Allocation) (granted : assign config grids candidate = some (allocation, taken)) :
    Greedy.Pays BeamGrid.beamId BeamGrid.freeUnits 0 grids taken
      allocation.beamId allocation.allocatedUnits := by
  obtain ⟨slot, bound, offered, rbs, degraded, offers, positive, within, rfl, rfl, _⟩ :=
    assign_inv config grids taken candidate allocation granted
  obtain ⟨free, _, _, cap, _, capped⟩ := assignable_bounds config candidate _ offered offers
  have valuable := (regulatoryCap_worth cap _ _ rbs positive (within.trans capped)).1
  refine ⟨slot, bound, BeamGrid.take rbs, rfl, rfl, rfl, ?_, ?_⟩
  · simp only [grant, BeamGrid.freeUnits, BeamGrid.freeRbs_take, BeamGrid.rbUnits_take]
    push_cast
    ring
  · have left : (0 : ℚ) ≤ ((grids[slot].freeRbs - rbs : ℤ) : ℚ) := by
      exact_mod_cast sub_nonneg.mpr (within.trans free)
    exact mul_nonneg left valuable.le

/-- Taking blocks changes neither the beams nor the worth of a block. -/
theorem map_take {β : Type} (view : BeamGrid → β)
    (unchanged : ∀ rbs grid, view (BeamGrid.take rbs grid) = view grid) (rbs : ℤ) (slot : ℕ)
    (grids : List BeamGrid) :
    (grids.modify slot (BeamGrid.take rbs)).map view = grids.map view := by
  apply List.ext_getElem
  · simp
  · intro index left right
    simp only [List.getElem_map, List.getElem_modify]
    split
    · exact unchanged rbs _
    · rfl

/-- A grant keeps the beams and is lawful on one of them. -/
theorem assign_fits (grids taken : List BeamGrid) (candidate : ScheduleCandidate)
    (allocation : Allocation) (granted : assign config grids candidate = some (allocation, taken)) :
    taken.map BeamGrid.beam = grids.map BeamGrid.beam ∧
      Fits (grids.map BeamGrid.beam) candidate.Legal candidate.request allocation := by
  obtain ⟨slot, bound, offered, rbs, degraded, offers, positive, within, rfl, rfl, _⟩ :=
    assign_inv config grids taken candidate allocation granted
  obtain ⟨_, located, _, cap, legal, capped⟩ := assignable_bounds config candidate _ offered offers
  refine ⟨map_take BeamGrid.beam BeamGrid.beam_take rbs slot grids, rfl, grids[slot].beam,
    List.mem_map.mpr ⟨_, List.getElem_mem bound, rfl⟩, cap, rfl, rfl, rfl, located, legal, ?_⟩
  intro limit limited
  have covered := (regulatoryCap_worth cap _ _ rbs positive (within.trans capped)).2 limit limited
  exact covered.trans (le_add_of_nonneg_right slack_pos.le)

/-- Granted access meets the contract on every input. -/
theorem schedule_settles (candidates : List ScheduleCandidate) (snapshot : ConstellationSnapshot)
    (step : ℤ) : Settles candidates snapshot step (schedule config candidates snapshot step) := by
  refine assemble_settles candidates snapshot step (assign config)
    (fun grids => grids.map BeamGrid.beam = snapshot.beams) ?_ _ ?_
  · intro grids candidate allocation taken same granted
    obtain ⟨kept, fits⟩ := assign_fits config grids taken candidate allocation granted
    exact ⟨kept.trans same, same ▸ fits⟩
  · simp [Function.comp_def, freshGrid]

/-- On distinct beams of nonnegative capacity granted access keeps every budget, without any
slack. Blocks are whole, so there is no rounding to allow for. -/
theorem schedule_within (candidates : List ScheduleCandidate) (snapshot : ConstellationSnapshot)
    (step : ℤ) (distinct : (snapshot.beams.map Beam.beamId).Nodup)
    (capacities : ∀ beam ∈ snapshot.beams, 0 ≤ beam.capacityUnits) (beam : Beam)
    (shown : beam ∈ snapshot.beams) :
    unitsOn beam.beamId (schedule config candidates snapshot step).allocations ≤
      beam.capacityUnits := by
  have worth (beam : Beam) : (freshGrid config beam).freeUnits = beam.capacityUnits :=
    rbUnits_total config beam.capacityUnits
  have spent := Greedy.run_spent (fun candidate : ScheduleCandidate =>
    candidate.request.isExpired step) (assign config) id Allocation.beamId Allocation.allocatedUnits
    (fun grids candidate allocation taken granted =>
      assign_pays config grids taken candidate allocation granted)
    (byScore candidates) (snapshot.beams.map (freshGrid config)) ?_ ?_ (freshGrid config beam)
    (List.mem_map.mpr ⟨beam, shown, rfl⟩)
  · rw [worth, add_zero] at spent
    exact spent
  · intro grid member
    obtain ⟨beam, shown, rfl⟩ := List.mem_map.mp member
    rw [worth]
    exact capacities beam shown
  · simpa [BeamGrid.beamId, freshGrid, Function.comp_def] using distinct

/-- So it keeps every budget with the slack that the loop allows. -/
theorem schedule_fitting (candidates : List ScheduleCandidate) (snapshot : ConstellationSnapshot)
    (step : ℤ) (distinct : (snapshot.beams.map Beam.beamId).Nodup)
    (capacities : ∀ beam ∈ snapshot.beams, 0 ≤ beam.capacityUnits) :
    Fitting snapshot (schedule config candidates snapshot step) := fun beam shown =>
  (schedule_within config candidates snapshot step distinct capacities beam shown).trans
    (le_add_of_nonneg_right slack_pos.le)

end SlotMacScheduler

end Satsim
