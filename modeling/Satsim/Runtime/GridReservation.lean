import Satsim.Runtime.Capacity

/-!
# Reservations and the block grid

A reservation lowers the capacity a scheduler sees, and with it the worth of a block; it
does not take blocks out of the grid. So granted access may still hand out every block of
a partly reserved beam, each at the lower worth. What remains true is the account in
airtime: the blocks handed out, at what they are worth, and the reservations fit the beam.

The account uses the same books as the fluid schedulers, with blocks in the place of
units. A rule that took reserved blocks out of the grid would grant fewer of them, at a
higher worth; the example at the end tells the two apart.
-/

namespace Satsim

open Library

namespace SlotMacScheduler

variable (config : MacConfig)

/-- The blocks of a grid that have been granted: those of the full grid that are no longer
free. -/
def granted (grid : BeamGrid) : ℤ := config.resourceBlocksPerBeam - grid.freeRbs

/-- A grid of a pass: its blocks split the capacity of its beam evenly, no more are
granted than it has, and none when a block is worth nothing. -/
structure Accounted (grid : BeamGrid) : Prop where
  worth : grid.rbUnits = rbUnits config grid.beam.capacityUnits
  range : 0 ≤ granted config grid ∧ granted config grid ≤ config.resourceBlocksPerBeam
  worthless : grid.rbUnits ≤ 0 → granted config grid = 0

/-- A grid starts accounted, with nothing granted. -/
theorem freshGrid_accounted (beam : Beam) : Accounted config (freshGrid config beam) := by
  have blocks := config.resourceBlocksPerBeam_pos
  refine ⟨rfl, ?_, ?_⟩ <;> simp [granted, freshGrid, blocks.le]

/-- A grant keeps every grid accounted. -/
theorem assign_accounted (grids taken : List BeamGrid) (candidate : ScheduleCandidate)
    (allocation : Allocation) (assigned : assign config grids candidate = some (allocation, taken))
    (accounted : ∀ grid ∈ grids, Accounted config grid) :
    ∀ grid ∈ taken, Accounted config grid := by
  obtain ⟨slot, bound, offered, rbs, degraded, offers, positive, within, rfl, _⟩ :=
    assign_inv config grids taken candidate allocation assigned
  obtain ⟨free, _, _, cap, _, capped⟩ := assignable_bounds config candidate _ offered offers
  have valuable := (regulatoryCap_worth cap _ _ rbs positive (within.trans capped)).1
  intro grid member
  obtain ⟨index, inside, rfl⟩ := List.getElem_of_mem member
  rw [List.getElem_modify]
  split
  · rename_i same
    subst same
    obtain ⟨worth, range, _⟩ := accounted _ (List.getElem_mem bound)
    refine ⟨worth, ?_, fun worthless => absurd valuable (not_lt.mpr worthless)⟩
    simp only [granted, BeamGrid.freeRbs_take] at range ⊢
    omega
  · exact accounted _ (List.getElem_mem _)

/-- After a pass the grids stand for the beams in order and are accounted. -/
theorem serve_accounted (candidates : List ScheduleCandidate) (snapshot : ConstellationSnapshot)
    (step : ℤ) :
    (serve config candidates snapshot step).2.map BeamGrid.beam = snapshot.beams ∧
      ∀ grid ∈ (serve config candidates snapshot step).2, Accounted config grid := by
  refine (Greedy.run_invariant (fun candidate => candidate.request.isExpired step) (assign config)
    (fun grids => grids.map BeamGrid.beam = snapshot.beams ∧
      ∀ grid ∈ grids, Accounted config grid) (fun _ _ => True) ?_ (byScore candidates) _ ?_).1
  · rintro grids candidate allocation taken ⟨same, accounted⟩ _ assigned
    exact ⟨⟨(assign_fits config grids taken candidate allocation assigned).1.trans same,
      assign_accounted config grids taken candidate allocation assigned accounted⟩, trivial⟩
  · refine ⟨by simp [Function.comp_def, freshGrid], ?_⟩
    intro grid member
    obtain ⟨beam, _, rfl⟩ := List.mem_map.mp member
    exact freshGrid_accounted config beam

/-- On distinct beams, the airtime granted on a beam is that of its granted blocks. The account
of the pass is kept in blocks, and only their worth turns it into airtime. -/
theorem serve_units (candidates : List ScheduleCandidate) (snapshot : ConstellationSnapshot)
    (step : ℤ) (distinct : (snapshot.beams.map Beam.beamId).Nodup) (grid : BeamGrid)
    (member : grid ∈ (serve config candidates snapshot step).2) :
    unitsOn grid.beamId (schedule config candidates snapshot step).allocations =
      granted config grid * grid.rbUnits := by
  obtain ⟨beams, accounted⟩ := serve_accounted config candidates snapshot step
  have shown : grid.beam ∈ snapshot.beams := beams ▸ List.mem_map_of_mem member
  have fresh : ((snapshot.beams.map (freshGrid config)).map BeamGrid.beamId).Nodup := by
    rw [List.map_map]
    exact distinct
  have spent : unitsOn grid.beamId (schedule config candidates snapshot step).allocations +
      grid.freeUnits = (freshGrid config grid.beam).freeUnits :=
    Greedy.run_left (fun candidate : ScheduleCandidate => candidate.request.isExpired step)
      (assign config) id Allocation.beamId Allocation.allocatedUnits
      (fun grids candidate allocation taken assigned =>
        assign_pays config grids taken candidate allocation assigned)
      (byScore candidates) (snapshot.beams.map (freshGrid config)) fresh
      (freshGrid config grid.beam) (List.mem_map_of_mem shown) grid member rfl
  have worth := (accounted grid member).worth
  simp only [BeamGrid.freeUnits, freshGrid, ← worth] at spent
  simp only [granted, Int.cast_sub]
  linarith

/-- What a beam's capacity is after subtraction, when its reservations are within it: the clamp
at zero plays no part. -/
theorem net_capacity (snapshot : ConstellationSnapshot) (reservations : List Allocation)
    (index : ℕ) (bound : index < snapshot.beams.length)
    (inside : index < (subtractReservations snapshot reservations).beams.length)
    (within : unitsOn snapshot.beams[index].beamId reservations ≤
      snapshot.beams[index].capacityUnits) :
    (subtractReservations snapshot reservations).beams[index].capacityUnits =
      snapshot.beams[index].capacityUnits -
        unitsOn snapshot.beams[index].beamId reservations := by
  rcases subtract_beams snapshot reservations with ⟨rfl, same⟩ | netted
  · simp only [same, unitsOn_nil, sub_zero]
  · simp only [netted, List.getElem_map, netBeam, reservedUnits_getD]
    exact max_eq_right (sub_nonneg.mpr within)

/-- The grid that a beam is paired with stands for the beam, at the capacity that its
reservations leave. It still has the full number of blocks. -/
theorem serve_net (candidates : List ScheduleCandidate) (snapshot : ConstellationSnapshot)
    (reservations : List Allocation) (step : ℤ) (beam : Beam) (grid : BeamGrid)
    (paired : (beam, grid) ∈ snapshot.beams.zip
      (serve config candidates (subtractReservations snapshot reservations) step).2)
    (within : unitsOn beam.beamId reservations ≤ beam.capacityUnits) :
    grid ∈ (serve config candidates (subtractReservations snapshot reservations) step).2 ∧
      Accounted config grid ∧ grid.beamId = beam.beamId ∧
        grid.rbUnits = (beam.capacityUnits - unitsOn beam.beamId reservations) /
          config.resourceBlocksPerBeam := by
  obtain ⟨beams, accounted⟩ := serve_accounted config candidates
    (subtractReservations snapshot reservations) step
  obtain ⟨index, inside, found⟩ := List.getElem_of_mem paired
  rw [List.getElem_zip] at found
  obtain ⟨rfl, rfl⟩ := Prod.mk.inj found
  rw [List.length_zip] at inside
  have bound : index < snapshot.beams.length := by omega
  have shown : index < (subtractReservations snapshot reservations).beams.length := by
    rw [← beams, List.length_map]
    omega
  have stands := List.getElem_of_eq beams (by rw [beams]; exact shown)
  rw [List.getElem_map] at stands
  have ids := subtract_view Beam.beamId (fun _ _ => rfl) snapshot reservations
  have same := List.getElem_of_eq ids (by rw [ids]; simpa using bound)
  rw [List.getElem_map, List.getElem_map] at same
  have member := List.getElem_mem (l := (serve config candidates
    (subtractReservations snapshot reservations) step).2) (n := index) (by omega)
  refine ⟨member, accounted _ member, (congrArg Beam.beamId stands).trans same, ?_⟩
  rw [(accounted _ member).worth, stands, rbUnits,
    net_capacity snapshot reservations index bound shown within]

end SlotMacScheduler

/-- How reservations bear on the block grid. On a beam of capacity `C` with `R` reserved
out of it, granted access hands out at most all blocks of the grid, each worth an equal
part of `C - R`, and none when everything is reserved; the blocks handed out at that
worth and the reservations fit the capacity. On distinct beams that worth is the airtime
of the beam's allocations. -/
theorem grid_reservation (mac : MacConfig) (candidates : List ScheduleCandidate)
    (snapshot : ConstellationSnapshot) (reservations : List Allocation) (step : ℤ) (beam : Beam)
    (grid : BeamGrid)
    (paired : (beam, grid) ∈ snapshot.beams.zip (SlotMacScheduler.serve mac candidates
      (subtractReservations snapshot reservations) step).2)
    (within : unitsOn beam.beamId reservations ≤ beam.capacityUnits) :
    0 ≤ SlotMacScheduler.granted mac grid ∧
      SlotMacScheduler.granted mac grid ≤ mac.resourceBlocksPerBeam ∧
      (unitsOn beam.beamId reservations = beam.capacityUnits →
        SlotMacScheduler.granted mac grid = 0) ∧
      SlotMacScheduler.granted mac grid *
          ((beam.capacityUnits - unitsOn beam.beamId reservations) / mac.resourceBlocksPerBeam) +
        unitsOn beam.beamId reservations ≤ beam.capacityUnits ∧
      ((snapshot.beams.map Beam.beamId).Nodup →
        unitsOn beam.beamId (SlotMacScheduler.schedule mac candidates
            (subtractReservations snapshot reservations) step).allocations =
          SlotMacScheduler.granted mac grid *
            ((beam.capacityUnits - unitsOn beam.beamId reservations) /
              mac.resourceBlocksPerBeam)) := by
  obtain ⟨member, ⟨_, ⟨nonneg, whole⟩, worthless⟩, named, worth⟩ := SlotMacScheduler.serve_net mac
    candidates snapshot reservations step beam grid paired within
  have left : 0 ≤ beam.capacityUnits - unitsOn beam.beamId reservations := sub_nonneg.mpr within
  have blocks : (0 : ℚ) < mac.resourceBlocksPerBeam := by
    exact_mod_cast mac.resourceBlocksPerBeam_pos
  refine ⟨nonneg, whole, ?_, ?_, ?_⟩
  · intro exhausted
    apply worthless
    rw [worth, exhausted, sub_self, zero_div]
  · rw [← le_sub_iff_add_le]
    calc _ ≤ (mac.resourceBlocksPerBeam : ℚ) * _ :=
          mul_le_mul_of_nonneg_right (by exact_mod_cast whole) (div_nonneg left blocks.le)
      _ = _ := mul_div_cancel₀ _ blocks.ne'
  · intro distinct
    have ids := subtract_view Beam.beamId (fun _ _ => rfl) snapshot reservations
    have units := SlotMacScheduler.serve_units mac candidates
      (subtractReservations snapshot reservations) step (ids ▸ distinct) grid member
    rwa [named, worth] at units

/-- Half of the one beam, reserved. -/
def halfReserved : List Allocation :=
  [{ requestId := "a", fleet := .legacyLeo, beamId := "b", band := .ku, allocatedUnits := 5,
     deliveryProbability := 1 }]

/-- The one beam with its grid, after a pass on what the reservation leaves. -/
def halfGrids : List (Beam × BeamGrid) :=
  oneBeam.beams.zip (SlotMacScheduler.serve twoBlocks contenders
    (subtractReservations oneBeam halfReserved) 0).2

/-- The blocks handed out are worth what the reservation leaves, so both fit the beam. -/
theorem grid_reservation_half : halfGrids.length = 1 ∧ ∀ pair ∈ halfGrids,
    SlotMacScheduler.granted twoBlocks pair.2 *
        ((pair.1.capacityUnits - unitsOn pair.1.beamId halfReserved) /
          twoBlocks.resourceBlocksPerBeam) +
      unitsOn pair.1.beamId halfReserved ≤ pair.1.capacityUnits :=
  ⟨by decide +kernel, fun pair member =>
    (grid_reservation twoBlocks contenders oneBeam halfReserved 0 pair.1 pair.2 member
      ((by decide +kernel : ∀ pair ∈ halfGrids, unitsOn pair.1.beamId halfReserved ≤
        pair.1.capacityUnits) pair member)).2.2.2.1⟩

/-- With half of the airtime reserved both blocks are granted, where half the grid is one. -/
theorem grid_ignores_reservation : ∃ pair ∈ halfGrids, 0 < pair.1.capacityUnits ∧
    0 ≤ unitsOn pair.1.beamId halfReserved ∧
      unitsOn pair.1.beamId halfReserved ≤ pair.1.capacityUnits ∧
        twoBlocks.resourceBlocksPerBeam *
            (pair.1.capacityUnits - unitsOn pair.1.beamId halfReserved) / pair.1.capacityUnits <
          SlotMacScheduler.granted twoBlocks pair.2 := by
  decide +kernel

end Satsim
