import Satsim.Library.Shards
import Satsim.Scheduling.Selection

/-!
# Scheduling falls apart by region

A beam serves one region and a request is served in its own, so the schedulers that grant
airtime may be run region by region: what they decide for a region is what they decide when
they are shown the region's candidates and beams alone. Random access is no such scheduler,
since the candidates of all regions draw from one stream.

Fairness and utilization are quotients over all candidates and all beams, and are not
part of the correspondence. Distinct ids are not needed, because the order of service
within a region is stable.
-/

namespace Satsim

open Library

/-- What a snapshot shows of one region: all satellites, each with its beams that serve the
region. -/
def ConstellationSnapshot.inRegion (snapshot : ConstellationSnapshot) (region : Region) :
    ConstellationSnapshot :=
  { snapshot with
    satellites := snapshot.satellites.map fun satellite =>
      { satellite with beams := satellite.beams.filter fun beam => decide (beam.region = region) } }

/-- Its beams are those of the whole that serve the region, in the same order. -/
theorem ConstellationSnapshot.beams_inRegion (snapshot : ConstellationSnapshot) (region : Region) :
    (snapshot.inRegion region).beams =
      snapshot.beams.filter fun beam => decide (beam.region = region) := by
  simp only [beams, inRegion, List.flatMap_map, List.filter_flatMap]

/-- A candidate of the region. -/
def ScheduleCandidate.inRegion (region : Region) (candidate : ScheduleCandidate) : Bool :=
  decide (candidate.request.region = region)

/-- One result is what another does in a region, with the grant of each served request. The
utilization and the fairness index are left out, being quotients over the whole. -/
structure SchedulingResult.Shard (region : Region) (whole part : SchedulingResult) : Prop where
  served : part.served = whole.served.filter fun request => decide (request.region = region)
  granted : part.served.zip part.allocations =
    (whole.served.zip whole.allocations).filter fun pair => decide (pair.1.region = region)
  deferred : part.deferred = whole.deferred.filter fun request => decide (request.region = region)
  dropped : part.dropped = whole.dropped.filter fun item => decide (item.request.region = region)

/-- The order of service within a region is that of the region alone: to sort and to select
commute. -/
theorem byScore_filter (mine : ScheduleCandidate → Bool) (candidates : List ScheduleCandidate) :
    (byScore candidates).filter mine = byScore (candidates.filter mine) := by
  have total : Std.Total fun left right : ScheduleCandidate =>
      ranksBefore (left.scoring.score, left.request.requestId)
        (right.scoring.score, right.request.requestId) :=
    ⟨fun _ _ => ranksBefore_total _ _⟩
  have transitive : IsTrans ScheduleCandidate fun left right =>
      ranksBefore (left.scoring.score, left.request.requestId)
        (right.scoring.score, right.request.requestId) :=
    ⟨fun _ _ _ => ranksBefore_trans⟩
  exact filter_insertionSort mine _ candidates

/-- A pass whose placements look at the candidate's region alone falls apart by region. A
candidate of the region is placed alike against the part of the resource that is its own, and
one of another region leaves that part alone. -/
theorem assemble_shard {σ : Type} (place : σ → ScheduleCandidate → Option (Allocation × σ))
    (view : σ → σ) (region : Region)
    (own : ∀ candidate, candidate.inRegion region = true → ∀ resource,
      place (view resource) candidate =
        (place resource candidate).map (fun (allocation, charged) => (allocation, view charged)))
    (foreign : ∀ candidate, candidate.inRegion region = false → ∀ resource allocation charged,
      place resource candidate = some (allocation, charged) → view charged = view resource)
    (candidates : List ScheduleCandidate) (snapshot : ConstellationSnapshot) (step : ℤ)
    (resource : σ) :
    SchedulingResult.Shard region
      (assemble candidates snapshot (Greedy.run (fun candidate => candidate.request.isExpired step)
        place (byScore candidates) resource).1)
      (assemble (candidates.filter (ScheduleCandidate.inRegion region)) (snapshot.inRegion region)
        (Greedy.run (fun candidate => candidate.request.isExpired step) place
          (byScore (candidates.filter (ScheduleCandidate.inRegion region)))
          (view resource)).1) := by
  rw [← byScore_filter, Greedy.run_shard (fun candidate : ScheduleCandidate =>
    candidate.request.isExpired step) place place view (ScheduleCandidate.inRegion region) own
    foreign]
  have inside : ScheduleCandidate.inRegion region =
      fun candidate => decide (candidate.request.region = region) := rfl
  constructor <;> simp [assemble, List.filter_map, List.zip_map', Function.comp_def, inside]

namespace GreedyScheduler

variable (scheduler : GreedyScheduler) (region : Region)

/-- The beams of a region, with what is free on them: the part of the resource that its
candidates see. -/
def shard (beams : List BeamState) : List BeamState :=
  beams.filter fun state => decide (state.beam.region = region)

/-- A beam elsewhere can give nothing, so the incumbents of the beam loop are found within the
region. -/
theorem allocatable_elsewhere (candidate : ScheduleCandidate)
    (here : candidate.inRegion region = true) (state : BeamState)
    (elsewhere : decide (state.beam.region = region) = false) :
    scheduler.allocatable candidate state = none := by
  cases given : scheduler.allocatable candidate state with
  | none => rfl
  | some amount =>
    obtain ⟨_, _, located, _⟩ := (scheduler.allocatable_eq_some candidate state amount).mp given
    exact absurd (located.trans (of_decide_eq_true here)) (of_decide_eq_false elsewhere)

/-- A grant charges the same beam of the shard. Beams elsewhere lie between those of the region,
so the positions differ and the beam is what stays. -/
theorem allocate_own (candidate : ScheduleCandidate) (here : candidate.inRegion region = true)
    (beams : List BeamState) : scheduler.allocate (shard region beams) candidate =
      (scheduler.allocate beams candidate).map
        (fun (allocation, charged) => (allocation, shard region charged)) := by
  have nothing (state : BeamState) (elsewhere : decide (state.beam.region = region) = false) :=
    scheduler.allocatable_elsewhere region candidate here state elsewhere
  have full (state : BeamState) (elsewhere : decide (state.beam.region = region) = false) :
      scheduler.fullOffer candidate state = none := by
    rw [fullOffer, nothing state elsewhere, Option.bind_none]
  have degrade (state : BeamState) (elsewhere : decide (state.beam.region = region) = false) :
      scheduler.degradeOffer candidate state = none := by
    rw [degradeOffer, nothing state elsewhere, Option.bind_none]
  have charges (units : ℚ) (state : BeamState) :
      decide ((state.charge units).beam.region = region) = decide (state.beam.region = region) :=
    rfl
  simp only [allocate, shard, Greedy.scan_shard _ _ full, Greedy.scan_shard _ _ degrade]
  cases found : (Greedy.scan (scheduler.fullOffer candidate) beams 0
    ⟨none, ((-1 : ℚ) : WithBot ℚ)⟩).slot with
  | some slot =>
    obtain ⟨read, changed⟩ := Greedy.scan_own _ _ full beams _ slot found _
      (charges candidate.scoring.estimatedCostUnits)
    simp only [Option.map_some, ← read, ← changed]
    cases beams[slot]? <;> rfl
  | none =>
    cases second : (Greedy.scan (scheduler.degradeOffer candidate) beams 0
      ⟨none, ((0 : ℚ) : WithBot ℚ)⟩).slot with
    | none => rfl
    | some slot =>
      simp only [Option.map_none, Option.map_some, Option.bind_eq_bind, Option.bind_some]
      obtain ⟨read, changed⟩ := Greedy.scan_own _ _ degrade beams _ slot second _
        (charges (min ((Greedy.scan (scheduler.degradeOffer candidate) beams 0
          ⟨none, ((0 : ℚ) : WithBot ℚ)⟩).bar.unbotD 0) candidate.scoring.estimatedCostUnits))
      rw [← read, ← changed]
      cases beams[slot]? with
      | none => rfl
      | some state =>
        simp only [Option.bind_some]
        split <;> rfl

/-- A grant elsewhere charges no beam of the shard. -/
theorem allocate_foreign (candidate : ScheduleCandidate)
    (elsewhere : candidate.inRegion region = false) (beams : List BeamState)
    (allocation : Allocation) (charged : List BeamState)
    (granted : scheduler.allocate beams candidate = some (allocation, charged)) :
    shard region charged = shard region beams := by
  obtain ⟨slot, bound, amount, units, degraded, gives, rfl, _⟩ :=
    scheduler.allocate_inv beams charged candidate allocation granted
  obtain ⟨_, located, _⟩ := scheduler.allocatable_bounds candidate _ amount gives
  have other : decide (beams[slot].beam.region = region) = false := by
    rw [located]
    exact elsewhere
  exact filter_modify_foreign _ _ beams slot bound other other

/-- The fluid schedulers, under any cap. -/
theorem schedule_shard (candidates : List ScheduleCandidate) (snapshot : ConstellationSnapshot)
    (step : ℤ) : SchedulingResult.Shard region (scheduler.schedule candidates snapshot step)
      (scheduler.schedule (candidates.filter (ScheduleCandidate.inRegion region))
        (snapshot.inRegion region) step) := by
  have fresh : (snapshot.inRegion region).beams.map
        (fun beam => (⟨beam, beam.capacityUnits⟩ : BeamState)) =
      shard region (snapshot.beams.map fun beam => ⟨beam, beam.capacityUnits⟩) := by
    rw [shard, ConstellationSnapshot.beams_inRegion, List.filter_map]
    rfl
  rw [schedule, schedule, serve, serve, fresh]
  exact assemble_shard scheduler.allocate (shard region) region (scheduler.allocate_own region)
    (scheduler.allocate_foreign region) candidates snapshot step _

end GreedyScheduler

namespace SlotMacScheduler

variable (config : MacConfig) (region : Region)

/-- The grids of a region, with what is free on them. -/
def shard (grids : List BeamGrid) : List BeamGrid :=
  grids.filter fun grid => decide (grid.beam.region = region)

/-- A grid elsewhere can assign nothing. -/
theorem assignable_elsewhere (candidate : ScheduleCandidate)
    (here : candidate.inRegion region = true) (grid : BeamGrid)
    (elsewhere : decide (grid.beam.region = region) = false) :
    assignable config candidate grid = none := by
  cases given : assignable config candidate grid with
  | none => rfl
  | some offered =>
    obtain ⟨_, located, _⟩ := assignable_bounds config candidate grid offered given
    exact absurd (located.trans (of_decide_eq_true here)) (of_decide_eq_false elsewhere)

/-- A grant takes the same blocks of the shard. -/
theorem assign_own (candidate : ScheduleCandidate) (here : candidate.inRegion region = true)
    (grids : List BeamGrid) : assign config (shard region grids) candidate =
      (assign config grids candidate).map
        (fun (allocation, taken) => (allocation, shard region taken)) := by
  have nothing (grid : BeamGrid) (elsewhere : decide (grid.beam.region = region) = false) :=
    assignable_elsewhere config region candidate here grid elsewhere
  have takes (rbs : ℤ) (grid : BeamGrid) :
      decide ((grid.take rbs).beam.region = region) = decide (grid.beam.region = region) := rfl
  simp only [assign, shard, Greedy.scan_shard _ _ nothing]
  cases found : (Greedy.scan (assignable config candidate) grids 0
    ⟨none, ((0 : ℤ) : WithBot ℤ)⟩).slot with
  | none => rfl
  | some slot =>
    have changed (rbs : ℤ) := Greedy.scan_own _ _ nothing grids _ slot found _ (takes rbs)
    simp only [Option.map_some, Option.bind_eq_bind, Option.bind_some, ← (changed 0).1,
      ← (changed _).2]
    cases grids[slot]? with
    | none => rfl
    | some grid =>
      simp only [Option.bind_some]
      split
      · rfl
      · split <;> rfl

/-- A grant elsewhere takes no block of the shard. -/
theorem assign_foreign (candidate : ScheduleCandidate)
    (elsewhere : candidate.inRegion region = false) (grids : List BeamGrid)
    (allocation : Allocation) (taken : List BeamGrid)
    (granted : assign config grids candidate = some (allocation, taken)) :
    shard region taken = shard region grids := by
  obtain ⟨slot, bound, offered, rbs, degraded, offers, _, _, rfl, _⟩ :=
    assign_inv config grids taken candidate allocation granted
  obtain ⟨_, located, _⟩ := assignable_bounds config candidate _ offered offers
  have other : decide (grids[slot].beam.region = region) = false := by
    rw [located]
    exact elsewhere
  exact filter_modify_foreign _ _ grids slot bound other other

/-- Granted access, under any configuration. -/
theorem schedule_shard (candidates : List ScheduleCandidate) (snapshot : ConstellationSnapshot)
    (step : ℤ) : SchedulingResult.Shard region (schedule config candidates snapshot step)
      (schedule config (candidates.filter (ScheduleCandidate.inRegion region))
        (snapshot.inRegion region) step) := by
  have fresh : (snapshot.inRegion region).beams.map (freshGrid config) =
      shard region (snapshot.beams.map (freshGrid config)) := by
    rw [shard, ConstellationSnapshot.beams_inRegion, List.filter_map]
    rfl
  rw [schedule, schedule, serve, serve, fresh]
  exact assemble_shard (assign config) (shard region) region (assign_own config region)
    (assign_foreign config region) candidates snapshot step _

end SlotMacScheduler

/-- Granting schedulers may be run region by region: shown the candidates and the beams of one
region, they serve, defer and drop its requests as they do among all, in the same order and with
the same grants. -/
theorem InRepoScheduler.schedule_by_region (scheduler : InRepoScheduler)
    (granting : ∀ config fuel, scheduler ≠ .contentionMac config fuel) (rng final : Rng)
    (candidates : List ScheduleCandidate) (snapshot : ConstellationSnapshot) (step : ℤ)
    (whole : SchedulingResult)
    (returned : scheduler.schedule rng candidates snapshot step = some (whole, final))
    (region : Region) :
    ∃ part, scheduler.schedule rng (candidates.filter (ScheduleCandidate.inRegion region))
        (snapshot.inRegion region) step = some (part, rng) ∧ whole.Shard region part := by
  cases scheduler with
  | heuristic fraction =>
    obtain ⟨rfl, _⟩ := Prod.mk.inj (Option.some.inj returned)
    exact ⟨_, rfl, GreedyScheduler.schedule_shard _ region candidates snapshot step⟩
  | priorityFair cap fraction =>
    obtain ⟨rfl, _⟩ := Prod.mk.inj (Option.some.inj returned)
    exact ⟨_, rfl, GreedyScheduler.schedule_shard _ region candidates snapshot step⟩
  | slotMac config =>
    obtain ⟨rfl, _⟩ := Prod.mk.inj (Option.some.inj returned)
    exact ⟨_, rfl, SlotMacScheduler.schedule_shard config region candidates snapshot step⟩
  | contentionMac config fuel => exact absurd rfl (granting config fuel)

/-- A beam in each of two regions, each with room for one unit. -/
def twoRegions : ConstellationSnapshot where
  step := 0
  satellites := [⟨"s", .legacyLeo,
    [⟨"b", .legacyLeo, "s", .na, .ku, 1⟩, ⟨"c", .legacyLeo, "s", .eu, .ku, 1⟩]⟩]

/-- Two candidates of one region, and one of the other between them in the order of service. -/
def threeAcross : List ScheduleCandidate :=
  [("x", Region.na), ("y", Region.eu), ("z", Region.na)].map fun (name, region) =>
    { request := { smallRequest name .photo 5 with region := region }
      options := [⟨.legacyLeo, .ku, {}⟩]
      scoring := ⟨1 / 2, 1, 1⟩ }

/-- The region alone serves one of its two candidates, as it does beside the other region. -/
theorem InRepoScheduler.schedule_by_region_two :
    (((priorityFairScheduler 6 (1 / 4)).schedule threeAcross twoRegions 0).served.map
        ServiceRequest.requestId = ["x", "y"]) ∧
      ∃ part, (InRepoScheduler.priorityFair 6 (1 / 4)).schedule evenRng
          (threeAcross.filter (ScheduleCandidate.inRegion .na)) (twoRegions.inRegion .na) 0 =
            some (part, evenRng) ∧
        ((priorityFairScheduler 6 (1 / 4)).schedule threeAcross twoRegions 0).Shard .na part :=
  ⟨by decide +kernel, InRepoScheduler.schedule_by_region (.priorityFair 6 (1 / 4))
    (fun _ _ other => nomatch other) evenRng evenRng threeAcross twoRegions 0 _ rfl .na⟩

end Satsim
