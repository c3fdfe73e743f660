import Satsim.Library.Jain
import Satsim.Mac.Agreement
import Satsim.Mac.Collision
import Satsim.Scheduling.ArrivalOrder
import Satsim.Scheduling.Selection

/-!
# What the fairness index measures

Every scheduler reports Jain's index of the units it gave, with a zero for each candidate
it did not serve. Grants are positive, so the index is that of the allocations out of the
number of candidates: zero when nothing is served, otherwise between one candidate's share
and the share of those served, which it reaches when they are served alike.

The general theory of the index is in the library, over lists of numbers. What is added
here is that the numbers a scheduler looks up, candidate by candidate, are those of its
allocations and zeros, which rests on ids being distinct.
-/

namespace Satsim

open Library

/-- The units each candidate is given, in the order of the candidates: these are the values the
index is taken over. -/
def serviceOf (candidates : List ScheduleCandidate) (allocations : List Allocation) : List ℚ :=
  let byRequest := Dict.ofPairs (allocations.map (fun allocation =>
    (allocation.requestId, allocation.allocatedUnits)))
  candidates.map (fun candidate => byRequest.getD candidate.request.requestId 0)

/-- What the index divides by. Exact division by zero is harmless here, so that it is never zero
has to be said apart. -/
def jainDivisor (values : List ℚ) : ℚ :=
  values.length * (values.map (fun value => value * value)).sum

/-- The divisor does not depend on the order of the values. -/
theorem jainDivisor_perm (values permuted : List ℚ) (rearranged : values.Perm permuted) :
    jainDivisor values = jainDivisor permuted := by
  have squares := (rearranged.map (fun value => value * value)).sum_eq
  simp only [jainDivisor, rearranged.length_eq, squares]

/-- Among no one served the index is zero: the sum is zero, and the quotient is not reached. -/
theorem jainIndex_idle (idle : ℕ) (some_idle : 0 < idle) :
    jainIndex (List.replicate idle 0) = 0 := by
  have inhabited : List.replicate idle (0 : ℚ) ≠ [] := by
    intro vacant
    simp only [List.replicate_eq_nil_iff] at vacant
    omega
  rw [jainIndex, if_neg inhabited, if_pos (by simp)]

section Served

variable (served : List ℚ) (idle : ℕ) (inhabited : served ≠ [])
  (positive : ∀ value ∈ served, 0 < value)
include inhabited positive

/-- Someone served makes the sum positive, whoever else waits. -/
theorem served_sum_pos : 0 < (served ++ List.replicate idle 0).sum := by
  have total : 0 < served.sum := List.sum_pos served positive inhabited
  simpa using total

/-- With someone served the index is that of the served values among all candidates, as the
general theory has it. -/
theorem jainIndex_served :
    jainIndex (served ++ List.replicate idle 0) = Jain.index served (served.length + idle) := by
  have present : served ++ List.replicate idle 0 ≠ [] :=
    List.append_ne_nil_of_left_ne_nil inhabited _
  have total := not_le.mpr (served_sum_pos served idle inhabited positive)
  rw [jainIndex, if_neg present, if_neg total]
  simp [Jain.index, Jain.squares]

/-- Then the index divides by something positive. -/
theorem jainDivisor_served : 0 < jainDivisor (served ++ List.replicate idle 0) := by
  have divisor := Jain.divisor_pos served (served.length + idle) inhabited positive (by omega)
  simpa [jainDivisor, Jain.squares] using divisor

end Served

/-- The requests that are put off or dropped. Both count as given nothing. -/
def SchedulingResult.unserved (result : SchedulingResult) : List ServiceRequest :=
  result.deferred ++ result.dropped.map RejectedRequest.request

/-- The units of each request that has an allocation, as a dictionary: two allocations of one
request would leave the later. -/
def unitsByRequest (allocations : List Allocation) : Dict String ℚ :=
  Dict.ofPairs (allocations.map (fun allocation =>
    (allocation.requestId, allocation.allocatedUnits)))

/-- The units are read by the request alone, so the candidates may be replaced by their
requests. -/
theorem serviceOf_eq (candidates : List ScheduleCandidate) (allocations : List Allocation) :
    serviceOf candidates allocations =
      (candidates.map ScheduleCandidate.request).map (fun request =>
        (unitsByRequest allocations).getD request.requestId 0) := by
  rw [List.map_map]
  rfl

namespace Settles

variable {candidates : List ScheduleCandidate} {snapshot : ConstellationSnapshot} {step : ℤ}
  {result : SchedulingResult} (settled : Settles candidates snapshot step result)
include settled

/-- The contract's partition, in two sides rather than three. -/
theorem partition_unserved :
    (result.served ++ result.unserved).Perm (candidates.map ScheduleCandidate.request) := by
  rw [SchedulingResult.unserved, ← List.append_assoc]
  exact settled.partition

/-- Counting the two sides. -/
theorem unserved_length :
    candidates.length = result.served.length + result.unserved.length := by
  have counted := settled.partition_unserved.length_eq
  rw [List.length_append, List.length_map] at counted
  exact counted.symm

/-- The allocations name the served requests, position by position. -/
theorem allocations_named :
    result.allocations.map Allocation.requestId = result.served.map ServiceRequest.requestId := by
  have named := settled.lawful
  generalize result.served = served at named ⊢
  generalize result.allocations = allocations at named ⊢
  induction named with
  | nil => rfl
  | cons first _ inductionHypothesis =>
    obtain ⟨_, _, rfl, fits⟩ := first
    rw [List.map_cons, List.map_cons, fits.named, inductionHypothesis]

/-- So the keys of the dictionary are the ids of the served requests. -/
theorem unitsByRequest_keys :
    (result.allocations.map (fun allocation =>
      (allocation.requestId, allocation.allocatedUnits))).map Prod.fst =
        result.served.map ServiceRequest.requestId := by
  rw [List.map_map]
  exact settled.allocations_named

variable (distinct : (candidates.map (fun candidate => candidate.request.requestId)).Nodup)
include distinct

/-- Each request appears once, on one side, when no two candidates share an id. -/
theorem ids_distinct :
    (result.served.map ServiceRequest.requestId ++
      result.unserved.map ServiceRequest.requestId).Nodup := by
  have moved := settled.partition_unserved.map ServiceRequest.requestId
  rw [List.map_map, List.map_append] at moved
  exact moved.nodup_iff.mpr distinct

/-- Hence the id of an unserved request is no key of the dictionary. -/
theorem unserved_apart (request : ServiceRequest) (unserved : request ∈ result.unserved) :
    request.requestId ∉ result.served.map ServiceRequest.requestId := fun served =>
  (List.nodup_append.mp (settled.ids_distinct distinct)).2.2 _ served _
    (List.mem_map.mpr ⟨request, unserved, rfl⟩) rfl

/-- The served requests are given their allocations: with distinct ids no entry overwrites
another. -/
theorem served_given :
    result.served.map (fun request =>
        (unitsByRequest result.allocations).getD request.requestId 0) =
      result.allocations.map Allocation.allocatedUnits := by
  have byId : result.served.map (fun request =>
      (unitsByRequest result.allocations).getD request.requestId 0) =
        result.allocations.map (fun allocation =>
          (unitsByRequest result.allocations).getD allocation.requestId 0) := by
    have same := congrArg (List.map (fun requestId =>
      (unitsByRequest result.allocations).getD requestId 0)) settled.allocations_named.symm
    simpa [Function.comp_def] using same
  have once := (List.nodup_append.mp (settled.ids_distinct distinct)).1
  rw [← settled.unitsByRequest_keys] at once
  rw [byId]
  apply List.map_congr_left
  intro allocation member
  have found : (unitsByRequest result.allocations).get? allocation.requestId =
      some allocation.allocatedUnits :=
    Dict.ofPairs_of_mem _ _ _ once (List.mem_map.mpr ⟨allocation, member, rfl⟩)
  simp [Dict.getD, found]

/-- The others are given nothing, since they are not found in the dictionary. -/
theorem unserved_given :
    result.unserved.map (fun request =>
        (unitsByRequest result.allocations).getD request.requestId 0) =
      List.replicate result.unserved.length 0 := by
  rw [List.eq_replicate_iff, List.length_map]
  refine ⟨rfl, ?_⟩
  intro units member
  obtain ⟨request, unserved, rfl⟩ := List.mem_map.mp member
  have absent : (unitsByRequest result.allocations).get? request.requestId = none := by
    rw [← Option.not_isSome_iff_eq_none, unitsByRequest, Dict.ofPairs_isSome,
      settled.unitsByRequest_keys]
    exact settled.unserved_apart distinct request unserved
  simp [Dict.getD, absent]

/-- The index is taken over the allocations and a zero for each other candidate. The order
differs, which the index does not see. -/
theorem service_perm :
    (serviceOf candidates result.allocations).Perm
      (result.allocations.map Allocation.allocatedUnits ++
        List.replicate result.unserved.length 0) := by
  have moved := settled.partition_unserved.symm.map (fun request =>
    (unitsByRequest result.allocations).getD request.requestId 0)
  rw [List.map_append, settled.served_given distinct, settled.unserved_given distinct] at moved
  rw [serviceOf_eq]
  exact moved

/-- All candidates are served exactly when as many are: the served requests are distinct and
among the candidates. -/
theorem all_served_iff :
    (∀ candidate ∈ candidates, candidate.request ∈ result.served) ↔
      result.served.length = candidates.length := by
  have counted := settled.unserved_length
  have parts := settled.partition_unserved
  constructor
  · intro every
    have none : result.unserved = [] := by
      rw [List.eq_nil_iff_forall_not_mem]
      intro request unserved
      obtain ⟨candidate, listed, rfl⟩ :=
        List.mem_map.mp (parts.subset (List.mem_append_right _ unserved))
      exact settled.unserved_apart distinct _ unserved
        (List.mem_map.mpr ⟨_, every candidate listed, rfl⟩)
    rw [none, List.length_nil] at counted
    omega
  · intro full candidate listed
    have none : result.unserved = [] := List.length_eq_zero_iff.mp (by omega)
    rw [none, List.append_nil] at parts
    exact parts.mem_iff.mpr (List.mem_map.mpr ⟨candidate, listed, rfl⟩)

end Settles

/-- The index of a result as a measure of service: it divides by something positive, is zero
exactly without service, lies between one candidate's share and the share of those served, is
that share exactly when the served units are equal, and is one exactly when everyone is served
with the same units. -/
structure MeasuresService (candidates : List ScheduleCandidate) (result : SchedulingResult) :
    Prop where
  divides : (serviceOf candidates result.allocations).sum ≤ 0 ∨
    jainDivisor (serviceOf candidates result.allocations) ≠ 0
  idle : result.fairnessIndex = 0 ↔ result.served.length = 0
  bounds : 1 ≤ result.served.length →
    1 / (candidates.length : ℚ) ≤ result.fairnessIndex ∧
      result.fairnessIndex ≤ result.served.length / candidates.length
  share : result.fairnessIndex = result.served.length / candidates.length ↔
    ∀ left ∈ result.allocations, ∀ right ∈ result.allocations,
      left.allocatedUnits = right.allocatedUnits
  full : result.fairnessIndex = 1 ↔
    (∀ candidate ∈ candidates, candidate.request ∈ result.served) ∧
      ∀ left ∈ result.allocations, ∀ right ∈ result.allocations,
        left.allocatedUnits = right.allocatedUnits

namespace Settles

variable {candidates : List ScheduleCandidate} {snapshot : ConstellationSnapshot} {step : ℤ}
  {result : SchedulingResult} (settled : Settles candidates snapshot step result)
  (distinct : (candidates.map (fun candidate => candidate.request.requestId)).Nodup)
  (offered : candidates ≠ [])
  (reported : result.fairnessIndex = fairnessOf candidates result.allocations)
include settled distinct offered reported

/-- Without service the index is zero, and nothing is divided. -/
theorem measuresService_idle (vacant : result.allocations = []) :
    MeasuresService candidates result := by
  have counted := settled.unserved_length
  have rearranged := settled.service_perm distinct
  have some_candidate : 0 < candidates.length := List.length_pos_iff.mpr offered
  have unserved : result.served.length = 0 := by simpa [vacant] using settled.lawful.length_eq
  rw [vacant, List.map_nil, List.nil_append] at rearranged
  have zero : result.fairnessIndex = 0 := by
    rw [reported, vacant]
    exact (jainIndex_perm _ _ rearranged).trans (jainIndex_idle _ (by omega))
  have total : (serviceOf candidates result.allocations).sum ≤ 0 := by
    rw [vacant, rearranged.sum_eq]
    simp
  refine ⟨Or.inl total, by simp [zero, unserved], by simp [unserved],
    by simp [zero, unserved, vacant], ?_⟩
  rw [settled.all_served_iff distinct, zero, unserved]
  exact iff_of_false zero_ne_one (fun both => some_candidate.ne both.1)

variable (positive : ∀ allocation ∈ result.allocations, 0 < allocation.allocatedUnits)
include positive

/-- With service the index is that of the allocations among the candidates. -/
theorem measuresService_served (inhabited : result.allocations ≠ []) :
    MeasuresService candidates result := by
  have counted := settled.unserved_length
  have rearranged := settled.service_perm distinct
  have paired : (result.allocations.map Allocation.allocatedUnits).length =
      result.served.length := by
    rw [List.length_map, settled.lawful.length_eq]
  have present : result.allocations.map Allocation.allocatedUnits ≠ [] := by simpa using inhabited
  have grants : ∀ value ∈ result.allocations.map Allocation.allocatedUnits, 0 < value := by
    simpa using positive
  have index : result.fairnessIndex =
      Jain.index (result.allocations.map Allocation.allocatedUnits) candidates.length := by
    rw [counted, ← paired, reported]
    exact (jainIndex_perm _ _ rearranged).trans (jainIndex_served _ _ present grants)
  have divisor := jainDivisor_served _ result.unserved.length present grants
  rw [← jainDivisor_perm _ _ rearranged] at divisor
  have most : (result.allocations.map Allocation.allocatedUnits).length ≤ candidates.length := by
    omega
  have bounds := Jain.index_bounds _ _ present grants most
  have share := Jain.index_eq_share _ _ present grants most
  rw [← index, paired] at bounds share
  have users : (0 : ℚ) < candidates.length := by
    exact_mod_cast List.length_pos_iff.mpr offered
  have least : 0 < result.fairnessIndex := (one_div_pos.mpr users).trans_le bounds.1
  have served : result.served.length ≠ 0 := by
    rw [← paired]
    exact (List.length_pos_iff.mpr present).ne'
  have alike : result.fairnessIndex = result.served.length / candidates.length ↔
      ∀ left ∈ result.allocations, ∀ right ∈ result.allocations,
        left.allocatedUnits = right.allocatedUnits := by simpa using share
  refine ⟨Or.inr divisor.ne', iff_of_false least.ne' served, fun _ => bounds, alike, ?_⟩
  rw [settled.all_served_iff distinct]
  constructor
  · intro one
    have whole : (candidates.length : ℚ) ≤ result.served.length :=
      (one_le_div users).mp (one ▸ bounds.2)
    have full : result.served.length = candidates.length :=
      le_antisymm (by omega) (by exact_mod_cast whole)
    refine ⟨full, alike.mp ?_⟩
    rw [one, full, div_self users.ne']
  · rintro ⟨full, equal⟩
    rw [alike.mpr equal, full, div_self users.ne']

/-- With positive grants, the index that is reported measures service. This is where the facts
about a result meet the general theory of the index. -/
theorem measuresService : MeasuresService candidates result := by
  by_cases vacant : result.allocations = []
  · exact settled.measuresService_idle distinct offered reported vacant
  · exact settled.measuresService_served distinct offered reported positive vacant

end Settles

/-- A greedy pass that places positive grants for the candidates has positive allocations,
whatever the state of the resource. -/
theorem assemble_positive {σ : Type} (candidates : List ScheduleCandidate)
    (snapshot : ConstellationSnapshot) (step : ℤ)
    (place : σ → ScheduleCandidate → Option (Allocation × σ)) (resource : σ)
    (granted : ∀ resource, ∀ candidate ∈ candidates, ∀ allocation charged,
      place resource candidate = some (allocation, charged) → 0 < allocation.allocatedUnits) :
    ∀ allocation ∈ (assemble candidates snapshot
      (Greedy.run (fun candidate => candidate.request.isExpired step) place
        (byScore candidates) resource).1).allocations, 0 < allocation.allocatedUnits := by
  intro allocation member
  obtain ⟨candidate, before, after, charged, order, _, placed⟩ :=
    assemble_turn candidates snapshot step place resource allocation member
  have listed : candidate ∈ candidates := by
    rw [← mem_byScore, order]
    simp
  exact granted _ candidate listed allocation charged placed

/-- A fluid grant is a positive cost or a positive part of one. -/
theorem GreedyScheduler.schedule_positive (scheduler : GreedyScheduler)
    (candidates : List ScheduleCandidate) (snapshot : ConstellationSnapshot) (step : ℤ)
    (costs : ∀ candidate ∈ candidates, 0 < candidate.scoring.estimatedCostUnits) :
    ∀ allocation ∈ (scheduler.schedule candidates snapshot step).allocations,
      0 < allocation.allocatedUnits := by
  apply assemble_positive
  intro beams candidate listed allocation charged granted
  obtain ⟨slot, bound, amount, units, degraded, _, _, rfl, _, whole, part⟩ :=
    scheduler.allocate_inv beams charged candidate allocation granted
  cases degraded with
  | false =>
    simp only [grant, whole rfl]
    exact costs candidate listed
  | true =>
    obtain ⟨_, taken, positive, _⟩ := part rfl
    simp only [grant, taken]
    exact positive

/-- A grant of blocks is positive whatever the cost: it takes at least one block, and a block is
worth something. -/
theorem SlotMacScheduler.schedule_positive (config : MacConfig)
    (candidates : List ScheduleCandidate) (snapshot : ConstellationSnapshot) (step : ℤ) :
    ∀ allocation ∈ (schedule config candidates snapshot step).allocations,
      0 < allocation.allocatedUnits := by
  apply assemble_positive
  intro grids candidate _ allocation taken granted
  obtain ⟨slot, bound, offered, rbs, degraded, offers, positive, within, _, rfl, _⟩ :=
    assign_inv config grids taken candidate allocation granted
  obtain ⟨_, _, _, cap, _, capped⟩ := assignable_bounds config candidate _ offered offers
  have valuable := (regulatoryCap_worth cap _ _ rbs positive (within.trans capped)).1
  exact mul_pos (by exact_mod_cast positive) valuable

namespace ContentionMacScheduler

variable (config : MacConfig) (fuel : ℕ)

/-- A transmission occupies at least one block, so a capture is charged something. -/
theorem attempt_occupies (beams : List Beam) (units : Dict String ℚ)
    (candidate : ScheduleCandidate) (rng final : Rng) (made : Attempt)
    (tried : attempt config fuel beams units candidate rng = some (some made, final)) :
    made.rbs ≠ [] := by
  unfold attempt at tried
  split at tried
  · simp at tried
  rename_i first rest offers
  dsimp only at tried
  split at tried
  · simp at tried
  rename_i positive
  simp only [Option.bind_eq_bind, Option.bind_eq_some_iff, Option.pure_def, Option.some.injEq,
    Prod.mk.injEq, Prod.exists] at tried
  obtain ⟨rbs, _, sampled, rfl, _⟩ := tried
  have enough := sampleLoop_enough config _ fuel [] rbs _ _ sampled
  have grid := config.resourceBlocksPerBeam_pos
  rintro rfl
  simp only [List.length_nil, Nat.cast_zero] at enough
  omega

/-- Random access grants what its blocks are worth, and reports the index of what it granted. -/
theorem schedule_positive (candidates : List ScheduleCandidate) (snapshot : ConstellationSnapshot)
    (step : ℤ) (rng final : Rng) (result : SchedulingResult)
    (returned : schedule config fuel candidates snapshot step rng = some (result, final)) :
    result.fairnessIndex = fairnessOf candidates result.allocations ∧
      ∀ allocation ∈ result.allocations, 0 < allocation.allocatedUnits := by
  obtain ⟨pass, transmitted, rfl⟩ :=
    (schedule_eq_some config fuel candidates snapshot step rng final result).mp returned
  have passed := transmit_passed config fuel snapshot.beams _ step _ rng final pass transmitted
  have occupies := transmit_attempts config fuel snapshot.beams _ step (fun made => made.rbs ≠ [])
    (fun candidate rng made final tried =>
      attempt_occupies config fuel snapshot.beams _ candidate rng final made tried)
    _ rng final pass transmitted
  have once := fun attempt member => (passed.sound attempt member).distinct
  refine ⟨rfl, ?_⟩
  intro allocation member
  obtain ⟨made, recovered, rfl⟩ := List.mem_map.mp member
  have listed := (List.mem_filter.mp recovered).1
  apply List.sum_pos
  · intro part member
    obtain ⟨rb, occupied, rfl⟩ := List.mem_map.mp member
    have here : (made.beam.beamId, rb) ∈ cells made := List.mem_map.mpr ⟨rb, occupied, rfl⟩
    have shared : 0 < (occupancy pass.attempts).getD (made.beam.beamId, rb) 0 := by
      rw [occupancy_getD pass.attempts once]
      exact List.length_pos_of_mem (List.mem_filter.mpr ⟨listed, by simpa using here⟩)
    exact div_pos (passed.sound made listed).valuable (by exact_mod_cast shared)
  · simpa using occupies made listed

end ContentionMacScheduler

namespace InRepoScheduler

/-- Every scheduler reports the index of its own allocations, which are positive. Only the fluid
ones need positive costs for it. -/
theorem schedule_reports (scheduler : InRepoScheduler) (rng final : Rng)
    (candidates : List ScheduleCandidate) (snapshot : ConstellationSnapshot) (step : ℤ)
    (result : SchedulingResult)
    (returned : scheduler.schedule rng candidates snapshot step = some (result, final))
    (costs : ∀ candidate ∈ candidates, 0 < candidate.scoring.estimatedCostUnits) :
    result.fairnessIndex = fairnessOf candidates result.allocations ∧
      ∀ allocation ∈ result.allocations, 0 < allocation.allocatedUnits := by
  cases scheduler with
  | heuristic fraction =>
    simp only [schedule, Option.some.injEq, Prod.mk.injEq] at returned
    exact returned.1 ▸ ⟨rfl, GreedyScheduler.schedule_positive _ candidates snapshot step costs⟩
  | priorityFair cap fraction =>
    simp only [schedule, Option.some.injEq, Prod.mk.injEq] at returned
    exact returned.1 ▸ ⟨rfl, GreedyScheduler.schedule_positive _ candidates snapshot step costs⟩
  | slotMac config =>
    simp only [schedule, Option.some.injEq, Prod.mk.injEq] at returned
    exact returned.1 ▸ ⟨rfl, SlotMacScheduler.schedule_positive config candidates snapshot step⟩
  | contentionMac config fuel =>
    exact ContentionMacScheduler.schedule_positive config fuel candidates snapshot step rng final
      result returned

/-- The fairness index measures service opportunity. Whenever a scheduler returns, on at least
one candidate, with distinct ids and positive costs, its index divides by something other
than zero and is zero without service, one share to the share of those served with it, that
share exactly under equal units, and one exactly when everyone has the same. -/
theorem fairness_measures_service (scheduler : InRepoScheduler) (rng final : Rng)
    (candidates : List ScheduleCandidate) (snapshot : ConstellationSnapshot) (step : ℤ)
    (result : SchedulingResult)
    (returned : scheduler.schedule rng candidates snapshot step = some (result, final))
    (offered : candidates ≠ [])
    (distinct : (candidates.map (fun candidate => candidate.request.requestId)).Nodup)
    (costs : ∀ candidate ∈ candidates, 0 < candidate.scoring.estimatedCostUnits) :
    MeasuresService candidates result := by
  have settled := scheduler.schedule_settles rng final candidates snapshot step result returned
  obtain ⟨reported, positive⟩ :=
    scheduler.schedule_reports rng final candidates snapshot step result returned costs
  exact settled.measuresService distinct offered reported positive

/-- Two rivals for the one beam of a snapshot, under the greedy scheduler: both are served, and
the index is at least one share. -/
theorem fairness_measures_service_rivals : ∃ result final,
    (heuristic (1 / 4)).schedule evenRng
        [ContentionMacScheduler.rival "a", ContentionMacScheduler.rival "b"] oneBeam 0 =
      some (result, final) ∧
    result.served.length = 2 ∧ 1 / 2 ≤ result.fairnessIndex := by
  refine ⟨_, _, rfl, by decide +kernel, ?_⟩
  have measured := fairness_measures_service (heuristic (1 / 4)) evenRng _
    [ContentionMacScheduler.rival "a", ContentionMacScheduler.rival "b"] oneBeam 0 _ rfl
    (List.cons_ne_nil _ _) (by decide) ?_
  · exact_mod_cast (measured.bounds (by decide +kernel)).1
  · intro candidate member
    simp only [List.mem_cons, List.not_mem_nil, or_false] at member
    rcases member with rfl | rfl <;> exact one_pos

end InRepoScheduler

end Satsim
