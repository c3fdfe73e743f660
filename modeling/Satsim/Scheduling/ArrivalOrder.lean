import Satsim.Admission.LaneFairness
import Satsim.Mac.Contention
import Satsim.Scheduling.Priority

/-!
# Arrival order does not matter inside a step

Every scheduler, and the lane, serves in an order that tells distinct ids apart, so the
order of service is the same however the requests arrived. What is read from the list as it
arrived, the fairness index and the requests screened out before ranking, is a sum over the
list or a part of it.

Distinct ids are needed and are all that is needed. Two candidates that share an id may
stay in the order in which they came, and then the result may show it. Across steps the
order matters anyway, since the queue is served in the order of its entries.
-/

namespace Satsim

open Library

/-- The fairness index reads only the length of its values, their sum and the sum of their
squares, and none of the three depends on an order. -/
theorem jainIndex_perm (values permuted : List ℚ) (rearranged : values.Perm permuted) :
    jainIndex values = jainIndex permuted := by
  have vacant : values = [] ↔ permuted = [] := by
    constructor
    · rintro rfl
      exact rearranged.nil_eq.symm
    · rintro rfl
      exact rearranged.eq_nil
  have squares := (rearranged.map (fun value => value * value)).sum_eq
  simp only [jainIndex, vacant, rearranged.sum_eq, rearranged.length_eq, squares]

section Candidates

variable (candidates permuted : List ScheduleCandidate) (rearranged : candidates.Perm permuted)
include rearranged

/-- The index of a step, whose values are looked up by request id rather than by position, so
the candidates may come in any order. The allocations stay as they are. -/
theorem fairnessOf_perm (allocations : List Allocation) :
    fairnessOf candidates allocations = fairnessOf permuted allocations :=
  jainIndex_perm _ _ (rearranged.map _)

/-- A pass over the same order of service assembles to the same result. Only the fairness index
is read from the candidates as they came. -/
theorem assemble_perm (snapshot : ConstellationSnapshot)
    (outcome : Greedy.Outcome ScheduleCandidate Allocation) :
    assemble candidates snapshot outcome = assemble permuted snapshot outcome := by
  simp only [assemble, fairnessOf_perm candidates permuted rearranged]

variable (distinct : (candidates.map (fun candidate => candidate.request.requestId)).Nodup)
include distinct

/-- Scores may tie, ids may not: with distinct ids the sort keys are distinct, and the order of
service is one list. -/
theorem byScore_perm : byScore candidates = byScore permuted :=
  ranked_eq_of_perm ScheduleCandidate.sortKey candidates permuted rearranged distinct

/-- Random access serves by the id alone, so there distinct ids are distinct keys. -/
theorem byRequestId_perm : ContentionMacScheduler.byRequestId candidates =
    ContentionMacScheduler.byRequestId permuted := by
  apply insertionSort_eq_of_perm
    (fun left right : ScheduleCandidate => left.request.requestId ≤ right.request.requestId)
    (fun _ _ => le_total _ _) (fun _ _ _ => le_trans) candidates permuted rearranged
  intro left leftListed right rightListed forth back
  exact List.inj_on_of_nodup_map distinct leftListed rightListed (le_antisymm forth back)

/-- Both fluid schedulers, whatever the cap: the pass starts from one order of service. -/
theorem GreedyScheduler.schedule_perm (scheduler : GreedyScheduler)
    (snapshot : ConstellationSnapshot) (step : ℤ) :
    scheduler.schedule candidates snapshot step = scheduler.schedule permuted snapshot step := by
  rw [GreedyScheduler.schedule, GreedyScheduler.schedule, GreedyScheduler.serve,
    GreedyScheduler.serve, byScore_perm candidates permuted rearranged distinct]
  exact assemble_perm candidates permuted rearranged snapshot _

/-- Granted access, whose grids are built from the snapshot and not from the candidates. -/
theorem SlotMacScheduler.schedule_perm (config : MacConfig) (snapshot : ConstellationSnapshot)
    (step : ℤ) : SlotMacScheduler.schedule config candidates snapshot step =
      SlotMacScheduler.schedule config permuted snapshot step := by
  rw [SlotMacScheduler.schedule, SlotMacScheduler.schedule, SlotMacScheduler.serve,
    SlotMacScheduler.serve, byScore_perm candidates permuted rearranged distinct]
  exact assemble_perm candidates permuted rearranged snapshot _

/-- Random access draws in the order of the ids, so the draws are the same too, and the
generator is left in one state. This would fail if it drew in the order of arrival. -/
theorem ContentionMacScheduler.schedule_perm (config : MacConfig) (fuel : ℕ)
    (snapshot : ConstellationSnapshot) (step : ℤ) (rng : Rng) :
    ContentionMacScheduler.schedule config fuel candidates snapshot step rng =
      ContentionMacScheduler.schedule config fuel permuted snapshot step rng := by
  simp only [ContentionMacScheduler.schedule, ContentionMacScheduler.settle,
    byRequestId_perm candidates permuted rearranged distinct,
    fairnessOf_perm candidates permuted rearranged]

end Candidates

namespace EmergencyLane

variable (config : EmergencyConfig) (regulatory : RegulatoryPolicy) (scoring : ScoringConfig)
  (urgent permuted : List ServiceRequest) (rearranged : urgent.Perm permuted)
  (distinct : (urgent.map ServiceRequest.requestId).Nodup)
include rearranged

/-- The screen goes request by request, so it only carries the rearrangement on. -/
theorem screened_perm (step : ℤ) :
    (screened config urgent step).Perm (screened config permuted step) :=
  rearranged.filterMap _

include distinct

/-- The lane ranks by risk and then by id, which tells the screened requests apart. -/
theorem rank_perm (step : ℤ) : rank config urgent step = rank config permuted step := by
  apply ranked_eq_of_perm (rankKey config step) _ _ (rearranged.filter _)
  exact distinct.sublist (List.filter_sublist.map ServiceRequest.requestId)

/-- One order of rank is one pass over the pool. -/
theorem serve_perm (snapshot : ConstellationSnapshot) (step : ℤ) :
    serve config regulatory scoring urgent snapshot step =
      serve config regulatory scoring permuted snapshot step := by
  simp only [serve, rank_perm config urgent permuted rearranged distinct]

end EmergencyLane

/-- Arrival order does not matter inside a step. From candidates with distinct ids in any
order each scheduler returns one result, and random access also leaves its generator alike;
from urgent requests with distinct ids in any order the lane admits and reserves alike and
sheds the same requests for the same reasons. -/
theorem arrival_order_irrelevant :
    (∀ candidates permuted : List ScheduleCandidate, candidates.Perm permuted →
      (candidates.map (fun candidate => candidate.request.requestId)).Nodup →
      ∀ snapshot step,
        (∀ fraction, (heuristicScheduler fraction).schedule candidates snapshot step =
          (heuristicScheduler fraction).schedule permuted snapshot step) ∧
        (∀ cap fraction, (priorityFairScheduler cap fraction).schedule candidates snapshot step =
          (priorityFairScheduler cap fraction).schedule permuted snapshot step) ∧
        (∀ config, SlotMacScheduler.schedule config candidates snapshot step =
          SlotMacScheduler.schedule config permuted snapshot step) ∧
        ∀ config fuel rng,
          ContentionMacScheduler.schedule config fuel candidates snapshot step rng =
            ContentionMacScheduler.schedule config fuel permuted snapshot step rng) ∧
    ∀ urgent permuted : List ServiceRequest, urgent.Perm permuted →
      (urgent.map ServiceRequest.requestId).Nodup →
      ∀ config regulatory scoring snapshot plan step,
        let decision := EmergencyLane.reserve config regulatory scoring urgent snapshot plan step
        let other := EmergencyLane.reserve config regulatory scoring permuted snapshot plan step
        decision.admitted = other.admitted ∧ decision.reservations = other.reservations ∧
          decision.reservedUnitsUsed = other.reservedUnitsUsed ∧ decision.shed.Perm other.shed := by
  constructor
  · intro candidates permuted rearranged distinct snapshot step
    refine ⟨?_, ?_, ?_, ?_⟩
    · intro fraction
      exact GreedyScheduler.schedule_perm candidates permuted rearranged distinct _ snapshot step
    · intro cap fraction
      exact GreedyScheduler.schedule_perm candidates permuted rearranged distinct _ snapshot step
    · intro config
      exact SlotMacScheduler.schedule_perm candidates permuted rearranged distinct config snapshot
        step
    · intro config fuel rng
      exact ContentionMacScheduler.schedule_perm candidates permuted rearranged distinct config fuel
        snapshot step rng
  · intro urgent permuted rearranged distinct config regulatory scoring snapshot plan step
    have served := EmergencyLane.serve_perm config regulatory scoring urgent permuted rearranged
      distinct snapshot step
    have shed := EmergencyLane.screened_perm config urgent permuted rearranged step
    simp only [EmergencyLane.reserve, served, true_and]
    exact shed.append_right _

/-- Two candidates the other way round, and two urgent requests: the distinct ids can be checked
by evaluation. -/
theorem arrival_order_irrelevant_swapped :
    (heuristicScheduler (1 / 4)).schedule [sized "a" 8, sized "b" 9] oneBeam 0 =
        (heuristicScheduler (1 / 4)).schedule [sized "b" 9, sized "a" 8] oneBeam 0 ∧
      ∀ config regulatory scoring snapshot plan step,
        (EmergencyLane.reserve config regulatory scoring [smallRequest "a" .roadside 5,
            smallRequest "b" .roadside 5] snapshot plan step).admitted =
          (EmergencyLane.reserve config regulatory scoring [smallRequest "b" .roadside 5,
            smallRequest "a" .roadside 5] snapshot plan step).admitted := by
  obtain ⟨schedulers, lane⟩ := arrival_order_irrelevant
  constructor
  · exact (schedulers [sized "a" 8, sized "b" 9] [sized "b" 9, sized "a" 8]
      (List.Perm.swap _ _ _) (by decide) oneBeam 0).1 _
  · intro config regulatory scoring snapshot plan step
    exact (lane [smallRequest "a" .roadside 5, smallRequest "b" .roadside 5]
      [smallRequest "b" .roadside 5, smallRequest "a" .roadside 5] (List.Perm.swap _ _ _)
      (by decide) config regulatory scoring snapshot plan step).1

end Satsim
