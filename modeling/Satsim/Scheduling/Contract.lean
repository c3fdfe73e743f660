import Satsim.BeamState
import Satsim.Ports
import Satsim.Scoring

/-!
# What a scheduler owes the loop

The parts that every in-repo scheduler shares: the order of service, the legal caps
read from a candidate's options, and the result assembled from the grants of a pass.
`Settles` is the contract the loop's invariants rest on. It says where each candidate
goes and that every grant is lawful; a beam's budget is a separate promise, `Fitting`,
since it needs distinct beam identifiers.

The contract says nothing about which candidates are served. That is the business of
each scheduler and is studied apart; a scheduler that defers everybody would keep the
contract as well.
-/

namespace Satsim

open Library

/-- Jain's index, over every candidate and including those given nothing. Without candidates it
is one and without service it is zero, so the quotient is reached only with a positive sum. -/
def jainIndex (values : List ℚ) : ℚ :=
  if values = [] then 1
  else if values.sum ≤ 0 then 0
  else values.sum * values.sum / (values.length * (values.map (fun value => value * value)).sum)

/-- The reported share of the capacity that was allocated, at most one. A snapshot without
capacity reports zero. -/
def reportedUtilization (allocated totalCapacity : ℚ) : ℚ :=
  min 1 (if 0 < totalCapacity then allocated / totalCapacity else 0)

/-- Units by request; a later allocation of the same request overwrites an earlier one. -/
def fairnessOf (candidates : List ScheduleCandidate) (allocations : List Allocation) : ℚ :=
  let byRequest := Dict.ofPairs (allocations.map (fun allocation =>
    (allocation.requestId, allocation.allocatedUnits)))
  jainIndex (candidates.map (fun candidate => byRequest.getD candidate.request.requestId 0))

/-- The order of service: highest score first, the request id breaking ties. The sort is stable,
so candidates that agree on both stay in the order in which they came. -/
def byScore (candidates : List ScheduleCandidate) : List ScheduleCandidate :=
  candidates.insertionSort (fun left right =>
    ranksBefore (left.scoring.score, left.request.requestId)
      (right.scoring.score, right.request.requestId))

/-- Sorting neither loses nor invents a candidate. -/
@[simp] theorem mem_byScore (candidates : List ScheduleCandidate) (candidate : ScheduleCandidate) :
    candidate ∈ byScore candidates ↔ candidate ∈ candidates := List.mem_insertionSort _

/-- The airtime cap of each legal fleet and band; a repeated pair keeps its last cap. A pair
that is missing is not legal, and one whose cap is missing is legal without a cap. -/
def optionCaps (options : List CandidateOption) : Dict (FleetId × Band) (Option ℚ) :=
  Dict.ofPairs (options.map (fun option =>
    ((option.fleet, option.band), option.constraints.maxAirtimeUnits)))

/-- The caps a candidate's options give a fleet and band. With repeated options there may be
several, of which the lookup keeps the last. -/
def ScheduleCandidate.Legal (candidate : ScheduleCandidate) (fleet : FleetId) (band : Band)
    (cap : Option ℚ) : Prop :=
  ∃ option ∈ candidate.options, option.fleet = fleet ∧ option.band = band ∧
    option.constraints.maxAirtimeUnits = cap

/-- A cap that is looked up is that of one of the options. The converse needs options for
distinct pairs. -/
theorem optionCaps_legal (candidate : ScheduleCandidate) (fleet : FleetId) (band : Band)
    (cap : Option ℚ) (found : (optionCaps candidate.options).get? (fleet, band) = some cap) :
    candidate.Legal fleet band cap := by
  obtain ⟨option, member, same⟩ := List.mem_map.mp (Dict.ofPairs_mem _ _ _ found)
  simp only [Prod.mk.injEq] at same
  exact ⟨option, member, same.1.1, same.1.2, same.2⟩

/-- The result of a greedy pass: refused candidates are dropped as late, unplaced ones are
deferred. The counts and the fairness index are taken here and nowhere else, so the schedulers
report them alike. -/
def assemble (candidates : List ScheduleCandidate) (snapshot : ConstellationSnapshot)
    (outcome : Greedy.Outcome ScheduleCandidate Allocation) : SchedulingResult :=
  let allocations := outcome.placed.map Prod.snd
  { allocations := allocations
    served := outcome.placed.map (fun pair => pair.1.request)
    deferred := outcome.unplaced.map ScheduleCandidate.request
    dropped := outcome.refused.map (fun candidate => ⟨candidate.request, .deadlineMissed⟩)
    fairnessIndex := fairnessOf candidates allocations
    utilization := reportedUtilization (allocations.map Allocation.allocatedUnits).sum
      snapshot.totalCapacity }

/-- Every candidate is served, deferred or dropped, once; only late candidates are
dropped and no late one is served or deferred; and each served request has a lawful
allocation in the same position. -/
structure Settles (candidates : List ScheduleCandidate) (snapshot : ConstellationSnapshot)
    (step : ℤ) (result : SchedulingResult) : Prop where
  partition : (result.served ++ result.deferred ++
    result.dropped.map RejectedRequest.request).Perm (candidates.map ScheduleCandidate.request)
  late : ∀ item ∈ result.dropped, item.reason = .deadlineMissed ∧ item.request.deadlineStep < step
  timely : ∀ request ∈ result.served ++ result.deferred, step ≤ request.deadlineStep
  lawful : List.Forall₂ (fun request allocation => ∃ candidate ∈ candidates,
      candidate.request = request ∧ Fits snapshot.beams candidate.Legal request allocation)
    result.served result.allocations

/-- No beam gives more than its capacity, up to the slack. The beams are told apart by
identifier only, so with a repeated identifier this bounds the sum for both by the capacity of
each. -/
def Fitting (snapshot : ConstellationSnapshot) (result : SchedulingResult) : Prop :=
  ∀ beam ∈ snapshot.beams, unitsOn beam.beamId result.allocations ≤ beam.capacityUnits + slack

/-- A greedy pass that refuses the late candidates settles them, provided that each placement
keeps an invariant under which grants are lawful. The invariant is the scheduler's: that its
resource still describes the beams of the snapshot. -/
theorem assemble_settles {σ : Type} (candidates : List ScheduleCandidate)
    (snapshot : ConstellationSnapshot) (step : ℤ)
    (place : σ → ScheduleCandidate → Option (Allocation × σ)) (invariant : σ → Prop)
    (granted : ∀ resource candidate allocation charged, invariant resource →
      place resource candidate = some (allocation, charged) →
      invariant charged ∧ Fits snapshot.beams candidate.Legal candidate.request allocation)
    (resource : σ) (initial : invariant resource) :
    Settles candidates snapshot step (assemble candidates snapshot
      (Greedy.run (fun candidate => candidate.request.isExpired step) place
        (byScore candidates) resource).1) := by
  generalize served : Greedy.run (fun candidate : ScheduleCandidate =>
    candidate.request.isExpired step) place (byScore candidates) resource = pass
  have parts := Greedy.run_partition (fun candidate : ScheduleCandidate =>
    candidate.request.isExpired step) place (byScore candidates) resource
  have refused := Greedy.run_refused (fun candidate : ScheduleCandidate =>
    candidate.request.isExpired step) place (byScore candidates) resource
  have offered := Greedy.run_offered (fun candidate : ScheduleCandidate =>
    candidate.request.isExpired step) place (byScore candidates) resource
  have lawful := (Greedy.run_invariant (fun candidate : ScheduleCandidate =>
    candidate.request.isExpired step) place invariant
    (fun candidate allocation => Fits snapshot.beams candidate.Legal candidate.request allocation)
    (fun resource candidate allocation charged holds _ placed =>
      granted resource candidate allocation charged holds placed)
    (byScore candidates) resource initial).2
  rw [served] at parts refused offered lawful
  have ordered : (byScore candidates).Perm candidates := List.perm_insertionSort _ _
  refine ⟨?_, ?_, ?_, ?_⟩
  · have moved := (parts.trans ordered).map ScheduleCandidate.request
    simpa [assemble, Function.comp_def] using moved
  · intro item member
    simp only [assemble, refused, List.mem_map, List.mem_filter] at member
    obtain ⟨candidate, ⟨_, late⟩, rfl⟩ := member
    exact ⟨rfl, (candidate.request.isExpired_iff step).mp late⟩
  · intro request member
    have moved : request ∈ (pass.1.placed.map Prod.fst ++ pass.1.unplaced).map
        ScheduleCandidate.request := by
      simpa [assemble, Function.comp_def] using member
    obtain ⟨candidate, kept, rfl⟩ := List.mem_map.mp moved
    have timely := (List.mem_filter.mp (offered.subset kept)).2
    exact (candidate.request.not_isExpired_iff step).mp (by simpa using timely)
  · simp only [assemble, List.forall₂_map_left_iff, List.forall₂_map_right_iff, List.forall₂_same]
    intro pair member
    have kept : pair.1 ∈ pass.1.placed.map Prod.fst ++ pass.1.unplaced :=
      List.mem_append_left _ (List.mem_map.mpr ⟨pair, member, rfl⟩)
    have listed := ordered.subset (List.mem_filter.mp (offered.subset kept)).1
    exact ⟨pair.1, listed, rfl, lawful pair member⟩

/-- Each allocation of a greedy pass was placed for a candidate at its turn, against what the
candidates before it left, and stands beside its request. This is where a statement about one
placement becomes one about a whole result. -/
theorem assemble_turn {σ : Type} (candidates : List ScheduleCandidate)
    (snapshot : ConstellationSnapshot) (step : ℤ)
    (place : σ → ScheduleCandidate → Option (Allocation × σ)) (resource : σ)
    (allocation : Allocation)
    (member : allocation ∈ (assemble candidates snapshot
      (Greedy.run (fun candidate => candidate.request.isExpired step) place
        (byScore candidates) resource).1).allocations) :
    ∃ candidate before after charged, byScore candidates = before ++ candidate :: after ∧
      (candidate.request, allocation) ∈ (assemble candidates snapshot
          (Greedy.run (fun candidate => candidate.request.isExpired step) place
            (byScore candidates) resource).1).served.zip
        (assemble candidates snapshot
          (Greedy.run (fun candidate => candidate.request.isExpired step) place
            (byScore candidates) resource).1).allocations ∧
      place (Greedy.run (fun candidate => candidate.request.isExpired step) place before
        resource).2 candidate = some (allocation, charged) := by
  obtain ⟨pair, placed, rfl⟩ := List.mem_map.mp member
  obtain ⟨before, after, charged, order, _, answered⟩ := Greedy.run_placed_turn _ _ _ _ pair placed
  refine ⟨pair.1, before, after, charged, order, ?_, answered⟩
  simp only [assemble, List.zip_map']
  exact List.mem_map.mpr ⟨pair, placed, rfl⟩

end Satsim
