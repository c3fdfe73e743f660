import Satsim.Runtime.Wiring

/-!
# Lawful and timely grants

The lane asks the policy for a verdict on one beam, the schedulers read the options a
candidate carries. With the rule table behind both, either way leads back to one rule of
the request's region that lists the beam's fleet and band and bounds the airtime.

Lawfulness is judged against the table alone. Neither the verdict nor the options are
taken as its definition, so a mistake in either computation would show.
-/

namespace Satsim

open Library

/-- What makes a grant of a step lawful: it names its request within the deadline, and a
beam that a client answered with in this step, in the request's region, of a fleet and
band that the region's rule lists, for no more airtime than the rule's cap. -/
structure LawfulGrant (regionRules : List RegionRule) (trace : StepTrace)
    (request : ServiceRequest) (allocation : Allocation) : Prop where
  named : allocation.requestId = request.requestId
  timely : trace.step ≤ request.deadlineStep
  beam : ∃ beam ∈ trace.snapshot.beams, allocation.beamId = beam.beamId ∧
    allocation.fleet = beam.fleet ∧ allocation.band = beam.band ∧ beam.region = request.region ∧
      ∃ lookup ∈ trace.lookups, lookup.client.fleetId = beam.fleet ∧ ∃ snapshot,
        lookup.outcome = .answered snapshot ∧
          lookup.client.visibleResources trace.step = some snapshot ∧ beam ∈ snapshot.beams
  rule : ∃ rule ∈ regionRules, rule.region = request.region ∧
    allocation.fleet ∈ rule.allowedFleets ∧ allocation.band ∈ rule.allowedBands ∧
      ∀ limit ∈ rule.maxAirtimeUnits, allocation.allocatedUnits ≤ limit + slack

/-- A cap that is legal for a region, fleet and band is that of a rule which lists both. It says
in terms of the table what a verdict and an option have in common. -/
def Licensed (regionRules : List RegionRule) (region : Region) (fleet : FleetId) (band : Band)
    (cap : Option ℚ) : Prop :=
  ∃ rule ∈ regionRules, rule.region = region ∧ fleet ∈ rule.allowedFleets ∧
    band ∈ rule.allowedBands ∧ rule.maxAirtimeUnits = cap

/-- The lane's verdict is licensed by the table. -/
theorem lane_licensed (regionRules : List RegionRule) (region : Region) (fleet : FleetId)
    (band : Band) (cap : Option ℚ)
    (legal : EmergencyLane.Legal (tableRegulatoryPolicy regionRules) region fleet band cap) :
    Licensed regionRules region fleet band cap := by
  obtain ⟨allowed, rfl⟩ := legal
  obtain ⟨rule, listed, located, licensed, permitted, constrained⟩ :=
    TableRegulatoryPolicy.evaluate_lawful regionRules region fleet band allowed
  refine ⟨rule, listed, located, licensed, permitted, ?_⟩
  simp only [EmergencyLane.regCap, tableRegulatoryPolicy, constrained, Option.bind_some]
  rfl

/-- The options of a candidate built from the table are licensed by it, repeated rules
included. -/
theorem candidate_licensed (regionRules : List RegionRule) (candidate : ScheduleCandidate)
    (built : candidate.options =
      (tableRegulatoryPolicy regionRules).allowedOptions candidate.request)
    (fleet : FleetId) (band : Band) (cap : Option ℚ) (legal : candidate.Legal fleet band cap) :
    Licensed regionRules candidate.request.region fleet band cap := by
  obtain ⟨option, listed, rfl, rfl, rfl⟩ := legal
  rw [built] at listed
  obtain ⟨rule, inTable, located, licensed, permitted, constrained⟩ :=
    TableRegulatoryPolicy.allowedOptions_lawful regionRules candidate.request option
      listed
  exact ⟨rule, inTable, located, licensed, permitted, by rw [constrained]; rfl⟩

namespace ControlLoop

variable {σ π φ ο : Type} (loop : ControlLoop σ π φ ο)
variable {t : ℤ} {state next : LoopState σ π φ ο} {trace : StepTrace}

/-- A grant that fits the merged snapshot under a licensed cap is lawful. The answering client
is found behind the beam. -/
theorem Stepped.lawful_of_fits (stepped : loop.Stepped t state next trace)
    (ownFleets : ∀ client ∈ loop.constellations, client.ShowsOwnFleet)
    (request : ServiceRequest) (allocation : Allocation) (timely : t ≤ request.deadlineStep)
    (fits : Fits trace.snapshot.beams (Licensed loop.config.regionRules request.region) request
      allocation) :
    LawfulGrant loop.config.regionRules trace request allocation := by
  obtain ⟨beam, shown, cap, sameId, sameFleet, sameBand, located,
    ⟨rule, listed, ruled, licensed, permitted, rfl⟩, within⟩ := fits.taken
  obtain ⟨lookup, member, client, snapshot, answered, seen, inSnapshot⟩ :=
    stepped.beam_seen loop beam shown
  refine ⟨fits.named, stepped.step ▸ timely, ⟨beam, shown, sameId, sameFleet, sameBand, located,
    lookup, member, (ownFleets _ client t snapshot seen beam inSnapshot).symm, snapshot, answered,
    stepped.step ▸ seen, inSnapshot⟩, rule, listed, ruled, sameFleet ▸ licensed,
    sameBand ▸ permitted, within⟩

/-- Weaken what is legal in a grant that fits. -/
theorem fits_imp {beams : List Beam} {legal weaker : FleetId → Band → Option ℚ → Prop}
    {request : ServiceRequest} {allocation : Allocation}
    (implied : ∀ fleet band cap, legal fleet band cap → weaker fleet band cap)
    (fits : Fits beams legal request allocation) : Fits beams weaker request allocation := by
  obtain ⟨named, beam, shown, cap, sameId, sameFleet, sameBand, located, lawful, within⟩ := fits
  exact ⟨named, beam, shown, cap, sameId, sameFleet, sameBand, located, implied _ _ _ lawful,
    within⟩

/-- A grant on the snapshot net of reservations is a grant on the merged snapshot: subtraction
changes capacities, and no beam appears or moves. -/
theorem fits_gross {snapshot : ConstellationSnapshot} {reservations : List Allocation}
    {legal : FleetId → Band → Option ℚ → Prop} {request : ServiceRequest} {allocation : Allocation}
    (fits : Fits (subtractReservations snapshot reservations).beams legal request allocation) :
    Fits snapshot.beams legal request allocation := by
  obtain ⟨named, beam, shown, cap, sameId, sameFleet, sameBand, located, lawful, within⟩ := fits
  obtain ⟨source, member, same⟩ := subtract_source snapshot reservations beam shown
  rw [same] at sameId sameFleet sameBand located lawful
  exact ⟨named, source, member, cap, sameId, sameFleet, sameBand, located, lawful, within⟩

/-- Every grant of a step is lawful, in whatever mode the step is: the lane's reservations
first, then what the scheduler grants. -/
theorem Stepped.lawful (stepped : loop.Stepped t state next trace) (contracted : loop.Contracted)
    (tabled : loop.regulatory = tableRegulatoryPolicy loop.config.regionRules)
    (ownFleets : ∀ client ∈ loop.constellations, client.ShowsOwnFleet) :
    List.Forall₂ (LawfulGrant loop.config.regionRules trace) trace.served trace.allocations := by
  apply List.rel_append
  · rw [stepped.decision]
    refine (EmergencyLane.reserve_lawful _ _ _ _ _ _ _).imp ?_
    rintro request allocation ⟨timely, fits⟩
    exact stepped.lawful_of_fits loop ownFleets request allocation timely
      (fits_imp (fun fleet band cap legal =>
        lane_licensed _ _ fleet band cap (tabled ▸ legal)) fits)
  · by_cases safe : trace.mode = .safe
    · rw [stepped.safe_result loop safe]
      exact List.Forall₂.nil
    · have settled := stepped.settles loop contracted safe
      have timely := settled.timely
      have lawful := settled.lawful
      rw [stepped.remaining] at lawful
      refine List.forall₂_iff_get.mpr ⟨lawful.length_eq, ?_⟩
      intro index inServed inAllocations
      obtain ⟨candidate, listed, same, fits⟩ := lawful.get inServed inAllocations
      obtain ⟨_, built⟩ := stepped.candidate_arrived loop candidate listed
      refine stepped.lawful_of_fits loop ownFleets _ _
        (timely _ (List.mem_append_left _ (List.get_mem _ _))) ?_
      refine fits_imp (fun fleet band cap legal => ?_) (fits_gross fits)
      rw [← same]
      exact candidate_licensed _ candidate (tabled ▸ built) fleet band cap legal

/-- What is served has arrived. -/
theorem Stepped.served_arrived (stepped : loop.Stepped t state next trace)
    (contracted : loop.Contracted) (request : ServiceRequest) (member : request ∈ trace.served) :
    request ∈ trace.arrivals := by
  cases List.mem_append.mp member with
  | inl lane =>
    exact stepped.lane_arrived loop request lane
  | inr scheduled =>
    by_cases safe : trace.mode = .safe
    · simp [stepped.safe_result loop safe] at scheduled
    · have offered := (stepped.settles loop contracted safe).partition.subset
        (List.mem_append_left _ (List.mem_append_left _ scheduled))
      obtain ⟨candidate, listed, rfl⟩ := List.mem_map.mp offered
      exact (stepped.candidate_arrived loop candidate listed).1

/-- Lawful and timely grants. In every run under the rule table of the configuration, with
any in-repo primary, the heuristic fallback and any faults, each served request of a step
has a lawful grant in the same position. When no request is polled with a deadline before its
arrival, the recorded wait of each lies between zero and the span from its arrival to its
deadline. -/
theorem grants_lawful (loop : ControlLoop σ Rng Rng ο) (primary : InRepoScheduler)
    (primaryFaults : ℤ → Option Rng) (degradeMinFraction : ℚ) (fallbackFaults : ℤ → Option Rng)
    (start : ℤ) (count : ℕ) (source : σ) (optimizer : ο)
    (schedulerRng fallbackRng admissionRng rng : Rng) (final : LoopState σ Rng Rng ο)
    (traces : List StepTrace)
    (completed : (loop.wired primary primaryFaults degradeMinFraction fallbackFaults).run start
      count ((loop.wired primary primaryFaults degradeMinFraction fallbackFaults).initial source
        schedulerRng fallbackRng optimizer admissionRng rng) = some (final, traces))
    (tabled : loop.regulatory = tableRegulatoryPolicy loop.config.regionRules)
    (ownFleets : ∀ client ∈ loop.constellations, client.ShowsOwnFleet) :
    (∀ trace ∈ traces,
      List.Forall₂ (LawfulGrant loop.config.regionRules trace) trace.served trace.allocations) ∧
      ((∀ request ∈ traces.flatMap StepTrace.polled,
        request.arrivalStep ≤ request.deadlineStep) → ∀ trace ∈ traces,
          List.Forall₂ (fun request wait => 0 ≤ wait ∧
              wait ≤ request.deadlineStep - request.arrivalStep)
            trace.served trace.counters.servedWaitSteps) := by
  have contracted := loop.wired_contracted primary primaryFaults degradeMinFraction fallbackFaults
  have lawful : ∀ trace ∈ traces,
      List.Forall₂ (LawfulGrant loop.config.regionRules trace) trace.served trace.allocations := by
    intro trace member
    obtain ⟨state, next, stepped⟩ := run_stepped _ start count _ final traces completed trace member
    exact stepped.lawful _ contracted tabled ownFleets
  refine ⟨lawful, ?_⟩
  intro wellFormed trace member
  obtain ⟨lived, _⟩ := run_arrivals _ (contracted.deferring _)
    (fun identity => identity.arrivalStep ≤ identity.deadlineStep) start count _ final rfl traces
    completed wellFormed
  obtain ⟨state, next, stepped⟩ := run_stepped _ start count _ final traces completed trace member
  have waits : trace.counters.servedWaitSteps =
      trace.served.map (fun request => max 0 (trace.step - request.arrivalStep)) := by
    rw [stepped.counters]
    rfl
  rw [waits, List.forall₂_map_right_iff, List.forall₂_same]
  intro request served
  have timely : trace.step ≤ request.deadlineStep := by
    obtain ⟨index, bound, rfl⟩ := List.getElem_of_mem served
    have granted := lawful trace member
    exact (granted.get bound (granted.length_eq ▸ bound)).timely
  have ordered : request.arrivalStep ≤ request.deadlineStep :=
    lived trace member request (stepped.served_arrived _ contracted request served)
  exact ⟨le_max_left _ _, max_le (by omega) (by omega)⟩

/-- In the faulty run the lane's grant and the later grant of the scheduler are lawful, and
neither waits past its deadline. -/
theorem grants_lawful_faulty :
    faultyRun.2.map (fun trace => trace.served.length) = [1, 1, 0] ∧
      (∀ trace ∈ faultyRun.2, List.Forall₂ (LawfulGrant smallConfig.regionRules trace)
        trace.served trace.allocations) ∧
      ∀ trace ∈ faultyRun.2, List.Forall₂ (fun request wait => 0 ≤ wait ∧
          wait ≤ request.deadlineStep - request.arrivalStep)
        trace.served trace.counters.servedWaitSteps := by
  have ownFleets : ∀ client ∈ smallLoop.constellations, client.ShowsOwnFleet := by
    intro client listed
    obtain ⟨fake, _, rfl⟩ := List.mem_map.mp listed
    exact fake.showsOwnFleet
  obtain ⟨lawful, timely⟩ := grants_lawful smallLoop (.heuristic (1 / 4)) firstStepFault (1 / 4)
    firstStepFault 0 3 _ () evenRng evenRng evenRng evenRng faultyRun.1 faultyRun.2
    (Option.some_get faultyRun_returns).symm rfl ownFleets
  exact ⟨by decide +kernel, lawful, timely (by decide +kernel)⟩

end ControlLoop

end Satsim
