import Satsim.BeamState
import Satsim.Ports
import Satsim.Scoring

/-!
# The Tier-2 emergency lane

A fraction of every beam's capacity is set aside for urgent requests. Requests past
their deadline or over the lane's retry limit are shed first; the others are served
by descending emergency score, each capped in size, each region capped in total, on
the eligible beam with the most reserved headroom.

The lane books what it grants twice, per beam in the pool and per region beside it. Both
books are kept by `admitOne` alone, so each bound below is a bound on one of its steps,
carried through the pass by the rules of greedy service.
-/

namespace Satsim

open Library

/-- The reserved pool, what each region has taken from it, and the total taken. The pass changes
all three together. -/
structure LaneState where
  pool : List BeamState
  regionUsed : Dict Region ℚ := Dict.empty
  used : ℚ := 0
  deriving DecidableEq

namespace EmergencyLane

variable (config : EmergencyConfig) (regulatory : RegulatoryPolicy) (scoring : ScoringConfig)

/-- A decision without constraints, or whose constraints name no cap, has none. -/
def regCap (decision : RegulatoryDecision) : Option ℚ :=
  decision.constraints.bind RegulatoryConstraints.maxAirtimeUnits

/-- The rank of an urgent request: severity first, then waiting, then retries, each in the unit
interval. Link quality and region play no part in it. -/
def emergencyScore (request : ServiceRequest) (step : ℤ) : ℚ :=
  let severity := clampUnit request.urgency
  let waiting := waitingPressure request step
  let retry := clampUnit (request.retryCount / max 1 config.maxRetries : ℚ)
  config.severityWeight * severity + config.waitingWeight * waiting + config.retryWeight * retry

/-- Why a request is shed before it is ranked: expiry is checked before the retries. A request
on its deadline is still ranked. -/
def screen (step : ℤ) (request : ServiceRequest) : Option RejectReason :=
  if request.isExpired step then some .deadlineMissed
  else if config.maxRetries < request.retryCount then some .retryBudgetExhausted
  else none

/-- The requests that pass the screen, highest emergency score first. Ties go by identifier, so
the order does not depend on arrival. -/
def rank (urgent : List ServiceRequest) (step : ℤ) : List ServiceRequest :=
  (urgent.filter (fun request => (screen config step request).isNone)).insertionSort
    (fun left right => ranksBefore (emergencyScore config left step, left.requestId)
      (emergencyScore config right step, right.requestId))

/-- The requests that do not, in the order they were given. -/
def screened (urgent : List ServiceRequest) (step : ℤ) : List RejectedRequest :=
  urgent.filterMap (fun request => (screen config step request).map (RejectedRequest.mk request))

/-- A region's bound on the reserved pool: its equal share, weighted, and never more than the
whole pool. Without regions there is nothing to bound. -/
def perRegionCap (totalReserved : ℚ) (regionCount : ℕ) : ℚ :=
  if regionCount = 0 then 0
  else min totalReserved (totalReserved / regionCount * config.geoFairnessWeight)

/-- The reserved headroom a beam offers for a need, when the request's region, the law and what
is left of the reservation all admit it. What it competes with is the headroom, not the capped
amount. -/
def headroom (request : ServiceRequest) (need : ℚ) (state : BeamState) : Option ℚ :=
  if state.beam.region ≠ request.region then none
  else
    let decision := regulatory.evaluate request.region state.beam.fleet state.beam.band
    if decision.allowed = false then none
    else if capped state.remaining (regCap decision) + slack < need then none
    else some state.remaining

/-- Reserve the need on the eligible beam with the most headroom, the first of equals. -/
def place (request : ServiceRequest) (need : ℚ) (pool : List BeamState) :
    Option (Allocation × List BeamState) := do
  let slot ← (Greedy.scan (headroom regulatory request need) pool 0 ⟨none, ⊥⟩).slot
  let best ← pool[slot]?
  let allocation : Allocation :=
    { requestId := request.requestId
      fleet := best.beam.fleet
      beamId := best.beam.beamId
      band := best.beam.band
      allocatedUnits := need
      deliveryProbability := clampUnit request.linkQuality }
  pure (allocation, pool.modify slot (BeamState.charge need))

/-- The lane's price of a request, by the same estimate as the scorer's. -/
def cost (request : ServiceRequest) : ℚ :=
  estimateCostUnits request.sizeBytes request.linkQuality scoring.bytesPerUnit
    scoring.minLinkQuality

/-- Serve one ranked request: its own cap, its region's cap, then a beam. A request that fails
one of the three leaves the state alone. -/
def admitOne (regionCap : ℚ) (state : LaneState) (request : ServiceRequest) :
    Option (Allocation × LaneState) :=
  let need := cost scoring request
  if config.maxUnitsPerRequest + slack < need then none
  else if regionCap + slack < state.regionUsed.getD request.region 0 + need then none
  else do
    let (allocation, pool) ← place regulatory request need state.pool
    pure (allocation, { pool := pool
                        regionUsed := state.regionUsed.set request.region
                          (state.regionUsed.getD request.region 0 + need)
                        used := state.used + need })

/-- The reserved part of each beam, where it is positive. Beams without a reserve are left out,
so they are never offered. -/
def reservedPool (snapshot : ConstellationSnapshot) : List BeamState :=
  (snapshot.beams.filter (fun beam =>
    decide (0 < beam.capacityUnits * config.reservedFraction))).map
    (fun beam => ⟨beam, beam.capacityUnits * config.reservedFraction⟩)

/-- The pass over the ranked requests. -/
def serve (urgent : List ServiceRequest) (snapshot : ConstellationSnapshot) (step : ℤ) :
    Greedy.Outcome ServiceRequest Allocation × LaneState :=
  let pool := reservedPool config snapshot
  let ranked := rank config urgent step
  let regions := (ranked.map ServiceRequest.region).dedup
  let regionCap := perRegionCap config (pool.map BeamState.remaining).sum regions.length
  Greedy.run (fun _ => false) (admitOne config regulatory scoring regionCap) ranked
    { pool := pool }

/-- The decision of the lane. The plan is handed in and not consulted; what is shed by the
screen comes before what did not fit. -/
def reserve (urgent : List ServiceRequest) (snapshot : ConstellationSnapshot)
    (_plan : ResourcePlan) (step : ℤ) : EmergencyDecision :=
  let (outcome, final) := serve config regulatory scoring urgent snapshot step
  { admitted := outcome.placed.map Prod.fst
    reservations := outcome.placed.map Prod.snd
    shed := screened config urgent step ++
      outcome.unplaced.map (fun request => ⟨request, .emergencyLaneFull⟩)
    reservedUnitsUsed := final.used }

/-- A request is shed before ranking or ranked, and never both. -/
theorem rank_partition (urgent : List ServiceRequest) (step : ℤ) :
    (rank config urgent step ++ (screened config urgent step).map RejectedRequest.request).Perm
      urgent := by
  have shedRequests : (screened config urgent step).map RejectedRequest.request =
      urgent.filter (fun request => !(screen config step request).isNone) := by
    induction urgent with
    | nil => rfl
    | cons request rest inductionHypothesis =>
      cases verdict : screen config step request <;>
        simpa [screened, verdict] using inductionHypothesis
  rw [shedRequests]
  exact ((List.perm_insertionSort _ _).append_right _).trans
    (List.filter_append_perm (fun request => (screen config step request).isNone) urgent)

/-- A screened request is shed for the reason the screen gives. -/
theorem mem_screened (urgent : List ServiceRequest) (step : ℤ) (item : RejectedRequest)
    (member : item ∈ screened config urgent step) :
    screen config step item.request = some item.reason := by
  obtain ⟨request, _, found⟩ := List.mem_filterMap.mp member
  obtain ⟨reason, verdict, rfl⟩ := Option.map_eq_some_iff.mp found
  exact verdict

/-- The screen names the deadline exactly for the requests that have passed it. The loop reads
an expiry off this reason. -/
theorem screen_deadline (step : ℤ) (request : ServiceRequest) (reason : RejectReason)
    (verdict : screen config step request = some reason) :
    reason = .deadlineMissed ∧ request.isExpired step = true ∨
      reason = .retryBudgetExhausted ∧ request.isExpired step = false := by
  unfold screen at verdict
  split at verdict
  · rename_i late
    exact Or.inl ⟨(Option.some.inj verdict).symm, late⟩
  · rename_i timely
    split at verdict
    · exact Or.inr ⟨(Option.some.inj verdict).symm, Bool.eq_false_of_not_eq_true timely⟩
    · simp at verdict

/-- The lane sheds a request because it is full, or for the reason of the screen. -/
theorem reserve_shed (urgent : List ServiceRequest) (snapshot : ConstellationSnapshot)
    (plan : ResourcePlan) (step : ℤ) (item : RejectedRequest)
    (member : item ∈ (reserve config regulatory scoring urgent snapshot plan step).shed) :
    item.reason = .emergencyLaneFull ∨ screen config step item.request = some item.reason := by
  cases List.mem_append.mp member with
  | inl early =>
    exact Or.inr (mem_screened config urgent step item early)
  | inr full =>
    obtain ⟨request, _, rfl⟩ := List.mem_map.mp full
    exact Or.inl rfl

/-- A ranked request is urgent, within its deadline and within the retry limit. -/
theorem mem_rank (urgent : List ServiceRequest) (step : ℤ) (request : ServiceRequest) :
    request ∈ rank config urgent step ↔
      request ∈ urgent ∧ step ≤ request.deadlineStep ∧ request.retryCount ≤ config.maxRetries := by
  simp only [rank, List.mem_insertionSort, List.mem_filter, screen, Option.isNone_iff_eq_none]
  by_cases late : request.deadlineStep < step
  · simp [late]
  · by_cases spent : config.maxRetries < request.retryCount
    · simp [late, spent]
    · simp [late, spent, not_lt.mp late, not_lt.mp spent]

/-- A beam offers headroom only in the request's region, where the law allows it and the need
fits both what is left and the legal cap. This is the lane's whole notion of eligibility. -/
theorem headroom_eq_some (request : ServiceRequest) (need offered : ℚ) (state : BeamState) :
    headroom regulatory request need state = some offered ↔
      state.beam.region = request.region ∧
        (regulatory.evaluate request.region state.beam.fleet state.beam.band).allowed = true ∧
          need ≤ capped state.remaining
            (regCap (regulatory.evaluate request.region state.beam.fleet state.beam.band)) + slack ∧
            state.remaining = offered := by
  by_cases located : state.beam.region = request.region
  · cases verdict : (regulatory.evaluate request.region state.beam.fleet state.beam.band).allowed
    · simp [headroom, located, verdict]
    · by_cases tight : capped state.remaining
        (regCap (regulatory.evaluate request.region state.beam.fleet state.beam.band)) + slack <
          need
      · simp [headroom, located, verdict, tight, not_le.mpr tight]
      · simp [headroom, located, verdict, tight, not_lt.mp tight]
  · simp [headroom, located]

/-- A placement charges the need to one beam state that offers headroom for it, and
the allocation describes that beam. -/
theorem place_inv (request : ServiceRequest) (need : ℚ) (pool charged : List BeamState)
    (allocation : Allocation)
    (placed : place regulatory request need pool = some (allocation, charged)) :
    ∃ slot, ∃ bound : slot < pool.length,
      headroom regulatory request need pool[slot] = some pool[slot].remaining ∧
        charged = pool.modify slot (BeamState.charge need) ∧
          allocation = { requestId := request.requestId, fleet := pool[slot].beam.fleet,
                         beamId := pool[slot].beam.beamId, band := pool[slot].beam.band,
                         allocatedUnits := need,
                         deliveryProbability := clampUnit request.linkQuality } := by
  simp only [place, Option.bind_eq_bind, Option.bind_eq_some_iff, Option.pure_def,
    Option.some.injEq, Prod.mk.injEq] at placed
  obtain ⟨slot, found, best, read, described, rfl⟩ := placed
  obtain ⟨bound, offered, offers, _⟩ := Greedy.scan_slot _ _ _ slot found
  have left := ((headroom_eq_some regulatory request need offered pool[slot]).mp offers).2.2.2
  obtain rfl : pool[slot] = best := by simpa [List.getElem?_eq_getElem bound] using read
  exact ⟨slot, bound, by rw [offers, left], rfl, described.symm⟩

/-- Serving a request passes both caps and places its cost. Nothing else about `admitOne` is
needed later. -/
theorem admitOne_inv (regionCap : ℚ) (state next : LaneState) (request : ServiceRequest)
    (allocation : Allocation)
    (served : admitOne config regulatory scoring regionCap state request =
      some (allocation, next)) :
    cost scoring request ≤ config.maxUnitsPerRequest + slack ∧
      state.regionUsed.getD request.region 0 + cost scoring request ≤ regionCap + slack ∧
        place regulatory request (cost scoring request) state.pool = some (allocation, next.pool) ∧
          next.regionUsed = state.regionUsed.set request.region
              (state.regionUsed.getD request.region 0 + cost scoring request) ∧
            next.used = state.used + cost scoring request := by
  simp only [admitOne] at served
  split at served
  · simp at served
  split at served
  · simp at served
  rename_i small within
  simp only [Option.bind_eq_bind, Option.bind_eq_some_iff, Option.pure_def, Option.some.injEq,
    Prod.mk.injEq, Prod.exists] at served
  obtain ⟨_, pool, placed, rfl, rfl⟩ := served
  exact ⟨not_lt.mp small, not_lt.mp within, placed, rfl, rfl⟩

/-- Serving a request is a payment from the pool, up to the slack that the comparison allows. -/
theorem admitOne_pays (regionCap : ℚ) (state next : LaneState) (request : ServiceRequest)
    (allocation : Allocation)
    (served : admitOne config regulatory scoring regionCap state request =
      some (allocation, next)) :
    Greedy.Pays BeamState.beamId BeamState.remaining (-slack) state.pool next.pool
      allocation.beamId allocation.allocatedUnits := by
  obtain ⟨_, _, placed, _⟩ := admitOne_inv config regulatory scoring regionCap state next request
    allocation served
  obtain ⟨slot, bound, offers, charged, rfl⟩ := place_inv regulatory request _ _ _ _ placed
  rw [charged]
  obtain ⟨_, _, fits, _⟩ := (headroom_eq_some regulatory request _ _ _).mp offers
  exact BeamState.charge_pays _ slot state.pool bound
    (fits.trans (add_le_add_left (capped_le _ _) slack))

/-- The caps a fleet and band have in a region, as the lane asks for them. -/
def Legal (region : Region) (fleet : FleetId) (band : Band) (cap : Option ℚ) : Prop :=
  (regulatory.evaluate region fleet band).allowed = true ∧
    cap = regCap (regulatory.evaluate region fleet band)

/-- Serving a request keeps the beams of the pool and grants lawfully on one of them. -/
theorem admitOne_fits (regionCap : ℚ) (state next : LaneState) (request : ServiceRequest)
    (allocation : Allocation)
    (served : admitOne config regulatory scoring regionCap state request =
      some (allocation, next)) :
    next.pool.map BeamState.beam = state.pool.map BeamState.beam ∧
      Fits (state.pool.map BeamState.beam) (Legal regulatory request.region) request
        allocation := by
  obtain ⟨_, _, placed, _⟩ := admitOne_inv config regulatory scoring regionCap state next request
    allocation served
  obtain ⟨slot, bound, offers, charged, rfl⟩ := place_inv regulatory request _ _ _ _ placed
  obtain ⟨located, allowed, fits, _⟩ := (headroom_eq_some regulatory request _ _ _).mp offers
  refine ⟨by rw [charged, BeamState.beams_modify], rfl, state.pool[slot].beam,
    List.mem_map.mpr ⟨_, List.getElem_mem bound, rfl⟩, _, rfl, rfl, rfl, located,
    ⟨allowed, rfl⟩, ?_⟩
  exact within_cap _ _ _ fits

/-- The pass leaves each ranked request placed or unplaced. -/
theorem serve_partition (urgent : List ServiceRequest) (snapshot : ConstellationSnapshot)
    (step : ℤ) :
    ((serve config regulatory scoring urgent snapshot step).1.placed.map Prod.fst ++
      (serve config regulatory scoring urgent snapshot step).1.unplaced).Perm
        (rank config urgent step) := by
  have parts := Greedy.run_partition (fun _ => false)
    (admitOne config regulatory scoring (perRegionCap config
      ((reservedPool config snapshot).map BeamState.remaining).sum
        ((rank config urgent step).map ServiceRequest.region).dedup.length))
    (rank config urgent step) { pool := reservedPool config snapshot }
  simpa only [serve, Greedy.run_refused, List.filter_false, List.append_nil] using parts

/-- Every urgent request is admitted or shed, with its multiplicity. The lane loses nobody. -/
theorem reserve_partition (urgent : List ServiceRequest) (snapshot : ConstellationSnapshot)
    (plan : ResourcePlan) (step : ℤ) :
    ((reserve config regulatory scoring urgent snapshot plan step).admitted ++
      (reserve config regulatory scoring urgent snapshot plan step).shed.map
        RejectedRequest.request).Perm urgent := by
  simp only [reserve, List.map_append, List.map_map, Function.comp_def, List.map_id']
  refine (List.perm_append_comm_assoc _ _ _).trans (List.perm_append_comm.trans ?_)
  exact ((serve_partition config regulatory scoring urgent snapshot step).append_right _).trans
    (rank_partition config urgent step)

/-- Every reservation is lawful for its request, on a beam with a positive reserve. -/
theorem serve_fits (urgent : List ServiceRequest) (snapshot : ConstellationSnapshot) (step : ℤ)
    (pair : ServiceRequest × Allocation)
    (member : pair ∈ (serve config regulatory scoring urgent snapshot step).1.placed) :
    Fits ((reservedPool config snapshot).map BeamState.beam)
      (Legal regulatory pair.1.region) pair.1 pair.2 := by
  refine (Greedy.run_invariant (fun _ => false) _
    (fun state => state.pool.map BeamState.beam =
      (reservedPool config snapshot).map BeamState.beam)
    (fun request allocation => Fits ((reservedPool config snapshot).map BeamState.beam)
      (Legal regulatory request.region) request allocation) ?_ _ _ rfl).2 pair member
  intro state request allocation next same _ served
  obtain ⟨kept, fits⟩ :=
    admitOne_fits config regulatory scoring _ state next request allocation served
  exact ⟨kept.trans same, same ▸ fits⟩

/-- The pool's beams are those of the snapshot with a positive reserve. -/
theorem mem_reservedPool (snapshot : ConstellationSnapshot) (beam : Beam) :
    beam ∈ (reservedPool config snapshot).map BeamState.beam ↔
      beam ∈ snapshot.beams ∧ 0 < beam.capacityUnits * config.reservedFraction := by
  simp [reservedPool, Function.comp_def]

/-- Each admitted request has a reservation, in the same position, that is lawful for it, on a
beam of the snapshot and within its deadline. -/
theorem reserve_lawful (urgent : List ServiceRequest) (snapshot : ConstellationSnapshot)
    (plan : ResourcePlan) (step : ℤ) :
    List.Forall₂ (fun request allocation => step ≤ request.deadlineStep ∧
        Fits snapshot.beams (Legal regulatory request.region) request allocation)
      (reserve config regulatory scoring urgent snapshot plan step).admitted
      (reserve config regulatory scoring urgent snapshot plan step).reservations := by
  simp only [reserve, List.forall₂_map_left_iff, List.forall₂_map_right_iff, List.forall₂_same]
  intro pair member
  have ranked : pair.1 ∈ rank config urgent step := Greedy.placed_mem _ _ _ _ pair member
  obtain ⟨named, beam, pooled, taken⟩ :=
    serve_fits config regulatory scoring urgent snapshot step pair member
  exact ⟨((mem_rank config urgent step pair.1).mp ranked).2.1, named, beam,
    ((mem_reservedPool config snapshot beam).mp pooled).1, taken⟩

/-- On a snapshot with distinct beams the lane reserves on each beam at most its
fraction of the capacity, up to the slack. -/
theorem reserve_unitsOn (urgent : List ServiceRequest) (snapshot : ConstellationSnapshot)
    (plan : ResourcePlan) (step : ℤ) (distinct : (snapshot.beams.map Beam.beamId).Nodup)
    (beam : Beam) (shown : beam ∈ snapshot.beams) (capacity : 0 ≤ beam.capacityUnits) :
    unitsOn beam.beamId (reserve config regulatory scoring urgent snapshot plan step).reservations ≤
      beam.capacityUnits * config.reservedFraction + slack := by
  by_cases reserved : 0 < beam.capacityUnits * config.reservedFraction
  · have pooled : (⟨beam, beam.capacityUnits * config.reservedFraction⟩ : BeamState) ∈
        reservedPool config snapshot := by
      simp only [reservedPool, List.mem_map, List.mem_filter]
      exact ⟨beam, ⟨shown, by simpa using reserved⟩, rfl⟩
    refine run_unitsOn (fun _ => false) _ LaneState.pool
      (fun state request allocation next served =>
        admitOne_pays config regulatory scoring _ state next request allocation served)
      (rank config urgent step) { pool := reservedPool config snapshot } ?_ ?_ _ pooled
    · intro state member
      simp only [reservedPool, List.mem_map, List.mem_filter, decide_eq_true_eq] at member
      obtain ⟨_, ⟨_, positive⟩, rfl⟩ := member
      exact positive.le
    · simp only [reservedPool, List.map_map]
      exact distinct.sublist (List.filter_sublist.map _)
  · -- No reservation names a beam without a positive reserve.
    have vacant : unitsOn beam.beamId
        (reserve config regulatory scoring urgent snapshot plan step).reservations = 0 := by
      apply unitsOn_absent
      intro allocation member same
      obtain ⟨pair, placed, rfl⟩ := List.mem_map.mp member
      obtain ⟨_, other, pooled, _, named, _⟩ :=
        serve_fits config regulatory scoring urgent snapshot step pair placed
      obtain ⟨otherShown, positive⟩ := (mem_reservedPool config snapshot other).mp pooled
      have equal : other = beam :=
        List.inj_on_of_nodup_map distinct otherShown shown (named.symm.trans same)
      exact reserved (equal ▸ positive)
    rw [vacant]
    exact add_nonneg (mul_nonneg capacity config.reservedRange.1) slack_pos.le

end EmergencyLane

end Satsim
