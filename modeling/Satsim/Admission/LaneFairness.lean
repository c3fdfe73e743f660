import Satsim.Admission.EmergencyLane
import Satsim.Network.Regulatory

/-!
# The emergency lane is fair and sheds only what does not fit

The pass over the ranked requests only lowers the reserved pool and only raises what the
regions have taken. So a request that is `Unfit` for the lane at its turn is unfit at the
end, and a request that is admitted shows that one ranked above it, of the same region
and no larger, was not unfit at its own turn.

Fairness is stated within a region only. Between regions the lane promises each its
bound and nothing about order, since a region that has used its share gives way to lower
ranks elsewhere.
-/

namespace Satsim

open Library

/-- A payload of positive size has a positive cost. -/
theorem estimateCostUnits_pos (sizeBytes : ℤ) (linkQuality bytesPerUnit minLink : ℚ)
    (size : 0 < sizeBytes) (bytes : 0 < bytesPerUnit) (link : 0 < minLink) :
    0 < estimateCostUnits sizeBytes linkQuality bytesPerUnit minLink := by
  have payload : (0 : ℚ) < sizeBytes := by exact_mod_cast size
  exact div_pos (div_pos payload bytes) (link.trans_le (le_max_left _ _))

namespace EmergencyLane

variable (config : EmergencyConfig) (regulatory : RegulatoryPolicy) (scoring : ScoringConfig)

/-- The lane's price of a request that has a payload is positive. -/
theorem cost_pos (request : ServiceRequest) (size : 0 < request.sizeBytes) :
    0 < cost scoring request :=
  estimateCostUnits_pos _ _ _ _ size scoring.bytesPositive scoring.minLinkRange.1

/-- No licensed beam of the request's region has a reserve left for the need. Beams of other
regions and unlicensed beams do not count. -/
def Crowded (request : ServiceRequest) (need : ℚ) (pool : List BeamState) : Prop :=
  ∀ state ∈ pool, state.beam.region = request.region →
    (regulatory.evaluate request.region state.beam.fleet state.beam.band).allowed = true →
      capped state.remaining (regCap (regulatory.evaluate request.region state.beam.fleet
        state.beam.band)) + slack < need

/-- A request does not fit a state of the lane: it is too large for one request, or for what its
region may still take, or for every beam. Each clause compares with the slack, as the source
does. -/
def Unfit (regionCap : ℚ) (state : LaneState) (request : ServiceRequest) : Prop :=
  config.maxUnitsPerRequest + slack < cost scoring request ∨
    regionCap + slack < state.regionUsed.getD request.region 0 + cost scoring request ∨
      Crowded regulatory request (cost scoring request) state.pool

/-- Placement fails exactly when every beam is crowded for the need. -/
theorem place_none_iff (request : ServiceRequest) (need : ℚ) (pool : List BeamState) :
    place regulatory request need pool = none ↔ Crowded regulatory request need pool := by
  constructor
  · intro turned state member located allowed
    have missing :
        (Greedy.scan (headroom regulatory request need) pool 0 ⟨none, ⊥⟩).slot = none := by
      cases found : (Greedy.scan (headroom regulatory request need) pool 0 ⟨none, ⊥⟩).slot with
      | none => rfl
      | some slot =>
        obtain ⟨bound, _⟩ := Greedy.scan_slot _ _ _ slot found
        simp [place, found, List.getElem?_eq_getElem bound] at turned
    by_contra roomy
    have offers := (headroom_eq_some regulatory request need _ state).mpr
      ⟨located, allowed, not_lt.mp roomy, rfl⟩
    have nothing := Greedy.scan_none _ _ _ missing state member _ offers
    exact WithBot.not_coe_le_bot _ nothing
  · intro crowded
    by_contra placed
    obtain ⟨⟨allocation, charged⟩, placed⟩ := Option.ne_none_iff_exists'.mp placed
    obtain ⟨slot, bound, offers, _⟩ :=
      place_inv regulatory request need pool charged allocation placed
    obtain ⟨located, allowed, fits, _⟩ := (headroom_eq_some regulatory request need _ _).mp offers
    exact not_le.mpr (crowded _ (List.getElem_mem bound) located allowed) fits

/-- The lane turns down exactly what does not fit its state. -/
theorem admitOne_none_iff (regionCap : ℚ) (state : LaneState) (request : ServiceRequest) :
    admitOne config regulatory scoring regionCap state request = none ↔
      Unfit config regulatory scoring regionCap state request := by
  unfold admitOne Unfit
  dsimp only
  rw [← place_none_iff]
  by_cases large : config.maxUnitsPerRequest + slack < cost scoring request
  · simp [large]
  · by_cases taken : regionCap + slack <
        state.regionUsed.getD request.region 0 + cost scoring request
    · simp [large, taken]
    · cases place regulatory request (cost scoring request) state.pool <;> simp [large, taken]

/-- Requests of positive cost were served between two states of the lane. -/
structure Spent (early late : LaneState) : Prop where
  pool : Greedy.Lowered BeamState.beam BeamState.remaining early.pool late.pool
  taken : ∀ region, early.regionUsed.getD region 0 ≤ late.regionUsed.getD region 0

/-- Nothing was served between a state and itself. -/
theorem Spent.refl (state : LaneState) : Spent state state :=
  ⟨Greedy.Lowered.refl _, fun _ => le_refl _⟩

/-- What was served in two stretches was served. -/
theorem Spent.trans {first second third : LaneState} (left : Spent first second)
    (right : Spent second third) : Spent first third :=
  ⟨left.pool.trans right.pool, fun region => (left.taken region).trans (right.taken region)⟩

/-- Serving a request books its cost under its region. -/
theorem admitOne_taken (regionCap : ℚ) (state next : LaneState) (request : ServiceRequest)
    (allocation : Allocation)
    (served : admitOne config regulatory scoring regionCap state request =
      some (allocation, next)) (region : Region) :
    next.regionUsed.getD region 0 = state.regionUsed.getD region 0 +
      if request.region = region then cost scoring request else 0 := by
  obtain ⟨_, _, _, booked, _⟩ := admitOne_inv config regulatory scoring regionCap state next request
    allocation served
  rw [booked, Dict.getD, Dict.get?_set]
  by_cases own : request.region = region
  · subst own
    simp
  · simp [own, Ne.symm own, Dict.getD]

/-- Serving a request with a payload spends from the pool and adds to its region. -/
theorem admitOne_spent (regionCap : ℚ) (state next : LaneState) (request : ServiceRequest)
    (allocation : Allocation) (size : 0 < request.sizeBytes)
    (served : admitOne config regulatory scoring regionCap state request =
      some (allocation, next)) : Spent state next := by
  have positive := cost_pos scoring request size
  constructor
  · obtain ⟨_, _, placed, _⟩ := admitOne_inv config regulatory scoring regionCap state next request
      allocation served
    obtain ⟨slot, _, _, charged, _⟩ := place_inv regulatory request _ _ _ _ placed
    rw [charged]
    apply Greedy.lowered_modify state.pool slot _ (BeamState.beam_charge _)
    intro account
    simp only [BeamState.remaining_charge]
    linarith
  · intro region
    rw [admitOne_taken config regulatory scoring regionCap state next request allocation served]
    split <;> linarith

/-- What does not fit an early state leaves no room later for a request of the same region that
is no smaller. A smaller one may still fit. -/
theorem Unfit.mono {regionCap : ℚ} {early late : LaneState} {first second : ServiceRequest}
    (unfit : Unfit config regulatory scoring regionCap early first) (spent : Spent early late)
    (region : first.region = second.region)
    (smaller : cost scoring first ≤ cost scoring second) :
    Unfit config regulatory scoring regionCap late second := by
  rcases unfit with large | full | crowded
  · exact Or.inl (large.trans_le smaller)
  · refine Or.inr (Or.inl ?_)
    have more := spent.taken second.region
    rw [region] at full
    linarith
  · refine Or.inr (Or.inr ?_)
    intro state member located allowed
    obtain ⟨old, stood, same, less⟩ := spent.pool state member
    rw [same] at located allowed ⊢
    rw [← region] at located allowed ⊢
    have before := crowded old stood located allowed
    exact ((add_le_add_left (capped_mono less _) slack).trans_lt before).trans_le smaller

/-- The place of a request in the lane's order of service. -/
def rankKey (step : ℤ) (request : ServiceRequest) : ℚ × String :=
  (emergencyScore config request step, request.requestId)

/-- The units reserved for the requests of a region, read off the decision alone. -/
def regionTotal (region : Region) (decision : EmergencyDecision) : ℚ :=
  Greedy.held (fun pair : ServiceRequest × Allocation => pair.1.region)
    (fun pair => pair.2.allocatedUnits) region (decision.admitted.zip decision.reservations)

/-- A reservation takes the request's cost. -/
theorem admitOne_units (regionCap : ℚ) (state next : LaneState) (request : ServiceRequest)
    (allocation : Allocation)
    (served : admitOne config regulatory scoring regionCap state request =
      some (allocation, next)) : allocation.allocatedUnits = cost scoring request := by
  obtain ⟨_, _, placed, _⟩ := admitOne_inv config regulatory scoring regionCap state next request
    allocation served
  obtain ⟨_, _, _, _, rfl⟩ := place_inv regulatory request _ _ _ _ placed
  rfl

/-- The bound on each region in one pass. -/
def regionBound (urgent : List ServiceRequest) (snapshot : ConstellationSnapshot) (step : ℤ) : ℚ :=
  perRegionCap config ((reservedPool config snapshot).map BeamState.remaining).sum
    ((rank config urgent step).map ServiceRequest.region).dedup.length

/-- The lane's books show for each region what was reserved for it. -/
theorem regionTotal_reserve (urgent : List ServiceRequest) (snapshot : ConstellationSnapshot)
    (plan : ResourcePlan) (step : ℤ) (region : Region) :
    regionTotal region (reserve config regulatory scoring urgent snapshot plan step) =
      (serve config regulatory scoring urgent snapshot step).2.regionUsed.getD region 0 := by
  have books := Greedy.run_account (fun _ : ServiceRequest => false)
    (admitOne config regulatory scoring (regionBound config urgent snapshot step))
    (fun state => -state.regionUsed.getD region 0)
    (fun request allocation => if request.region = region then allocation.allocatedUnits else 0)
    ?_ (rank config urgent step) { pool := reservedPool config snapshot }
  · have pairs : (reserve config regulatory scoring urgent snapshot plan step).admitted.zip
        (reserve config regulatory scoring urgent snapshot plan step).reservations =
          (serve config regulatory scoring urgent snapshot step).1.placed := by
      simp only [reserve, List.zip_map', List.map_id']
    rw [regionTotal, pairs, Greedy.held_eq_sum]
    have fresh : (Dict.empty : Dict Region ℚ).getD region 0 = 0 := rfl
    dsimp only at books
    rw [fresh, neg_zero, add_neg_eq_zero] at books
    exact books
  · intro state request allocation next served
    rw [admitOne_taken config regulatory scoring _ state next request allocation served,
      admitOne_units config regulatory scoring _ state next request allocation served]
    ring

/-- The bound on a region, from the reserved pool and the regions that share it. -/
theorem perRegionCap_eq (total : ℚ) (nonneg : 0 ≤ total) (regionCount : ℕ) :
    perRegionCap config total regionCount =
      min total (config.geoFairnessWeight * total / regionCount) := by
  unfold perRegionCap
  split
  · rename_i nothing
    simp [nothing, nonneg]
  · rw [div_mul_eq_mul_div, mul_comm]

/-- The reserve is never negative in total, since beams without one are left out. -/
theorem reserved_nonneg (snapshot : ConstellationSnapshot) :
    0 ≤ ((reservedPool config snapshot).map BeamState.remaining).sum := by
  apply List.sum_nonneg
  intro amount member
  obtain ⟨state, pooled, rfl⟩ := List.mem_map.mp member
  simp only [reservedPool, List.mem_map, List.mem_filter, decide_eq_true_eq] at pooled
  obtain ⟨_, ⟨_, positive⟩, rfl⟩ := pooled
  exact positive.le

/-- A region's bound is never negative. -/
theorem regionBound_nonneg (urgent : List ServiceRequest) (snapshot : ConstellationSnapshot)
    (step : ℤ) : 0 ≤ regionBound config urgent snapshot step := by
  have nonneg := reserved_nonneg config snapshot
  rw [regionBound, perRegionCap_eq config _ nonneg]
  exact le_min nonneg (div_nonneg (mul_nonneg config.geoNonneg nonneg) (Nat.cast_nonneg _))

/-- The pass keeps each region within its bound and the pool on its beams, and reserves no more
than the cap for one request. -/
theorem serve_bounds (urgent : List ServiceRequest) (snapshot : ConstellationSnapshot) (step : ℤ) :
    let (outcome, final) := serve config regulatory scoring urgent snapshot step
    (final.pool.map BeamState.beam = (reservedPool config snapshot).map BeamState.beam ∧
      ∀ region, final.regionUsed.getD region 0 ≤ regionBound config urgent snapshot step + slack) ∧
        ∀ pair ∈ outcome.placed, pair.2.allocatedUnits ≤ config.maxUnitsPerRequest + slack := by
  refine Greedy.run_invariant (fun _ => false)
    (admitOne config regulatory scoring (regionBound config urgent snapshot step))
    (fun state => state.pool.map BeamState.beam =
        (reservedPool config snapshot).map BeamState.beam ∧
      ∀ region, state.regionUsed.getD region 0 ≤ regionBound config urgent snapshot step + slack)
    (fun _ allocation => allocation.allocatedUnits ≤ config.maxUnitsPerRequest + slack) ?_
    (rank config urgent step) { pool := reservedPool config snapshot } ⟨rfl, ?_⟩
  · rintro state request allocation next ⟨beams, within⟩ _ served
    obtain ⟨small, room, _⟩ :=
      admitOne_inv config regulatory scoring _ state next request allocation served
    obtain ⟨kept, _⟩ :=
      admitOne_fits config regulatory scoring _ state next request allocation served
    refine ⟨⟨kept.trans beams, ?_⟩, ?_⟩
    · intro region
      rw [admitOne_taken config regulatory scoring _ state next request allocation served]
      by_cases own : request.region = region
      · rw [if_pos own, ← own]
        exact room
      · rw [if_neg own, add_zero]
        exact within region
    · rw [admitOne_units config regulatory scoring _ state next request allocation served]
      exact small
  · intro region
    exact add_nonneg (regionBound_nonneg config urgent snapshot step) slack_pos.le

/-- The books of the lane's pass: under each beam identifier, the units reserved and the reserve
left are together the reserved part of the capacity. Identifiers may repeat. -/
theorem serve_balance (urgent : List ServiceRequest) (snapshot : ConstellationSnapshot)
    (plan : ResourcePlan) (step : ℤ) (beamId : String) :
    unitsOn beamId (reserve config regulatory scoring urgent snapshot plan step).reservations +
      Greedy.held BeamState.beamId BeamState.remaining beamId
        (serve config regulatory scoring urgent snapshot step).2.pool =
      Greedy.held BeamState.beamId BeamState.remaining beamId (reservedPool config snapshot) :=
  Greedy.run_balance (fun _ : ServiceRequest => false)
    (admitOne config regulatory scoring (regionBound config urgent snapshot step)) LaneState.pool
    Allocation.beamId Allocation.allocatedUnits
    (fun state request allocation next served =>
      admitOne_pays config regulatory scoring _ state next request allocation served)
    (rank config urgent step) { pool := reservedPool config snapshot } beamId

/-- On distinct beams the lane's books balance beam by beam: the headroom left is the reserve
less the reservations. -/
theorem serve_remaining (urgent : List ServiceRequest) (snapshot : ConstellationSnapshot)
    (plan : ResourcePlan) (step : ℤ) (distinct : (snapshot.beams.map Beam.beamId).Nodup)
    (state : BeamState)
    (left : state ∈ (serve config regulatory scoring urgent snapshot step).2.pool) :
    unitsOn state.beamId
        (reserve config regulatory scoring urgent snapshot plan step).reservations +
      state.remaining = state.beam.capacityUnits * config.reservedFraction := by
  obtain ⟨⟨beams, _⟩, _⟩ := serve_bounds config regulatory scoring urgent snapshot step
  have pooled : state.beam ∈ (reservedPool config snapshot).map BeamState.beam :=
    beams ▸ List.mem_map_of_mem left
  obtain ⟨shown, positive⟩ := (mem_reservedPool config snapshot state.beam).mp pooled
  refine run_remaining (fun _ : ServiceRequest => false)
    (admitOne config regulatory scoring (regionBound config urgent snapshot step)) LaneState.pool
    (fun state request allocation next served =>
      admitOne_pays config regulatory scoring _ state next request allocation served)
    (rank config urgent step) { pool := reservedPool config snapshot } ?_
    ⟨state.beam, state.beam.capacityUnits * config.reservedFraction⟩ state ?_ left rfl
  · simp only [reservedPool, List.map_map]
    exact distinct.sublist (List.filter_sublist.map _)
  · exact List.mem_map.mpr ⟨state.beam, List.mem_filter.mpr ⟨shown, by simpa using positive⟩, rfl⟩

/-- Between two turns of the pass requests of positive cost were served. -/
theorem drains_spent {urgent : List ServiceRequest} {step : ℤ}
    (sizes : ∀ request ∈ urgent, 0 < request.sizeBytes) {regionCap : ℚ} {early late : LaneState}
    (drained : Greedy.Drains (fun _ => false) (admitOne config regulatory scoring regionCap)
      (rank config urgent step) early late) : Spent early late := by
  apply drained.within Spent Spent.refl (fun _ _ _ => Spent.trans)
  intro request ranked state allocation next _ served
  exact admitOne_spent config regulatory scoring regionCap state next request allocation
    (sizes request ((mem_rank config urgent step request).mp ranked).1) served

/-- A request shed for want of room is unfit for the lane as the pass leaves it. -/
theorem serve_unplaced (urgent : List ServiceRequest) (snapshot : ConstellationSnapshot) (step : ℤ)
    (sizes : ∀ request ∈ urgent, 0 < request.sizeBytes) (request : ServiceRequest)
    (unplaced : request ∈ (serve config regulatory scoring urgent snapshot step).1.unplaced) :
    Unfit config regulatory scoring (regionBound config urgent snapshot step)
      (serve config regulatory scoring urgent snapshot step).2 request := by
  obtain ⟨early, _, later, _, turned⟩ := Greedy.run_unplaced _ _ _ _ request unplaced
  have unfit := (admitOne_none_iff config regulatory scoring _ early request).mp turned
  exact unfit.mono config regulatory scoring
    (drains_spent config regulatory scoring sizes later) rfl (le_refl _)

/-- Of two ranked requests of one region, the one that ranks first and is no larger is admitted
if the other is. A larger one may be turned down where a smaller one still fits. -/
theorem serve_order (urgent : List ServiceRequest) (snapshot : ConstellationSnapshot) (step : ℤ)
    (distinct : (urgent.map ServiceRequest.requestId).Nodup)
    (sizes : ∀ request ∈ urgent, 0 < request.sizeBytes) (first second : ServiceRequest)
    (firstRanked : first ∈ rank config urgent step)
    (secondRanked : second ∈ rank config urgent step)
    (precedes : Precedes (rankKey config step first) (rankKey config step second))
    (region : first.region = second.region) (smaller : cost scoring first ≤ cost scoring second)
    (admitted : second ∈
      (serve config regulatory scoring urgent snapshot step).1.placed.map Prod.fst) :
    first ∈ (serve config regulatory scoring urgent snapshot step).1.placed.map Prod.fst := by
  have once : (rank config urgent step).Nodup :=
    (List.perm_insertionSort _ _).nodup_iff.mpr (distinct.of_map.filter _)
  obtain ⟨early, late, drained, firstTurn, secondTurn⟩ := Greedy.run_order (fun _ => false)
    (admitOne config regulatory scoring (regionBound config urgent snapshot step))
    (fun left right => ranksBefore (rankKey config step left) (rankKey config step right))
    (rank config urgent step) { pool := reservedPool config snapshot }
    (fun _ => ranksBefore_refl _) (pairwise_ranksBefore (rankKey config step) _) once first second
    firstRanked secondRanked precedes.not_ranksBefore
  refine firstTurn.mpr ⟨rfl, Option.isSome_iff_ne_none.mpr ?_⟩
  intro turned
  have unfit := (admitOne_none_iff config regulatory scoring _ early first).mp turned
  have later := unfit.mono config regulatory scoring
    (drains_spent config regulatory scoring sizes drained) region smaller
  apply Option.isSome_iff_ne_none.mp (secondTurn.mp admitted).2
  exact (admitOne_none_iff config regulatory scoring _ late second).mpr later

/-- The lane is fair and sheds only what does not fit. Regions and requests stay within their
bounds; the lane is left with the reserve less what was reserved, under each beam identifier and
so, where identifiers are distinct, on each beam; a request shed for want of room is unfit for the
lane as it is left; and of two requests of one region, the one that ranks first and is no larger
is admitted if the other is. -/
theorem lane_fair (urgent : List ServiceRequest) (snapshot : ConstellationSnapshot)
    (plan : ResourcePlan) (step : ℤ) (distinct : (urgent.map ServiceRequest.requestId).Nodup)
    (sizes : ∀ request ∈ urgent, 0 < request.sizeBytes) :
    let decision := reserve config regulatory scoring urgent snapshot plan step
    let final := (serve config regulatory scoring urgent snapshot step).2
    let ranked := rank config urgent step
    let total := ((reservedPool config snapshot).map BeamState.remaining).sum
    let regionCap := min total (config.geoFairnessWeight * total /
      (ranked.map ServiceRequest.region).dedup.length)
    (∀ region, regionTotal region decision ≤ regionCap + slack) ∧
      (∀ reservation ∈ decision.reservations,
        reservation.allocatedUnits ≤ config.maxUnitsPerRequest + slack) ∧
      final.pool.map BeamState.beam = (reservedPool config snapshot).map BeamState.beam ∧
      (∀ beamId, unitsOn beamId decision.reservations +
        Greedy.held BeamState.beamId BeamState.remaining beamId final.pool =
          Greedy.held BeamState.beamId BeamState.remaining beamId (reservedPool config snapshot)) ∧
      ((snapshot.beams.map Beam.beamId).Nodup → ∀ state ∈ final.pool,
        unitsOn state.beamId decision.reservations + state.remaining =
          state.beam.capacityUnits * config.reservedFraction) ∧
      (∀ item ∈ decision.shed, item.reason = .emergencyLaneFull →
        config.maxUnitsPerRequest + slack < cost scoring item.request ∨
          regionCap + slack <
            regionTotal item.request.region decision + cost scoring item.request ∨
          Crowded regulatory item.request (cost scoring item.request) final.pool) ∧
      ∀ first ∈ ranked, ∀ second ∈ ranked,
        Precedes (rankKey config step first) (rankKey config step second) →
          first.region = second.region → cost scoring first ≤ cost scoring second →
            second ∈ decision.admitted → first ∈ decision.admitted := by
  have bound : min ((reservedPool config snapshot).map BeamState.remaining).sum
      (config.geoFairnessWeight * ((reservedPool config snapshot).map BeamState.remaining).sum /
        ((rank config urgent step).map ServiceRequest.region).dedup.length) =
          regionBound config urgent snapshot step :=
    (perRegionCap_eq config _ (reserved_nonneg config snapshot) _).symm
  dsimp only
  simp only [regionTotal_reserve, bound]
  obtain ⟨⟨beams, within⟩, small⟩ := serve_bounds config regulatory scoring urgent snapshot step
  refine ⟨within, ?_, beams, serve_balance config regulatory scoring urgent snapshot plan step,
    serve_remaining config regulatory scoring urgent snapshot plan step, ?_, ?_⟩
  · intro reservation member
    obtain ⟨pair, placed, rfl⟩ := List.mem_map.mp member
    exact small pair placed
  · intro item shed full
    cases List.mem_append.mp shed with
    | inl early =>
      -- The screen never gives this reason.
      have verdict := mem_screened config urgent step item early
      rcases screen_deadline config step item.request item.reason verdict
        with ⟨late, _⟩ | ⟨spent, _⟩
      · simp [full] at late
      · simp [full] at spent
    | inr unplaced =>
      obtain ⟨request, turned, rfl⟩ := List.mem_map.mp unplaced
      exact serve_unplaced config regulatory scoring urgent snapshot step sizes request turned
  · intro first firstRanked second secondRanked precedes region smaller admitted
    exact serve_order config regulatory scoring urgent snapshot step distinct sizes first second
      firstRanked secondRanked precedes region smaller admitted

/-- Three equal requests for a reserve of two. -/
def laneSurge : List ServiceRequest :=
  ["c", "b", "a"].map fun requestId => smallRequest requestId .emergencySos 5

/-- The first two by identifier take the whole reserve, of which nothing is left, and the third
does not fit. -/
theorem lane_fair_surge :
    let regulatory := tableRegulatoryPolicy smallFields.regionRules
    let decision := reserve {} regulatory {} laneSurge oneBeam (ResourcePlan.passthrough 0 1) 0
    let final := (serve {} regulatory {} laneSurge oneBeam 0).2
    decision.shed = [⟨smallRequest "c" .emergencySos 5, .emergencyLaneFull⟩] ∧
      regionTotal .na decision ≤ 2 + slack ∧
      unitsOn "b" decision.reservations = 2 ∧
      (∀ state ∈ final.pool, unitsOn "b" decision.reservations + state.remaining = 2) ∧
        (4 + slack < 1 ∨ 2 + slack < regionTotal .na decision + 1 ∨
          Crowded regulatory (smallRequest "c" .emergencySos 5) 1 final.pool) ∧
        smallRequest "a" .emergencySos 5 ∈ decision.admitted := by
  obtain ⟨totals, _, _, _, balanced, unfit, order⟩ :=
    lane_fair {} (tableRegulatoryPolicy smallFields.regionRules) {} laneSurge oneBeam
      (ResourcePlan.passthrough 0 1) 0 (by decide) (by decide)
  have bound : min ((reservedPool {} oneBeam).map BeamState.remaining).sum
      ((1 : ℚ) * ((reservedPool {} oneBeam).map BeamState.remaining).sum /
        ((rank {} laneSurge 0).map ServiceRequest.region).dedup.length) = 2 := by decide +kernel
  have price : cost {} (smallRequest "c" .emergencySos 5) = 1 := by decide +kernel
  rw [bound] at totals unfit
  have third := unfit ⟨smallRequest "c" .emergencySos 5, .emergencyLaneFull⟩ (by decide +kernel) rfl
  rw [price] at third
  refine ⟨by decide +kernel, totals .na, by decide +kernel, ?_, third, ?_⟩
  · intro state left
    have sole : state = ⟨⟨"b", .legacyLeo, "s", .na, .ku, 10⟩, 0⟩ := by
      revert state
      decide +kernel
    subst sole
    exact (balanced (by decide) _ left).trans (by decide +kernel)
  · exact order _ (by decide +kernel) (smallRequest "b" .emergencySos 5) (by decide +kernel)
      (Or.inr (by decide +kernel)) rfl (le_refl _) (by decide +kernel)

end EmergencyLane

end Satsim
