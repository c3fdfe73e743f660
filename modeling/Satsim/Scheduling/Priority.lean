import Satsim.Mac.Slot
import Satsim.Scheduling.Fluid

/-!
# What the greedy order guarantees

A greedy pass only takes capacity away. So what turned a candidate down at its turn
turns it down at the end of the pass, and what a later candidate was given was there
for an earlier one. The first observation says that no deferral is needless, the second
that a candidate is never served in place of one that ranks above it and asks for less.

The residual capacity of a pass is accounted for as well: with the units granted it is
the capacity of the snapshot, for each identifier. So the first observation is about a
pass that has really given away what is missing from its beams.
-/

namespace Satsim

open Library

/-- A candidate for any Ku beam of the region, of a given cost. It competes with every other
candidate of this form. -/
def sized (requestId : String) (cost : ℚ) : ScheduleCandidate where
  request := smallRequest requestId .photo 5
  options := [⟨.legacyLeo, .ku, {}⟩]
  scoring := ⟨1 / 2, cost, 1⟩

/-- Two candidates for the same beams, of which the first may be degraded if the second may.
Nothing is said of their scores or costs. -/
structure Rivals (first second : ScheduleCandidate) : Prop where
  region : first.request.region = second.request.region
  options : first.options = second.options
  degradable : second.degradable = true → first.degradable = true

/-- The place of a candidate in the order of service: the pair the source sorts by. -/
def ScheduleCandidate.sortKey (candidate : ScheduleCandidate) : ℚ × String :=
  (candidate.scoring.score, candidate.request.requestId)

/-- In a greedy pass a candidate is served if one that it precedes is, provided that the
placement yields: what it grants the second from part of a resource, it would have found for
the first in the whole. -/
theorem assemble_yields {σ : Type} (candidates : List ScheduleCandidate)
    (snapshot : ConstellationSnapshot) (step : ℤ)
    (place : σ → ScheduleCandidate → Option (Allocation × σ)) (resource : σ)
    (distinct : (candidates.map fun candidate => candidate.request.requestId).Nodup)
    (first second : ScheduleCandidate) (firstListed : first ∈ candidates)
    (secondListed : second ∈ candidates) (precedes : Precedes first.sortKey second.sortKey)
    (timely : first.request.isExpired step = false)
    (yields : ∀ early late,
      Greedy.Drains (fun candidate : ScheduleCandidate => candidate.request.isExpired step) place
        (byScore candidates) early late →
          (place late second).isSome = true → (place early first).isSome = true)
    (served : second.request ∈ (assemble candidates snapshot
      (Greedy.run (fun candidate => candidate.request.isExpired step) place
        (byScore candidates) resource).1).served) :
    first.request ∈ (assemble candidates snapshot
      (Greedy.run (fun candidate => candidate.request.isExpired step) place
        (byScore candidates) resource).1).served := by
  have order : (byScore candidates).Perm candidates := List.perm_insertionSort _ _
  obtain ⟨early, late, drained, firstTurn, secondTurn⟩ := Greedy.run_order
    (fun candidate => candidate.request.isExpired step) place
    (fun left right : ScheduleCandidate => ranksBefore left.sortKey right.sortKey)
    (byScore candidates) resource (fun _ => ranksBefore_refl _)
    (pairwise_ranksBefore ScheduleCandidate.sortKey candidates)
    (order.nodup_iff.mpr distinct.of_map) first second (order.mem_iff.mpr firstListed)
    (order.mem_iff.mpr secondListed) precedes.not_ranksBefore
  simp only [assemble, List.mem_map] at served ⊢
  obtain ⟨pair, placed, same⟩ := served
  -- Distinct identifiers tell which candidate the served request belongs to.
  have itself : pair.1 = second := by
    refine List.inj_on_of_nodup_map distinct ?_ secondListed (congrArg _ same)
    exact order.mem_iff.mp (Greedy.placed_mem _ _ _ _ pair placed)
  have taken := (secondTurn.mp (List.mem_map.mpr ⟨pair, placed, itself⟩)).2
  obtain ⟨grant, given, rfl⟩ := List.mem_map.mp
    (firstTurn.mpr ⟨timely, yields early late drained taken⟩)
  exact ⟨grant, given, rfl⟩

namespace GreedyScheduler

variable (scheduler : GreedyScheduler)

/-- An amount is too little for a candidate when it covers neither its cost nor, if the
candidate may be degraded, the degradation floor. -/
def TooLittle (candidate : ScheduleCandidate) (amount : ℚ) : Prop :=
  amount + slack < candidate.scoring.estimatedCostUnits ∧
    (candidate.degradable = true → amount ≤ 0 ∨ amount + slack <
      scheduler.degradeMinFraction * capped candidate.scoring.estimatedCostUnits scheduler.cap)

/-- Less is too little as well. This is what carries a refusal from its turn to the end of the
pass. -/
theorem TooLittle.mono {candidate : ScheduleCandidate} {less more : ℚ} (below : less ≤ more)
    (short : scheduler.TooLittle candidate more) : scheduler.TooLittle candidate less := by
  constructor
  · exact (add_le_add_left below slack).trans_lt short.1
  · intro degradable
    cases short.2 degradable with
    | inl nothing =>
      exact Or.inl (below.trans nothing)
    | inr underFloor =>
      exact Or.inr ((add_le_add_left below slack).trans_lt underFloor)

/-- A candidate is turned down only when every beam has too little for it, at that turn. The
positive cost rules out a beam with nothing to give being a full fit. -/
theorem allocate_none (beams : List BeamState) (candidate : ScheduleCandidate)
    (positive : 0 < candidate.scoring.estimatedCostUnits)
    (turned : scheduler.allocate beams candidate = none) (state : BeamState)
    (member : state ∈ beams) (amount : ℚ)
    (gives : scheduler.allocatable candidate state = some amount) :
    scheduler.TooLittle candidate amount := by
  simp only [allocate] at turned
  split at turned
  · rename_i slot found
    obtain ⟨bound, _⟩ := Greedy.scan_slot _ _ _ slot found
    simp [List.getElem?_eq_getElem bound] at turned
  · rename_i missing
    have whole := Greedy.scan_none _ _ _ missing state member
    simp only [fullOffer, gives, Option.bind_some] at whole
    -- A beam that covers a positive cost has capacity left, and would have been found.
    have short : amount + slack < candidate.scoring.estimatedCostUnits := by
      by_contra covers
      rw [not_lt] at covers
      have low : state.remaining ≤ -1 := by
        exact_mod_cast whole state.remaining (by simp [covers])
      have free := (scheduler.allocatable_bounds candidate state amount gives).1
      have small : slack < 1 := by norm_num [slack]
      linarith
    refine ⟨short, ?_⟩
    intro degradable
    have offers : scheduler.degradeOffer candidate state = some amount := by
      simp [degradeOffer, gives, not_le.mpr short]
    cases found : (Greedy.scan (scheduler.degradeOffer candidate) beams 0
        ⟨none, ((0 : ℚ) : WithBot ℚ)⟩).slot with
    | none =>
      left
      exact_mod_cast Greedy.scan_none _ _ _ found state member amount offers
    | some slot =>
      right
      obtain ⟨bound, best, _, bar, _, dominates⟩ := Greedy.scan_slot _ _ _ slot found
      simp only [found, bar, List.getElem?_eq_getElem bound, WithBot.unbotD_coe, degradable,
        Option.bind_eq_bind, Option.bind_some, true_and, Option.pure_def, ite_eq_right_iff,
        reduceCtorEq, imp_false, not_le] at turned
      have within : amount ≤ best := dominates state member amount offers
      exact (add_le_add_left within slack).trans_lt turned

/-- A grant for a positive cost takes a positive amount, so it lowers one beam and raises
none. -/
theorem allocate_lowers (beams charged : List BeamState) (candidate : ScheduleCandidate)
    (allocation : Allocation) (positive : 0 < candidate.scoring.estimatedCostUnits)
    (granted : scheduler.allocate beams candidate = some (allocation, charged)) :
    Greedy.Lowered BeamState.beam BeamState.remaining beams charged := by
  obtain ⟨slot, _, amount, units, degraded, _, rfl, _, _, whole, part⟩ :=
    scheduler.allocate_inv beams charged candidate allocation granted
  have taken : 0 < units := by
    cases degraded with
    | false => exact whole rfl ▸ positive
    | true =>
      obtain ⟨_, rfl, free, _⟩ := part rfl
      exact free
  apply Greedy.lowered_modify beams slot (BeamState.charge units) (BeamState.beam_charge units)
  intro state
  simp only [BeamState.remaining_charge]
  linarith

/-- With at most one option per fleet and band, what a beam can give is read off the option for
it. Where a pair is repeated, the last option decides instead. -/
theorem allocatable_of_option (candidate : ScheduleCandidate) (state : BeamState)
    (single : (candidate.options.map fun option => (option.fleet, option.band)).Nodup)
    (located : state.beam.region = candidate.request.region) (option : CandidateOption)
    (offered : option ∈ candidate.options) (fleet : option.fleet = state.beam.fleet)
    (band : option.band = state.beam.band) :
    scheduler.allocatable candidate state =
      some (capped (capped state.remaining option.constraints.maxAirtimeUnits) scheduler.cap) := by
  refine (scheduler.allocatable_eq_some candidate state _).mpr ⟨_, ?_, located, rfl⟩
  refine Dict.ofPairs_of_mem _ _ _ ?_ (List.mem_map.mpr ⟨option, offered, ?_⟩)
  · simpa [Function.comp_def] using single
  · rw [fleet, band]

/-- A pass ends with the beams of the snapshot, in their order: it only changes what is free on
them. -/
theorem serve_beams (candidates : List ScheduleCandidate) (snapshot : ConstellationSnapshot)
    (step : ℤ) : (scheduler.serve candidates snapshot step).2.map BeamState.beam =
      snapshot.beams := by
  refine (Greedy.run_invariant _ scheduler.allocate
    (fun beams => beams.map BeamState.beam = snapshot.beams) (fun _ _ => True) ?_
    (byScore candidates) _ ?_).1
  · intro beams candidate allocation charged same _ granted
    exact ⟨(scheduler.allocate_fits beams charged candidate allocation granted).1.trans same,
      trivial⟩
  · simp [Function.comp_def]

/-- The books of a pass: under each beam identifier, the units granted and the capacity left are
together the capacity of the snapshot. No hypothesis is needed, since a payment names the
identifier it charges. -/
theorem serve_balance (candidates : List ScheduleCandidate) (snapshot : ConstellationSnapshot)
    (step : ℤ) (beamId : String) :
    unitsOn beamId (scheduler.schedule candidates snapshot step).allocations +
      Greedy.held BeamState.beamId BeamState.remaining beamId
        (scheduler.serve candidates snapshot step).2 =
      Greedy.held Beam.beamId Beam.capacityUnits beamId snapshot.beams := by
  have books := Greedy.run_balance (fun candidate : ScheduleCandidate =>
    candidate.request.isExpired step) scheduler.allocate id Allocation.beamId
    Allocation.allocatedUnits (fun beams candidate allocation charged granted =>
      scheduler.allocate_pays beams charged candidate allocation granted) (byScore candidates)
    (snapshot.beams.map fun beam => (⟨beam, beam.capacityUnits⟩ : BeamState)) beamId
  refine books.trans ?_
  simp only [id_eq, Greedy.held_eq_sum, List.map_map]
  rfl

/-- On distinct beams the books balance beam by beam, so the residual capacity is the capacity
less what was granted. -/
theorem serve_remaining (candidates : List ScheduleCandidate) (snapshot : ConstellationSnapshot)
    (step : ℤ) (distinct : (snapshot.beams.map Beam.beamId).Nodup) (state : BeamState)
    (left : state ∈ (scheduler.serve candidates snapshot step).2) :
    unitsOn state.beamId (scheduler.schedule candidates snapshot step).allocations +
      state.remaining = state.beam.capacityUnits := by
  have shown : state.beam ∈ snapshot.beams :=
    scheduler.serve_beams candidates snapshot step ▸ List.mem_map_of_mem left
  refine run_remaining (fun candidate : ScheduleCandidate => candidate.request.isExpired step)
    scheduler.allocate id (fun beams candidate allocation charged granted =>
      scheduler.allocate_pays beams charged candidate allocation granted) (byScore candidates) _ ?_
    ⟨state.beam, state.beam.capacityUnits⟩ state (List.mem_map_of_mem shown) left rfl
  simpa [BeamState.beamId, Function.comp_def] using distinct

/-- No needless deferral: against what the pass leaves on the beams, every beam that is
legal for a deferred candidate still has too little for it. What the pass leaves is the
capacity of the snapshot less the units granted, under each beam identifier and so, where
identifiers are distinct, on each beam. -/
theorem no_needless_deferral (candidates : List ScheduleCandidate)
    (snapshot : ConstellationSnapshot) (step : ℤ)
    (costs : ∀ candidate ∈ candidates, 0 < candidate.scoring.estimatedCostUnits)
    (single : ∀ candidate ∈ candidates,
      (candidate.options.map fun option => (option.fleet, option.band)).Nodup) :
    let (outcome, residuals) := scheduler.serve candidates snapshot step
    let granted := (scheduler.schedule candidates snapshot step).allocations
    (scheduler.schedule candidates snapshot step).deferred =
        outcome.unplaced.map ScheduleCandidate.request ∧
      residuals.map BeamState.beam = snapshot.beams ∧
      (∀ beamId, unitsOn beamId granted +
        Greedy.held BeamState.beamId BeamState.remaining beamId residuals =
          Greedy.held Beam.beamId Beam.capacityUnits beamId snapshot.beams) ∧
      ((snapshot.beams.map Beam.beamId).Nodup → ∀ state ∈ residuals,
        unitsOn state.beamId granted + state.remaining = state.beam.capacityUnits) ∧
        ∀ candidate ∈ outcome.unplaced, candidate ∈ candidates ∧
          candidate.request.isExpired step = false ∧
            ∀ state ∈ residuals, state.beam.region = candidate.request.region →
              ∀ option ∈ candidate.options, option.fleet = state.beam.fleet →
                option.band = state.beam.band →
                  scheduler.TooLittle candidate (capped
                    (capped state.remaining option.constraints.maxAirtimeUnits) scheduler.cap) := by
  refine ⟨rfl, scheduler.serve_beams candidates snapshot step,
    scheduler.serve_balance candidates snapshot step,
    scheduler.serve_remaining candidates snapshot step, ?_⟩
  intro candidate unplaced
  obtain ⟨early, _, later, timely, turned⟩ :=
    Greedy.run_unplaced _ scheduler.allocate (byScore candidates) _ candidate unplaced
  have listed : candidate ∈ candidates :=
    (mem_byScore candidates candidate).mp (Greedy.unplaced_mem _ _ _ _ candidate unplaced)
  refine ⟨listed, timely, ?_⟩
  intro state left located option offered fleet band
  -- The beam had no less when the candidate was turned down.
  have lowered := later.lowered id BeamState.beam BeamState.remaining
    fun item member beams allocation charged granted =>
      scheduler.allocate_lowers beams charged item allocation
        (costs item ((mem_byScore candidates item).mp member)) granted
  obtain ⟨old, stood, same, less⟩ := lowered state left
  rw [same] at located fleet band
  have short := scheduler.allocate_none early candidate (costs candidate listed) turned old stood _
    (scheduler.allocatable_of_option candidate old (single candidate listed) located option offered
      fleet band)
  exact short.mono scheduler (capped_mono (capped_mono less _) _)

/-- The first of two candidates is granted eight of the beam's ten units. The two that are left
are too little for the second. -/
theorem no_needless_deferral_scarce :
    let candidates := [sized "a" 8, sized "b" 9]
    let granted := ((heuristicScheduler (1 / 4)).schedule candidates oneBeam 0).allocations
    let (outcome, residuals) := (heuristicScheduler (1 / 4)).serve candidates oneBeam 0
    unitsOn "b" granted = 8 ∧
      ∃ candidate ∈ outcome.unplaced, ∃ state ∈ residuals,
        unitsOn "b" granted + state.remaining = 10 ∧
          (heuristicScheduler (1 / 4)).TooLittle candidate
            (capped (capped state.remaining none) none) := by
  obtain ⟨_, _, _, balanced, unserved⟩ := no_needless_deferral (heuristicScheduler (1 / 4))
    [sized "a" 8, sized "b" 9] oneBeam 0 (by decide +kernel) (by decide +kernel)
  have left : (⟨⟨"b", .legacyLeo, "s", .na, .ku, 10⟩, 2⟩ : BeamState) ∈
      ((heuristicScheduler (1 / 4)).serve [sized "a" 8, sized "b" 9] oneBeam 0).2 := by
    decide +kernel
  refine ⟨by decide +kernel, sized "b" 9, by decide +kernel, _, left,
    balanced (by decide) _ left, ?_⟩
  exact (unserved (sized "b" 9) (by decide +kernel)).2.2 _ left rfl
    ⟨.legacyLeo, .ku, {}⟩ (by decide) rfl rfl

/-- Where something can be given under the cap, a lower cost has a lower floor, or one that is
reached by anything. The second case is that of a negative fraction. -/
theorem floor_le (first second free : ℚ) (positive : 0 < first) (cheaper : first ≤ second)
    (given : 0 < capped free scheduler.cap) :
    scheduler.degradeMinFraction * capped first scheduler.cap ≤
      max 0 (scheduler.degradeMinFraction * capped second scheduler.cap) := by
  have nonneg : 0 ≤ capped first scheduler.cap := by
    cases given_cap : scheduler.cap with
    | none => exact positive.le
    | some cap =>
      rw [given_cap] at given
      exact le_min positive.le (given.le.trans (capped_le_cap free cap))
  cases le_total 0 scheduler.degradeMinFraction with
  | inl fraction =>
    exact (mul_le_mul_of_nonneg_left (capped_mono cheaper _) fraction).trans (le_max_right _ _)
  | inr fraction =>
    exact (mul_nonpos_of_nonpos_of_nonneg fraction nonneg).trans (le_max_left _ _)

/-- From lowered beams a rival of higher cost gets nothing that the first would not have got, be
it the whole cost or a part of it. -/
theorem allocate_yields (early late : List BeamState) (first second : ScheduleCandidate)
    (lowered : Greedy.Lowered BeamState.beam BeamState.remaining early late)
    (positive : 0 < first.scoring.estimatedCostUnits) (rivals : Rivals first second)
    (cheaper : first.scoring.estimatedCostUnits ≤ second.scoring.estimatedCostUnits)
    (granted : (scheduler.allocate late second).isSome = true) :
    (scheduler.allocate early first).isSome = true := by
  obtain ⟨⟨allocation, charged⟩, granted⟩ := Option.isSome_iff_exists.mp granted
  obtain ⟨slot, bound, amount, units, degraded, gives, _, _, covered, whole, part⟩ :=
    scheduler.allocate_inv late charged second allocation granted
  obtain ⟨old, stood, same, less⟩ := lowered late[slot] (List.getElem_mem bound)
  obtain ⟨regCap, found, located, rfl⟩ := (scheduler.allocatable_eq_some second _ amount).mp gives
  have offered : scheduler.allocatable first old =
      some (capped (capped old.remaining regCap) scheduler.cap) := by
    refine (scheduler.allocatable_eq_some first old _).mpr ⟨regCap, ?_, ?_, rfl⟩
    · rw [rivals.options, ← same, found]
    · rw [rivals.region, ← same, located]
  have more := capped_mono (capped_mono less regCap) scheduler.cap
  rw [Option.isSome_iff_ne_none]
  intro turned
  obtain ⟨short, floored⟩ := scheduler.allocate_none early first positive turned old stood _ offered
  cases degraded with
  | false =>
    obtain rfl := whole rfl
    linarith
  | true =>
    obtain ⟨degradable, _, free, reached⟩ := part rfl
    cases floored (rivals.degradable degradable) with
    | inl nothing =>
      linarith
    | inr underFloor =>
      cases le_max_iff.mp (scheduler.floor_le _ _ _ positive cheaper free) with
      | inl vacuous =>
        linarith [slack_pos]
      | inr floors =>
        linarith

end GreedyScheduler

namespace SlotMacScheduler

variable (config : MacConfig)

/-- A candidate is turned down only when no grid offers its whole need under the cap or, if it
may be degraded, the floor. Grids that offer no block are not asked. -/
theorem assign_none (grids : List BeamGrid) (candidate : ScheduleCandidate)
    (turned : assign config grids candidate = none) (grid : BeamGrid) (member : grid ∈ grids)
    (offered : ℤ) (offers : assignable config candidate grid = some offered)
    (positive : 0 < offered) :
    offered < rbsNeeded config candidate.request ∧ (candidate.degradable = true →
      offered < degradeFloor config (rbsNeeded config candidate.request)) := by
  obtain ⟨_, _, capped, _⟩ := assignable_bounds config candidate grid offered offers
  cases found : (Greedy.scan (assignable config candidate) grids 0
      ⟨none, ((0 : ℤ) : WithBot ℤ)⟩).slot with
  | none =>
    have nothing : offered ≤ 0 := by
      exact_mod_cast Greedy.scan_none _ _ _ found grid member offered offers
    exact absurd positive (not_lt.mpr nothing)
  | some slot =>
    obtain ⟨bound, best, _, bar, _, dominates⟩ := Greedy.scan_slot _ _ _ slot found
    have within : offered ≤ best := dominates grid member offered offers
    simp only [assign, found, bar, List.getElem?_eq_getElem bound, WithBot.unbotD_coe,
      Option.bind_eq_bind, Option.bind_some, Option.pure_def] at turned
    split at turned
    · simp at turned
    rename_i partly
    split at turned
    · simp at turned
    rename_i unfloored
    constructor
    · by_contra covers
      rw [not_lt] at covers
      exact partly ⟨covers.trans capped, covers.trans within⟩
    · intro degradable
      by_contra reached
      exact unfloored ⟨degradable, (not_lt.mp reached).trans within⟩

/-- A grant takes blocks from one grid and leaves the others, as well as the airtime of a
block. -/
theorem assign_lowers (grids taken : List BeamGrid) (candidate : ScheduleCandidate)
    (allocation : Allocation) (granted : assign config grids candidate = some (allocation, taken)) :
    Greedy.Lowered (fun grid : BeamGrid => (grid.beam, grid.rbUnits)) BeamGrid.freeRbs grids
      taken := by
  obtain ⟨slot, _, _, rbs, _, _, positive, _, rfl, _⟩ :=
    assign_inv config grids taken candidate allocation granted
  apply Greedy.lowered_modify grids slot (BeamGrid.take rbs) (fun _ => rfl)
  intro grid
  simp only [BeamGrid.freeRbs_take]
  omega

/-- With more blocks free, a rival of lower need is offered its whole need or at least as much.
Without a configured cap the need is its own cap and grows with it, which is why the first
alternative is there. -/
theorem offer_yields (needed1 needed2 free1 free2 reg1 reg2 : ℤ) (lower : needed1 ≤ needed2)
    (free : free2 ≤ free1) (reg : reg2 ≤ reg1) :
    needed1 ≤ min free1 (min (rbsCap config needed1) reg1) ∨
      min free2 (min (rbsCap config needed2) reg2) ≤
        min free1 (min (rbsCap config needed1) reg1) := by
  unfold rbsCap
  cases config.maxRbsPerRequest with
  | none =>
    simp only [Option.getD_none]
    omega
  | some cap =>
    simp only [Option.getD_some]
    omega

/-- From lowered grids a rival of higher need gets nothing that the first would not have got. -/
theorem assign_yields (early late : List BeamGrid) (first second : ScheduleCandidate)
    (lowered : Greedy.Lowered (fun grid : BeamGrid => (grid.beam, grid.rbUnits)) BeamGrid.freeRbs
      early late) (rivals : Rivals first second)
    (fewer : rbsNeeded config first.request ≤ rbsNeeded config second.request)
    (granted : (assign config late second).isSome = true) :
    (assign config early first).isSome = true := by
  obtain ⟨⟨allocation, taken⟩, granted⟩ := Option.isSome_iff_exists.mp granted
  obtain ⟨slot, bound, offered, rbs, degraded, offers, positive, within, _, _, whole, part⟩ :=
    assign_inv config late taken second allocation granted
  obtain ⟨old, stood, same, less⟩ := lowered late[slot] (List.getElem_mem bound)
  obtain ⟨sameBeam, sameWorth⟩ := Prod.mk.injEq .. ▸ same
  obtain ⟨optionCap, found, located, rfl⟩ := (assignable_eq_some config second _ offered).mp offers
  obtain ⟨better, offersBetter, covers⟩ : ∃ better, assignable config first old = some better ∧
      (rbsNeeded config first.request ≤ better ∨
        min late[slot].freeRbs (min (rbsCap config (rbsNeeded config second.request))
          (regulatoryCapRbs optionCap late[slot].rbUnits late[slot].freeRbs)) ≤ better) := by
    refine ⟨_, (assignable_eq_some config first old _).mpr ⟨optionCap, ?_, ?_, rfl⟩, ?_⟩
    · rw [rivals.options, ← sameBeam, found]
    · rw [rivals.region, ← sameBeam, located]
    · apply offer_yields config _ _ _ _ _ _ fewer less
      rw [sameWorth]
      exact regulatoryCapRbs_mono optionCap _ less
  have needed := rbsNeeded_pos config first.request
  rw [Option.isSome_iff_ne_none]
  intro turned
  obtain ⟨short, floored⟩ := assign_none config early first turned old stood better offersBetter
    (by omega)
  cases covers with
  | inl all =>
    omega
  | inr more =>
    cases degraded with
    | false =>
      have all := whole rfl
      omega
    | true =>
      obtain ⟨degradable, _, reached⟩ := part rfl
      have floors := degradeFloor_mono config fewer
      have under := floored (rivals.degradable degradable)
      omega

end SlotMacScheduler

/-- No priority inversion: for two rivals of which the first precedes the second and is in
time, the second is served only if the first is. The need is airtime for the two fluid
schedulers and blocks for granted access. -/
theorem no_priority_inversion (candidates : List ScheduleCandidate)
    (snapshot : ConstellationSnapshot) (step : ℤ)
    (distinct : (candidates.map fun candidate => candidate.request.requestId).Nodup)
    (costs : ∀ candidate ∈ candidates, 0 < candidate.scoring.estimatedCostUnits)
    (first second : ScheduleCandidate) (firstListed : first ∈ candidates)
    (secondListed : second ∈ candidates) (precedes : Precedes first.sortKey second.sortKey)
    (timely : first.request.isExpired step = false) (rivals : Rivals first second) :
    (first.scoring.estimatedCostUnits ≤ second.scoring.estimatedCostUnits →
      (∀ fraction,
        second.request ∈ ((heuristicScheduler fraction).schedule candidates snapshot step).served →
          first.request ∈
            ((heuristicScheduler fraction).schedule candidates snapshot step).served) ∧
      ∀ cap fraction,
        second.request ∈
            ((priorityFairScheduler cap fraction).schedule candidates snapshot step).served →
          first.request ∈
            ((priorityFairScheduler cap fraction).schedule candidates snapshot step).served) ∧
    ∀ config, rbsNeeded config first.request ≤ rbsNeeded config second.request →
      second.request ∈ (SlotMacScheduler.schedule config candidates snapshot step).served →
        first.request ∈ (SlotMacScheduler.schedule config candidates snapshot step).served := by
  have fluid (cheaper : first.scoring.estimatedCostUnits ≤ second.scoring.estimatedCostUnits)
      (scheduler : GreedyScheduler)
      (served : second.request ∈ (scheduler.schedule candidates snapshot step).served) :
      first.request ∈ (scheduler.schedule candidates snapshot step).served := by
    refine assemble_yields candidates snapshot step scheduler.allocate _ distinct first second
      firstListed secondListed precedes timely ?_ served
    intro early late drained
    refine scheduler.allocate_yields early late first second (drained.lowered id _ _ ?_)
      (costs first firstListed) rivals cheaper
    intro item member beams allocation charged granted
    exact scheduler.allocate_lowers beams charged item allocation
      (costs item ((mem_byScore candidates item).mp member)) granted
  refine ⟨fun cheaper => ⟨fun fraction => fluid cheaper (heuristicScheduler fraction),
    fun cap fraction => fluid cheaper (priorityFairScheduler cap fraction)⟩, ?_⟩
  intro config fewer served
  refine assemble_yields candidates snapshot step (SlotMacScheduler.assign config) _ distinct first
    second firstListed secondListed precedes timely ?_ served
  intro early late drained
  refine SlotMacScheduler.assign_yields config early late first second
    (drained.lowered id _ _ ?_) rivals fewer
  intro item _ grids allocation taken granted
  exact SlotMacScheduler.assign_lowers config grids taken item allocation granted

/-- Of two candidates that tie on the score, the one with the smaller identifier is served with
the other by each scheduler: the identifiers decide the order, and the costs satisfy the
hypothesis. -/
theorem no_priority_inversion_tied :
    (sized "a" 4).request ∈ ((heuristicScheduler (1 / 4)).schedule [sized "b" 5, sized "a" 4]
        oneBeam 0).served ∧
      (sized "a" 4).request ∈ ((priorityFairScheduler 5 (1 / 4)).schedule
        [sized "b" 5, sized "a" 4] oneBeam 0).served ∧
      (sized "a" 4).request ∈ (SlotMacScheduler.schedule {} [sized "b" 5, sized "a" 4]
        oneBeam 0).served := by
  have order := no_priority_inversion [sized "b" 5, sized "a" 4] oneBeam 0 (by decide)
    (by decide +kernel) (sized "a" 4) (sized "b" 5) (by decide +kernel) (by decide +kernel)
    (Or.inr (by decide +kernel)) (by decide) ⟨rfl, rfl, id⟩
  have cheaper :
      (sized "a" 4).scoring.estimatedCostUnits ≤ (sized "b" 5).scoring.estimatedCostUnits := by
    decide +kernel
  exact ⟨(order.1 cheaper).1 _ (by decide +kernel), (order.1 cheaper).2 _ _ (by decide +kernel),
    order.2 {} (le_refl _) (by decide +kernel)⟩

end Satsim
