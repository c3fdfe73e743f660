import Satsim.Mac.Contention
import Satsim.Mac.Slot
import Satsim.Network.SpectrumLaw

/-!
# Granted and random access for a lone request

The two medium-access models size a grant with separate code. A request that is alone and
has one eligible beam collides with nobody, so random access recovers what it sent, and
both models give it `grantSize` of what the fresh grid of its beam offers. Random access
looks up the worth of a block by beam identifier, granted access on the beam itself; the
two lookups agree unless a later beam of the same identifier has another capacity.

The two models are compared on single calls, by equal results, allocations included.
Where the lookups disagree the models do, as the example at the end shows.
-/

namespace Satsim

open Library

/-- The blocks granted from an offer, and whether they are below the need: the whole need, or
for a degradable candidate an offer that reaches the floor, or none. Both models are shown to
size grants by it. -/
def grantSize (config : MacConfig) (candidate : ScheduleCandidate) (offered : ℤ) : ℤ × Bool :=
  let needed := rbsNeeded config candidate.request
  if needed ≤ offered then (needed, false)
  else if candidate.degradable = true ∧ degradeFloor config needed ≤ offered then (offered, true)
  else (0, false)

/-- The blocks that the fresh grid of a beam offers under an airtime cap: the least of the grid,
the configured cap and the regulatory one. -/
def freshOffer (config : MacConfig) (candidate : ScheduleCandidate) (beam : Beam)
    (optionCap : Option ℚ) : ℤ :=
  min config.resourceBlocksPerBeam (min (rbsCap config (rbsNeeded config candidate.request))
    (regulatoryCapRbs optionCap (rbUnits config beam.capacityUnits) config.resourceBlocksPerBeam))

/-- A size is within the offer, if there is anything to grant. -/
theorem grantSize_le (config : MacConfig) (candidate : ScheduleCandidate) (offered : ℤ)
    (positive : 0 < (grantSize config candidate offered).1) :
    (grantSize config candidate offered).1 ≤ offered := by
  unfold grantSize at positive ⊢
  dsimp only at positive ⊢
  split_ifs at positive ⊢ with whole floored
  · exact whole
  · exact le_refl offered
  · exact absurd positive (lt_irrefl 0)

/-- Where a pass over one candidate leaves it: late, served or put off. Both models are brought
to this form. -/
def loneOutcome (candidate : ScheduleCandidate) (step : ℤ) (granted : Option Allocation) :
    Greedy.Outcome ScheduleCandidate Allocation :=
  if candidate.request.isExpired step then ⟨[candidate], [], []⟩
  else
    match granted with
    | none => ⟨[], [], [candidate]⟩
    | some allocation => ⟨[], [(candidate, allocation)], []⟩

/-- What a grant of some blocks on a fresh grid is worth. A size of nothing is no grant. -/
def loneGrant (config : MacConfig) (candidate : ScheduleCandidate) (beam : Beam)
    (size : ℤ × Bool) : Option Allocation :=
  if size.1 ≤ 0 then none
  else
    some (SlotMacScheduler.grant candidate (SlotMacScheduler.freshGrid config beam) size.1 size.2)

namespace SlotMacScheduler

variable (config : MacConfig)

/-- Granted access to a lone candidate. -/
theorem schedule_lone (candidate : ScheduleCandidate) (snapshot : ConstellationSnapshot)
    (step : ℤ) :
    schedule config [candidate] snapshot step = assemble [candidate] snapshot
      (loneOutcome candidate step
        ((assign config (snapshot.beams.map (freshGrid config)) candidate).map Prod.fst)) := by
  have alone : byScore [candidate] = [candidate] := rfl
  rw [schedule, serve, alone]
  unfold loneOutcome
  by_cases late : candidate.request.isExpired step = true
  · simp only [Greedy.run, late, ↓reduceIte]
  · cases granted : assign config (snapshot.beams.map (freshGrid config)) candidate with
    | none => simp only [Greedy.run, late, granted, Bool.false_eq_true, ↓reduceIte, Option.map_none]
    | some result =>
      simp only [Greedy.run, late, granted, Bool.false_eq_true, ↓reduceIte, Option.map_some]

/-- A beam that is not eligible has no offer on its fresh grid. -/
theorem assignable_freshGrid (candidate : ScheduleCandidate) (beam : Beam)
    (foreign : ContentionMacScheduler.eligible candidate beam = false) :
    assignable config candidate (freshGrid config beam) = none := by
  rw [← Option.not_isSome_iff_eq_none]
  intro offers
  obtain ⟨offered, offers⟩ := Option.isSome_iff_exists.mp offers
  obtain ⟨optionCap, found, located, _⟩ := (assignable_eq_some config candidate _ offered).mp offers
  obtain ⟨option, listed, fleet, band, _⟩ := optionCaps_legal candidate _ _ _ found
  have covered : candidate.options.any (ContentionMacScheduler.matchesOption beam) = true :=
    List.any_eq_true.mpr ⟨option, listed, decide_eq_true ⟨fleet, band⟩⟩
  have here : beam.region = candidate.request.region := located
  simp [ContentionMacScheduler.eligible, here, covered] at foreign

/-- With one eligible beam, the offer of its fresh grid decides the grant. Which of equal offers
wins does not arise. -/
theorem assign_sole (beams : List Beam) (candidate : ScheduleCandidate) (beam : Beam)
    (sole : beams.filter (ContentionMacScheduler.eligible candidate) = [beam])
    (optionCap : Option ℚ)
    (found : (optionCaps candidate.options).get? (beam.fleet, beam.band) = some optionCap) :
    (assign config (beams.map (freshGrid config)) candidate).map Prod.fst =
      loneGrant config candidate beam
        (grantSize config candidate (freshOffer config candidate beam optionCap)) := by
  obtain ⟨before, after, rfl, earlier, eligible, later⟩ := List.filter_eq_cons_iff.mp sole
  have located : beam.region = candidate.request.region := by
    simp only [ContentionMacScheduler.eligible, Bool.and_eq_true, decide_eq_true_eq] at eligible
    exact eligible.1
  have offers : assignable config candidate (freshGrid config beam) =
      some (freshOffer config candidate beam optionCap) :=
    (assignable_eq_some config candidate _ _).mpr ⟨optionCap, found, located, rfl⟩
  have none_of (others : List Beam)
      (foreign : ∀ other ∈ others, ¬ ContentionMacScheduler.eligible candidate other = true) :
      ∀ grid ∈ others.map (freshGrid config), assignable config candidate grid = none := by
    intro grid member
    obtain ⟨other, listed, rfl⟩ := List.mem_map.mp member
    exact assignable_freshGrid config candidate other
      (Bool.eq_false_iff.mpr (foreign other listed))
  have search := Greedy.scan_sole (assignable config candidate) (before.map (freshGrid config))
    (after.map (freshGrid config)) (freshGrid config beam) 0 ⟨none, ((0 : ℤ) : WithBot ℤ)⟩
    (none_of before earlier) (none_of after (List.filter_eq_nil_iff.mp later))
  have read : (before.map (freshGrid config) ++ freshGrid config beam ::
      after.map (freshGrid config))[before.length]? = some (freshGrid config beam) := by
    rw [List.getElem?_append_right (by simp)]
    simp
  have capped : freshOffer config candidate beam optionCap ≤
      rbsCap config (rbsNeeded config candidate.request) :=
    (min_le_right _ _).trans (min_le_left _ _)
  have needed : 0 < rbsNeeded config candidate.request := rbsNeeded_pos config candidate.request
  rw [offers] at search
  generalize freshOffer config candidate beam optionCap = offered at search capped ⊢
  simp only [assign, List.map_append, List.map_cons, search, Greedy.challenge, zero_add,
    List.length_map, loneGrant, grantSize, ceil_eq_degradeFloor]
  by_cases positive : 0 < offered
  · have above : ((0 : ℤ) : WithBot ℤ) < offered := by exact_mod_cast positive
    simp only [above, ↓reduceIte, Option.bind_eq_bind, Option.bind_some, read, WithBot.unbotD_coe]
    by_cases whole : rbsNeeded config candidate.request ≤ offered
    · have both := whole.trans capped
      simp [whole, both, not_le.mpr needed]
    · by_cases floored : candidate.degradable = true ∧
          degradeFloor config (rbsNeeded config candidate.request) ≤ offered
      · simp [whole, floored, not_le.mpr positive]
      · simp [whole, floored]
  · have below : ¬ ((0 : ℤ) : WithBot ℤ) < offered := by exact_mod_cast positive
    have unserved : ¬ rbsNeeded config candidate.request ≤ offered := by omega
    simp only [below, ↓reduceIte, Option.bind_eq_bind, Option.bind_none, Option.map_none, unserved]
    by_cases floored : candidate.degradable = true ∧
        degradeFloor config (rbsNeeded config candidate.request) ≤ offered
    · simp [floored, not_lt.mp positive]
    · simp [floored]

end SlotMacScheduler

namespace ContentionMacScheduler

variable (config : MacConfig) (fuel : ℕ)

/-- Random access sizes a grant by the offer of a fresh grid, under the cap of the first
option for the beam. -/
theorem rbsFor_eq (candidate : ScheduleCandidate) (beam : Beam) (optionCap : Option ℚ)
    (first : (candidate.options.find? (matchesOption beam)).bind
      (fun option => option.constraints.maxAirtimeUnits) = optionCap) :
    rbsFor config candidate beam (rbUnits config beam.capacityUnits) =
      grantSize config candidate (freshOffer config candidate beam optionCap) := by
  simp only [rbsFor, first, grantSize, ceil_eq_degradeFloor]
  have offer : min (rbsNeeded config candidate.request)
      (min (rbsCap config (rbsNeeded config candidate.request))
        (min (regulatoryCapRbs optionCap (rbUnits config beam.capacityUnits)
          config.resourceBlocksPerBeam) config.resourceBlocksPerBeam)) =
      min (rbsNeeded config candidate.request) (freshOffer config candidate beam optionCap) := by
    unfold freshOffer
    omega
  rw [offer]
  by_cases whole : rbsNeeded config candidate.request ≤ freshOffer config candidate beam optionCap
  · rw [min_eq_left whole, if_pos (le_refl _), if_pos whole]
  · rw [min_eq_right (not_le.mp whole).le, if_neg whole]

/-- Sampling goes on until there are enough blocks. That it ends at all is a property of the
draws. -/
theorem sampleLoop_enough (k : ℤ) (fuel : ℕ) (chosen rbs : List ℤ) (rng final : Rng)
    (returned : sampleLoop config k fuel chosen rng = some (rbs, final)) :
    k ≤ rbs.length := by
  induction fuel generalizing chosen rng with
  | zero => simp [sampleLoop] at returned
  | succ fuel inductionHypothesis =>
    by_cases short : (chosen.length : ℤ) < k
    · rw [sampleLoop, if_pos short] at returned
      exact inductionHypothesis _ _ returned
    · rw [sampleLoop, if_neg short, Option.some.injEq, Prod.mk.injEq] at returned
      obtain ⟨rfl, _⟩ := returned
      exact not_lt.mp short

/-- With one eligible beam, a candidate transmits the blocks of its size there. -/
theorem attempt_sole (beams : List Beam) (units : Dict String ℚ) (candidate : ScheduleCandidate)
    (beam : Beam) (sole : beams.filter (eligible candidate) = [beam]) (rng final : Rng)
    (tried : Option Attempt)
    (returned : attempt config fuel beams units candidate rng = some (tried, final)) :
    let size := rbsFor config candidate beam (units.getD beam.beamId 0)
    (size.1 ≤ 0 ∧ tried = none) ∨ (0 < size.1 ∧ ∃ rbs : List ℤ, rbs.Nodup ∧
      (rbs.length : ℤ) = min size.1 config.resourceBlocksPerBeam ∧
        tried = some ⟨candidate, beam, rbs, size.2⟩) := by
  have picked : (pickBeam rng beam []).1 = beam := by
    simpa using pickBeam_mem rng beam []
  simp only [attempt, sole, picked] at returned
  dsimp only
  split at returned
  · rename_i nothing
    simp only [Option.pure_def, Option.some.injEq, Prod.mk.injEq] at returned
    exact Or.inl ⟨nothing, returned.1.symm⟩
  · rename_i positive
    simp only [Option.bind_eq_bind, Option.bind_eq_some_iff, Option.pure_def, Option.some.injEq,
      Prod.mk.injEq, Prod.exists] at returned
    obtain ⟨rbs, _, sampled, rfl, _⟩ := returned
    have grid := config.resourceBlocksPerBeam_pos
    obtain ⟨distinct, _, few⟩ := sampleLoop_spec config _ fuel [] rbs _ _ sampled List.nodup_nil
      (by simp) (by simp; omega)
    have enough := sampleLoop_enough config _ fuel [] rbs _ _ sampled
    exact Or.inr ⟨not_le.mp positive, rbs, distinct, le_antisymm few enough, rfl⟩

/-- A transmission that is alone occupies each of its blocks once. -/
theorem occupancy_lone (attempt : Attempt) (distinct : attempt.rbs.Nodup) (rb : ℤ)
    (listed : rb ∈ attempt.rbs) : (occupancy [attempt]).getD (attempt.beam.beamId, rb) 0 = 1 := by
  have occupied : (attempt.beam.beamId, rb) ∈ cells attempt := List.mem_map.mpr ⟨rb, listed, rfl⟩
  rw [occupancy_getD [attempt] (by simpa using distinct)]
  simp [Sharing.occupants, occupied]

/-- A transmission that is alone is recovered, since every capture capacity admits one. -/
theorem recovered_lone (attempt : Attempt) (distinct : attempt.rbs.Nodup) :
    recovered config (occupancy [attempt]) attempt = true := by
  simp only [recovered, List.all_eq_true, decide_eq_true_eq]
  intro rb listed
  rw [occupancy_lone attempt distinct rb listed]
  exact_mod_cast config.capturePositive

/-- A transmission that is alone keeps the whole worth of its blocks, there being nobody to
split it with. -/
theorem sharedUnits_lone (units : Dict String ℚ) (attempt : Attempt)
    (distinct : attempt.rbs.Nodup) :
    sharedUnits units (occupancy [attempt]) attempt =
      attempt.rbs.length * units.getD attempt.beam.beamId 0 := by
  have whole : ∀ rb ∈ attempt.rbs, units.getD attempt.beam.beamId 0 /
      ((occupancy [attempt]).getD (attempt.beam.beamId, rb) 0 : ℕ) =
        units.getD attempt.beam.beamId 0 := by
    intro rb listed
    rw [occupancy_lone attempt distinct rb listed, Nat.cast_one, div_one]
  simp [sharedUnits, List.map_congr_left whole]

/-- The second pass grants a lone transmission the whole worth of its blocks. Nothing can
collide with it. -/
theorem settle_lone (attempt : Attempt) (snapshot : ConstellationSnapshot)
    (distinct : attempt.rbs.Nodup) :
    settle config [attempt.candidate] snapshot { attempts := [attempt] } =
      assemble [attempt.candidate] snapshot ⟨[], [(attempt.candidate, grant attempt
        (attempt.rbs.length *
          (unitsByBeam config snapshot.beams).getD attempt.beam.beamId 0))], []⟩ := by
  simp [settle, assemble, recovered_lone config attempt distinct,
    sharedUnits_lone _ attempt distinct]

/-- A size is within the grid. -/
theorem rbsFor_within (candidate : ScheduleCandidate) (beam : Beam)
    (positive : 0 < (rbsFor config candidate beam (rbUnits config beam.capacityUnits)).1) :
    (rbsFor config candidate beam (rbUnits config beam.capacityUnits)).1 ≤
      config.resourceBlocksPerBeam := by
  rw [rbsFor_eq config candidate beam _ rfl] at positive ⊢
  exact (grantSize_le config candidate _ positive).trans (min_le_left _ _)

/-- Random access of a lone candidate with one eligible beam, when the beam's identifier leads
to its own capacity: the transmission is granted what granted access would grant. -/
theorem schedule_lone (candidate : ScheduleCandidate) (snapshot : ConstellationSnapshot)
    (step : ℤ) (beam : Beam) (sole : snapshot.beams.filter (eligible candidate) = [beam])
    (worth : (unitsByBeam config snapshot.beams).getD beam.beamId 0 =
      rbUnits config beam.capacityUnits) (rng final : Rng) (result : SchedulingResult)
    (returned : schedule config fuel [candidate] snapshot step rng = some (result, final)) :
    result = assemble [candidate] snapshot (loneOutcome candidate step
      (loneGrant config candidate beam
        (rbsFor config candidate beam (rbUnits config beam.capacityUnits)))) := by
  have alone : byRequestId [candidate] = [candidate] := rfl
  obtain ⟨pass, transmitted, rfl⟩ :=
    (schedule_eq_some config fuel [candidate] snapshot step rng final result).mp returned
  rw [alone] at transmitted
  unfold loneOutcome
  by_cases late : candidate.request.isExpired step = true
  · simp only [transmit, late, ↓reduceIte, Option.bind_eq_bind, Option.bind_some, Option.pure_def,
      Option.some.injEq, Prod.mk.injEq] at transmitted
    obtain ⟨rfl, _⟩ := transmitted
    rw [if_pos late]
    rfl
  · simp only [transmit, late, Bool.false_eq_true, ↓reduceIte, Option.bind_eq_bind,
      Option.bind_some, Option.bind_eq_some_iff, Prod.exists] at transmitted
    obtain ⟨tried, _, attempted, completed⟩ := transmitted
    have cases := attempt_sole config fuel snapshot.beams _ candidate beam sole _ _ tried attempted
    rw [worth] at cases
    rw [if_neg late, loneGrant]
    rcases cases with ⟨nothing, rfl⟩ | ⟨positive, rbs, distinct, sampled, rfl⟩
    · simp only [Option.pure_def, Option.some.injEq, Prod.mk.injEq] at completed
      obtain ⟨rfl, _⟩ := completed
      rw [if_pos nothing]
      rfl
    · simp only [Option.pure_def, Option.some.injEq, Prod.mk.injEq] at completed
      obtain ⟨rfl, _⟩ := completed
      rw [if_neg (not_le.mpr positive)]
      apply (settle_lone config ⟨candidate, beam, rbs, _⟩ snapshot distinct).trans
      have within := rbsFor_within config candidate beam positive
      have count : (rbs.length : ℚ) =
          (rbsFor config candidate beam (rbUnits config beam.capacityUnits)).1 := by
        rw [min_eq_left within] at sampled
        exact_mod_cast sampled
      simp only [grant, SlotMacScheduler.grant, SlotMacScheduler.freshGrid, worth, count]

/-- An identifier leads to the worth of the last beam that carries it. With repeated identifiers
this need not be the beam that transmits. -/
theorem unitsByBeam_last (beams : List Beam) (beam : Beam) (shown : beam ∈ beams)
    (own : ∀ last ∈ (beams.filter fun other => decide (other.beamId = beam.beamId)).getLast?,
      last.capacityUnits = beam.capacityUnits) :
    (unitsByBeam config beams).getD beam.beamId 0 = rbUnits config beam.capacityUnits := by
  have named : beam ∈ beams.filter fun other => decide (other.beamId = beam.beamId) := by
    simp [shown]
  have present := List.ne_nil_of_mem named
  have last := List.getLast?_eq_some_getLast present
  have stored := Dict.ofPairs_get? (beams.map fun other =>
    (other.beamId, rbUnits config other.capacityUnits)) beam.beamId
  rw [List.filter_map, List.getLast?_map, Option.map_map] at stored
  simp only [Function.comp_def] at stored
  rw [last] at stored
  rw [Dict.getD, unitsByBeam, stored, Option.map_some, Option.getD_some, own _ last]

end ContentionMacScheduler

/-- The options of a request share their constraints, which are those of the region's rule. So
the first option and the last have the same cap. -/
theorem TableRegulatoryPolicy.allowedOptions_constraints (regionRules : List RegionRule)
    (request : ServiceRequest) (left right : CandidateOption)
    (leftListed : left ∈ allowedOptions regionRules request)
    (rightListed : right ∈ allowedOptions regionRules request) :
    left.constraints = right.constraints := by
  obtain ⟨rule, found, covered⟩ := (mem_allowedOptions regionRules request left).mp leftListed
  obtain ⟨same, sameFound, sameCovered⟩ :=
    (mem_allowedOptions regionRules request right).mp rightListed
  obtain rfl : rule = same := Option.some.inj (found.symm.trans sameFound)
  rw [((mem_ruleOptions rule left).mp covered).2.2,
    ((mem_ruleOptions rule right).mp sameCovered).2.2]

/-- For a lone request with one eligible beam, random access returns what granted access
returns, on any draws with which its sampling ends, when the last beam of the snapshot that
carries the identifier of the eligible one has its capacity. -/
theorem lone_agreement (regionRules : List RegionRule) (config : MacConfig) (fuel : ℕ)
    (candidate : ScheduleCandidate)
    (options : candidate.options =
      TableRegulatoryPolicy.allowedOptions regionRules candidate.request)
    (snapshot : ConstellationSnapshot) (step : ℤ) (beam : Beam)
    (sole : snapshot.beams.filter (ContentionMacScheduler.eligible candidate) = [beam])
    (own : ∀ last ∈ (snapshot.beams.filter fun other =>
      decide (other.beamId = beam.beamId)).getLast?, last.capacityUnits = beam.capacityUnits)
    (rng final : Rng) (result : SchedulingResult)
    (returned : ContentionMacScheduler.schedule config fuel [candidate] snapshot step rng =
      some (result, final)) :
    result = SlotMacScheduler.schedule config [candidate] snapshot step := by
  have listed : beam ∈ snapshot.beams.filter (ContentionMacScheduler.eligible candidate) := by
    simp [sole]
  obtain ⟨shown, eligible⟩ := List.mem_filter.mp listed
  simp only [ContentionMacScheduler.eligible, Bool.and_eq_true, List.any_eq_true] at eligible
  obtain ⟨_, covering⟩ := eligible
  -- Both lookups of the cap find an option for the beam, and all options share their cap.
  obtain ⟨first, found⟩ := Option.isSome_iff_exists.mp (List.find?_isSome.mpr covering)
  have firstListed := options ▸ List.mem_of_find?_eq_some found
  have keyed : (beam.fleet, beam.band) ∈ (candidate.options.map fun option =>
      ((option.fleet, option.band), option.constraints.maxAirtimeUnits)).map Prod.fst := by
    obtain ⟨option, member, matching⟩ := covering
    obtain ⟨fleet, band⟩ := of_decide_eq_true matching
    simp only [List.map_map, List.mem_map, Function.comp_apply, Prod.mk.injEq]
    exact ⟨option, member, fleet, band⟩
  obtain ⟨optionCap, stored⟩ := Option.isSome_iff_exists.mp ((Dict.ofPairs_isSome _ _).mpr keyed)
  obtain ⟨kept, keptListed, _, _, cap⟩ := optionCaps_legal candidate _ _ _ stored
  have same : first.constraints = kept.constraints :=
    TableRegulatoryPolicy.allowedOptions_constraints regionRules candidate.request first kept
      firstListed (options ▸ keptListed)
  have worth := ContentionMacScheduler.unitsByBeam_last config snapshot.beams beam shown own
  rw [ContentionMacScheduler.schedule_lone config fuel candidate snapshot step beam sole worth rng
    final result returned, SlotMacScheduler.schedule_lone,
    SlotMacScheduler.assign_sole config snapshot.beams candidate beam sole optionCap stored,
    ContentionMacScheduler.rbsFor_eq config candidate beam optionCap]
  rw [found, Option.bind_some, same, cap]

/-- A candidate with the options of the small rule table. -/
def loneCandidate : ScheduleCandidate where
  request := smallRequest "a" .photo 5
  options := TableRegulatoryPolicy.allowedOptions smallFields.regionRules
    (smallRequest "a" .photo 5)
  scoring := ⟨1 / 2, 1, 1⟩

/-- A beam of another region carries the identifier of the candidate's beam. -/
def sharedIdentifier : ConstellationSnapshot where
  step := 0
  satellites := [⟨"s", .legacyLeo,
    [⟨"b", .legacyLeo, "s", .na, .ku, 10⟩, ⟨"b", .legacyLeo, "s", .eu, .ku, 0⟩]⟩]

/-- The eligible beam has capacity for the request and granted access serves it there; random
access values the blocks by the later beam of the same identifier, which has none, and defers
the request. -/
theorem lone_agreement_shared_identifier :
    sharedIdentifier.beams.filter (ContentionMacScheduler.eligible loneCandidate) =
        [⟨"b", .legacyLeo, "s", .na, .ku, 10⟩] ∧
      (SlotMacScheduler.schedule {} [loneCandidate] sharedIdentifier 0).served =
          [loneCandidate.request] ∧
        (ContentionMacScheduler.schedule {} 9 [loneCandidate] sharedIdentifier 0 countingRng).map
            (fun returned => (returned.1.served, returned.1.deferred)) =
          some ([], [loneCandidate.request]) := by
  refine ⟨?_, ?_, ?_⟩ <;> decide +kernel

/-- The sampling ends on this stream. -/
theorem lone_returns : (ContentionMacScheduler.schedule {} 9 [loneCandidate] oneBeam 0
    countingRng).isSome = true := by decide +kernel

/-- On one beam both models serve the lone request alike, and the random one uses up some draws
for it. -/
theorem lone_agreement_alone :
    ∃ result final, ContentionMacScheduler.schedule {} 9 [loneCandidate] oneBeam 0 countingRng =
        some (result, final) ∧ result.served = [loneCandidate.request] ∧
          result = SlotMacScheduler.schedule {} [loneCandidate] oneBeam 0 :=
  ⟨_, _, (Option.some_get lone_returns).symm, by decide +kernel,
    lone_agreement smallFields.regionRules {} 9 loneCandidate rfl oneBeam 0
      ⟨"b", .legacyLeo, "s", .na, .ku, 10⟩ (by decide +kernel) (by decide +kernel) countingRng _ _
      (Option.some_get lone_returns).symm⟩

end Satsim
