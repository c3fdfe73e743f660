import Satsim.Library.Sharing
import Satsim.Mac.Grid
import Satsim.Rng

/-!
# Random access

Every candidate in time picks one eligible beam and a random set of its blocks. A
block occupied beyond the capture capacity fails every transmission that touches it;
a recovered block's airtime is split among its occupants. Sampling distinct blocks
repeats draws until enough are new, so a call carries fuel and may not return.

The two passes are separate functions because the second depends on the first as a
whole: whether a transmission is recovered is settled by what everybody else drew.
-/

namespace Satsim

open Library

/-- One transmission: the blocks it occupies, each listed once. It is not yet a grant. -/
structure Attempt where
  candidate : ScheduleCandidate
  beam : Beam
  rbs : List ℤ
  degraded : Bool
  deriving DecidableEq

/-- What the first pass leaves: late candidates, candidates that did not transmit, and
the transmissions, in the order of their request ids. -/
structure Transmissions where
  dropped : List RejectedRequest := []
  deferred : List ServiceRequest := []
  attempts : List Attempt := []
  deriving DecidableEq

namespace ContentionMacScheduler

variable (config : MacConfig) (fuel : ℕ)

/-- The airtime of one block, by beam; a repeated identifier keeps its last beam's. Granted
access has no such table, since each of its grids knows its own worth. -/
def unitsByBeam (beams : List Beam) : Dict String ℚ :=
  Dict.ofPairs (beams.map (fun beam => (beam.beamId, rbUnits config beam.capacityUnits)))

/-- An option covers a beam of its fleet and band. -/
def matchesOption (beam : Beam) (option : CandidateOption) : Bool :=
  decide (option.fleet = beam.fleet ∧ option.band = beam.band)

/-- A beam is eligible for a candidate in its region that has an option for it. -/
def eligible (candidate : ScheduleCandidate) (beam : Beam) : Bool :=
  decide (beam.region = candidate.request.region) && candidate.options.any (matchesOption beam)

/-- The blocks a candidate attempts on a beam, and whether that is below its need. The airtime
cap is that of the first option for the beam, and the full grid stands in for what is free. -/
def rbsFor (candidate : ScheduleCandidate) (beam : Beam) (worth : ℚ) : ℤ × Bool :=
  let needed := rbsNeeded config candidate.request
  let cap := rbsCap config needed
  let optionCap := (candidate.options.find? (matchesOption beam)).bind
    (fun option => option.constraints.maxAirtimeUnits)
  let reg := regulatoryCapRbs optionCap worth config.resourceBlocksPerBeam
  let k := min needed (min cap (min reg config.resourceBlocksPerBeam))
  if needed ≤ k then (needed, false)
  else if candidate.degradable = true ∧
      ⌈config.degradeMinFraction * (min needed cap : ℤ)⌉ ≤ k then (k, true)
  else (0, false)

/-- The range of block indices is nonempty. -/
theorem blocks_range : (0 : ℤ) ≤ config.resourceBlocksPerBeam - 1 := by
  have positive := config.resourceBlocksPerBeam_pos
  omega

/-- Draw block indices until `k` different ones are chosen. A repeated index uses a draw and
changes nothing else. -/
def sampleLoop (k : ℤ) : ℕ → List ℤ → Rng → Option (List ℤ × Rng)
  | 0, _, _ => none
  | fuel + 1, chosen, rng =>
      if (chosen.length : ℤ) < k then
        let (rb, rng) := rng.randint 0 (config.resourceBlocksPerBeam - 1) (blocks_range config)
        sampleLoop k fuel (if rb ∈ chosen then chosen else rb :: chosen) rng
      else some (chosen, rng)

/-- Sample a set of blocks, never more than the grid has. -/
def sampleRbs (k : ℤ) (rng : Rng) : Option (List ℤ × Rng) :=
  sampleLoop config (min k config.resourceBlocksPerBeam) fuel [] rng

/-- A uniform choice from a nonempty list of beams, with one draw. -/
def pickBeam (rng : Rng) (first : Beam) (rest : List Beam) : Beam × Rng :=
  let (index, rng) := rng.randint 0 ((first :: rest).length - 1) (by simp)
  ((first :: rest).getD index.toNat first, rng)

/-- Pick an eligible beam and a set of blocks. A beam may be drawn even though no block
is attempted on it. -/
def attempt (beams : List Beam) (units : Dict String ℚ) (candidate : ScheduleCandidate)
    (rng : Rng) : Option (Option Attempt × Rng) :=
  match beams.filter (eligible candidate) with
  | [] => some (none, rng)
  | first :: rest => do
      let (beam, rng) := pickBeam rng first rest
      let (k, degraded) := rbsFor config candidate beam (units.getD beam.beamId 0)
      if k ≤ 0 then pure (none, rng)
      else
        let (rbs, rng) ← sampleRbs config fuel k rng
        pure (some { candidate := candidate, beam := beam, rbs := rbs, degraded := degraded }, rng)

/-- The first pass, over candidates in the order of their request ids. -/
def transmit (beams : List Beam) (units : Dict String ℚ) (step : ℤ) :
    List ScheduleCandidate → Rng → Option (Transmissions × Rng)
  | [], rng => some ({}, rng)
  | candidate :: rest, rng =>
      if candidate.request.isExpired step then do
        let (pass, rng) ← transmit beams units step rest rng
        pure ({ pass with dropped := ⟨candidate.request, .deadlineMissed⟩ :: pass.dropped }, rng)
      else do
        let (tried, rng) ← attempt config fuel beams units candidate rng
        let (pass, rng) ← transmit beams units step rest rng
        match tried with
        | none => pure ({ pass with deferred := candidate.request :: pass.deferred }, rng)
        | some attempt => pure ({ pass with attempts := attempt :: pass.attempts }, rng)

/-- How many transmissions occupy each block of each beam. -/
def occupancy (attempts : List Attempt) : Dict (String × ℤ) ℕ :=
  Dict.tally (attempts.flatMap (fun attempt =>
    attempt.rbs.map (fun rb => ((attempt.beam.beamId, rb), 1))))

/-- A transmission is recovered when none of its blocks is over-subscribed. -/
def recovered (occupied : Dict (String × ℤ) ℕ) (attempt : Attempt) : Bool :=
  attempt.rbs.all (fun rb =>
    decide (((occupied.getD (attempt.beam.beamId, rb) 0 : ℕ) : ℤ) ≤ config.captureCapacity))

/-- Each recovered block's airtime is split among its occupants. -/
def sharedUnits (units : Dict String ℚ) (occupied : Dict (String × ℤ) ℕ) (attempt : Attempt) : ℚ :=
  (attempt.rbs.map (fun rb => units.getD attempt.beam.beamId 0 /
    (occupied.getD (attempt.beam.beamId, rb) 0 : ℕ))).sum

/-- The allocation of a recovered transmission: its part of the airtime, and a delivery
probability from its link. -/
def grant (attempt : Attempt) (allocatedUnits : ℚ) : Allocation :=
  { requestId := attempt.candidate.request.requestId
    fleet := attempt.beam.fleet
    beamId := attempt.beam.beamId
    band := attempt.beam.band
    allocatedUnits := allocatedUnits
    deliveryProbability := min 1 (max 0 attempt.candidate.request.linkQuality)
    degraded := attempt.degraded }

/-- Candidates in the order of their ids, in which the first pass draws. The score plays no part
here. -/
def byRequestId (candidates : List ScheduleCandidate) : List ScheduleCandidate :=
  candidates.insertionSort (fun left right => left.request.requestId ≤ right.request.requestId)

/-- The second pass: recovered transmissions are granted, the others deferred. It draws
nothing. -/
def settle (candidates : List ScheduleCandidate) (snapshot : ConstellationSnapshot)
    (pass : Transmissions) : SchedulingResult :=
  let units := unitsByBeam config snapshot.beams
  let occupied := occupancy pass.attempts
  let successes := pass.attempts.filter (recovered config occupied)
  let collided := pass.attempts.filter (fun attempt => !recovered config occupied attempt)
  let allocations := successes.map (fun attempt =>
    grant attempt (sharedUnits units occupied attempt))
  { allocations := allocations
    served := successes.map (fun attempt => attempt.candidate.request)
    deferred := pass.deferred ++ collided.map (fun attempt => attempt.candidate.request)
    dropped := pass.dropped
    fairnessIndex := fairnessOf candidates allocations
    utilization := reportedUtilization (allocations.map Allocation.allocatedUnits).sum
      snapshot.totalCapacity }

/-- A call of the random-access scheduler: transmit in the order of ids, then settle. -/
def schedule (candidates : List ScheduleCandidate) (snapshot : ConstellationSnapshot) (step : ℤ)
    (rng : Rng) : Option (SchedulingResult × Rng) := do
  let (pass, rng) ← transmit config fuel snapshot.beams (unitsByBeam config snapshot.beams) step
    (byRequestId candidates) rng
  pure (settle config candidates snapshot pass, rng)

/-- A late candidate is dropped; any other makes its attempt before the candidates after it,
and transmits or waits. -/
theorem transmit_cons (beams : List Beam) (units : Dict String ℚ) (step : ℤ)
    (candidate : ScheduleCandidate) (rest : List ScheduleCandidate) (rng final : Rng)
    (pass : Transmissions)
    (returned : transmit config fuel beams units step (candidate :: rest) rng =
      some (pass, final)) :
    (candidate.request.isExpired step = true ∧ ∃ later,
        transmit config fuel beams units step rest rng = some (later, final) ∧
          pass = { later with dropped := ⟨candidate.request, .deadlineMissed⟩ :: later.dropped }) ∨
      (candidate.request.isExpired step = false ∧ ∃ tried middle later,
        attempt config fuel beams units candidate rng = some (tried, middle) ∧
          transmit config fuel beams units step rest middle = some (later, final) ∧
          ((tried = none ∧ pass = { later with deferred := candidate.request :: later.deferred }) ∨
            ∃ made, tried = some made ∧
              pass = { later with attempts := made :: later.attempts })) := by
  by_cases expired : candidate.request.isExpired step = true
  · simp only [transmit, expired, ↓reduceIte, Option.bind_eq_bind, Option.bind_eq_some_iff,
      Option.pure_def, Option.some.injEq, Prod.mk.injEq, Prod.exists] at returned
    obtain ⟨later, _, completed, rfl, rfl⟩ := returned
    exact Or.inl ⟨expired, later, completed, rfl⟩
  · simp only [transmit, expired, Bool.false_eq_true, ↓reduceIte, Option.bind_eq_bind,
      Option.bind_eq_some_iff, Prod.exists] at returned
    obtain ⟨tried, middle, attempted, later, _, completed, returned⟩ := returned
    refine Or.inr ⟨Bool.eq_false_iff.mpr expired, tried, middle, later, attempted, ?_⟩
    cases tried with
    | none =>
      obtain ⟨rfl, rfl⟩ := Prod.mk.inj (Option.some.inj returned)
      exact ⟨completed, Or.inl ⟨rfl, rfl⟩⟩
    | some made =>
      obtain ⟨rfl, rfl⟩ := Prod.mk.inj (Option.some.inj returned)
      exact ⟨completed, Or.inr ⟨made, rfl, rfl⟩⟩

/-- A call that returns settles a first pass that returned. -/
theorem schedule_eq_some (candidates : List ScheduleCandidate) (snapshot : ConstellationSnapshot)
    (step : ℤ) (rng final : Rng) (result : SchedulingResult) :
    schedule config fuel candidates snapshot step rng = some (result, final) ↔
      ∃ pass, transmit config fuel snapshot.beams (unitsByBeam config snapshot.beams) step
          (byRequestId candidates) rng = some (pass, final) ∧
        settle config candidates snapshot pass = result := by
  simp only [schedule, Option.bind_eq_bind, Option.bind_eq_some_iff, Option.pure_def,
    Option.some.injEq, Prod.mk.injEq, Prod.exists]
  constructor
  · rintro ⟨pass, _, transmitted, settled, rfl⟩
    exact ⟨pass, transmitted, settled⟩
  · rintro ⟨pass, transmitted, settled⟩
    exact ⟨pass, final, transmitted, settled, rfl⟩

/-- What holds of every attempt made holds of every transmission of a pass. Properties of single
attempts are lifted by it. -/
theorem transmit_attempts (beams : List Beam) (units : Dict String ℚ) (step : ℤ)
    (property : Attempt → Prop)
    (each : ∀ candidate rng made final,
      attempt config fuel beams units candidate rng = some (some made, final) → property made)
    (candidates : List ScheduleCandidate) (rng final : Rng) (pass : Transmissions)
    (returned : transmit config fuel beams units step candidates rng = some (pass, final)) :
    ∀ made ∈ pass.attempts, property made := by
  induction candidates generalizing rng pass with
  | nil =>
    simp only [transmit, Option.some.injEq, Prod.mk.injEq] at returned
    simp [← returned.1]
  | cons candidate rest inductionHypothesis =>
    rcases transmit_cons config fuel beams units step candidate rest rng final pass returned with
      ⟨_, later, completed, rfl⟩ | ⟨_, tried, middle, later, attempted, completed,
        ⟨rfl, rfl⟩ | ⟨made, rfl, rfl⟩⟩
    · exact inductionHypothesis rng later completed
    · exact inductionHypothesis middle later completed
    · exact List.forall_mem_cons.mpr ⟨each candidate rng made middle attempted,
        inductionHypothesis middle later completed⟩

/-- The sampling loop returns distinct blocks of the grid, and no more than asked. -/
theorem sampleLoop_spec (k : ℤ) (fuel : ℕ) (chosen rbs : List ℤ) (rng final : Rng)
    (returned : sampleLoop config k fuel chosen rng = some (rbs, final))
    (distinct : chosen.Nodup) (inside : ∀ rb ∈ chosen, 0 ≤ rb ∧ rb < config.resourceBlocksPerBeam)
    (few : (chosen.length : ℤ) ≤ k) :
    rbs.Nodup ∧ (∀ rb ∈ rbs, 0 ≤ rb ∧ rb < config.resourceBlocksPerBeam) ∧
      (rbs.length : ℤ) ≤ k := by
  induction fuel generalizing chosen rng with
  | zero => simp [sampleLoop] at returned
  | succ fuel inductionHypothesis =>
    by_cases short : (chosen.length : ℤ) < k
    · rw [sampleLoop, if_pos short] at returned
      have drawn := rng.randint_mem 0 (config.resourceBlocksPerBeam - 1) (blocks_range config)
      apply inductionHypothesis _ _ returned
      · split
        · exact distinct
        · rename_i fresh
          exact List.nodup_cons.mpr ⟨fresh, distinct⟩
      · intro rb member
        split at member
        · exact inside rb member
        · rcases List.mem_cons.mp member with rfl | earlier
          · exact ⟨drawn.1, Int.lt_of_le_sub_one drawn.2⟩
          · exact inside rb earlier
      · split
        · exact few
        · simp only [List.length_cons]
          omega
    · rw [sampleLoop, if_neg short, Option.some.injEq, Prod.mk.injEq] at returned
      obtain ⟨rfl, _⟩ := returned
      exact ⟨distinct, inside, few⟩

/-- What every transmission satisfies: it is on a beam of the snapshot in the request's region,
its blocks are distinct cells of the grid, and together they are worth no more than a legal
airtime cap. -/
structure Sound (beams : List Beam) (units : Dict String ℚ) (attempt : Attempt) : Prop where
  shown : attempt.beam ∈ beams
  located : attempt.beam.region = attempt.candidate.request.region
  distinct : attempt.rbs.Nodup
  inside : ∀ rb ∈ attempt.rbs, 0 ≤ rb ∧ rb < config.resourceBlocksPerBeam
  valuable : 0 < units.getD attempt.beam.beamId 0
  legal : ∃ cap, attempt.candidate.Legal attempt.beam.fleet attempt.beam.band cap ∧
    ∀ limit ∈ cap, attempt.rbs.length * units.getD attempt.beam.beamId 0 ≤ limit

/-- A positive number of blocks is within the airtime cap of an option for the beam. -/
theorem rbsFor_legal (candidate : ScheduleCandidate) (beam : Beam) (worth : ℚ)
    (covered : eligible candidate beam = true)
    (positive : 0 < (rbsFor config candidate beam worth).1) :
    ∃ cap, candidate.Legal beam.fleet beam.band cap ∧
      (rbsFor config candidate beam worth).1 ≤
        regulatoryCapRbs cap worth config.resourceBlocksPerBeam := by
  simp only [eligible, Bool.and_eq_true, decide_eq_true_eq, List.any_eq_true] at covered
  obtain ⟨_, some_option⟩ := covered
  obtain ⟨option, found⟩ := Option.isSome_iff_exists.mp (List.find?_isSome.mpr some_option)
  have named : option.fleet = beam.fleet ∧ option.band = beam.band := by
    simpa [matchesOption] using List.find?_some found
  refine ⟨option.constraints.maxAirtimeUnits,
    ⟨option, List.mem_of_find?_eq_some found, named.1, named.2, rfl⟩, ?_⟩
  simp only [rbsFor, found, Option.bind_some] at positive ⊢
  split at positive
  · rename_i whole
    rw [if_pos whole]
    exact whole.trans (by omega)
  · rename_i short
    rw [if_neg short]
    split at positive
    · rename_i floored
      rw [if_pos floored]
      omega
    · simp at positive

/-- The beam picked is one of those offered. -/
theorem pickBeam_mem (rng : Rng) (first : Beam) (rest : List Beam) :
    (pickBeam rng first rest).1 ∈ first :: rest := by
  simp only [pickBeam, List.getD_eq_getElem?_getD]
  generalize (rng.randint 0 ((first :: rest).length - 1) (by simp)).1.toNat = index
  cases read : (first :: rest)[index]? with
  | none => simp
  | some beam => exact List.mem_of_getElem? read

/-- Every attempt is sound and belongs to its candidate. -/
theorem attempt_sound (beams : List Beam) (units : Dict String ℚ) (candidate : ScheduleCandidate)
    (rng final : Rng) (made : Attempt)
    (tried : attempt config fuel beams units candidate rng = some (some made, final)) :
    made.candidate = candidate ∧ Sound config beams units made := by
  unfold attempt at tried
  split at tried
  · simp at tried
  rename_i first rest offers
  have picked := offers ▸ pickBeam_mem rng first rest
  obtain ⟨shown, covered⟩ := List.mem_filter.mp picked
  generalize chosen : (pickBeam rng first rest).1 = beam at shown covered tried
  have located : beam.region = candidate.request.region := by
    simp only [eligible, Bool.and_eq_true, decide_eq_true_eq] at covered
    exact covered.1
  simp only [chosen] at tried
  split at tried
  · simp at tried
  rename_i positive
  have positive := not_le.mp positive
  simp only [Option.bind_eq_bind, Option.bind_eq_some_iff, Option.pure_def, Option.some.injEq,
    Prod.mk.injEq, Prod.exists] at tried
  obtain ⟨rbs, _, sampled, rfl, _⟩ := tried
  have grid := config.resourceBlocksPerBeam_pos
  obtain ⟨distinct, inside, few⟩ := sampleLoop_spec config _ fuel [] rbs _ _ sampled
    List.nodup_nil (by simp) (by simp; omega)
  obtain ⟨cap, legal, within⟩ := rbsFor_legal config candidate beam _ covered positive
  obtain ⟨valuable, worth⟩ := regulatoryCap_worth cap _ _ _ positive within
  refine ⟨rfl, shown, located, distinct, inside, valuable, cap, legal, ?_⟩
  intro limit limited
  refine le_trans ?_ (worth limit limited)
  have fewer : ((rbs.length : ℤ) : ℚ) ≤
      (rbsFor config candidate beam (units.getD beam.beamId 0)).1 := by
    exact_mod_cast few.trans (min_le_left _ _)
  exact mul_le_mul_of_nonneg_right (by simpa using fewer) valuable.le

/-- What the first pass establishes: each candidate transmits, waits or is dropped as late, and
every transmission is sound. The three lemmas below extend it by one candidate. -/
structure Passed (beams : List Beam) (units : Dict String ℚ) (step : ℤ)
    (candidates : List ScheduleCandidate) (pass : Transmissions) : Prop where
  partition : (pass.attempts.map (fun attempt => attempt.candidate.request) ++ pass.deferred ++
    pass.dropped.map RejectedRequest.request).Perm (candidates.map ScheduleCandidate.request)
  late : ∀ item ∈ pass.dropped, item.reason = .deadlineMissed ∧ item.request.deadlineStep < step
  waiting : ∀ request ∈ pass.deferred, step ≤ request.deadlineStep
  timely : ∀ attempt ∈ pass.attempts, attempt.candidate ∈ candidates ∧
    step ≤ attempt.candidate.request.deadlineStep
  sound : ∀ attempt ∈ pass.attempts, Sound config beams units attempt

/-- A late candidate joins the drops. -/
theorem Passed.drop {beams : List Beam} {units : Dict String ℚ} {step : ℤ}
    {candidates : List ScheduleCandidate} {pass : Transmissions}
    (passed : Passed config beams units step candidates pass) (candidate : ScheduleCandidate)
    (expired : candidate.request.deadlineStep < step) :
    Passed config beams units step (candidate :: candidates)
      { pass with dropped := ⟨candidate.request, .deadlineMissed⟩ :: pass.dropped } where
  partition := by
    simp only [List.map_cons]
    exact List.perm_middle.trans (passed.partition.cons _)
  late := by
    intro item member
    rcases List.mem_cons.mp member with rfl | earlier
    · exact ⟨rfl, expired⟩
    · exact passed.late item earlier
  waiting := passed.waiting
  timely attempt member := (passed.timely attempt member).imp (List.mem_cons_of_mem _) id
  sound := passed.sound

/-- A candidate that does not transmit waits. -/
theorem Passed.defer {beams : List Beam} {units : Dict String ℚ} {step : ℤ}
    {candidates : List ScheduleCandidate} {pass : Transmissions}
    (passed : Passed config beams units step candidates pass) (candidate : ScheduleCandidate)
    (timely : step ≤ candidate.request.deadlineStep) :
    Passed config beams units step (candidate :: candidates)
      { pass with deferred := candidate.request :: pass.deferred } where
  partition := by
    simp only [List.map_cons, List.append_assoc, List.cons_append]
    refine List.perm_middle.trans (List.Perm.cons _ ?_)
    simpa only [List.append_assoc] using passed.partition
  late := passed.late
  waiting := by
    intro request member
    rcases List.mem_cons.mp member with rfl | earlier
    · exact timely
    · exact passed.waiting request earlier
  timely attempt member := (passed.timely attempt member).imp (List.mem_cons_of_mem _) id
  sound := passed.sound

/-- A candidate with a sound attempt transmits. -/
theorem Passed.send {beams : List Beam} {units : Dict String ℚ} {step : ℤ}
    {candidates : List ScheduleCandidate} {pass : Transmissions}
    (passed : Passed config beams units step candidates pass) (made : Attempt)
    (timely : step ≤ made.candidate.request.deadlineStep)
    (sound : Sound config beams units made) :
    Passed config beams units step (made.candidate :: candidates)
      { pass with attempts := made :: pass.attempts } where
  partition := by
    simp only [List.map_cons, List.cons_append]
    exact passed.partition.cons _
  late := passed.late
  waiting := passed.waiting
  timely := by
    intro attempt member
    rcases List.mem_cons.mp member with rfl | earlier
    · exact ⟨List.mem_cons_self, timely⟩
    · exact (passed.timely attempt earlier).imp (List.mem_cons_of_mem _) id
  sound := by
    intro attempt member
    rcases List.mem_cons.mp member with rfl | earlier
    · exact sound
    · exact passed.sound attempt earlier

/-- A first pass that returns has sorted every candidate. A pass whose sampling does not end has
no outcome to speak of. -/
theorem transmit_passed (beams : List Beam) (units : Dict String ℚ) (step : ℤ)
    (candidates : List ScheduleCandidate) (rng final : Rng) (pass : Transmissions)
    (returned : transmit config fuel beams units step candidates rng = some (pass, final)) :
    Passed config beams units step candidates pass := by
  induction candidates generalizing rng pass with
  | nil =>
    simp only [transmit, Option.some.injEq, Prod.mk.injEq] at returned
    obtain ⟨rfl, _⟩ := returned
    exact ⟨by simp, by simp, by simp, by simp, by simp⟩
  | cons candidate rest inductionHypothesis =>
    rcases transmit_cons config fuel beams units step candidate rest rng final pass returned with
      ⟨expired, later, completed, rfl⟩ | ⟨waits, tried, middle, later, attempted, completed,
        ⟨rfl, rfl⟩ | ⟨made, rfl, rfl⟩⟩
    · exact (inductionHypothesis rng later completed).drop config candidate
        ((candidate.request.isExpired_iff step).mp expired)
    · exact (inductionHypothesis middle later completed).defer config candidate
        ((candidate.request.not_isExpired_iff step).mp waits)
    · obtain ⟨rfl, sound⟩ :=
        attempt_sound config fuel beams units candidate rng middle made attempted
      exact (inductionHypothesis middle later completed).send config made
        ((made.candidate.request.not_isExpired_iff step).mp waits) sound

/-- Splitting a block never makes a part larger than the block. -/
theorem sharedUnits_le (units : Dict String ℚ) (occupied : Dict (String × ℤ) ℕ) (attempt : Attempt)
    (nonneg : 0 ≤ units.getD attempt.beam.beamId 0) :
    sharedUnits units occupied attempt ≤
      attempt.rbs.length * units.getD attempt.beam.beamId 0 := by
  have parts := List.sum_le_card_nsmul (attempt.rbs.map (fun rb =>
    units.getD attempt.beam.beamId 0 / (occupied.getD (attempt.beam.beamId, rb) 0 : ℕ)))
    (units.getD attempt.beam.beamId 0) ?_
  · simpa [sharedUnits] using parts
  · intro part member
    obtain ⟨rb, _, rfl⟩ := List.mem_map.mp member
    cases Nat.eq_zero_or_pos (occupied.getD (attempt.beam.beamId, rb) 0) with
    | inl vacant =>
      simpa [vacant] using nonneg
    | inr positive =>
      exact div_le_self nonneg (by exact_mod_cast positive)

/-- A recovered transmission is granted lawfully. -/
theorem grant_fits (beams : List Beam) (units : Dict String ℚ) (occupied : Dict (String × ℤ) ℕ)
    (attempt : Attempt) (sound : Sound config beams units attempt) :
    Fits beams attempt.candidate.Legal attempt.candidate.request
      (grant attempt (sharedUnits units occupied attempt)) := by
  obtain ⟨cap, legal, within⟩ := sound.legal
  refine ⟨rfl, attempt.beam, sound.shown, cap, rfl, rfl, rfl, sound.located, legal, ?_⟩
  intro limit limited
  calc sharedUnits units occupied attempt
      ≤ attempt.rbs.length * units.getD attempt.beam.beamId 0 :=
        sharedUnits_le units occupied attempt sound.valuable.le
    _ ≤ limit := within limit limited
    _ ≤ limit + slack := le_add_of_nonneg_right slack_pos.le

/-- Random access meets the contract whenever it returns, on any draws. That it returns is shown
apart, for streams on which the sampling ends. -/
theorem schedule_settles (candidates : List ScheduleCandidate) (snapshot : ConstellationSnapshot)
    (step : ℤ) (rng final : Rng) (result : SchedulingResult)
    (returned : schedule config fuel candidates snapshot step rng = some (result, final)) :
    Settles candidates snapshot step result := by
  obtain ⟨pass, transmitted, rfl⟩ :=
    (schedule_eq_some config fuel candidates snapshot step rng final result).mp returned
  have passed := transmit_passed config fuel snapshot.beams _ step _ rng final pass transmitted
  have ordered : (byRequestId candidates).Perm candidates := List.perm_insertionSort _ _
  have parts := (List.filter_append_perm (recovered config (occupancy pass.attempts))
    pass.attempts).map (fun attempt => attempt.candidate.request)
  rw [List.map_append] at parts
  refine ⟨?_, passed.late, ?_, ?_⟩
  · refine List.Perm.trans ?_ (passed.partition.trans (ordered.map _))
    apply List.Perm.append_right
    apply (List.Perm.append_left _ List.perm_append_comm).trans
    rw [settle, ← List.append_assoc]
    exact parts.append_right _
  · intro request member
    have moved : request ∈ pass.attempts.map (fun attempt => attempt.candidate.request) ∨
        request ∈ pass.deferred := by
      cases List.mem_append.mp member with
      | inl served =>
        exact Or.inl (parts.subset (List.mem_append_left _ served))
      | inr deferred =>
        cases List.mem_append.mp deferred with
        | inl waiting =>
          exact Or.inr waiting
        | inr collided =>
          exact Or.inl (parts.subset (List.mem_append_right _ collided))
    cases moved with
    | inl attempted =>
      obtain ⟨attempt, made, rfl⟩ := List.mem_map.mp attempted
      exact (passed.timely attempt made).2
    | inr waiting =>
      exact passed.waiting request waiting
  · simp only [settle, List.forall₂_map_left_iff, List.forall₂_map_right_iff, List.forall₂_same]
    intro attempt member
    have made := (List.mem_filter.mp member).1
    exact ⟨attempt.candidate, ordered.subset (passed.timely attempt made).1, rfl,
      grant_fits config _ _ _ attempt (passed.sound attempt made)⟩

/-- The cells of the whole constellation a transmission occupies. -/
def cells (attempt : Attempt) : List (String × ℤ) :=
  attempt.rbs.map (fun rb => (attempt.beam.beamId, rb))

/-- The occupancy of a cell counts the transmissions on it. This joins the dictionary the source
tallies to the general accounting of shared cells. -/
theorem occupancy_getD (attempts : List Attempt)
    (distinct : ∀ attempt ∈ attempts, attempt.rbs.Nodup) (cell : String × ℤ) :
    (occupancy attempts).getD cell 0 = Sharing.occupants cells attempts cell := by
  rw [occupancy, Dict.getD_tally]
  induction attempts with
  | nil => rfl
  | cons attempt rest inductionHypothesis =>
    have own : Dict.sumUnder cell (attempt.rbs.map (fun rb => ((attempt.beam.beamId, rb), 1))) =
        (cells attempt).count cell := by
      simp only [cells]
      generalize attempt.rbs = rbs
      induction rbs with
      | nil => rfl
      | cons rb rest inductionHypothesis =>
        simp only [List.map_cons, Dict.sumUnder_cons, inductionHypothesis, List.count_cons,
          beq_iff_eq]
        omega
    have once : (cells attempt).Nodup :=
      (distinct attempt List.mem_cons_self).map (fun left right same => (Prod.mk.inj same).2)
    rw [List.flatMap_cons, Dict.sumUnder_append, own,
      inductionHypothesis (fun other member => distinct other (List.mem_cons_of_mem _ member))]
    by_cases occupied : cell ∈ cells attempt
    · rw [List.count_eq_one_of_mem once occupied]
      simp [Sharing.occupants, occupied, Nat.add_comm]
    · rw [List.count_eq_zero_of_not_mem occupied]
      simp [Sharing.occupants, occupied]

/-- A transmission's units are its even share of the cells it occupies. -/
theorem sharedUnits_eq (units : Dict String ℚ) (attempts : List Attempt)
    (distinct : ∀ attempt ∈ attempts, attempt.rbs.Nodup) (attempt : Attempt) :
    sharedUnits units (occupancy attempts) attempt =
      Sharing.share cells attempts (units.getD attempt.beam.beamId 0) attempt := by
  simp only [sharedUnits, Sharing.share, cells, List.map_map, Function.comp_def,
    occupancy_getD attempts distinct]

/-- With distinct identifiers, a beam's blocks are worth its own capacity's share. -/
theorem unitsByBeam_getD (beams : List Beam) (distinct : (beams.map Beam.beamId).Nodup)
    (beam : Beam) (shown : beam ∈ beams) :
    (unitsByBeam config beams).getD beam.beamId 0 = rbUnits config beam.capacityUnits := by
  have stored : (unitsByBeam config beams).get? beam.beamId =
      some (rbUnits config beam.capacityUnits) := by
    refine Dict.ofPairs_of_mem _ _ _ ?_ (List.mem_map.mpr ⟨beam, shown, rfl⟩)
    simpa [Function.comp_def] using distinct
  simp [Dict.getD, stored]

/-- The recovered transmissions of a pass on one beam. -/
def recoveredOn (attempts : List Attempt) (beamId : String) : List Attempt :=
  (attempts.filter (recovered config (occupancy attempts))).filter
    (fun attempt => decide (attempt.beam.beamId = beamId))

/-- A recovered transmission on a beam was made, and on that beam. -/
theorem mem_recoveredOn (attempts : List Attempt) (beamId : String) (attempt : Attempt)
    (member : attempt ∈ recoveredOn config attempts beamId) :
    attempt ∈ attempts ∧ attempt.beam.beamId = beamId := by
  obtain ⟨listed, own⟩ := List.mem_filter.mp member
  exact ⟨(List.mem_filter.mp listed).1, of_decide_eq_true own⟩

/-- The units granted on a beam are the shares of its recovered transmissions. What was lost is
granted to nobody. -/
theorem settle_unitsOn (candidates : List ScheduleCandidate) (snapshot : ConstellationSnapshot)
    (pass : Transmissions) (once : ∀ attempt ∈ pass.attempts, attempt.rbs.Nodup) (beamId : String) :
    unitsOn beamId (settle config candidates snapshot pass).allocations =
      ((recoveredOn config pass.attempts beamId).map (Sharing.share cells pass.attempts
        ((unitsByBeam config snapshot.beams).getD beamId 0))).sum := by
  have listed : (settle config candidates snapshot pass).allocations.filter
      (fun allocation => decide (allocation.beamId = beamId)) =
        (recoveredOn config pass.attempts beamId).map (fun attempt =>
          grant attempt (sharedUnits (unitsByBeam config snapshot.beams)
            (occupancy pass.attempts) attempt)) := by
    simp only [settle, recoveredOn, List.filter_map, Function.comp_def, grant]
  rw [unitsOn, listed, List.map_map]
  congr 1
  apply List.map_congr_left
  intro attempt member
  obtain ⟨_, own⟩ := mem_recoveredOn config pass.attempts beamId attempt member
  simp only [Function.comp_def, grant, sharedUnits_eq _ pass.attempts once, own]

/-- The cells of one beam's grid, named by the beam and the index. -/
def gridCells (beamId : String) : Finset (String × ℤ) :=
  (Finset.range config.resourceBlocksPerBeam.toNat).image (fun rb : ℕ => (beamId, (rb : ℤ)))

/-- Every index of the grid is a cell. -/
theorem mem_gridCells (beamId : String) (rb : ℤ)
    (inside : 0 ≤ rb ∧ rb < config.resourceBlocksPerBeam) :
    (beamId, rb) ∈ gridCells config beamId := by
  apply Finset.mem_image.mpr
  exact ⟨rb.toNat, Finset.mem_range.mpr (by omega), by rw [Int.toNat_of_nonneg inside.1]⟩

/-- There are no more cells than blocks. -/
theorem gridCells_card (beamId : String) :
    ((gridCells config beamId).card : ℚ) ≤ config.resourceBlocksPerBeam := by
  have counted : (gridCells config beamId).card ≤
      (Finset.range config.resourceBlocksPerBeam.toNat).card := Finset.card_image_le
  rw [Finset.card_range] at counted
  have grid := config.resourceBlocksPerBeam_pos
  have bounded : ((gridCells config beamId).card : ℤ) ≤ config.resourceBlocksPerBeam := by omega
  exact_mod_cast bounded

/-- On distinct beams of nonnegative capacity random access keeps every budget, without any
slack: the occupants of a block share what the block is worth, so a block is never paid out
twice. -/
theorem schedule_within (candidates : List ScheduleCandidate) (snapshot : ConstellationSnapshot)
    (step : ℤ) (rng final : Rng) (result : SchedulingResult)
    (returned : schedule config fuel candidates snapshot step rng = some (result, final))
    (distinct : (snapshot.beams.map Beam.beamId).Nodup)
    (capacities : ∀ beam ∈ snapshot.beams, 0 ≤ beam.capacityUnits) (beam : Beam)
    (shown : beam ∈ snapshot.beams) :
    unitsOn beam.beamId result.allocations ≤ beam.capacityUnits := by
  obtain ⟨pass, transmitted, rfl⟩ :=
    (schedule_eq_some config fuel candidates snapshot step rng final result).mp returned
  have passed := transmit_passed config fuel snapshot.beams _ step _ rng final pass transmitted
  have once := fun attempt member => (passed.sound attempt member).distinct
  have worth := rbUnits_nonneg config _ (capacities beam shown)
  have included : (recoveredOn config pass.attempts beam.beamId).Sublist pass.attempts :=
    List.filter_sublist.trans List.filter_sublist
  have total := Sharing.shares_le cells pass.attempts _ included (gridCells config beam.beamId)
    ?_ ?_ (rbUnits config beam.capacityUnits) worth
  · rw [settle_unitsOn config candidates snapshot pass once,
      unitsByBeam_getD config snapshot.beams distinct beam shown]
    calc _ ≤ _ := total
      _ ≤ config.resourceBlocksPerBeam * rbUnits config beam.capacityUnits :=
        mul_le_mul_of_nonneg_right (gridCells_card config beam.beamId) worth
      _ = beam.capacityUnits := rbUnits_total config beam.capacityUnits
  · intro attempt member
    exact (once attempt (included.subset member)).map
      (fun left right same => (Prod.mk.inj same).2)
  · intro attempt member cell occupied
    obtain ⟨made, own⟩ := mem_recoveredOn config pass.attempts beam.beamId attempt member
    obtain ⟨rb, listed, rfl⟩ := List.mem_map.mp occupied
    rw [own]
    exact mem_gridCells config beam.beamId rb ((passed.sound attempt made).inside rb listed)

/-- So it keeps every budget with the slack that the loop allows. -/
theorem schedule_fitting (candidates : List ScheduleCandidate) (snapshot : ConstellationSnapshot)
    (step : ℤ) (rng final : Rng) (result : SchedulingResult)
    (returned : schedule config fuel candidates snapshot step rng = some (result, final))
    (distinct : (snapshot.beams.map Beam.beamId).Nodup)
    (capacities : ∀ beam ∈ snapshot.beams, 0 ≤ beam.capacityUnits) :
    Fitting snapshot result := fun beam shown =>
  (schedule_within config fuel candidates snapshot step rng final result returned distinct
    capacities beam shown).trans (le_add_of_nonneg_right slack_pos.le)

end ContentionMacScheduler

end Satsim
