import Satsim.Mac.Contention

/-!
# Collisions and capture

Who transmits, where, and on how many blocks is drawn in a first pass that does not know the
capture capacity; the second pass keeps a transmission when none of its blocks carries more
than that many. So a larger capacity only recovers more, and what is recovered shares the
airtime of each block it occupies with everyone who transmitted there.

Collision safety is stated of the transmissions a call made, which its result does not
show. They are recovered as the outcome of the first pass on the same stream.
-/

namespace Satsim

open Library

/-- The same grid with another capture capacity. -/
def MacConfig.withCapture (config : MacConfig) (capacity : ℤ) (positive : 1 ≤ capacity) :
    MacConfig :=
  { config with captureCapacity := capacity, capturePositive := positive }

namespace ContentionMacScheduler

variable (config : MacConfig) (fuel : ℕ)

section Capture

variable (capacity : ℤ) (positive : 1 ≤ capacity)

/-- The sampled blocks do not depend on the capture capacity, which the loop never reads. -/
theorem sampleLoop_withCapture (k : ℤ) (chosen : List ℤ) (rng : Rng) :
    sampleLoop (config.withCapture capacity positive) k fuel chosen rng =
      sampleLoop config k fuel chosen rng := by
  induction fuel generalizing chosen rng with
  | zero => rfl
  | succ fuel inductionHypothesis =>
    rw [sampleLoop, sampleLoop]
    simp only [inductionHypothesis]
    rfl

/-- One attempt depends on the capture capacity neither in its draws nor in its blocks. -/
theorem attempt_withCapture (beams : List Beam) (units : Dict String ℚ)
    (candidate : ScheduleCandidate) (rng : Rng) :
    attempt (config.withCapture capacity positive) fuel beams units candidate rng =
      attempt config fuel beams units candidate rng := by
  unfold attempt sampleRbs
  simp only [sampleLoop_withCapture]
  rfl

/-- The first pass does not depend on the capture capacity: the same candidates transmit on the
same blocks. -/
theorem transmit_withCapture (beams : List Beam) (units : Dict String ℚ) (step : ℤ)
    (candidates : List ScheduleCandidate) (rng : Rng) :
    transmit (config.withCapture capacity positive) fuel beams units step candidates rng =
      transmit config fuel beams units step candidates rng := by
  induction candidates generalizing rng with
  | nil => rfl
  | cons candidate rest inductionHypothesis =>
    simp only [transmit, attempt_withCapture, inductionHypothesis]

/-- What a capacity recovers, a larger one recovers. The occupancy is the same, since it counts
every transmission. -/
theorem recovered_withCapture (more : config.captureCapacity ≤ capacity)
    (occupied : Dict (String × ℤ) ℕ) (attempt : Attempt)
    (kept : recovered config occupied attempt = true) :
    recovered (config.withCapture capacity positive) occupied attempt = true := by
  simp only [recovered, List.all_eq_true, decide_eq_true_eq] at kept ⊢
  intro rb member
  exact (kept rb member).trans more

/-- Capture only helps. Under a larger capture capacity the same run returns, leaves the
generator as it was left, drops the same requests, serves with the same grant whatever was
served, and defers nothing else than was deferred. -/
theorem capture_helps (more : config.captureCapacity ≤ capacity)
    (candidates : List ScheduleCandidate) (snapshot : ConstellationSnapshot) (step : ℤ)
    (rng : Rng) :
    ((schedule config fuel candidates snapshot step rng).isSome ↔
      (schedule (config.withCapture capacity positive) fuel candidates snapshot step rng).isSome) ∧
    ∀ less final helped final',
      schedule config fuel candidates snapshot step rng = some (less, final) →
      schedule (config.withCapture capacity positive) fuel candidates snapshot step rng =
        some (helped, final') →
      (less.served.zip less.allocations).Sublist (helped.served.zip helped.allocations) ∧
        less.served.Sublist helped.served ∧ helped.deferred.Sublist less.deferred ∧
        less.dropped = helped.dropped ∧ final = final' := by
  have units : unitsByBeam (config.withCapture capacity positive) snapshot.beams =
      unitsByBeam config snapshot.beams := rfl
  simp only [schedule, units, transmit_withCapture]
  cases transmitted : transmit config fuel snapshot.beams (unitsByBeam config snapshot.beams) step
      (byRequestId candidates) rng with
  | none => simp
  | some passed =>
    obtain ⟨pass, after⟩ := passed
    refine ⟨by simp, ?_⟩
    rintro less final helped final' first second
    obtain ⟨rfl, rfl⟩ := Prod.mk.inj (Option.some.inj first)
    obtain ⟨rfl, rfl⟩ := Prod.mk.inj (Option.some.inj second)
    have recovers := recovered_withCapture config capacity positive more (occupancy pass.attempts)
    have kept := List.monotone_filter_right pass.attempts recovers
    refine ⟨?_, kept.map _, ?_, rfl, rfl⟩
    · simp only [settle, units, List.zip_map']
      exact kept.map _
    · apply List.Sublist.append_left
      apply List.Sublist.map
      apply List.monotone_filter_right
      intro attempt lost
      simp only [Bool.not_eq_true'] at lost ⊢
      exact Bool.eq_false_iff.mpr
        (fun recovered => Bool.false_ne_true (lost.symm.trans (recovers attempt recovered)))

end Capture

/-- A candidate whose payload takes every block of a grid. -/
def rival (requestId : String) : ScheduleCandidate where
  request := { smallRequest requestId .photo 5 with sizeBytes := 81920 }
  options := [⟨.legacyLeo, .ku, {}⟩]
  scoring := ⟨1 / 2, 1, 1⟩

/-- The two rivals' sampling ends on this stream. -/
theorem rivals_return :
    (schedule {} 41 [rival "a", rival "b"] oneBeam 0 countingRng).isSome = true := by
  decide +kernel

/-- It ends under the larger capacity too, on the same draws. -/
theorem rivals_return_captured : (schedule (MacConfig.withCapture {} 2 one_le_two) 41
    [rival "a", rival "b"] oneBeam 0 countingRng).isSome = true := by
  decide +kernel

/-- Two rivals defer one another under a capacity of one, and share their blocks under two. -/
theorem capture_helps_rivals : ∃ less final helped final',
    schedule {} 41 [rival "a", rival "b"] oneBeam 0 countingRng = some (less, final) ∧
      schedule (MacConfig.withCapture {} 2 one_le_two) 41 [rival "a", rival "b"] oneBeam 0
        countingRng = some (helped, final') ∧
      less.served = [] ∧ helped.served.length = 2 ∧
      helped.deferred.Sublist less.deferred ∧ final = final' := by
  obtain ⟨_, helps⟩ := capture_helps {} 41 2 one_le_two one_le_two [rival "a", rival "b"]
    oneBeam 0 countingRng
  obtain ⟨_, _, deferred, _, same⟩ := helps _ _ _ _ (Option.some_get rivals_return).symm
    (Option.some_get rivals_return_captured).symm
  exact ⟨_, _, _, _, (Option.some_get rivals_return).symm,
    (Option.some_get rivals_return_captured).symm, by decide +kernel, by decide +kernel,
    deferred, same⟩

/-- The transmissions whose request is served. -/
def servedOf (attempts : List Attempt) (result : SchedulingResult) : List Attempt :=
  attempts.filter (fun attempt => decide (attempt.candidate.request ∈ result.served))

/-- What a transmission takes from a cell of its beam: its part of the block's airtime. -/
def airtimeFrom (worth : ℚ) (attempts : List Attempt) (cell : String × ℤ) (attempt : Attempt) : ℚ :=
  Sharing.fromCell cells attempts worth cell attempt

/-- Collision safety of a result, for the transmissions it was settled from. The fields speak of
blocks by beam identifier and index, as the occupancy of the source does. -/
structure CollisionSafe (snapshot : ConstellationSnapshot) (attempts : List Attempt)
    (result : SchedulingResult) : Prop where
  attempted : ∀ request ∈ result.served, ∃ attempt ∈ attempts, attempt.candidate.request = request
  served_iff : ∀ attempt ∈ attempts, attempt.candidate.request ∈ result.served ↔
    ∀ rb ∈ attempt.rbs,
      (Sharing.occupants cells attempts (attempt.beam.beamId, rb) : ℤ) ≤ config.captureCapacity
  carried : ∀ cell, (Sharing.occupants cells (servedOf attempts result) cell : ℤ) ≤
    config.captureCapacity
  disjoint : config.captureCapacity = 1 → ∀ first ∈ servedOf attempts result,
    ∀ second ∈ servedOf attempts result,
      first.candidate.request ≠ second.candidate.request →
      first.beam.beamId = second.beam.beamId → first.rbs.Disjoint second.rbs
  taken : ∀ attempt ∈ servedOf attempts result, ∃ allocation ∈ result.allocations,
    allocation.requestId = attempt.candidate.request.requestId ∧
      allocation.beamId = attempt.beam.beamId ∧
      allocation.allocatedUnits = ((cells attempt).map (fun cell =>
        airtimeFrom (rbUnits config attempt.beam.capacityUnits) attempts cell attempt)).sum
  airtime : ∀ beam ∈ snapshot.beams, ∀ rb,
    (∃ attempt ∈ attempts, (beam.beamId, rb) ∈ cells attempt) →
    ((servedOf attempts result).map (airtimeFrom (rbUnits config beam.capacityUnits) attempts
        (beam.beamId, rb))).sum ≤ rbUnits config beam.capacityUnits ∧
      (((servedOf attempts result).map (airtimeFrom (rbUnits config beam.capacityUnits) attempts
          (beam.beamId, rb))).sum = rbUnits config beam.capacityUnits ↔
        ∀ attempt ∈ attempts, (beam.beamId, rb) ∈ cells attempt →
          attempt.candidate.request ∈ result.served)

section Safety

variable (candidates : List ScheduleCandidate) (snapshot : ConstellationSnapshot) (step : ℤ)
  (pass : Transmissions)
  (passed : Passed config snapshot.beams (unitsByBeam config snapshot.beams) step
    (byRequestId candidates) pass)
  (distinct : (candidates.map (fun candidate => candidate.request.requestId)).Nodup)
include passed distinct

/-- With distinct ids no two transmissions are of one request, since each candidate transmits
once at most. -/
theorem attempts_distinct :
    (pass.attempts.map (fun attempt => attempt.candidate.request)).Nodup := by
  have ordered : (byRequestId candidates).Perm candidates := List.perm_insertionSort _ _
  have requests : ((byRequestId candidates).map ScheduleCandidate.request).Nodup := by
    apply List.Nodup.of_map ServiceRequest.requestId
    rw [List.map_map]
    exact (ordered.map _).nodup_iff.mpr distinct
  have every := passed.partition.nodup_iff.mpr requests
  rw [List.append_assoc] at every
  exact every.of_append_left

/-- A transmission's request is served exactly when the transmission is recovered. Distinct ids
let the request stand for its transmission. -/
theorem settle_served_iff (attempt : Attempt) (made : attempt ∈ pass.attempts) :
    attempt.candidate.request ∈ (settle config candidates snapshot pass).served ↔
      recovered config (occupancy pass.attempts) attempt = true := by
  have apart := attempts_distinct config candidates snapshot step pass passed distinct
  simp only [settle, List.mem_map, List.mem_filter]
  constructor
  · rintro ⟨other, ⟨listed, kept⟩, same⟩
    obtain rfl := List.inj_on_of_nodup_map apart listed made same
    exact kept
  · intro kept
    exact ⟨attempt, ⟨made, kept⟩, rfl⟩

/-- What is served is what is recovered. -/
theorem servedOf_settle : servedOf pass.attempts (settle config candidates snapshot pass) =
    pass.attempts.filter (recovered config (occupancy pass.attempts)) := by
  apply List.filter_congr
  intro attempt made
  rw [Bool.eq_iff_iff, decide_eq_true_eq]
  exact settle_served_iff config candidates snapshot step pass passed distinct attempt made

omit distinct in
/-- A transmission is recovered when the cells it occupies are within the capacity. The
occupants are counted by the library, the dictionary of the source agrees. -/
theorem recovered_iff (attempt : Attempt) :
    recovered config (occupancy pass.attempts) attempt = true ↔ ∀ rb ∈ attempt.rbs,
      (Sharing.occupants cells pass.attempts (attempt.beam.beamId, rb) : ℤ) ≤
        config.captureCapacity := by
  have once := fun attempt member => (passed.sound attempt member).distinct
  simp only [recovered, List.all_eq_true, decide_eq_true_eq, occupancy_getD pass.attempts once]

/-- A served transmission was made, and its cells are within the capacity. -/
theorem mem_servedOf (attempt : Attempt)
    (member : attempt ∈ servedOf pass.attempts (settle config candidates snapshot pass)) :
    attempt ∈ pass.attempts ∧ ∀ cell ∈ cells attempt,
      (Sharing.occupants cells pass.attempts cell : ℤ) ≤ config.captureCapacity := by
  rw [servedOf_settle config candidates snapshot step pass passed distinct] at member
  obtain ⟨made, kept⟩ := List.mem_filter.mp member
  refine ⟨made, ?_⟩
  intro cell occupied
  obtain ⟨rb, listed, rfl⟩ := List.mem_map.mp occupied
  exact (recovered_iff config candidates snapshot step pass passed attempt).mp kept rb listed

/-- No cell carries more served requests than the capacity, since it carries no more
transmissions either. -/
theorem servedOf_carried (cell : String × ℤ) :
    (Sharing.occupants cells (servedOf pass.attempts (settle config candidates snapshot pass))
      cell : ℤ) ≤ config.captureCapacity := by
  have fewer := Sharing.occupants_le cells pass.attempts
    (servedOf pass.attempts (settle config candidates snapshot pass)) List.filter_sublist cell
  cases Nat.eq_zero_or_pos (Sharing.occupants cells
      (servedOf pass.attempts (settle config candidates snapshot pass)) cell) with
  | inl vacant =>
    rw [vacant]
    exact zero_le_one.trans config.capturePositive
  | inr occupied =>
    obtain ⟨attempt, served, here⟩ := Sharing.exists_occupant _ _ _ occupied
    have bounded := (mem_servedOf config candidates snapshot step pass passed distinct attempt
      served).2 cell here
    omega

/-- Under a capacity of one, served requests on one beam occupy different blocks, which is
slotted access without capture. -/
theorem servedOf_disjoint (sole : config.captureCapacity = 1) (first second : Attempt)
    (firstServed : first ∈ servedOf pass.attempts (settle config candidates snapshot pass))
    (secondServed : second ∈ servedOf pass.attempts (settle config candidates snapshot pass))
    (apart : first.candidate.request ≠ second.candidate.request)
    (together : first.beam.beamId = second.beam.beamId) : first.rbs.Disjoint second.rbs := by
  intro rb firstUses secondUses
  have firstCell : (first.beam.beamId, rb) ∈ cells first := List.mem_map.mpr ⟨rb, firstUses, rfl⟩
  have secondCell : (first.beam.beamId, rb) ∈ cells second :=
    List.mem_map.mpr ⟨rb, secondUses, by rw [together]⟩
  obtain ⟨firstMade, within⟩ := mem_servedOf config candidates snapshot step pass passed distinct
    first firstServed
  obtain ⟨secondMade, _⟩ := mem_servedOf config candidates snapshot step pass passed distinct
    second secondServed
  have alone : Sharing.occupants cells pass.attempts (first.beam.beamId, rb) ≤ 1 := by
    have bounded := within _ firstCell
    omega
  have same := Sharing.sole_occupant cells pass.attempts _ alone first second firstMade secondMade
    firstCell secondCell
  exact apart (congrArg (fun attempt => attempt.candidate.request) same)

variable (beamsDistinct : (snapshot.beams.map Beam.beamId).Nodup)
include beamsDistinct

/-- A served request is granted what it takes from the cells it occupies. -/
theorem servedOf_taken (attempt : Attempt)
    (member : attempt ∈ servedOf pass.attempts (settle config candidates snapshot pass)) :
    ∃ allocation ∈ (settle config candidates snapshot pass).allocations,
      allocation.requestId = attempt.candidate.request.requestId ∧
        allocation.beamId = attempt.beam.beamId ∧
        allocation.allocatedUnits = ((cells attempt).map (fun cell =>
          airtimeFrom (rbUnits config attempt.beam.capacityUnits) pass.attempts cell
            attempt)).sum := by
  rw [servedOf_settle config candidates snapshot step pass passed distinct] at member
  have made := (List.mem_filter.mp member).1
  have sound := passed.sound attempt made
  have once := fun attempt member => (passed.sound attempt member).distinct
  refine ⟨_, List.mem_map.mpr ⟨attempt, member, rfl⟩, rfl, rfl, ?_⟩
  change sharedUnits _ _ attempt = _
  rw [sharedUnits_eq _ pass.attempts once,
    unitsByBeam_getD config snapshot.beams beamsDistinct attempt.beam sound.shown,
    Sharing.share_eq_fromCell]
  rfl

omit distinct in
/-- The airtime of a block that was drawn goes to served requests at most once, and wholly
exactly when every transmission on the block was served. -/
theorem servedOf_airtime (beam : Beam) (shown : beam ∈ snapshot.beams) (rb : ℤ)
    (drawn : ∃ attempt ∈ pass.attempts, (beam.beamId, rb) ∈ cells attempt) :
    ((servedOf pass.attempts (settle config candidates snapshot pass)).map
        (airtimeFrom (rbUnits config beam.capacityUnits) pass.attempts (beam.beamId, rb))).sum ≤
        rbUnits config beam.capacityUnits ∧
      (((servedOf pass.attempts (settle config candidates snapshot pass)).map
          (airtimeFrom (rbUnits config beam.capacityUnits) pass.attempts (beam.beamId, rb))).sum =
          rbUnits config beam.capacityUnits ↔
        ∀ attempt ∈ pass.attempts, (beam.beamId, rb) ∈ cells attempt →
          attempt.candidate.request ∈ (settle config candidates snapshot pass).served) := by
  obtain ⟨attempt, made, occupies⟩ := drawn
  have worth := unitsByBeam_getD config snapshot.beams beamsDistinct beam shown
  have valuable : 0 < rbUnits config beam.capacityUnits := by
    obtain ⟨_, _, same⟩ := List.mem_map.mp occupies
    have own : attempt.beam.beamId = beam.beamId := congrArg Prod.fst same
    rw [← worth, ← own]
    exact (passed.sound attempt made).valuable
  have paid := Sharing.paid_from_cell cells pass.attempts
    (fun attempt => decide (attempt.candidate.request ∈
      (settle config candidates snapshot pass).served)) (beam.beamId, rb) attempt made occupies
    (rbUnits config beam.capacityUnits) valuable
  simp only [decide_eq_true_eq] at paid
  exact paid

end Safety

/-- Collision safety. Whenever a call returns, its result is settled from the transmissions of
its first pass: served are those that meet no block with more transmissions than the capture
capacity, no block carries more served requests than that, and the airtime served requests take
from a block is at most the block's, and all of it when none on it was lost. -/
theorem collision_safety (candidates : List ScheduleCandidate) (snapshot : ConstellationSnapshot)
    (step : ℤ) (rng final : Rng) (result : SchedulingResult)
    (returned : schedule config fuel candidates snapshot step rng = some (result, final))
    (distinct : (candidates.map (fun candidate => candidate.request.requestId)).Nodup)
    (beamsDistinct : (snapshot.beams.map Beam.beamId).Nodup) :
    ∃ pass, transmit config fuel snapshot.beams (unitsByBeam config snapshot.beams) step
        (byRequestId candidates) rng = some (pass, final) ∧
      CollisionSafe config snapshot pass.attempts result := by
  obtain ⟨pass, transmitted, rfl⟩ :=
    (schedule_eq_some config fuel candidates snapshot step rng final result).mp returned
  have passed := transmit_passed config fuel snapshot.beams _ step _ rng final pass transmitted
  refine ⟨pass, transmitted, ?_⟩
  constructor
  · intro request served
    obtain ⟨attempt, kept, same⟩ := List.mem_map.mp served
    exact ⟨attempt, (List.mem_filter.mp kept).1, same⟩
  · intro attempt made
    rw [settle_served_iff config candidates snapshot step pass passed distinct attempt made]
    exact recovered_iff config candidates snapshot step pass passed attempt
  · exact servedOf_carried config candidates snapshot step pass passed distinct
  · intro sole first firstServed second secondServed
    exact servedOf_disjoint config candidates snapshot step pass passed distinct sole first second
      firstServed secondServed
  · exact servedOf_taken config candidates snapshot step pass passed distinct beamsDistinct
  · exact servedOf_airtime config candidates snapshot step pass passed beamsDistinct

/-- Two rivals under a capacity of two: both are served, and so each block's airtime is all
taken. -/
theorem collision_safety_rivals :
    ∃ (pass : Transmissions) (result : SchedulingResult) (final : Rng),
    schedule (MacConfig.withCapture {} 2 one_le_two) 41 [rival "a", rival "b"] oneBeam 0
        countingRng = some (result, final) ∧
      result.served.length = 2 ∧
      CollisionSafe (MacConfig.withCapture {} 2 one_le_two) oneBeam pass.attempts result := by
  obtain ⟨pass, _, safe⟩ := collision_safety (MacConfig.withCapture {} 2 one_le_two) 41
    [rival "a", rival "b"] oneBeam 0 countingRng _ _ (Option.some_get rivals_return_captured).symm
    (by decide +kernel) (by decide +kernel)
  exact ⟨pass, _, _, (Option.some_get rivals_return_captured).symm, by decide +kernel, safe⟩

end ContentionMacScheduler

end Satsim
