import Satsim.Runtime.Conservation
import Satsim.Runtime.Lawful

/-!
# A region without spectrum

When no rule of the table licenses a fleet and a band in a region, nothing can serve its
requests. They do not linger either: no step defers one of them, so none is ever put into the
retry queue, and each leaves in the step in which it is polled.

The premise is about the rule table and not about what is up. A region that is licensed
and has no beam in some step is another matter: its requests are candidates there, and
may be deferred.
-/

namespace Satsim

open Library

/-- No rule of the region lists both a fleet and a band. A region without any rule is denied as
well. -/
def Denied (regionRules : List RegionRule) (region : Region) : Prop :=
  ∀ rule ∈ regionRules, rule.region = region → rule.allowedFleets = [] ∨ rule.allowedBands = []

/-- Denial is read off the table. -/
instance (regionRules : List RegionRule) (region : Region) :
    Decidable (Denied regionRules region) :=
  inferInstanceAs (Decidable (∀ rule ∈ regionRules, rule.region = region →
    rule.allowedFleets = [] ∨ rule.allowedBands = []))

section Table

variable {regionRules : List RegionRule} {region : Region} (denied : Denied regionRules region)
include denied

/-- In such a region no fleet and band is licensed. -/
theorem Denied.unlicensed (fleet : FleetId) (band : Band) (cap : Option ℚ) :
    ¬ Licensed regionRules region fleet band cap := by
  rintro ⟨rule, listed, located, licensed, permitted, _⟩
  rcases denied rule listed located with noFleet | noBand
  · simp [noFleet] at licensed
  · simp [noBand] at permitted

/-- A request of such a region has no legal option. -/
theorem Denied.no_options (request : ServiceRequest) (inside : request.region = region) :
    (tableRegulatoryPolicy regionRules).allowedOptions request = [] := by
  refine List.eq_nil_iff_forall_not_mem.mpr fun option listed => ?_
  obtain ⟨rule, inTable, located, licensed, permitted, _⟩ :=
    TableRegulatoryPolicy.allowedOptions_lawful regionRules request option listed
  exact denied.unlicensed option.fleet option.band rule.maxAirtimeUnits
    ⟨rule, inTable, located.trans inside, licensed, permitted, rfl⟩

end Table

/-- What a step does about a region that it cannot serve: none of its requests is a candidate,
is served or deferred, or comes back from the retry queue, and each that is polled is rejected
or dropped by the lane. -/
structure StepTrace.Bars (region : Region) (trace : StepTrace) : Prop where
  candidates : ∀ candidate ∈ trace.candidates, candidate.request.region ≠ region
  served : ∀ request ∈ trace.served, request.region ≠ region
  deferred : ∀ request ∈ trace.result.deferred, request.region ≠ region
  released : ∀ request ∈ trace.released, request.region ≠ region
  polled : ∀ request ∈ trace.polled, request.region = region →
    request ∈ trace.rejected.map RejectedRequest.request ∨
      request ∈ trace.emergencyDrops.map RejectedRequest.request

namespace ControlLoop

variable {σ π φ ο : Type} (loop : ControlLoop σ π φ ο)
variable {t : ℤ} {state next : LoopState σ π φ ο} {trace : StepTrace}
variable {region : Region}

section Step

variable (stepped : loop.Stepped t state next trace)
  (tabled : loop.regulatory = tableRegulatoryPolicy loop.config.regionRules)
  (denied : Denied loop.config.regionRules region)
include stepped tabled denied

/-- No candidate is of the region, since candidates have options. -/
theorem Stepped.denied_candidate (candidate : ScheduleCandidate)
    (listed : candidate ∈ trace.candidates) : candidate.request.region ≠ region := by
  intro inside
  have built : candidate ∈ (loop.buildCandidates trace.admitted.admitted).1 :=
    stepped.candidates ▸ listed
  obtain ⟨item, _, legal, rfl⟩ := (loop.mem_buildCandidates _ candidate).mp built
  rw [tabled] at legal
  exact legal (denied.no_options item.request inside)

/-- The lane serves nobody of the region, since a reservation needs an option too. -/
theorem Stepped.denied_lane (request : ServiceRequest)
    (listed : request ∈ trace.decision.admitted) : request.region ≠ region := by
  rintro rfl
  have lawful := EmergencyLane.reserve_lawful loop.config.emergency loop.regulatory
    loop.config.scoring ((trace.scored.map ScoredRequest.request).filter isUrgent) trace.snapshot
    trace.plan t
  rw [← stepped.decision] at lawful
  obtain ⟨index, bound, rfl⟩ := List.getElem_of_mem listed
  obtain ⟨_, fits⟩ := lawful.get bound (lawful.length_eq ▸ bound)
  obtain ⟨beam, _, cap, _, _, _, _, legal, _⟩ := fits.taken
  exact denied.unlicensed _ _ _ (lane_licensed _ _ _ _ _ (tabled ▸ legal))

/-- A best-effort request of the region is rejected: by admission, or for want of a legal
option. -/
theorem Stepped.denied_bestEffort (item : ScoredRequest) (listed : item ∈ trace.bestEffort)
    (inside : item.request.region = region) :
    item.request ∈ trace.rejected.map RejectedRequest.request := by
  obtain ⟨controller, admitted⟩ := stepped.admitted
  have shaped := (controller.admitScored_partition trace.bestEffort trace.congestion t).1
  have lawful := loop.buildCandidates_partition trace.admitted.admitted
  rw [← admitted] at shaped
  rw [← stepped.candidates] at lawful
  have placed := shaped.symm.subset (List.mem_map_of_mem listed)
  rw [StepTrace.rejected, List.map_append]
  rcases List.mem_append.mp placed with passed | shed
  · refine List.mem_append_right _ ?_
    rcases List.mem_append.mp (lawful.symm.subset passed) with offered | lawless
    · obtain ⟨candidate, member, same⟩ := List.mem_map.mp offered
      exact absurd (same ▸ inside) (stepped.denied_candidate loop tabled denied candidate member)
    · exact lawless
  · exact List.mem_append_left _ shed

/-- An arrival of the region is rejected, or shed by the lane for good. -/
theorem Stepped.denied_arrival (request : ServiceRequest) (arrived : request ∈ trace.arrivals)
    (inside : request.region = region) :
    request ∈ trace.rejected.map RejectedRequest.request ∨
      request ∈ trace.emergencyDrops.map RejectedRequest.request := by
  have split := (EmergencyLane.reserve_partition loop.config.emergency loop.regulatory
    loop.config.scoring ((trace.scored.map ScoredRequest.request).filter isUrgent)
    trace.snapshot trace.plan t).symm.subset
  rw [← stepped.decision, stepped.scored_requests] at split
  obtain ⟨item, scored, rfl⟩ := List.mem_map.mp (stepped.scored_requests ▸ arrived)
  -- It is rejected once it counts as best effort.
  have rejected (spilled : !isUrgent item.request || decide (item.request.requestId ∈
      (trace.decision.shed.filter StepTrace.spills).map fun item => item.request.requestId)) :
      item.request ∈ trace.rejected.map RejectedRequest.request := by
    refine stepped.denied_bestEffort loop tabled denied item ?_ inside
    rw [stepped.bestEffort]
    exact List.mem_filter.mpr ⟨scored, spilled⟩
  by_cases urgent : isUrgent item.request = true
  · rcases List.mem_append.mp (split (List.mem_filter.mpr ⟨arrived, urgent⟩)) with lane | shed
    · exact absurd inside (stepped.denied_lane loop tabled denied _ lane)
    · obtain ⟨refused, member, same⟩ := List.mem_map.mp shed
      by_cases spills : StepTrace.spills refused = true
      · left
        refine rejected (Bool.or_eq_true_iff.mpr (.inr (decide_eq_true ?_)))
        exact List.mem_map.mpr ⟨refused, List.mem_filter.mpr ⟨member, spills⟩, by rw [same]⟩
      · right
        exact List.mem_map.mpr ⟨refused, List.mem_filter.mpr ⟨member, by simpa using spills⟩, same⟩
  · exact .inl (rejected (by simp [urgent]))

variable (contracted : loop.Contracted)
include contracted

/-- The scheduling stage serves, defers and drops nobody of the region, in any mode: it only
handles candidates. -/
theorem Stepped.denied_result (request : ServiceRequest)
    (listed : request ∈ trace.result.served ++ trace.result.deferred ++
      trace.result.dropped.map RejectedRequest.request) : request.region ≠ region := by
  have offered := (stepped.result_partition loop contracted).subset listed
  obtain ⟨candidate, member, rfl⟩ := List.mem_map.mp offered
  exact stepped.denied_candidate loop tabled denied candidate member

/-- A step puts nobody of the region into the retry queue, which holds what is deferred. -/
theorem Stepped.denied_queue
    (quiet : ∀ entry ∈ state.retryQueue, entry.request.region ≠ region) :
    ∀ entry ∈ next.retryQueue, entry.request.region ≠ region := by
  intro entry queued
  rw [stepped.queue] at queued
  rcases List.mem_append.mp queued with held | requeued
  · rw [stepped.held] at held
    exact quiet entry (List.mem_of_mem_filter held)
  · have deferral := stepped.deferred
    obtain ⟨request, deferred, _, _, rfl⟩ := loop.handleDeferred_requeued t trace.result.deferred
      trace.held state.rng entry (by rw [deferral]; exact requeued)
    exact stepped.denied_result loop tabled denied contracted request
      (List.mem_append_left _ (List.mem_append_right _ deferred))

/-- A step with nobody of the region in its retry queue bars the region. The step lemma of the
section, put together from the stages. -/
theorem Stepped.bars (quiet : ∀ entry ∈ state.retryQueue, entry.request.region ≠ region) :
    trace.Bars region where
  candidates := stepped.denied_candidate loop tabled denied
  served := by
    intro request served
    rcases List.mem_append.mp served with lane | scheduled
    · exact stepped.denied_lane loop tabled denied request lane
    · exact stepped.denied_result loop tabled denied contracted request
        (List.mem_append_left _ (List.mem_append_left _ scheduled))
  deferred := by
    intro request deferred
    exact stepped.denied_result loop tabled denied contracted request
      (List.mem_append_left _ (List.mem_append_right _ deferred))
  released := by
    intro request released
    rw [stepped.released] at released
    obtain ⟨entry, queued, rfl⟩ := List.mem_map.mp released
    exact quiet entry (List.mem_of_mem_filter queued)
  polled := by
    intro request polled inside
    exact stepped.denied_arrival loop tabled denied request (List.mem_append_left _ polled) inside

end Step

/-- A region without spectrum. In every run under the rule table of the configuration, with any
in-repo schedulers, whichever raise and whatever is planned, a region in which no rule licenses a
fleet and a band is never served and never waits: no request of the region is offered to a
scheduler, served, deferred or queued for a retry, and each is rejected or shed by the lane in the
step in which it is polled. -/
theorem denied_regions_leave (loop : ControlLoop σ Rng Rng ο) (primary fallback : InRepoScheduler)
    (primaryFaults fallbackFaults : ℤ → Option Rng)
    (tabled : loop.regulatory = tableRegulatoryPolicy loop.config.regionRules) (region : Region)
    (denied : Denied loop.config.regionRules region) (start : ℤ) (count : ℕ)
    (initial final : LoopState σ Rng Rng ο) (fresh : initial.retryQueue = [])
    (traces : List StepTrace)
    (completed : (loop.equipped primary fallback primaryFaults fallbackFaults).run start count
      initial = some (final, traces)) :
    (∀ trace ∈ traces, trace.Bars region) ∧
      ∀ entry ∈ final.retryQueue, entry.request.region ≠ region := by
  have contracted := loop.equipped_contracted primary fallback primaryFaults fallbackFaults
  refine run_invariant _ start (fun _ traces state => (∀ trace ∈ traces, trace.Bars region) ∧
    ∀ entry ∈ state.retryQueue, entry.request.region ≠ region) initial (by simp [fresh]) ?_ count
    final traces completed
  rintro count traces state next trace ⟨earlier, quiet⟩ stepped
  refine ⟨?_, stepped.denied_queue _ tabled denied contracted quiet⟩
  intro tested listed
  rcases List.mem_append.mp listed with before | last
  · exact earlier tested before
  · obtain rfl := List.mem_singleton.mp last
    exact stepped.bars _ tabled denied contracted quiet

end ControlLoop

/-- The configuration, which the validators accept. -/
def deniedConfig : SimulationConfig := { deniedFields with accepted := by decide +kernel }

/-- The small loop under that configuration; the primary scheduler raises in the first step. -/
def deniedLoop : ControlLoop (List (List ServiceRequest)) Rng Rng Unit :=
  { smallLoop with
    config := deniedConfig
    regulatory := tableRegulatoryPolicy deniedConfig.regionRules }

/-- Its start, with an urgent request and a photo to come. -/
def deniedStart : LoopState (List (List ServiceRequest)) Rng Rng Unit :=
  deniedLoop.initial [[smallRequest "a" .emergencySos 5, smallRequest "b" .photo 5]] evenRng evenRng
    () evenRng evenRng

/-- Its two steps return, which evaluation finds. -/
theorem deniedRun_returns : ((deniedLoop.equipped (.heuristic (1 / 4)) (.heuristic (1 / 4))
    firstStepFault fun _ => none).run 0 2 deniedStart).isSome = true := by
  decide +kernel

/-- An urgent request and a photo are both rejected in the step they arrive in, and neither is
offered to a scheduler. -/
theorem ControlLoop.denied_regions_leave_both :
    let run := ((deniedLoop.equipped (.heuristic (1 / 4)) (.heuristic (1 / 4)) firstStepFault
      fun _ => none).run 0 2 deniedStart).get deniedRun_returns
    run.2.map (fun trace => trace.rejected.length) = [2, 0] ∧
      (∀ trace ∈ run.2, ∀ candidate ∈ trace.candidates, candidate.request.region ≠ .na) ∧
      (∀ trace ∈ run.2, ∀ request ∈ trace.polled, request.region = .na →
        request ∈ trace.rejected.map RejectedRequest.request ∨
          request ∈ trace.emergencyDrops.map RejectedRequest.request) ∧
      ∀ entry ∈ run.1.retryQueue, entry.request.region ≠ .na := by
  obtain ⟨steps, quiet⟩ := denied_regions_leave deniedLoop (.heuristic (1 / 4)) (.heuristic (1 / 4))
    firstStepFault (fun _ => none) rfl .na (by decide) 0 2 deniedStart _ rfl _
    (Option.some_get deniedRun_returns).symm
  exact ⟨by decide +kernel, fun trace member => (steps trace member).candidates,
    fun trace member => (steps trace member).polled, quiet⟩

end Satsim
