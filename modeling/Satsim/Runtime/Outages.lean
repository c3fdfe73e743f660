import Satsim.Runtime.Breakers
import Satsim.Runtime.Simulation
import Satsim.Runtime.Telemetry

/-!
# Planned outages

A configured fleet may fail from some step on. In a run from the first step the breakers make
of this a fixed timetable: the fleet is looked up in every step until the failures reach the
threshold, then once in every cooldown, and no lookup before the outage is held back. So a
breaker never hides a fleet that is up, every outage that lasts long enough trips exactly once,
and nothing else trips.

The closed forms are definitions of their own, computed from the step and the
configuration. The run is shown to follow them by a step lemma, so that a question about
a step of a long run is answered without running it.
-/

namespace Satsim

open Library

/-- Counting on by one either completes a period or stays within it. The trials of an open
breaker are counted in periods of its cooldown. -/
theorem period_succ (n period : ℤ) (positive : 0 < period) :
    ((n + 1) % period = 0 ∧ (n + 1) / period = n / period + 1 ∧
        n + 1 = period * (n / period + 1)) ∨
      ((n + 1) % period ≠ 0 ∧ (n + 1) / period = n / period ∧
        n + 1 < period * (n / period + 1)) := by
  have parts := Int.mul_ediv_add_emod n period
  have low := Int.emod_nonneg n positive.ne'
  have high := Int.emod_lt_of_pos n positive
  generalize n / period = quotient at *
  generalize n % period = rest at *
  by_cases complete : rest + 1 = period
  · have whole : n + 1 = period * (quotient + 1) := by linarith
    refine Or.inl ⟨?_, ?_, whole⟩
    · rw [whole, Int.mul_emod_right]
    · rw [whole, Int.mul_ediv_cancel_left _ positive.ne']
  · have within : n + 1 = rest + 1 + period * quotient := by linarith
    have short : rest + 1 < period := by omega
    refine Or.inr ⟨?_, ?_, by linarith⟩
    · rw [within, Int.add_mul_emod_self_left, Int.emod_eq_of_lt (by omega) short]
      omega
    · rw [within, Int.add_mul_ediv_left _ _ positive.ne', Int.ediv_eq_zero_of_lt (by omega) short,
        zero_add]

namespace FakeConstellation

variable (overload : OverloadConfig) (client : FakeConstellation)

/-- The step in which an outage reaches the threshold, if it is looked up in every step from its
first. -/
def tripStep (failFrom : ℤ) : ℤ := failFrom + overload.breakerFailureThreshold - 1

/-- How the lookup of a client goes in a step of a run from the first one, computed from the
step alone. -/
def outcomeAt (step : ℤ) : LookupOutcome :=
  match client.visibleResources step, client.failFromStep with
  | some snapshot, _ => .answered snapshot
  | none, none => .heldOpen
  | none, some failFrom =>
      let trip := tripStep overload failFrom
      if trip ≤ step ∧ (step - trip) % overload.breakerCooldownSteps ≠ 0 then .heldOpen
      else .raised (decide (step = trip))

/-- The client's breaker before a step of such a run, computed from the step alone. -/
def breakerAt (step : ℤ) : CircuitBreaker :=
  let fresh := CircuitBreaker.fresh overload.breakerFailureThreshold overload.breakerCooldownSteps
  match client.failFromStep with
  | none => fresh
  | some failFrom =>
      let trip := tripStep overload failFrom
      if step ≤ trip then { fresh with failures := max 0 (step - failFrom) }
      else
        { fresh with
          failures := overload.breakerFailureThreshold +
            (step - 1 - trip) / overload.breakerCooldownSteps
          openUntil := some (trip +
            overload.breakerCooldownSteps *
              ((step - 1 - trip) / overload.breakerCooldownSteps + 1)) }

/-- A client is up as long as it has not failed. One that is not yet online is up and shows
nothing. -/
theorem visible_isSome (step : ℤ) :
    (client.visibleResources step).isSome = !client.failed step := by
  unfold visibleResources
  split
  · rename_i down
    simp [down]
  · rename_i up
    split <;> simp [up]

end FakeConstellation

/-- One lookup: what came of it, and the breaker it leaves. It is what gathering does for one
client. -/
def ConstellationClient.lookUp (client : ConstellationClient) (breaker : CircuitBreaker)
    (step : ℤ) : LookupOutcome × CircuitBreaker :=
  if breaker.allow step = false then (.heldOpen, breaker)
  else
    match client.visibleResources step with
    | some snapshot => (.answered snapshot, breaker.recordSuccess)
    | none => (.raised (breaker.recordFailure step).1, (breaker.recordFailure step).2)

namespace FakeConstellation

variable (overload : OverloadConfig) (client : FakeConstellation)

section Planned

variable {client} (step failFrom : ℤ) (planned : client.failFromStep = some failFrom)
include planned

/-- Until the trip the breaker is closed and has counted the failures so far, which are the
steps since the outage began. -/
theorem breakerAt_closed (closed : step ≤ tripStep overload failFrom) :
    client.breakerAt overload step =
      { failureThreshold := overload.breakerFailureThreshold
        cooldownSteps := overload.breakerCooldownSteps
        failures := max 0 (step - failFrom) } := by
  simp only [breakerAt, planned, if_pos closed, CircuitBreaker.fresh]

/-- After the trip it is open until a whole number of cooldowns after it: the number of trials
made, and one more. -/
theorem breakerAt_open (opened : tripStep overload failFrom < step) :
    client.breakerAt overload step =
      { failureThreshold := overload.breakerFailureThreshold
        cooldownSteps := overload.breakerCooldownSteps
        failures := overload.breakerFailureThreshold +
          (step - 1 - tripStep overload failFrom) / overload.breakerCooldownSteps
        openUntil := some (tripStep overload failFrom + overload.breakerCooldownSteps *
          ((step - 1 - tripStep overload failFrom) / overload.breakerCooldownSteps + 1)) } := by
  simp only [breakerAt, planned, if_neg (not_le.mpr opened), CircuitBreaker.fresh]

/-- From the failing step on a client shows nothing. -/
theorem visible_down (down : failFrom ≤ step) : client.visibleResources step = none := by
  have hidden : (client.visibleResources step).isSome = false := by
    simp [client.visible_isSome, failed, planned, down]
  exact Option.isNone_iff_eq_none.mp (Option.isSome_eq_false_iff.mp hidden)

end Planned

/-- A lookup of a client that is up is answered, and leaves its breaker closed, with no failure
counted. -/
theorem lookUp_up (step : ℤ) (up : client.failed step = false) :
    client.toClient.lookUp (client.breakerAt overload step) step =
      (client.outcomeAt overload step, client.breakerAt overload (step + 1)) := by
  have positive := overload.thresholdPositive
  have seen := client.visible_isSome step
  rw [up] at seen
  obtain ⟨snapshot, shown⟩ := Option.isSome_iff_exists.mp seen
  have before : client.breakerAt overload step = CircuitBreaker.fresh
      overload.breakerFailureThreshold overload.breakerCooldownSteps ∧
    client.breakerAt overload (step + 1) = CircuitBreaker.fresh
      overload.breakerFailureThreshold overload.breakerCooldownSteps := by
    cases planned : client.failFromStep with
    | none => simp only [breakerAt, planned, and_self]
    | some failFrom =>
      have early : step < failFrom := by simpa [failed, planned] using up
      rw [breakerAt_closed overload step failFrom planned (by rw [tripStep]; omega),
        breakerAt_closed overload (step + 1) failFrom planned (by rw [tripStep]; omega),
        max_eq_left (by omega), max_eq_left (by omega)]
      exact ⟨rfl, rfl⟩
  rw [before.1, before.2]
  simp [ConstellationClient.lookUp, toClient, shown, outcomeAt, CircuitBreaker.fresh,
    CircuitBreaker.allow, CircuitBreaker.recordSuccess]

/-- A lookup of a client that is down goes by the timetable: it counts a failure until the trip,
and afterwards it is held back but for one trial in every cooldown. -/
theorem lookUp_down (step failFrom : ℤ) (planned : client.failFromStep = some failFrom)
    (down : failFrom ≤ step) :
    client.toClient.lookUp (client.breakerAt overload step) step =
      (client.outcomeAt overload step, client.breakerAt overload (step + 1)) := by
  have positive := overload.thresholdPositive
  have unseen := visible_down step failFrom planned down
  have cooled := overload.cooldownPositive
  rcases lt_trichotomy step (tripStep overload failFrom) with early | tripping | late
  · -- the failure is below the threshold
    have below : ¬ overload.breakerFailureThreshold ≤ step - failFrom + 1 := by
      rw [tripStep] at early
      omega
    rw [breakerAt_closed overload step failFrom planned early.le,
      breakerAt_closed overload (step + 1) failFrom planned early, max_eq_right (by omega),
      max_eq_right (by omega)]
    simp [ConstellationClient.lookUp, toClient, unseen, planned, outcomeAt, CircuitBreaker.allow,
      CircuitBreaker.recordFailure, below, not_le.mpr early, early.ne]
    omega
  · -- the failure reaches it
    have reached : overload.breakerFailureThreshold ≤ step - failFrom + 1 := by
      rw [tripStep] at tripping
      omega
    have period : step + 1 - 1 - tripStep overload failFrom = 0 := by omega
    rw [breakerAt_closed overload step failFrom planned tripping.le,
      breakerAt_open overload (step + 1) failFrom planned (by omega), max_eq_right (by omega),
      period]
    simp [ConstellationClient.lookUp, toClient, unseen, planned, outcomeAt, CircuitBreaker.allow,
      CircuitBreaker.recordFailure, reached, ← tripping]
    rw [tripStep] at tripping
    omega
  · -- the breaker is open, and a trial is due when a whole number of cooldowns has passed
    have elapsed : step - tripStep overload failFrom =
        step - 1 - tripStep overload failFrom + 1 := by omega
    have next : step + 1 - 1 - tripStep overload failFrom =
        step - 1 - tripStep overload failFrom + 1 := by omega
    rw [breakerAt_open overload step failFrom planned late,
      breakerAt_open overload (step + 1) failFrom planned (by omega), next]
    rcases period_succ (step - 1 - tripStep overload failFrom) overload.breakerCooldownSteps cooled
      with ⟨due, trials, passed⟩ | ⟨held, trials, short⟩
    · have allowed : tripStep overload failFrom + overload.breakerCooldownSteps *
          ((step - 1 - tripStep overload failFrom) / overload.breakerCooldownSteps + 1) ≤ step := by
        rw [← passed]
        omega
      rw [← elapsed] at due
      simp [ConstellationClient.lookUp, toClient, unseen, planned, outcomeAt, CircuitBreaker.allow,
        CircuitBreaker.recordFailure, allowed, due, late.ne', trials]
      constructor
      · ring
      · rw [mul_add, mul_one, ← add_assoc, ← passed]
        omega
    · have waiting : ¬ tripStep overload failFrom + overload.breakerCooldownSteps *
          ((step - 1 - tripStep overload failFrom) / overload.breakerCooldownSteps + 1) ≤ step := by
        omega
      rw [← elapsed] at held
      simp [ConstellationClient.lookUp, unseen, planned, outcomeAt, CircuitBreaker.allow, waiting,
        held, late.le, trials]

/-- A lookup in a step has the outcome of the timetable, and leaves its breaker. From this the
closed forms follow a whole run. -/
theorem lookUp_breakerAt (step : ℤ) :
    client.toClient.lookUp (client.breakerAt overload step) step =
      (client.outcomeAt overload step, client.breakerAt overload (step + 1)) := by
  cases planned : client.failFromStep with
  | none => exact client.lookUp_up overload step (by simp [failed, planned])
  | some failFrom =>
    by_cases down : failFrom ≤ step
    · exact client.lookUp_down overload step failFrom planned down
    · exact client.lookUp_up overload step (by simp [failed, planned, down])

end FakeConstellation

namespace FakeConstellation

variable (overload : OverloadConfig) (client : FakeConstellation)

/-- What a lookup by the timetable shows is what the client shows. A lookup that is held back
hides nothing, because the client is down. -/
theorem outcomeAt_shown (step : ℤ) :
    (Lookup.mk client.toClient (client.outcomeAt overload step)).snapshot? =
      client.visibleResources step := by
  unfold Lookup.snapshot? outcomeAt
  cases client.visibleResources step with
  | some snapshot => rfl
  | none =>
    cases client.failFromStep with
    | none => rfl
    | some failFrom =>
      dsimp only
      split_ifs <;> rfl

/-- Its outage has tripped the breaker before a step, which takes as many failures as the
threshold. -/
def tripsBefore (step : ℤ) : Bool :=
  client.failFromStep.any (fun failFrom => decide (tripStep overload failFrom < step))

/-- A lookup by the timetable trips the breaker in the step that its outage does, and in no
other. -/
theorem outcomeAt_tripped (step : ℤ) :
    (Lookup.mk client.toClient (client.outcomeAt overload step)).tripped =
      client.failFromStep.any (fun failFrom => decide (step = tripStep overload failFrom)) := by
  have positive := overload.thresholdPositive
  unfold Lookup.tripped outcomeAt
  cases planned : client.failFromStep with
  | none =>
    have seen := client.visible_isSome step
    obtain ⟨snapshot, shown⟩ := Option.isSome_iff_exists.mp
      (seen.trans (by simp [failed, planned]))
    simp [shown]
  | some failFrom =>
    by_cases down : failFrom ≤ step
    · rw [visible_down step failFrom planned down]
      dsimp only
      split_ifs with held
      · have late : step ≠ tripStep overload failFrom := by
          rintro rfl
          simp at held
        simp [late]
      · simp
    · have seen := client.visible_isSome step
      obtain ⟨snapshot, shown⟩ := Option.isSome_iff_exists.mp
        (seen.trans (by simp [failed, planned, down]))
      have early : step ≠ tripStep overload failFrom := by
        rw [tripStep]
        omega
      simp [shown, early]

/-- The outages that have tripped after a step are those before it and those in it. -/
theorem countP_tripsBefore (clients : List FakeConstellation) (step : ℤ) :
    clients.countP (fun client => client.tripsBefore overload (step + 1)) =
      clients.countP (fun client => client.tripsBefore overload step) +
        clients.countP (fun client => client.failFromStep.any
          (fun failFrom => decide (step = tripStep overload failFrom))) := by
  induction clients with
  | nil => rfl
  | cons client rest inductionHypothesis =>
    have here : (if client.tripsBefore overload (step + 1) = true then 1 else 0) =
        (if client.tripsBefore overload step = true then 1 else 0) +
          if client.failFromStep.any
            (fun failFrom => decide (step = tripStep overload failFrom)) = true then 1 else 0 := by
      unfold tripsBefore
      cases client.failFromStep with
      | none => rfl
      | some failFrom =>
        simp only [Option.any_some, decide_eq_true_eq]
        split_ifs <;> omega
    rw [List.countP_cons, List.countP_cons, List.countP_cons, inductionHypothesis]
    omega

end FakeConstellation

namespace ControlLoop

variable {σ π φ ο : Type} (loop : ControlLoop σ π φ ο)

/-- Looking up the first client changes the breaker of its fleet, and no other. The rest of the
list is looked up after it. -/
theorem gather_first (t : ℤ) (client : ConstellationClient) (rest : List ConstellationClient)
    (breakers : Dict FleetId CircuitBreaker) :
    ∃ after, loop.gather t (client :: rest) breakers =
        (⟨client, (client.lookUp (loop.breakerOf breakers client.fleetId) t).1⟩ ::
          (loop.gather t rest after).1, (loop.gather t rest after).2) ∧
      loop.breakerOf after client.fleetId =
        (client.lookUp (loop.breakerOf breakers client.fleetId) t).2 ∧
      ∀ fleet, fleet ≠ client.fleetId →
        loop.breakerOf after fleet = loop.breakerOf breakers fleet := by
  simp only [gather, ConstellationClient.lookUp]
  by_cases held : (loop.breakerOf breakers client.fleetId).allow t = false
  · have asked : (breakers.getD client.fleetId loop.freshBreaker).allow t = false := held
    rw [if_pos held, if_pos asked]
    exact ⟨breakers, rfl, rfl, fun _ _ => rfl⟩
  · have asked : ¬ (breakers.getD client.fleetId loop.freshBreaker).allow t = false := held
    rw [if_neg held, if_neg asked]
    cases seen : client.visibleResources t with
    | some snapshot =>
      refine ⟨_, rfl, by simp [breakerOf, Dict.getD], fun fleet other => ?_⟩
      simp [breakerOf, Dict.getD, other]
    | none =>
      refine ⟨_, rfl, by simp [breakerOf, Dict.getD], fun fleet other => ?_⟩
      simp [breakerOf, Dict.getD, other]

/-- The lookups of clients of different fleets do not touch each other's breakers, so they may
be taken one by one. -/
theorem gather_apart (t : ℤ) (clients : List ConstellationClient)
    (apart : (clients.map ConstellationClient.fleetId).Nodup)
    (breakers : Dict FleetId CircuitBreaker) :
    (loop.gather t clients breakers).1 = clients.map (fun client =>
        ⟨client, (client.lookUp (loop.breakerOf breakers client.fleetId) t).1⟩) ∧
      (∀ client ∈ clients, loop.breakerOf (loop.gather t clients breakers).2 client.fleetId =
        (client.lookUp (loop.breakerOf breakers client.fleetId) t).2) ∧
      ∀ fleet, fleet ∉ clients.map ConstellationClient.fleetId →
        loop.breakerOf (loop.gather t clients breakers).2 fleet =
          loop.breakerOf breakers fleet := by
  induction clients generalizing breakers with
  | nil => exact ⟨rfl, by simp, fun _ _ => rfl⟩
  | cons client rest inductionHypothesis =>
    obtain ⟨fresh, tail⟩ := List.nodup_cons.mp apart
    obtain ⟨after, gathered, own, others⟩ := loop.gather_first t client rest breakers
    obtain ⟨looked, left, untouched⟩ := inductionHypothesis tail after
    have different : ∀ other ∈ rest, other.fleetId ≠ client.fleetId :=
      fun other listed same => fresh (same ▸ List.mem_map_of_mem listed)
    rw [gathered]
    refine ⟨?_, ?_, ?_⟩
    · rw [looked, List.map_cons]
      refine congrArg (List.cons _) (List.map_congr_left fun other listed => ?_)
      rw [others _ (different other listed)]
    · intro other listed
      rcases List.mem_cons.mp listed with rfl | later
      · rw [untouched _ fresh, own]
      · rw [left other later, others _ (different other later)]
    · intro fleet absent
      rw [List.map_cons, List.mem_cons, not_or] at absent
      rw [untouched fleet absent.2, others fleet absent.1]

/-- Breakers start fresh. -/
theorem breakerOf_initial (fleet : FleetId) :
    loop.breakerOf loop.initialBreakers fleet = loop.freshBreaker := by
  rw [breakerOf, Dict.getD]
  cases found : loop.initialBreakers.get? fleet with
  | none => rfl
  | some breaker =>
    obtain ⟨client, _, same⟩ := List.mem_map.mp (Dict.ofPairs_mem _ _ _ found)
    exact (Prod.mk.inj same).2.symm

section Timetable

variable (fleets : loop.constellations =
  (buildFakeConstellations loop.config).map FakeConstellation.toClient)
variable (once : (loop.config.fleets.map FleetConfig.fleet).Nodup)
include fleets once

/-- The lookups of a step by the timetable, for all clients at once: fleets configured once do
not share a breaker. -/
theorem gather_timetable (t : ℤ) (breakers : Dict FleetId CircuitBreaker)
    (current : ∀ client ∈ buildFakeConstellations loop.config,
      loop.breakerOf breakers client.fleet = client.breakerAt loop.config.overload t) :
    (loop.gather t loop.constellations breakers).1 =
        (buildFakeConstellations loop.config).map (fun client =>
          ⟨client.toClient, client.outcomeAt loop.config.overload t⟩) ∧
      ∀ client ∈ buildFakeConstellations loop.config,
        loop.breakerOf (loop.gather t loop.constellations breakers).2 client.fleet =
          client.breakerAt loop.config.overload (t + 1) := by
  have apart : (loop.constellations.map ConstellationClient.fleetId).Nodup := by
    rw [fleets, List.map_map]
    simpa only [buildFakeConstellations, List.map_map, Function.comp_def, fakeConstellation,
      FakeConstellation.toClient] using once
  obtain ⟨looked, left, _⟩ := loop.gather_apart t loop.constellations apart breakers
  constructor
  · rw [looked, fleets, List.map_map]
    apply List.map_congr_left
    intro client listed
    have timed := client.lookUp_breakerAt loop.config.overload t
    rw [← current client listed] at timed
    exact congrArg (Lookup.mk client.toClient) (congrArg Prod.fst timed)
  · intro client listed
    have timed := client.lookUp_breakerAt loop.config.overload t
    rw [← current client listed] at timed
    have kept := left client.toClient (by rw [fleets]; exact List.mem_map_of_mem listed)
    exact kept.trans (congrArg Prod.snd timed)

/-- After a number of steps every breaker is where the timetable has it, every step has been
looked up by it, and the trips recorded are the outages that have reached the threshold. The
three are kept together, as each step extends them together. -/
theorem run_timetable (count : ℕ) (initial final : LoopState σ π φ ο) (traces : List StepTrace)
    (fresh : initial.breakers = loop.initialBreakers)
    (completed : loop.run 0 count initial = some (final, traces)) :
    (∀ client ∈ buildFakeConstellations loop.config,
        loop.breakerOf final.breakers client.fleet =
          client.breakerAt loop.config.overload count) ∧
      (∀ trace ∈ traces, trace.lookups = (buildFakeConstellations loop.config).map (fun client =>
        ⟨client.toClient, client.outcomeAt loop.config.overload trace.step⟩)) ∧
      (traces.map (fun trace => trace.counters.circuitBreakerTrips)).sum =
        (buildFakeConstellations loop.config).countP (fun client =>
          client.tripsBefore loop.config.overload count) := by
  have positive := loop.config.overload.thresholdPositive
  have planned : ∀ client ∈ buildFakeConstellations loop.config, ∀ failFrom,
      client.failFromStep = some failFrom → 0 ≤ failFrom := by
    intro client listed failFrom fails
    obtain ⟨fleet, _, rfl⟩ := List.mem_map.mp listed
    exact fleet.failNonneg failFrom fails
  refine Runs.run_invariant (fun index state => loop.step (0 + index) state)
    (fun count traces (state : LoopState σ π φ ο) =>
      (∀ client ∈ buildFakeConstellations loop.config,
        loop.breakerOf state.breakers client.fleet =
          client.breakerAt loop.config.overload count) ∧
      (∀ trace ∈ traces, trace.lookups = (buildFakeConstellations loop.config).map (fun client =>
        ⟨client.toClient, client.outcomeAt loop.config.overload trace.step⟩)) ∧
      (traces.map (fun trace => trace.counters.circuitBreakerTrips)).sum =
        (buildFakeConstellations loop.config).countP (fun client =>
          client.tripsBefore loop.config.overload count)) initial ?_ ?_ count final traces completed
  · refine ⟨?_, by simp, ?_⟩
    · intro client listed
      rw [fresh, loop.breakerOf_initial]
      cases fails : client.failFromStep with
      | none => simp only [FakeConstellation.breakerAt, fails]; rfl
      | some failFrom =>
        have nonneg := planned client listed failFrom fails
        rw [FakeConstellation.breakerAt_closed _ _ failFrom fails
          (by rw [FakeConstellation.tripStep]; push_cast; omega), max_eq_left (by push_cast; omega)]
        rfl
    · rw [List.map_nil, List.sum_nil, eq_comm, List.countP_eq_zero]
      intro client listed
      rw [FakeConstellation.tripsBefore]
      cases fails : client.failFromStep with
      | none => simp
      | some failFrom =>
        have nonneg := planned client listed failFrom fails
        simp only [Option.any_some, FakeConstellation.tripStep, Nat.cast_zero, decide_eq_true_eq]
        omega
  · rintro count traces state next trace ⟨breakers, looked, tripped⟩ stepped
    have step := loop.step_inv _ state next trace stepped
    have remembered := loop.step_remembered _ state next trace stepped
    rw [zero_add] at step remembered
    obtain ⟨lookups, left⟩ := loop.gather_timetable fleets once count state.breakers breakers
    rw [← step.lookups] at lookups
    refine ⟨?_, ?_, ?_⟩
    · intro client listed
      rw [remembered.breakers]
      exact_mod_cast left client listed
    · intro tested member
      rcases List.mem_append.mp member with old | last
      · exact looked tested old
      · rw [List.mem_singleton.mp last, step.step]
        exact lookups
    · have counted : trace.counters.circuitBreakerTrips =
          (buildFakeConstellations loop.config).countP (fun client => client.failFromStep.any
            (fun failFrom => decide ((count : ℤ) =
              FakeConstellation.tripStep loop.config.overload failFrom))) := by
        rw [step.counters]
        simp only [buildCounters, lookups, ← List.countP_eq_length_filter, List.countP_map]
        apply List.countP_congr
        intro client _
        simp only [Function.comp_def, FakeConstellation.outcomeAt_tripped]
      rw [List.map_append, List.sum_append, tripped, List.map_singleton, List.sum_singleton,
        counted, Nat.cast_succ, FakeConstellation.countP_tripsBefore]

/-- Planned outages follow the timetable. In a run from the first step with fleets configured
once each, every fleet's lookup goes by it, each step sees exactly what the fleets that are up
show, and the trips are the outages that began a threshold before the end. -/
theorem outages_timetable (count : ℕ) (initial final : LoopState σ π φ ο)
    (traces : List StepTrace) (fresh : initial.breakers = loop.initialBreakers)
    (completed : loop.run 0 count initial = some (final, traces)) :
    (∀ trace ∈ traces,
        trace.lookups = (buildFakeConstellations loop.config).map (fun client =>
          ⟨client.toClient, client.outcomeAt loop.config.overload trace.step⟩) ∧
        trace.snapshot = visibleSnapshot loop.config trace.step) ∧
      (summarize final traces).circuitBreakerTrips =
        (loop.config.fleets.filter (fun fleet => fleet.failFromStep.any (fun failFrom =>
          decide (failFrom + loop.config.overload.breakerFailureThreshold ≤ count)))).length := by
  obtain ⟨_, looked, tripped⟩ := loop.run_timetable fleets once count initial final traces fresh
    completed
  constructor
  · intro trace member
    refine ⟨looked trace member, ?_⟩
    obtain ⟨state, next, stepped⟩ := loop.run_stepped 0 count initial final traces completed trace
      member
    rw [stepped.snapshot, looked trace member, visibleSnapshot, List.filterMap_map]
    simp only [Function.comp_def, FakeConstellation.outcomeAt_shown]
  · have summed : (summarize final traces).circuitBreakerTrips =
        (traces.map (fun trace => trace.counters.circuitBreakerTrips)).sum := by
      simpa [summarize, Function.comp_def] using
        (RunSummary.foldl_add (traces.map StepTrace.counters) {}).2.2.2.2.2.2.1
    rw [summed, tripped, buildFakeConstellations, List.countP_map, List.countP_eq_length_filter]
    congr 2
    funext fleet
    simp only [Function.comp_def, FakeConstellation.tripsBefore, fakeConstellation,
      FakeConstellation.tripStep]
    congr 1
    funext failFrom
    exact decide_eq_decide.mpr (by omega)

end Timetable

end ControlLoop

/-- The configuration, which the validators accept. -/
def outageConfig : SimulationConfig := { outageFields with accepted := by decide +kernel }

/-- The small loop under that configuration. -/
def outageLoop : ControlLoop (List (List ServiceRequest)) Rng Rng Unit :=
  { smallLoop with
    config := outageConfig
    constellations := (buildFakeConstellations outageConfig).map FakeConstellation.toClient }

/-- Its five steps return, which evaluation finds. -/
theorem outageRun_returns :
    (outageLoop.run 0 5 (outageLoop.initial [] evenRng evenRng () evenRng evenRng)).isSome =
      true := by
  decide +kernel

/-- Three failures trip the breaker, and the last of five lookups is held back. -/
theorem ControlLoop.outages_timetable_small :
    ((outageLoop.run 0 5 (outageLoop.initial [] evenRng evenRng () evenRng evenRng)).get
        outageRun_returns).2.map (fun trace => trace.lookups.map Lookup.tripped) =
      [[false], [false], [false], [true], [false]] ∧
    (summarize ((outageLoop.run 0 5 (outageLoop.initial [] evenRng evenRng () evenRng evenRng)).get
        outageRun_returns).1 ((outageLoop.run 0 5 (outageLoop.initial [] evenRng evenRng () evenRng
          evenRng)).get outageRun_returns).2).circuitBreakerTrips =
      (outageConfig.fleets.filter (fun fleet => fleet.failFromStep.any (fun failFrom =>
        decide (failFrom + outageConfig.overload.breakerFailureThreshold ≤ (5 : ℕ))))).length :=
  ⟨by decide +kernel, (outageLoop.outages_timetable rfl (by decide) 5 _ _ _ rfl
    (Option.some_get outageRun_returns).symm).2⟩

end Satsim
