import Satsim.Ingest.Totality
import Satsim.Mac.Sampling
import Satsim.Runtime.Simulation

/-!
# The simulation completes

Two loops of the source have no bound of their own: the multiplication loop of the Poisson
draw and the sampling of distinct blocks. Fuel cuts both short, so a run of the model may
stop where the source goes on. It stops for want of fuel only: what returns with some fuel
returns the same with more, and on streams that end both loops every step returns, whatever
the planner answers.

Completion is shown on streams and not with probability one. The two conditions, a
margin below one and every residue coming up again and again, are what the loops need;
the generators of the source meet them in practice, and no more is used of them.
-/

namespace Satsim

open Library

section Fuel

variable {fuel more : ℕ} (enough : fuel ≤ more)
include enough

/-- A multiplication loop that ends returns the same with more fuel. The fuel is counted down
and never read, so the two runs multiply the same numbers. -/
theorem Rng.poissonLoop_more (target product : ℚ) (start : ℕ) (rng : Rng) (result : ℕ × Rng)
    (finished : poissonLoop target fuel product start rng = some result) :
    poissonLoop target more product start rng = some result := by
  induction fuel generalizing more product start rng with
  | zero => simp [poissonLoop] at finished
  | succ fuel inductionHypothesis =>
    obtain ⟨more, rfl⟩ : ∃ less, more = less + 1 := ⟨more - 1, by omega⟩
    rw [poissonLoop] at finished ⊢
    split_ifs at finished ⊢ with above
    · exact inductionHypothesis (by omega) _ _ _ finished
    · exact finished

/-- So does the draw it belongs to. -/
theorem Rng.poisson_more (math : MathExp) (rng : Rng) (rate : ℚ) (result : ℕ × Rng)
    (finished : rng.poisson math fuel rate = some result) :
    rng.poisson math more rate = some result := by
  unfold poisson at finished ⊢
  split_ifs at finished ⊢ with idle
  · exact finished
  · exact poissonLoop_more enough _ _ _ _ _ finished

variable (config : SimulationConfig) (math : Rng.MathExp)

/-- And the demand of a step, surges included, which need no fuel. -/
theorem DemandGenerator.generateStep_more (step : ℤ) (generator after : DemandGenerator)
    (produced : List ServiceRequest)
    (generated : generateStep config math fuel step generator = .ok (produced, after)) :
    generateStep config math more step generator = .ok (produced, after) := by
  obtain ⟨count, rng, arrived, middle, surged, counted, rest⟩ :=
    (generateStep_eq_ok config math fuel step generator after produced).mp generated
  exact (generateStep_eq_ok config math more step generator after produced).mpr
    ⟨count, rng, arrived, middle, surged, Rng.poisson_more enough math _ _ _ counted, rest⟩

/-- And the generation of the steps up to a poll. -/
theorem SyntheticRequestSource.catchUp_more (count : ℕ) (source after : SyntheticRequestSource)
    (generated : List (ℤ × List ServiceRequest))
    (completed : catchUp config math fuel count source = .ok (generated, after)) :
    catchUp config math more count source = .ok (generated, after) := by
  induction count generalizing source generated with
  | zero => exact completed
  | succ count inductionHypothesis =>
    obtain ⟨produced, generator, later, made, rest, same⟩ :=
      (catchUp_succ config math fuel count source after generated).mp completed
    exact (catchUp_succ config math more count source after generated).mpr
      ⟨produced, generator, later,
        DemandGenerator.generateStep_more enough config math _ _ _ _ made,
        inductionHypothesis _ _ rest, same⟩

/-- A poll behind its port that returns returns the same with more fuel. -/
theorem SyntheticRequestSource.port_more (source : SyntheticRequestSource) (step maxBatch : ℤ)
    (result : List ServiceRequest × SyntheticRequestSource)
    (returned : (port config math fuel).poll source step maxBatch = some result) :
    (port config math more).poll source step maxBatch = some result := by
  simp only [port] at returned ⊢
  cases polled : poll config math fuel source step maxBatch with
  | error => simp [polled] at returned
  | ok outcome =>
    obtain ⟨done, next⟩ := outcome
    obtain ⟨generated, caught, extended, parts⟩ :=
      (poll_eq_ok config math fuel source next step maxBatch done).mp polled
    have same := (poll_eq_ok config math more source next step maxBatch done).mpr
      ⟨generated, caught, catchUp_more enough config math _ _ _ _ extended, parts⟩
    simpa only [same, polled] using returned

/-- A call of the selected scheduler that returns returns the same with more fuel. Only random
access has any. -/
theorem selectedScheduler_more (rng : Rng) (candidates : List ScheduleCandidate)
    (snapshot : ConstellationSnapshot) (step : ℤ) (reply : SchedulerReply × Rng)
    (returned : (selectedScheduler config fuel).port.schedule rng candidates snapshot step =
      some reply) :
    (selectedScheduler config more).port.schedule rng candidates snapshot step = some reply := by
  unfold selectedScheduler at returned ⊢
  cases selected : config.scheduler with
  | contentionMac =>
    simp only [selected, InRepoScheduler.port, InRepoScheduler.schedule, Option.bind_eq_bind,
      Option.bind_eq_some_iff, Prod.exists] at returned ⊢
    obtain ⟨result, final, scheduled, same⟩ := returned
    exact ⟨result, final,
      ContentionMacScheduler.schedule_more config.mac enough _ _ _ _ _ _ scheduled, same⟩
  | _ => simpa only [selected] using returned

end Fuel

namespace ControlLoop

variable {σ π φ ο : Type} (loop : ControlLoop σ π φ ο)

/-- The same loop with another source and another scheduler, over the same states. -/
def refitted (source : RequestSource σ) (scheduler : ResourceScheduler π) :
    ControlLoop σ π φ ο :=
  { loop with requestSource := source, scheduler := scheduler }

/-- A scheduling stage depends on its primary scheduler through one call, so a scheduler that
answers that call alike gives the same stage. -/
theorem runScheduler_refitted (source : RequestSource σ) (scheduler : ResourceScheduler π)
    (calls : ∀ state candidates snapshot step reply,
      loop.scheduler.schedule state candidates snapshot step = some reply →
        scheduler.schedule state candidates snapshot step = some reply)
    (candidates : List ScheduleCandidate) (snapshot : ConstellationSnapshot) (t : ℤ)
    (primary : π) (fallback : φ) (scheduled : Scheduled π φ)
    (ran : loop.runScheduler candidates snapshot t primary fallback = some scheduled) :
    (loop.refitted source scheduler).runScheduler candidates snapshot t primary fallback =
      some scheduled := by
  simp only [runScheduler, Option.bind_eq_bind, Option.bind_eq_some_iff, Prod.exists] at ran ⊢
  obtain ⟨reply, after, called, rest⟩ := ran
  exact ⟨reply, after, calls _ _ _ _ _ called, rest⟩

/-- A step depends on its source through one poll and the backlog it leaves, and on its
scheduler through one call. -/
theorem step_refitted (source : RequestSource σ) (scheduler : ResourceScheduler π)
    (reported : source.backlog = loop.requestSource.backlog)
    (polls : ∀ state step batch result, loop.requestSource.poll state step batch = some result →
      source.poll state step batch = some result)
    (calls : ∀ state candidates snapshot step reply,
      loop.scheduler.schedule state candidates snapshot step = some reply →
        scheduler.schedule state candidates snapshot step = some reply)
    (t : ℤ) (state : LoopState σ π φ ο) (result : LoopState σ π φ ο × StepTrace)
    (stepped : loop.step t state = some result) :
    (loop.refitted source scheduler).step t state = some result := by
  unfold step at stepped ⊢
  simp only [loop.gather_congr (loop.refitted source scheduler) rfl,
    loop.handleDeferred_congr (loop.refitted source scheduler) rfl rfl, Option.bind_eq_bind,
    Option.bind_eq_some_iff] at stepped ⊢
  obtain ⟨polled, returned, scheduled, ran, same⟩ := stepped
  refine ⟨polled, polls _ _ _ _ returned, scheduled, ?_, ?_⟩
  · have ran := loop.runScheduler_refitted source scheduler calls _ _ _ _ _ _ ran
    rw [← reported] at ran
    exact ran
  · rw [← reported] at same
    exact same

/-- What the scheduling stage of a step is offered once its poll has returned: the candidates
and what the lane leaves of the snapshot. All stages up to it are total. -/
def offered (t : ℤ) (state : LoopState σ π φ ο) (polled : List ServiceRequest × σ) :
    List ScheduleCandidate × ConstellationSnapshot :=
  let snapshot := mergeSnapshots t
    ((loop.gather t loop.constellations state.breakers).1.filterMap Lookup.snapshot?)
  let state := loop.maybeReplan t snapshot
    { state with breakers := (loop.gather t loop.constellations state.breakers).2 }
  let released := (state.retryQueue.filter (due t)).map RetryEntry.request
  let held := state.retryQueue.filter (fun entry => !due t entry)
  let scored := (polled.1 ++ released).map (loop.score state.plan t)
  let urgent := (scored.map ScoredRequest.request).filter isUrgent
  let decision := EmergencyLane.reserve loop.config.emergency loop.regulatory loop.config.scoring
    urgent snapshot state.plan t
  let remaining := subtractReservations snapshot decision.reservations
  let bestEffort := bestEffortOf scored decision
  let congestion := congestionOf t (held.length + max 0 (loop.requestSource.backlog polled.2))
    bestEffort remaining state.lastDropRate
  let admitted := (state.admission.admitScored bestEffort congestion t).1
  ((loop.buildCandidates admitted.admitted).1, remaining)

/-- A step whose poll and scheduling stage return does, and leaves what they left. Nothing else
in a step can fail to return. -/
theorem step_returns (t : ℤ) (state : LoopState σ π φ ο) (polled : List ServiceRequest × σ)
    (returned : loop.requestSource.poll state.source t loop.config.arrival.maxBatchPerStep =
      some polled) (scheduled : Scheduled π φ)
    (ran : loop.runScheduler (loop.offered t state polled).1 (loop.offered t state polled).2 t
      state.scheduler state.fallback = some scheduled) :
    ∃ next trace, loop.step t state = some (next, trace) ∧ next.source = polled.2 ∧
      next.scheduler = scheduled.primary := by
  have kept := loop.maybeReplan_frame t
  simp only [offered] at ran
  unfold step
  simp only [Option.bind_eq_bind, Option.bind_eq_some_iff, kept] at ran ⊢
  exact ⟨_, _, ⟨polled, returned, scheduled, ran, rfl⟩, rfl, rfl⟩

/-- A scheduling stage whose primary scheduler returns a result has that result. -/
theorem runScheduler_normal (candidates : List ScheduleCandidate) (snapshot : ConstellationSnapshot)
    (t : ℤ) (primary after : π) (fallback : φ) (result : SchedulingResult)
    (called : loop.scheduler.schedule primary candidates snapshot t =
      some (.returned result, after)) :
    loop.runScheduler candidates snapshot t primary fallback =
      some ⟨result, .normal, after, fallback⟩ := by
  simp only [runScheduler, called, Option.bind_eq_bind, Option.bind_some]
  rfl

/-- The source enters what is offered with its backlog only, and the scheduler not at all. -/
theorem offered_refitted (source : RequestSource σ) (scheduler : ResourceScheduler π)
    (reported : source.backlog = loop.requestSource.backlog) (t : ℤ) (state : LoopState σ π φ ο)
    (polled : List ServiceRequest × σ) :
    (loop.refitted source scheduler).offered t state polled = loop.offered t state polled := by
  unfold offered
  simp only [loop.gather_congr (loop.refitted source scheduler) rfl]
  have replaced : (loop.refitted source scheduler).requestSource.backlog =
    loop.requestSource.backlog := reported
  rw [replaced]
  rfl

end ControlLoop

section Streams

variable (config : SimulationConfig) (math : Rng.MathExp)

/-- On streams that stay below one by a margin, one amount of fuel is enough for every poll. -/
theorem SyntheticRequestSource.port_finishes (margin : ℚ) (below : margin < 1)
    (inhabited : config.arrival.baselineRate ≤ 0 ∨ config.regionRules ≠ [])
    (listed : ∀ event ∈ config.surges, event.trafficClass ∈ config.classMix.keys) :
    ∃ fuel, ∀ source : SyntheticRequestSource,
      (∀ index, (source.generator.rng.tape index).unit ≤ margin) → ∀ step maxBatch, ∃ polled,
        (port config math fuel).poll source step maxBatch = some polled ∧
          polled.2.generator.rng.tape = source.generator.rng.tape := by
  obtain ⟨fuel, finishes⟩ :=
    Rng.poisson_finishes math config.arrival.baselineRate margin below
  refine ⟨fuel, fun source bounded step maxBatch => ?_⟩
  obtain ⟨generated, caught, extended, same⟩ := catchUp_total config math fuel
    (step - source.generatedThrough).toNat source (fun later generator kept =>
      DemandGenerator.generateStep_total config math fuel later generator
        (finishes generator.rng (kept ▸ bounded)) inhabited listed)
  have polled := (poll_eq_ok config math fuel source _ step maxBatch _).mpr
    ⟨generated, caught, extended, rfl, rfl⟩
  exact ⟨_, by simp only [port, polled]; rfl, same⟩

/-- A call of the selected scheduler returns with enough fuel; only random access needs its
stream to be lively. -/
theorem selectedScheduler_finishes (rng : Rng) (candidates : List ScheduleCandidate)
    (snapshot : ConstellationSnapshot) (step : ℤ)
    (lively : config.scheduler = .contentionMac → Rng.Lively rng.tape) :
    ∃ fuel result final, (selectedScheduler config fuel).port.schedule rng candidates snapshot
      step = some (.returned result, final) ∧ final.tape = rng.tape := by
  unfold selectedScheduler
  cases selected : config.scheduler with
  | contentionMac =>
    obtain ⟨fuel, result, final, scheduled, same⟩ := ContentionMacScheduler.schedule_finishes
      config.mac candidates snapshot step rng (lively selected)
    exact ⟨fuel, result, final,
      by simp [InRepoScheduler.port, InRepoScheduler.schedule, scheduled], same⟩
  | _ => exact ⟨0, _, rng, rfl, rfl⟩

end Streams

namespace ControlLoop

variable {ο : Type} (config : SimulationConfig) (math : Rng.MathExp) (optimizer : Optimizer ο)

/-- A step of the simulation that returns returns the same with more fuel. -/
theorem simulation_step_more {fuel more : ℕ} (enough : fuel ≤ more) (t : ℤ)
    (state : LoopState SyntheticRequestSource Rng Rng ο)
    (result : LoopState SyntheticRequestSource Rng Rng ο × StepTrace)
    (stepped : (buildSimulation config math fuel optimizer).step t state = some result) :
    (buildSimulation config math more optimizer).step t state = some result :=
  (buildSimulation config math fuel optimizer).step_refitted
    (SyntheticRequestSource.port config math more) (selectedScheduler config more).port rfl
    (SyntheticRequestSource.port_more enough config math)
    (selectedScheduler_more enough config) t state result stepped

/-- So does a run. -/
theorem simulation_run_more {fuel more : ℕ} (enough : fuel ≤ more) (start : ℤ) (count : ℕ)
    (initial final : LoopState SyntheticRequestSource Rng Rng ο) (traces : List StepTrace)
    (completed : (buildSimulation config math fuel optimizer).run start count initial =
      some (final, traces)) :
    (buildSimulation config math more optimizer).run start count initial = some (final, traces) :=
  Runs.run_extends _ _ (fun index state => simulation_step_more config math optimizer enough
    (start + index) state) count initial final traces completed

/-- Every step of the simulation returns with enough fuel, and leaves the streams it draws from:
it only moves on in them, so the conditions on the streams hold for the next step as well. -/
theorem simulation_step_finishes (margin : ℚ) (below : margin < 1)
    (inhabited : config.arrival.baselineRate ≤ 0 ∨ config.regionRules ≠ [])
    (listed : ∀ event ∈ config.surges, event.trafficClass ∈ config.classMix.keys) (t : ℤ)
    (state : LoopState SyntheticRequestSource Rng Rng ο)
    (bounded : ∀ index, (state.source.generator.rng.tape index).unit ≤ margin)
    (lively : config.scheduler = .contentionMac → Rng.Lively state.scheduler.tape) :
    ∃ fuel next trace, (buildSimulation config math fuel optimizer).step t state =
        some (next, trace) ∧
      next.source.generator.rng.tape = state.source.generator.rng.tape ∧
        next.scheduler.tape = state.scheduler.tape := by
  obtain ⟨early, polls⟩ := SyntheticRequestSource.port_finishes config math margin below
    inhabited listed
  obtain ⟨polled, returned, kept⟩ := polls state.source bounded t config.arrival.maxBatchPerStep
  obtain ⟨late, result, after, scheduled, same⟩ := selectedScheduler_finishes config
    state.scheduler ((buildSimulation config math early optimizer).offered t state polled).1
    ((buildSimulation config math early optimizer).offered t state polled).2 t lively
  have returned := SyntheticRequestSource.port_more (le_max_left early late) config math _ _ _ _
    returned
  have scheduled := selectedScheduler_more (le_max_right early late) config _ _ _ _ _ scheduled
  have offers := (buildSimulation config math early optimizer).offered_refitted
    (SyntheticRequestSource.port config math (max early late))
    (selectedScheduler config (max early late)).port rfl t state polled
  -- The candidates are those offered with less fuel, so the call of the scheduler is the same.
  rw [← offers] at scheduled
  obtain ⟨next, trace, stepped, source, scheduler⟩ :=
    (buildSimulation config math (max early late) optimizer).step_returns t state polled returned _
      (runScheduler_normal _ _ _ t _ after state.fallback result scheduled)
  exact ⟨max early late, next, trace, stepped, source ▸ kept, scheduler ▸ same⟩

/-- A run of any length returns with enough fuel, which is the most that any of its steps
needs. -/
theorem simulation_run_finishes (margin : ℚ) (below : margin < 1)
    (inhabited : config.arrival.baselineRate ≤ 0 ∨ config.regionRules ≠ [])
    (listed : ∀ event ∈ config.surges, event.trafficClass ∈ config.classMix.keys)
    (start : ℤ) (count : ℕ) (initial : LoopState SyntheticRequestSource Rng Rng ο)
    (bounded : ∀ index, (initial.source.generator.rng.tape index).unit ≤ margin)
    (lively : config.scheduler = .contentionMac → Rng.Lively initial.scheduler.tape) :
    ∃ fuel final traces, (buildSimulation config math fuel optimizer).run start count initial =
        some (final, traces) ∧
      final.source.generator.rng.tape = initial.source.generator.rng.tape ∧
        final.scheduler.tape = initial.scheduler.tape := by
  induction count with
  | zero => exact ⟨0, initial, [], rfl, rfl, rfl⟩
  | succ count inductionHypothesis =>
    obtain ⟨early, middle, before, ran, demand, draws⟩ := inductionHypothesis
    obtain ⟨late, next, trace, stepped, kept, same⟩ := simulation_step_finishes config math
      optimizer margin below inhabited listed (start + count) middle (demand ▸ bounded)
      (draws ▸ lively)
    refine ⟨max early late, next, before ++ [trace], ?_, kept.trans demand, same.trans draws⟩
    exact (Runs.run_succ _ count initial next _).mpr ⟨middle, before, trace,
      simulation_run_more config math optimizer (le_max_left early late) start count _ _ _ ran,
      simulation_step_more config math optimizer (le_max_right early late) _ _ _ stepped, rfl⟩

end ControlLoop

/-- The simulation of a configuration with a region to draw, whose surges name classes of the
mix, completes any number of steps, whatever the planner answers: on every demand stream that
stays below one by a margin, and on every lively scheduler stream where the scheduler draws. The
fuel decides only whether the run of the model gets there. -/
theorem simulation_completes {ο : Type} (config : SimulationConfig) (math : Rng.MathExp)
    (optimizer : Optimizer ο) (planner : ο)
    (inhabited : config.arrival.baselineRate ≤ 0 ∨ config.regionRules ≠ [])
    (listed : ∀ event ∈ config.surges, event.trafficClass ∈ config.classMix.keys)
    (margin : ℚ) (below : margin < 1) (demandRng schedulerRng fallbackRng admissionRng rng : Rng)
    (bounded : ∀ index, (demandRng.tape index).unit ≤ margin)
    (lively : config.scheduler = .contentionMac → Rng.Lively schedulerRng.tape) (start : ℤ)
    (count : ℕ) :
    ∃ fuel final traces, traces.length = count ∧ ∀ more, fuel ≤ more →
      (buildSimulation config math more optimizer).run start count
        ((buildSimulation config math more optimizer).initial
          (SyntheticRequestSource.initial demandRng) schedulerRng fallbackRng planner admissionRng
            rng) = some (final, traces) := by
  obtain ⟨fuel, final, traces, completed, _⟩ := ControlLoop.simulation_run_finishes config math
    optimizer margin below inhabited listed start count
    ((buildSimulation config math 0 optimizer).initial (SyntheticRequestSource.initial demandRng)
      schedulerRng fallbackRng planner admissionRng rng) bounded lively
  refine ⟨fuel, final, traces, Runs.run_length _ count _ final traces completed, ?_⟩
  exact fun more enough => ControlLoop.simulation_run_more config math optimizer enough start
    count _ final traces completed

/-- The small configuration with random access, the one scheduler that draws. -/
def contentionConfig : SimulationConfig :=
  { smallFields with scheduler := .contentionMac, accepted := by decide +kernel }

/-- Five steps of the small simulation with random access, on the stream that counts up. -/
theorem simulation_completes_small : ∃ fuel final traces, traces.length = 5 ∧
    ∀ more, fuel ≤ more →
      (buildSimulation contentionConfig Rng.coarseExp more smallLoop.optimizer).run 0 5
        ((buildSimulation contentionConfig Rng.coarseExp more smallLoop.optimizer).initial
          (SyntheticRequestSource.initial countingRng) countingRng evenRng () evenRng evenRng) =
            some (final, traces) :=
  simulation_completes contentionConfig Rng.coarseExp smallLoop.optimizer () (by decide)
    (by decide) (1 / 2) (by norm_num) countingRng countingRng evenRng evenRng evenRng
    (fun _ => le_refl _) (fun _ => countingRng_lively) 0 5

end Satsim
