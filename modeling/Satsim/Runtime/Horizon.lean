import Satsim.Runtime.Ingestion
import Satsim.Runtime.Scenarios
import Satsim.Runtime.Throughput

/-!
# What lies past the horizon

Demand is drawn from a stream of its own, by the step: a generation reads the arrival
settings, the class mix, the rule table and the surges of its step. Nothing else in a
simulation moves it, neither fleets, schedulers and planners nor surges that are still to
come. So two experiments on one demand stream see the same requests, and a launch for fewer
steps is the beginning of a longer one.

Both results are about pairs of runs. The first relates loops that share nothing but the
source and its stream, the second two launches of one command line; neither says that a
stream is likely.
-/

namespace Satsim

open Library

namespace SimulationConfig

/-- Two configurations that demand the same before a step. Surges from that step on may
differ. -/
structure DemandsAlike (first second : SimulationConfig) (horizon : ℤ) : Prop where
  arrival : first.arrival = second.arrival
  mix : first.classMix = second.classMix
  rules : first.regionRules = second.regionRules
  surges : first.surges.filter (·.atStep < horizon) = second.surges.filter (·.atStep < horizon)

/-- Two configurations that set alike what a step of the loop reads. Duration, fleets and surges
are not among it: the first is read by the run, the second when the loop is wired, the third by
the source. -/
structure SetAlike (first second : SimulationConfig) : Prop where
  batch : first.arrival.maxBatchPerStep = second.arrival.maxBatchPerStep
  mix : first.classMix = second.classMix
  overload : first.overload = second.overload
  cadence : first.optimizer.cadenceSteps = second.optimizer.cadenceSteps
  emergency : first.emergency = second.emergency
  scoring : first.scoring = second.scoring

end SimulationConfig

section Demand

variable {first second : SimulationConfig} {horizon : ℤ}
variable (alike : first.DemandsAlike second horizon) (math : Rng.MathExp) (fuel : ℕ)

namespace DemandGenerator

/-- A step publishes the surges before the horizon only. -/
theorem surges_before (config : SimulationConfig) (step : ℤ) (before : step < horizon)
    (events : List SurgeEvent) (generator : DemandGenerator) :
    surges config step events generator =
      surges config step (events.filter (·.atStep < horizon)) generator := by
  induction events generalizing generator with
  | nil => rfl
  | cons event rest inductionHypothesis =>
    by_cases scheduled : event.atStep = step
    · rw [List.filter_cons_of_pos (by simpa [scheduled] using before), surges, surges]
      simp only [inductionHypothesis]
    · rw [surges_elsewhere config step event rest generator scheduled, inductionHypothesis]
      by_cases kept : event.atStep < horizon
      · rw [List.filter_cons_of_pos (by simpa using kept),
          surges_elsewhere config step event _ generator scheduled]
      · rw [List.filter_cons_of_neg (by simpa using kept)]

include alike

/-- Publishing reads the class mix and the arrival settings. -/
theorem publish_alike : publish first = publish second := by
  funext step trafficClass region urgency generator
  simp only [publish, SimulationConfig.profile?, alike.mix, alike.arrival]

/-- Baseline arrivals are drawn by the rule table and the mix. -/
theorem baseline_alike (step : ℤ) (count : ℕ) (generator : DemandGenerator) :
    baseline first step count generator = baseline second step count generator := by
  have weights : classWeights first = classWeights second := by
    rw [classWeights, classWeights, alike.mix]
  have drawn : regions first = regions second := by
    rw [regions, regions, alike.rules]
  induction count generalizing generator with
  | zero => rfl
  | succ count inductionHypothesis =>
    simp only [baseline, weights, drawn, publish_alike alike, inductionHypothesis]

/-- A surge names its region and class, and reads no more than publishing does. -/
theorem surge_alike (step : ℤ) (event : SurgeEvent) (count : ℕ) (generator : DemandGenerator) :
    surge first step event count generator = surge second step event count generator := by
  induction count generalizing generator with
  | zero => rfl
  | succ count inductionHypothesis =>
    simp only [surge, alike.arrival, publish_alike alike, inductionHypothesis]

/-- Surges one after the other are drawn alike. -/
theorem surges_alike (step : ℤ) (events : List SurgeEvent) (generator : DemandGenerator) :
    surges first step events generator = surges second step events generator := by
  induction events generalizing generator with
  | nil => rfl
  | cons event rest inductionHypothesis =>
    simp only [surges, surge_alike alike, inductionHypothesis]

/-- Before the horizon the same demand is drawn from the same stream, and the stream is left at
the same place. -/
theorem generateStep_alike (step : ℤ) (before : step < horizon) (generator : DemandGenerator) :
    generateStep first math fuel step generator = generateStep second math fuel step generator := by
  have scheduled (generator : DemandGenerator) : surges first step first.surges generator =
      surges second step second.surges generator := by
    rw [surges_before first step before, alike.surges, ← surges_before first step before,
      surges_alike alike]
  simp only [generateStep, alike.arrival, baseline_alike alike, scheduled]

end DemandGenerator

namespace SyntheticRequestSource

include alike

/-- So are the steps that a poll catches up on, as long as all of them lie before it. -/
theorem catchUp_alike (count : ℕ) (source : SyntheticRequestSource)
    (before : source.generatedThrough + count < horizon) :
    catchUp first math fuel count source = catchUp second math fuel count source := by
  induction count generalizing source with
  | zero => rfl
  | succ count inductionHypothesis =>
    have later (generator : DemandGenerator) := inductionHypothesis
      ⟨generator, source.generatedThrough + 1⟩ (by push_cast at before; simp only; omega)
    simp only [catchUp, DemandGenerator.generateStep_alike alike math fuel
      (source.generatedThrough + 1) (by push_cast at before; omega), later]

/-- A poll before the horizon returns the same, whether it finds the step generated or has to
catch up. -/
theorem poll_alike (source : SyntheticRequestSource) (step batch : ℤ) (before : step < horizon) :
    poll first math fuel source step batch = poll second math fuel source step batch := by
  by_cases ahead : source.generatedThrough ≤ step
  · simp only [poll, catchUp_alike alike math fuel (step - source.generatedThrough).toNat source
      (by omega)]
  · have nothing : (step - source.generatedThrough).toNat = 0 := by omega
    simp only [poll, nothing, catchUp]

/-- The same behind the port of the loop. -/
theorem port_alike (source : SyntheticRequestSource) (step batch : ℤ) (before : step < horizon) :
    (port first math fuel).poll source step batch =
      (port second math fuel).poll source step batch := by
  simp only [port, poll_alike alike math fuel source step batch before]

end SyntheticRequestSource

end Demand

namespace ControlLoop

section Reconfigured

variable {σ π φ ο : Type} (loop : ControlLoop σ π φ ο)

/-- The same loop under another configuration, with another source. -/
def reconfigured (config : SimulationConfig) (source : RequestSource σ) : ControlLoop σ π φ ο :=
  { loop with config := config, requestSource := source }

/-- A step depends on its configuration through what it reads of it, and on its source through
one poll and the backlog it leaves. The premise on the poll is for the state at hand, not for
all states. -/
theorem step_reconfigured (config : SimulationConfig) (source : RequestSource σ)
    (alike : config.SetAlike loop.config)
    (reported : source.backlog = loop.requestSource.backlog) (t : ℤ) (state : LoopState σ π φ ο)
    (polls : source.poll state.source t loop.config.arrival.maxBatchPerStep =
      loop.requestSource.poll state.source t loop.config.arrival.maxBatchPerStep) :
    (loop.reconfigured config source).step t state = loop.step t state := by
  have replans : (loop.reconfigured config source).maybeReplan = loop.maybeReplan := by
    funext step snapshot state
    simp only [maybeReplan, reconfigured, alike.cadence]
  have scores : (loop.reconfigured config source).score = loop.score := by
    funext plan step request
    simp only [score, reconfigured, alike.scoring]
  have offers : (loop.reconfigured config source).candidateOf = loop.candidateOf := by
    funext item
    simp only [candidateOf, isDegradable, SimulationConfig.profile?, reconfigured, alike.mix]
  have builds : (loop.reconfigured config source).buildCandidates = loop.buildCandidates := by
    funext admitted
    simp only [buildCandidates, offers]
    rfl
  have remembers (α : Type) : (loop.reconfigured config source).remember (α := α) =
      loop.remember := by
    funext history item
    simp only [remember, reconfigured, alike.overload]
  unfold step
  simp only [loop.gather_congr (loop.reconfigured config source) alike.overload,
    loop.handleDeferred_congr (loop.reconfigured config source) alike.overload alike.mix, replans,
    scores, builds, remembers]
  simp only [reconfigured, alike.batch, alike.emergency, alike.scoring, maybeReplan_frame, polls,
    reported]
  rfl

end Reconfigured

/-- Built simulations over the same fleets, set alike and demanding the same before a horizon,
run alike up to it, whatever their durations and the surges past it. -/
theorem run_alike {ο : Type} (first second : SimulationConfig) (horizon : ℤ)
    (demands : first.DemandsAlike second horizon) (settings : first.SetAlike second)
    (fleets : first.fleets = second.fleets) (scheduler : first.scheduler = second.scheduler)
    (params : first.schedulerParams = second.schedulerParams) (mac : first.mac = second.mac)
    (math : Rng.MathExp) (fuel : ℕ) (optimizer : Optimizer ο) (start : ℤ) (count : ℕ)
    (within : start + count ≤ horizon) (initial : LoopState SyntheticRequestSource Rng Rng ο) :
    (buildSimulation first math fuel optimizer).run start count initial =
      (buildSimulation second math fuel optimizer).run start count initial := by
  have covered : coverageForFleet first = coverageForFleet second := by
    funext fleet
    simp only [coverageForFleet, demands.rules]
  have shown : fakeConstellation first = fakeConstellation second := by
    funext fleet
    simp only [fakeConstellation, covered]
  have built : buildSimulation first math fuel optimizer =
      (buildSimulation second math fuel optimizer).reconfigured first
        (SyntheticRequestSource.port first math fuel) := by
    simp only [buildSimulation, reconfigured, buildFakeConstellations, fleets, shown,
      demands.rules, selectedScheduler, scheduler, params, mac]
  rw [built]
  refine Runs.run_congr _ _ count ?_ initial
  intro index before state
  have polls := SyntheticRequestSource.port_alike demands math fuel state.source (start + index)
    second.arrival.maxBatchPerStep (by omega)
  exact (buildSimulation second math fuel optimizer).step_reconfigured first
    (SyntheticRequestSource.port first math fuel) settings rfl (start + index) state polls

end ControlLoop

namespace ControlLoop

/-- Experiments share their demand. Two loops over the synthetic source whose configurations
demand the same poll the same requests in every step, from the same stream, and leave the same
on the bus, whatever their fleets, schedulers, planners and faults, and whatever becomes of the
requests in either. -/
theorem demand_shared {π φ ο α β γ : Type} (loop : ControlLoop SyntheticRequestSource π φ ο)
    (other : ControlLoop SyntheticRequestSource α β γ) (math : Rng.MathExp) (fuel : ℕ)
    (sourced : loop.requestSource = SyntheticRequestSource.port loop.config math fuel)
    (fed : other.requestSource = SyntheticRequestSource.port other.config math fuel) (count : ℕ)
    (alike : other.config.DemandsAlike loop.config count)
    (initial final : LoopState SyntheticRequestSource π φ ο) (traces : List StepTrace)
    (completed : loop.run 0 count initial = some (final, traces))
    (begun reached : LoopState SyntheticRequestSource α β γ) (responses : List StepTrace)
    (followed : other.run 0 count begun = some (reached, responses))
    (same : begun.source = initial.source) :
    responses.map StepTrace.polled = traces.map StepTrace.polled ∧
      reached.source = final.source := by
  obtain ⟨polls, polled, returned⟩ :=
    loop.run_polls loop.config math fuel sourced count initial final traces completed
  obtain ⟨replies, replied, answered⟩ :=
    other.run_polls other.config math fuel fed count begun reached responses followed
  have drawn : SyntheticRequestSource.pollRun other.config math fuel
        (fun index => (index, other.config.arrival.maxBatchPerStep)) count =
      SyntheticRequestSource.pollRun loop.config math fuel
        (fun index => (index, loop.config.arrival.maxBatchPerStep)) count := by
    funext source
    refine Runs.run_congr _ _ count (fun index before source => ?_) source
    have polls := SyntheticRequestSource.poll_alike alike math fuel source index
      loop.config.arrival.maxBatchPerStep (by omega)
    simp only [SyntheticRequestSource.pollAt, alike.arrival, polls]
  rw [drawn, same, polled] at replied
  obtain ⟨sameSource, rfl⟩ := Prod.mk.inj (Option.some.inj replied)
  exact ⟨answered.symm.trans returned, sameSource.symm⟩

end ControlLoop

/-- The surges with every fleet up, under the default scheduler. -/
def calmLoop : ControlLoop SyntheticRequestSource Rng Rng Unit :=
  buildSimulation SyntheticRequestSource.surgeConfig Rng.coarseExp 0 smallLoop.optimizer

/-- Its start, on one stream for all. -/
def calmStart : LoopState SyntheticRequestSource Rng Rng Unit :=
  calmLoop.initial (SyntheticRequestSource.initial evenRng) evenRng evenRng () evenRng evenRng

/-- Three steps return, which evaluation finds. -/
theorem calmRun_returns : (calmLoop.run 0 3 calmStart).isSome = true := by decide +kernel

/-- The same three requests are polled whether the fleet fails or not. -/
theorem ControlLoop.demand_shared_fault :
    let calm := ((calmLoop.run 0 3 calmStart).get calmRun_returns).2
    let faulty := ((faultLoop.run 0 3 faultStart).get faultRun_returns).2
    calm.map (fun trace => trace.polled.length) = [2, 0, 1] ∧
      faulty.map StepTrace.polled = calm.map StepTrace.polled := by
  refine ⟨by decide +kernel, ?_⟩
  exact (demand_shared calmLoop faultLoop Rng.coarseExp 0 rfl rfl 3 ⟨rfl, rfl, rfl, rfl⟩ calmStart
    _ _ (Option.some_get calmRun_returns).symm faultStart _ _
    (Option.some_get faultRun_returns).symm rfl).1

/-- What a launch leaves as its scenario has it. The duration, the surges, the seed, the
scheduler and the solver settings may be overridden. -/
structure SimulationConfig.BasedOn (config base : SimulationConfig) : Prop where
  arrival : config.arrival = base.arrival
  mix : config.classMix = base.classMix
  fleets : config.fleets = base.fleets
  rules : config.regionRules = base.regionRules
  overload : config.overload = base.overload
  cadence : config.optimizer.cadenceSteps = base.optimizer.cadenceSteps
  emergency : config.emergency = base.emergency
  scoring : config.scoring = base.scoring
  params : config.schedulerParams = base.schedulerParams
  mac : config.mac = base.mac

/-- An override only touches its own fields. -/
theorem Arguments.Launched.basedOn {arguments : Arguments} {settings : RunSettings}
    {base seeded : SeededConfig} (launched : arguments.Launched settings base seeded) :
    seeded.config.BasedOn base.config := by
  constructor <;> rw [launched.rest]

/-- Launches from one scenario read the same settings in their steps. -/
theorem SimulationConfig.BasedOn.setAlike {first second base : SimulationConfig}
    (one : first.BasedOn base) (other : second.BasedOn base) : first.SetAlike second where
  batch := by rw [one.arrival, other.arrival]
  mix := one.mix.trans other.mix.symm
  overload := one.overload.trans other.overload.symm
  cadence := one.cadence.trans other.cadence.symm
  emergency := one.emergency.trans other.emergency.symm
  scoring := one.scoring.trans other.scoring.symm

/-- The surges before a horizon are those of any longer duration before it: to cut at the
duration and then at the horizon is to cut at the horizon. -/
theorem surges_within (events : List SurgeEvent) (duration horizon : ℤ)
    (covered : horizon ≤ duration) :
    (events.filter (·.atStep < duration)).filter (·.atStep < horizon) =
      events.filter (·.atStep < horizon) := by
  rw [List.filter_filter]
  refine List.filter_congr fun event _ => ?_
  by_cases early : event.atStep < horizon
  · simp [early, lt_of_lt_of_le early covered]
  · simp [early]

/-- Launches from one scenario demand the same before either ends. -/
theorem Arguments.Launched.demandsAlike {first second : Arguments} {settings : RunSettings}
    {base long short : SeededConfig} (launched : first.Launched settings base long)
    (cut : second.Launched settings base short) (horizon : ℤ)
    (inside : horizon ≤ long.config.durationSteps)
    (within : horizon ≤ short.config.durationSteps) :
    short.config.DemandsAlike long.config horizon where
  arrival := cut.basedOn.arrival.trans launched.basedOn.arrival.symm
  mix := cut.basedOn.mix.trans launched.basedOn.mix.symm
  rules := cut.basedOn.rules.trans launched.basedOn.rules.symm
  surges := by
    rw [cut.surges, launched.surges, surges_within _ _ _ within, surges_within _ _ _ inside]

/-- The same command line with another number of steps, or with none. The count must be
positive, as the parser of the command line asks. -/
def Arguments.lasting (arguments : Arguments) (steps : Option ℤ)
    (positive : ∀ count ∈ steps, 0 < count) : Arguments :=
  { arguments with steps := steps, stepsPositive := positive }

/-- A launch for fewer steps is the beginning of a longer one. Whatever number of steps the
command line asks for, and if it asks for none, the simulation launched has the same seed and
starts in the same state, and takes the same steps while both last: the surges that the shorter
launch drops are all still to come. -/
theorem launch_cut {ο : Type} (arguments : Arguments) (settings : RunSettings)
    (steps : Option ℤ) (positive : ∀ count ∈ steps, 0 < count) :
    ∃ long short, launch arguments settings = .ok long ∧
      launch (arguments.lasting steps positive) settings = .ok short ∧ short.seed = long.seed ∧
      ∀ (math : Rng.MathExp) (fuel : ℕ) (optimizer : Optimizer ο) (planner : ο)
        (demandRng schedulerRng fallbackRng admissionRng rng : Rng) (count : ℕ),
        count ≤ long.config.durationSteps → count ≤ short.config.durationSteps →
          (buildSimulation short.config math fuel optimizer).run 0 count
              ((buildSimulation short.config math fuel optimizer).initial
                (SyntheticRequestSource.initial demandRng) schedulerRng fallbackRng planner
                  admissionRng rng) =
            (buildSimulation long.config math fuel optimizer).run 0 count
              ((buildSimulation long.config math fuel optimizer).initial
                (SyntheticRequestSource.initial demandRng) schedulerRng fallbackRng planner
                  admissionRng rng) := by
  obtain ⟨scenario, registered, long, named, built, launched⟩ := launch_ok arguments settings
  obtain ⟨other, listed, short, called, shortened, cut⟩ :=
    launch_ok (arguments.lasting steps positive) settings
  have same : other = scenario := by
    have found := scenarios_find other listed
    rw [called.trans named.symm, scenarios_find scenario registered] at found
    exact (Option.some.inj found).symm
  subst same
  refine ⟨long, short, built, shortened, cut.seed.trans launched.seed.symm, ?_⟩
  intro math fuel optimizer planner demandRng schedulerRng fallbackRng admissionRng rng count
    inside within
  have demands := launched.demandsAlike cut count inside within
  have settled := cut.basedOn.setAlike launched.basedOn
  have fleets := cut.basedOn.fleets.trans launched.basedOn.fleets.symm
  have params := cut.basedOn.params.trans launched.basedOn.params.symm
  have mac := cut.basedOn.mac.trans launched.basedOn.mac.symm
  have begins : (buildSimulation short.config math fuel optimizer).initialBreakers =
      (buildSimulation long.config math fuel optimizer).initialBreakers := by
    simp only [ControlLoop.initialBreakers, ControlLoop.freshBreaker, buildSimulation,
      buildFakeConstellations, fleets, settled.overload, List.map_map, Function.comp_def]
    rfl
  rw [ControlLoop.run_alike short.config long.config count demands settled fleets
    (cut.scheduler.trans launched.scheduler.symm) params mac math fuel optimizer 0 count
    (by omega)]
  simp only [ControlLoop.initial, begins]

/-- The surge scenario ended before its surge, and a step earlier. -/
theorem launch_cut_twice : ∃ long short, launch cutShort randomAccess = .ok long ∧
    launch (cutShort.lasting (some 2) (by simp)) randomAccess = .ok short ∧
      short.seed = long.seed ∧
      ∀ count : ℕ, count ≤ long.config.durationSteps → count ≤ short.config.durationSteps →
        (buildSimulation short.config Rng.coarseExp 0 smallLoop.optimizer).run 0 count
            ((buildSimulation short.config Rng.coarseExp 0 smallLoop.optimizer).initial
              (SyntheticRequestSource.initial countingRng) countingRng evenRng () evenRng evenRng) =
          (buildSimulation long.config Rng.coarseExp 0 smallLoop.optimizer).run 0 count
            ((buildSimulation long.config Rng.coarseExp 0 smallLoop.optimizer).initial
              (SyntheticRequestSource.initial countingRng) countingRng evenRng () evenRng
                evenRng) := by
  obtain ⟨long, short, built, shortened, seeded, alike⟩ :=
    launch_cut (ο := Unit) cutShort randomAccess (some 2) (by simp)
  exact ⟨long, short, built, shortened, seeded, alike Rng.coarseExp 0 smallLoop.optimizer ()
    countingRng countingRng evenRng evenRng evenRng⟩

end Satsim
