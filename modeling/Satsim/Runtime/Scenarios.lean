import Satsim.Runtime.Completion

/-!
# The named scenarios and what the command line launches

A launch takes a scenario, replaces its seed and its duration by a flag or by the
environment, drops the surges the new duration cuts off, and validates again; the environment
may then replace the scheduler, the planner's backend and its time limit, and the result is
validated once more. No command line that parses can be refused, and no launch can hang.

The catalog, the overrides and the precedence are those of the source, refusals
included. Parsing of the command line itself is taken as done: an `Arguments` is what
the parser has let through.
-/

namespace Satsim

open Library

/-- An unregistered name, a field its model refuses, or fields that a validator refuses
together. -/
inductive LaunchError where
  | unknownScenario (name : String)
  | field (name message : String)
  | refused (message : String)
  deriving DecidableEq

/-- The configuration these fields describe, when the validators accept them. -/
def SimulationFields.accept (fields : SimulationFields) : Except LaunchError SimulationConfig :=
  match checked : fields.validate with
  | .ok () => .ok { fields with accepted := checked }
  | .error message => .error (.refused message)

/-- Another duration, and of the surges those that it does not cut off. The validators would
refuse a surge past the end. -/
def SimulationConfig.lasting (config : SimulationConfig) (steps : ℤ) (positive : 0 < steps) :
    SimulationFields :=
  { config.toSimulationFields with
    durationSteps := steps
    surges := config.surges.filter (·.atStep < steps)
    durationPositive := positive }

/-- `build_scenario`: the registered scenario, with its seed or its duration replaced where one
is given. What is replaced is validated again. -/
def buildScenario (name : String) (seed steps : Option ℤ) : Except LaunchError SeededConfig :=
  match scenarios.find? (·.name = name) with
  | none => .error (.unknownScenario name)
  | some scenario =>
      let base := scenario.build
      match seed, steps with
      | none, none => .ok base
      | some seed, none => do
          let config ← base.config.accept
          .ok { seed := seed, config := config }
      | seed, some steps =>
          if positive : 0 < steps then do
            let config ← (base.config.lasting steps positive).accept
            .ok { seed := seed.getD base.seed, config := config }
          else .error (.field "duration_steps" "Input should be greater than 0")

/-- The run knobs that decide what is simulated. -/
inductive RunKnob where
  | seed
  | steps
  | scheduler
  | optimizerBackend
  | solverTimeLimitS
  deriving DecidableEq

/-- What the environment holds, with the source's defaults; `overrides` lists the knobs that it
provides. -/
structure RunSettings where
  seed : ℤ := 0
  steps : Option ℤ := none
  scheduler : SchedulerKind := .priorityFair
  optimizerBackend : OptimizerBackend := .heuristic
  solverTimeLimitS : ℚ := 1 / 2
  overrides : List RunKnob := []
  seedNonneg : 0 ≤ seed := by norm_num
  stepsPositive : ∀ count ∈ steps, 0 < count := by simp
  timeLimitPositive : 0 < solverTimeLimitS := by norm_num

/-- A value the environment provides for a knob. -/
def RunSettings.provided {α : Type} (settings : RunSettings) (knob : RunKnob) (value : α) :
    Option α :=
  if knob ∈ settings.overrides then some value else none

/-- Both limits it may choose from are positive. -/
theorem RunSettings.timeLimit_positive (settings : RunSettings) (optimizer : OptimizerConfig) :
    0 < (settings.provided .solverTimeLimitS settings.solverTimeLimitS).getD
      optimizer.solverTimeLimitS := by
  unfold provided
  split
  · exact settings.timeLimitPositive
  · exact optimizer.timeLimitPositive

/-- The environment's scheduler, backend and time limit, where it provides them. -/
def SimulationConfig.overridden (config : SimulationConfig) (settings : RunSettings) :
    SimulationFields :=
  { config.toSimulationFields with
    scheduler := (settings.provided .scheduler settings.scheduler).getD config.scheduler
    optimizer :=
      { config.optimizer with
        backend := (settings.provided .optimizerBackend settings.optimizerBackend).getD
          config.optimizer.backend
        solverTimeLimitS := (settings.provided .solverTimeLimitS settings.solverTimeLimitS).getD
          config.optimizer.solverTimeLimitS
        timeLimitPositive := settings.timeLimit_positive config.optimizer } }

/-- `_apply_run_overrides`. Where nothing is provided the configuration is not validated
again. -/
def applyRunOverrides (config : SimulationConfig) (settings : RunSettings) :
    Except LaunchError SimulationConfig :=
  if settings.provided .scheduler settings.scheduler = none ∧
      settings.provided .optimizerBackend settings.optimizerBackend = none ∧
        settings.provided .solverTimeLimitS settings.solverTimeLimitS = none then
    .ok config
  else (config.overridden settings).accept

/-- A command line that parses: a registered scenario, a seed that is not negative and a
positive number of steps. -/
structure Arguments where
  scenario : String
  seed : Option ℤ := none
  steps : Option ℤ := none
  registered : scenario ∈ scenarioNames
  seedNonneg : ∀ value ∈ seed, 0 ≤ value := by simp
  stepsPositive : ∀ count ∈ steps, 0 < count := by simp

/-- A flag goes before the environment. The scenario's own seed is used when neither is
given. -/
def Arguments.chosenSeed (arguments : Arguments) (settings : RunSettings) : Option ℤ :=
  arguments.seed <|> settings.provided .seed settings.seed

/-- So it is for the duration. The environment may provide the absence of one. -/
def Arguments.chosenSteps (arguments : Arguments) (settings : RunSettings) : Option ℤ :=
  arguments.steps <|> (settings.provided .steps settings.steps).join

/-- What `main` simulates. -/
def launch (arguments : Arguments) (settings : RunSettings) : Except LaunchError SeededConfig := do
  let seeded ← buildScenario arguments.scenario (arguments.chosenSeed settings)
    (arguments.chosenSteps settings)
  let config ← applyRunOverrides seeded.config settings
  .ok { seeded with config := config }

/-! ### Validation never refuses what a launch changes -/

/-- Fields that pass the validators are accepted as they are. -/
theorem SimulationFields.accept_ok (fields : SimulationFields)
    (accepted : fields.validate = .ok ()) :
    fields.accept = .ok { fields with accepted := accepted } := by
  unfold accept
  split
  · rfl
  · next refused => simp [accepted] at refused

/-- Another duration passes them: the one condition on it is that no surge lies past the end. -/
theorem SimulationConfig.lasting_accepted (config : SimulationConfig) (steps : ℤ)
    (positive : 0 < steps) : (config.lasting steps positive).validate = .ok () := by
  obtain ⟨inhabited, weighted, served, distinct, _⟩ :=
    (SimulationFields.validate_ok config.toSimulationFields).mp config.accepted
  refine (SimulationFields.validate_ok _).mpr ⟨inhabited, weighted, served, distinct, ?_⟩
  intro surge kept
  exact of_decide_eq_true (List.mem_filter.mp kept).2

/-- An accepted configuration loses no surge to its own duration. -/
theorem SimulationConfig.lasting_same (config : SimulationConfig) :
    config.lasting config.durationSteps config.durationPositive = config.toSimulationFields := by
  have early := ((SimulationFields.validate_ok config.toSimulationFields).mp
    config.accepted).2.2.2.2
  have kept : config.surges.filter (fun surge => surge.atStep < config.durationSteps) =
      config.surges :=
    List.filter_eq_self.mpr fun surge listed => by simpa using early surge listed
  simp only [lasting, kept]

/-- No registered name hides another. -/
theorem scenarios_find (scenario : Scenario) (registered : scenario ∈ scenarios) :
    scenarios.find? (·.name = scenario.name) = some scenario := by
  simp only [scenarios, List.mem_cons, List.not_mem_nil, or_false] at registered
  rcases registered with rfl | rfl | rfl | rfl | rfl | rfl <;> rfl

/-- A registered scenario is built with any seed and any positive number of steps. -/
theorem buildScenario_ok (scenario : Scenario) (registered : scenario ∈ scenarios)
    (seed steps : Option ℤ) (positive : ∀ count ∈ steps, 0 < count) :
    ∃ config, buildScenario scenario.name seed steps =
        .ok { seed := seed.getD scenario.build.seed, config := config } ∧
      ∃ lasts : 0 < steps.getD scenario.build.config.durationSteps,
        config.toSimulationFields = scenario.build.config.lasting _ lasts := by
  simp only [buildScenario, scenarios_find scenario registered]
  have same := scenario.build.config.lasting_same
  match seed, steps, positive with
  | none, none, _ =>
      exact ⟨scenario.build.config, rfl, scenario.build.config.durationPositive, same.symm⟩
  | some seed, none, _ =>
      refine ⟨scenario.build.config, ?_, scenario.build.config.durationPositive, same.symm⟩
      simp only [SimulationFields.accept_ok _ scenario.build.config.accepted]
      rfl
  | seed, some steps, positive =>
      have lasts : 0 < steps := positive steps rfl
      refine ⟨{ scenario.build.config.lasting steps lasts with
        accepted := scenario.build.config.lasting_accepted steps lasts }, ?_, lasts, rfl⟩
      cases seed <;>
        simp only [dif_pos lasts,
          SimulationFields.accept_ok _ (scenario.build.config.lasting_accepted steps lasts)] <;> rfl

/-- Only an unregistered name and a duration without steps are refused. -/
theorem buildScenario_iff (name : String) (seed steps : Option ℤ) :
    (∃ built, buildScenario name seed steps = .ok built) ↔
      name ∈ scenarioNames ∧ ∀ count ∈ steps, 0 < count := by
  constructor
  · rintro ⟨built, accepted⟩
    unfold buildScenario at accepted
    cases found : scenarios.find? (·.name = name) with
    | none => simp [found] at accepted
    | some scenario =>
        have named : scenario.name = name := by simpa using List.find?_some found
        refine ⟨List.mem_map.mpr ⟨scenario, List.mem_of_find?_eq_some found, named⟩, ?_⟩
        rintro count ⟨⟩
        by_contra nonpositive
        cases seed <;> simp [found, nonpositive] at accepted
  · rintro ⟨registered, positive⟩
    obtain ⟨scenario, listed, rfl⟩ := List.mem_map.mp registered
    obtain ⟨config, built, _⟩ := buildScenario_ok scenario listed seed steps positive
    exact ⟨_, built⟩

/-- No validator reads what the environment changes, so an override is never refused. -/
theorem applyRunOverrides_ok (config : SimulationConfig) (settings : RunSettings) :
    ∃ applied, applyRunOverrides config settings = .ok applied ∧
      applied.toSimulationFields = config.overridden settings := by
  unfold applyRunOverrides
  by_cases untouched : settings.provided .scheduler settings.scheduler = none ∧
      settings.provided .optimizerBackend settings.optimizerBackend = none ∧
        settings.provided .solverTimeLimitS settings.solverTimeLimitS = none
  · refine ⟨config, if_pos untouched, ?_⟩
    obtain ⟨scheduler, backend, timeLimit⟩ := untouched
    simp only [SimulationConfig.overridden, scheduler, backend, timeLimit, Option.getD_none]
  · have accepted : (config.overridden settings).validate = .ok () := config.accepted
    exact ⟨{ config.overridden settings with accepted := accepted },
      (if_neg untouched).trans (SimulationFields.accept_ok _ accepted), rfl⟩

/-- What is simulated: a knob's flag, else the environment's value, else the scenario's, and
the scenario's value of everything that is no knob. -/
structure Arguments.Launched (arguments : Arguments) (settings : RunSettings)
    (base launched : SeededConfig) : Prop where
  seed : launched.seed =
    (arguments.seed <|> settings.provided .seed settings.seed).getD base.seed
  duration : launched.config.durationSteps =
    (arguments.steps <|> (settings.provided .steps settings.steps).join).getD
      base.config.durationSteps
  surges : launched.config.surges =
    base.config.surges.filter (·.atStep < launched.config.durationSteps)
  scheduler : launched.config.scheduler =
    (settings.provided .scheduler settings.scheduler).getD base.config.scheduler
  backend : launched.config.optimizer.backend =
    (settings.provided .optimizerBackend settings.optimizerBackend).getD
      base.config.optimizer.backend
  timeLimit : launched.config.optimizer.solverTimeLimitS =
    (settings.provided .solverTimeLimitS settings.solverTimeLimitS).getD
      base.config.optimizer.solverTimeLimitS
  rest : base.config.toSimulationFields =
    { launched.config.toSimulationFields with
      durationSteps := base.config.durationSteps
      surges := base.config.surges
      scheduler := base.config.scheduler
      optimizer :=
        { launched.config.optimizer with
          backend := base.config.optimizer.backend
          solverTimeLimitS := base.config.optimizer.solverTimeLimitS
          timeLimitPositive := base.config.optimizer.timeLimitPositive }
      durationPositive := base.config.durationPositive }

/-- Every command line that parses launches its scenario in every environment. -/
theorem launch_ok (arguments : Arguments) (settings : RunSettings) :
    ∃ scenario ∈ scenarios, ∃ launched, scenario.name = arguments.scenario ∧
      launch arguments settings = .ok launched ∧
        arguments.Launched settings scenario.build launched := by
  obtain ⟨scenario, registered, named⟩ := List.mem_map.mp arguments.registered
  have positive : ∀ count ∈ arguments.chosenSteps settings, 0 < count := by
    intro count chosen
    unfold Arguments.chosenSteps RunSettings.provided at chosen
    cases flagged : arguments.steps with
    | some steps => exact arguments.stepsPositive count (by simpa [flagged] using chosen)
    | none =>
        refine settings.stepsPositive count ?_
        split_ifs at chosen <;> simp [flagged] at chosen
        exact chosen
  obtain ⟨config, built, lasts, lasting⟩ := buildScenario_ok scenario registered
    (arguments.chosenSeed settings) (arguments.chosenSteps settings) positive
  obtain ⟨applied, overridden, same⟩ := applyRunOverrides_ok config settings
  refine ⟨scenario, registered,
    ⟨(arguments.chosenSeed settings).getD scenario.build.seed, applied⟩, named, ?_, ?_⟩
  · rw [launch, ← named, built]
    simp only [bind, Except.bind, overridden]
  · constructor <;>
      simp only [same, SimulationConfig.overridden, lasting, SimulationConfig.lasting] <;> rfl

/-- Every scenario has a region to draw, surges of classes in its mix, and the default
scheduler. -/
theorem scenarios_runnable (scenario : Scenario) (registered : scenario ∈ scenarios) :
    scenario.build.config.regionRules ≠ [] ∧
      (∀ event ∈ scenario.build.config.surges,
        event.trafficClass ∈ scenario.build.config.classMix.keys) ∧
      scenario.build.config.scheduler = .priorityFair := by
  simp only [scenarios, List.mem_cons, List.not_mem_nil, or_false] at registered
  rcases registered with rfl | rfl | rfl | rfl | rfl | rfl <;> decide

/-- Every command line that parses launches its scenario in every environment, with each knob
settled by precedence, and the simulation it builds completes the whole duration, whatever the
planner answers. No launch draws for its scheduler unless the environment asks for random
access. -/
theorem launch_completes {ο : Type} (arguments : Arguments) (settings : RunSettings)
    (math : Rng.MathExp) (optimizer : Optimizer ο) (planner : ο) (margin : ℚ) (below : margin < 1)
    (demandRng schedulerRng fallbackRng admissionRng rng : Rng)
    (bounded : ∀ index, (demandRng.tape index).unit ≤ margin)
    (lively : settings.provided .scheduler settings.scheduler = some .contentionMac →
      Rng.Lively schedulerRng.tape) :
    ∃ scenario ∈ scenarios, ∃ launched, scenario.name = arguments.scenario ∧
      launch arguments settings = .ok launched ∧
      arguments.Launched settings scenario.build launched ∧
      ∃ fuel final traces, (traces.length : ℤ) = launched.config.durationSteps ∧
        ∀ more, fuel ≤ more →
          (buildSimulation launched.config math more optimizer).run 0
            launched.config.durationSteps.toNat
            ((buildSimulation launched.config math more optimizer).initial
              (SyntheticRequestSource.initial demandRng) schedulerRng fallbackRng planner
                admissionRng rng) = some (final, traces) := by
  obtain ⟨scenario, registered, launched, named, built, settled⟩ := launch_ok arguments settings
  refine ⟨scenario, registered, launched, named, built, settled, ?_⟩
  obtain ⟨inhabited, listed, fluid⟩ := scenarios_runnable scenario registered
  have regions : scenario.build.config.regionRules = launched.config.regionRules := by
    rw [settled.rest]
  have mix : scenario.build.config.classMix = launched.config.classMix := by
    rw [settled.rest]
  have listed : ∀ event ∈ launched.config.surges,
      event.trafficClass ∈ launched.config.classMix.keys := by
    rw [settled.surges, ← mix]
    exact fun event kept => listed event (List.mem_of_mem_filter kept)
  have lively : launched.config.scheduler = .contentionMac → Rng.Lively schedulerRng.tape := by
    rw [settled.scheduler, fluid]
    cases provided : settings.provided .scheduler settings.scheduler with
    | none => simp
    | some scheduler => exact fun selected => lively (provided.trans (congrArg some selected))
  obtain ⟨fuel, final, traces, completed, _⟩ := ControlLoop.simulation_run_finishes
    launched.config math optimizer margin below (.inr (regions ▸ inhabited)) listed 0
    launched.config.durationSteps.toNat
    ((buildSimulation launched.config math 0 optimizer).initial
      (SyntheticRequestSource.initial demandRng) schedulerRng fallbackRng planner admissionRng rng)
    bounded lively
  have counted := Runs.run_length _ _ _ final traces completed
  have positive := launched.config.durationPositive
  refine ⟨fuel, final, traces, by omega, fun more enough => ?_⟩
  exact ControlLoop.simulation_run_more launched.config math optimizer enough 0 _ _ final traces
    completed

/-- The surge scenario, ended before its surge. -/
def cutShort : Arguments where
  scenario := "emergency_surge"
  seed := some 7
  steps := some 3
  registered := by decide

/-- An environment with a seed, a scheduler and a time limit of its own. -/
def randomAccess : RunSettings where
  seed := 9
  scheduler := .contentionMac
  solverTimeLimitS := 7 / 8
  overrides := [.seed, .scheduler, .solverTimeLimitS]

/-- Seed and duration come from flags, the scheduler and the time limit from the environment,
and the run draws for random access. -/
theorem launch_completes_cutShort : ∃ scenario ∈ scenarios, ∃ launched,
    scenario.name = cutShort.scenario ∧ launch cutShort randomAccess = .ok launched ∧
      cutShort.Launched randomAccess scenario.build launched ∧
      ∃ fuel final traces, (traces.length : ℤ) = launched.config.durationSteps ∧
        ∀ more, fuel ≤ more →
          (buildSimulation launched.config Rng.coarseExp more smallLoop.optimizer).run 0
            launched.config.durationSteps.toNat
            ((buildSimulation launched.config Rng.coarseExp more smallLoop.optimizer).initial
              (SyntheticRequestSource.initial countingRng) countingRng evenRng () evenRng
                evenRng) = some (final, traces) :=
  launch_completes cutShort randomAccess Rng.coarseExp smallLoop.optimizer () (1 / 2)
    (by norm_num) countingRng countingRng evenRng evenRng evenRng (fun _ => le_refl _)
    (fun _ => countingRng_lively)

end Satsim
