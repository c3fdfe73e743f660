import Satsim.Optimization.Solver
import Satsim.Runtime.Experiment
import Satsim.Runtime.Indicators
import Satsim.Runtime.Latency
import Satsim.Runtime.Scenarios

/-!
# The charts of an experiment

An experiment hands back the summary of a run and the counters of its steps, and every chart
is computed from these two, so a request shows in a chart by what was counted of it. The
charts key their bars by texts, which tell the classes and the reasons apart. Then the bars
and the series add up to the summary, and the summary and the retry backlog to the requests
polled.

Only the series and totals are modelled, not the drawing. The texts matter all the same,
since a chart that used one text for two reasons would add them up.
-/

namespace Satsim

open Library

/-- The text of a reason, which is the key of its bar. -/
def RejectReason.value : RejectReason → String
  | .admissionShed => "admission_shed"
  | .emergencyLaneFull => "emergency_lane_full"
  | .noLegalOption => "no_legal_option"
  | .noCapacity => "no_capacity"
  | .deadlineMissed => "deadline_missed"
  | .retryBudgetExhausted => "retry_budget_exhausted"

/-- No two reasons share a text, so no two bars fall together. -/
theorem RejectReason.value_injective : Function.Injective RejectReason.value := by
  intro left right same
  cases left <;> cases right <;> first | rfl | simp [value] at same

/-- Nor do two classes. -/
theorem TrafficClass.name_injective : Function.Injective TrafficClass.name := by
  intro left right same
  cases left <;> cases right <;> first | rfl | simp [name] at same

/-- A completed run: its summary and the counters of its steps. -/
structure ExperimentResult where
  summary : RunSummary
  steps : List StepCounters

/-- `run_experiment`. The sink keeps the counters as they are recorded. -/
def runExperiment {ο : Type} (config : SimulationConfig) (math : Rng.MathExp) (fuel : ℕ)
    (optimizer : Optimizer ο) (planner : ο)
    (demandRng schedulerRng fallbackRng admissionRng rng : Rng) : Option ExperimentResult := do
  let loop := buildSimulation config math fuel optimizer
  let (final, traces) ← loop.run 0 config.durationSteps.toNat
    (loop.initial (SyntheticRequestSource.initial demandRng) schedulerRng fallbackRng planner
      admissionRng rng)
  pure { summary := ControlLoop.summarize final traces, steps := traces.map StepTrace.counters }

/-- An experiment on a configuration with a region to draw, whose surges name classes of the
mix, completes with enough fuel, on streams that let its loops end. -/
theorem runExperiment_completes {ο : Type} (config : SimulationConfig) (math : Rng.MathExp)
    (optimizer : Optimizer ο) (planner : ο)
    (inhabited : config.arrival.baselineRate ≤ 0 ∨ config.regionRules ≠ [])
    (listed : ∀ event ∈ config.surges, event.trafficClass ∈ config.classMix.keys)
    (margin : ℚ) (below : margin < 1) (demandRng schedulerRng fallbackRng admissionRng rng : Rng)
    (bounded : ∀ index, (demandRng.tape index).unit ≤ margin)
    (lively : config.scheduler = .contentionMac → Rng.Lively schedulerRng.tape) :
    ∃ fuel, ∀ more, fuel ≤ more → (runExperiment config math more optimizer planner demandRng
      schedulerRng fallbackRng admissionRng rng).isSome := by
  obtain ⟨fuel, final, traces, completed, _⟩ := ControlLoop.simulation_run_finishes config math
    optimizer margin below inhabited listed 0 config.durationSteps.toNat
    ((buildSimulation config math 0 optimizer).initial (SyntheticRequestSource.initial demandRng)
      schedulerRng fallbackRng planner admissionRng rng) bounded lively
  refine ⟨fuel, fun more enough => ?_⟩
  have finished : (buildSimulation config math more optimizer).run 0 config.durationSteps.toNat
      ((buildSimulation config math more optimizer).initial
        (SyntheticRequestSource.initial demandRng) schedulerRng fallbackRng planner admissionRng
          rng) = some (final, traces) :=
    ControlLoop.simulation_run_more config math optimizer enough 0 _ _ final traces completed
  simp [runExperiment, finished]

/-- What became of the requests of each step. -/
structure DispositionSeries where
  served : List ℕ
  deferred : List ℕ
  dropped : List ℕ
  rejected : List ℕ

/-- `disposition_series`: one value of each kind for every step. -/
def dispositionSeries (steps : List StepCounters) : DispositionSeries where
  served := steps.map StepCounters.served
  deferred := steps.map StepCounters.deferred
  dropped := steps.map StepCounters.dropped
  rejected := steps.map StepCounters.rejected

/-- How each step went, in four figures. -/
structure HealthSeries where
  utilization : List ℚ
  collapseRisk : List ℚ
  fairnessIndex : List ℚ
  queueDepth : List ℚ

/-- The health series, read off the counters. The depth of the queue is drawn as a number like
the others. -/
def healthSeries (steps : List StepCounters) : HealthSeries where
  utilization := steps.map StepCounters.utilization
  collapseRisk := steps.map StepCounters.collapseRisk
  fairnessIndex := steps.map StepCounters.fairnessIndex
  queueDepth := steps.map (fun counters => (counters.queueDepth : ℚ))

/-- Served requests of each class, by its name. -/
def servedByClassTotals (summary : RunSummary) : Dict String ℕ :=
  Dict.ofPairs (summary.servedByClass.entries.map (fun entry => (entry.1.name, entry.2)))

/-- Drops and rejections under each reason, by its value. -/
def rejectionReasonTotals (steps : List StepCounters) : Dict String ℕ :=
  steps.foldl (fun totals counters => counters.rejectedByReason.entries.foldl
    (fun totals entry => totals.bump entry.1.value entry.2) totals) Dict.empty

/-- The totals are a tally of what every step has under its reasons. -/
theorem rejectionReasonTotals_eq (steps : List StepCounters) :
    rejectionReasonTotals steps = Dict.tally (steps.flatMap (fun counters =>
      counters.rejectedByReason.entries.map (fun entry => (entry.1.value, entry.2)))) := by
  simp only [rejectionReasonTotals, Dict.tally, List.foldl_flatMap, List.foldl_map]

/-- The bar of a reason is what the steps have recorded under it. -/
theorem rejectionReasonTotals_getD (steps : List StepCounters) (reason : RejectReason) :
    (rejectionReasonTotals steps).getD reason.value 0 =
      (steps.map (fun counters => counters.rejectedByReason.getD reason 0)).sum := by
  rw [rejectionReasonTotals_eq, Dict.getD_tally, Dict.sumUnder_flatMap]
  simp only [Dict.sumUnder_relabel _ RejectReason.value_injective, Dict.sumUnder_entries]

/-- The bars of the reasons add up to what the steps have recorded under all of them. -/
theorem rejectionReasonTotals_sum (steps : List StepCounters) :
    (rejectionReasonTotals steps).values.sum =
      (steps.map (fun counters => counters.rejectedByReason.values.sum)).sum := by
  have total := Dict.sum_tally (fun _ => true) (steps.flatMap (fun counters =>
    counters.rejectedByReason.entries.map (fun entry => (entry.1.value, entry.2))))
  simp only [List.filter_true, ← rejectionReasonTotals_eq] at total
  rw [Dict.values, total]
  simp [Function.comp_def, Dict.values, List.flatMap_def, List.sum_flatten]

/-- The bar of a class is its entry in the summary. -/
theorem servedByClassTotals_getD (summary : RunSummary) (trafficClass : TrafficClass) :
    (servedByClassTotals summary).getD trafficClass.name 0 =
      summary.servedByClass.getD trafficClass 0 :=
  Dict.getD_relabel TrafficClass.name TrafficClass.name_injective summary.servedByClass trafficClass

/-- The bars of the classes add up to the entries of the summary. -/
theorem servedByClassTotals_sum (summary : RunSummary) :
    (servedByClassTotals summary).values.sum = summary.servedByClass.values.sum := by
  rw [servedByClassTotals, Dict.values_relabel _ TrafficClass.name_injective]

/-- The classes of a summary add up to those of the steps. -/
theorem RunSummary.foldl_add_classes (steps : List StepCounters) (summary : RunSummary) :
    (steps.foldl RunSummary.add summary).servedByClass.values.sum =
      summary.servedByClass.values.sum +
        (steps.map (fun counters => counters.servedByClass.values.sum)).sum := by
  induction steps generalizing summary with
  | nil => simp
  | cons counters rest inductionHypothesis =>
    have bumped := Dict.sum_foldl_bump (fun _ => true) counters.servedByClass.entries
      summary.servedByClass
    simp only [List.filter_true] at bumped
    rw [List.foldl_cons, inductionHypothesis, List.map_cons, List.sum_cons, ← Nat.add_assoc]
    congr 1

/-- The charts of an experiment agree with its summary, and its summary with the number of
requests polled. Each field is one chart, or one figure of the summary. -/
structure ExperimentResult.Accounts (result : ExperimentResult) (duration polled : ℕ) : Prop where
  lasts : result.steps.map StepCounters.step = (List.range duration).map Nat.cast
  conserved : result.summary.served + result.summary.dropped + result.summary.rejected +
    result.summary.retryBacklog = polled
  dispositions : (dispositionSeries result.steps).served.sum = result.summary.served ∧
    (dispositionSeries result.steps).deferred.sum = result.summary.deferred ∧
      (dispositionSeries result.steps).dropped.sum = result.summary.dropped ∧
        (dispositionSeries result.steps).rejected.sum = result.summary.rejected
  classes : (servedByClassTotals result.summary).values.sum = result.summary.served
  classBars : ∀ trafficClass, (servedByClassTotals result.summary).getD trafficClass.name 0 =
    (result.steps.map (fun counters => counters.servedByClass.getD trafficClass 0)).sum
  reasons : (rejectionReasonTotals result.steps).values.sum =
    result.summary.dropped + result.summary.rejected
  reasonBars : ∀ reason, (rejectionReasonTotals result.steps).getD reason.value 0 =
    (result.steps.map (fun counters => counters.rejectedByReason.getD reason 0)).sum
  latency : ∃ latency, latencyPercentiles result.steps = some latency ∧
    latency.count = result.summary.served
  health : ∀ share ∈ (healthSeries result.steps).utilization ++
    (healthSeries result.steps).collapseRisk ++ (healthSeries result.steps).fairnessIndex,
      0 ≤ share ∧ share ≤ 1

/-- The count of the latency summary is the number of waits. -/
theorem latencyPercentiles_count (steps : List StepCounters) :
    ∃ latency, latencyPercentiles steps = some latency ∧
      latency.count = (servedWaits steps).length := by
  by_cases vacant : servedWaits steps = []
  · exact ⟨_, latencyPercentiles_vacant steps vacant, by simp [vacant]⟩
  · obtain ⟨latency, found, _, _, _, _, _, counted⟩ := latencyPercentiles_ordered steps vacant
    exact ⟨latency, found, counted⟩

namespace ControlLoop

variable {σ π φ ο : Type} (loop : ControlLoop σ π φ ο)

/-- The counters of a run from its first step are numbered by the steps. -/
theorem run_steps (count : ℕ) (initial final : LoopState σ π φ ο) (traces : List StepTrace)
    (completed : loop.run 0 count initial = some (final, traces)) :
    (traces.map StepTrace.counters).map StepCounters.step = (List.range count).map Nat.cast := by
  obtain ⟨counted, numbered⟩ := loop.run_numbered 0 count initial final traces completed
  apply List.ext_getElem
  · simp [counted]
  · intro index inside _
    simp only [List.length_map] at inside
    obtain ⟨_, _, stepped⟩ := loop.run_stepped 0 count initial final traces completed _
      (List.getElem_mem inside)
    have numbered := numbered index _ (List.getElem?_eq_getElem inside)
    simp only [List.getElem_map, List.getElem_range, stepped.counters, buildCounters]
    omega

/-- The summary of a run and its retry backlog add up to the requests polled. -/
theorem run_conserved (contracted : loop.Contracted) (start : ℤ) (count : ℕ)
    (initial final : LoopState σ π φ ο) (vacant : initial.retryQueue = []) (traces : List StepTrace)
    (completed : loop.run start count initial = some (final, traces))
    (distinct : ((traces.flatMap StepTrace.polled).map ServiceRequest.requestId).Nodup) :
    (summarize final traces).served + (summarize final traces).dropped +
        (summarize final traces).rejected + (summarize final traces).retryBacklog =
      (traces.flatMap StepTrace.polled).length := by
  have balanced := loop.run_balanced contracted start count initial final vacant traces completed
    distinct
  have counted := loop.run_counted start count initial final traces completed
  obtain ⟨_, served, _, dropped, rejected, _⟩ :=
    RunSummary.foldl_add (traces.map StepTrace.counters) {}
  have conserved := Ledger.card_places _ balanced
  simp only [ledger, identities, rejectedIdentities, queuedIdentities, Multiset.coe_card,
    List.length_map] at conserved
  simpa [summarize, served, dropped, rejected, Function.comp_def, counted] using conserved

end ControlLoop

/-- The charts of an experiment account for every request. Whatever is configured, whatever
the streams and the planner, an experiment that completes has one record for each step of its
duration; each disposition series adds up to its figure of the summary; the bars of the classes
add up to the requests served and the bars of the reasons to those dropped and rejected, each
bar being what the steps have counted under its class or reason; the latencies are of as many
requests as were served; every point of the health series but the queue depth is a share of
one; and with the retry backlog the summary adds up to the requests polled. -/
theorem experiment_accounts {ο : Type} (config : SimulationConfig) (math : Rng.MathExp)
    (fuel : ℕ) (optimizer : Optimizer ο) (planner : ο)
    (demandRng schedulerRng fallbackRng admissionRng rng : Rng) (result : ExperimentResult)
    (completed : runExperiment config math fuel optimizer planner demandRng schedulerRng
      fallbackRng admissionRng rng = some result) :
    ∃ final traces, (buildSimulation config math fuel optimizer).run 0 config.durationSteps.toNat
        ((buildSimulation config math fuel optimizer).initial
          (SyntheticRequestSource.initial demandRng) schedulerRng fallbackRng planner admissionRng
            rng) = some (final, traces) ∧
      result.steps = traces.map StepTrace.counters ∧
      result.Accounts config.durationSteps.toNat (traces.flatMap StepTrace.polled).length := by
  simp only [runExperiment, Option.bind_eq_bind, Option.bind_eq_some_iff, Option.pure_def,
    Option.some.injEq, Prod.exists] at completed
  obtain ⟨final, traces, completed, rfl⟩ := completed
  refine ⟨final, traces, completed, rfl, ?_⟩
  have contracted := buildSimulation_contracted config math fuel optimizer
  obtain ⟨ids, _⟩ := ControlLoop.run_polled _ config math fuel rfl 0 _ demandRng _ final rfl traces
    completed
  have sampled := ControlLoop.run_sampled _ (contracted.deferring _) config math fuel rfl 0 _ _
    final (SyntheticRequestSource.initial_stocked config demandRng) rfl traces completed
  have reconciled : ∀ counters ∈ traces.map StepTrace.counters,
      counters.servedByClass.values.sum = counters.served ∧
        counters.rejectedByReason.values.sum = counters.dropped + counters.rejected := by
    intro counters listed
    obtain ⟨trace, member, rfl⟩ := List.mem_map.mp listed
    have step := ControlLoop.run_reconciled _ contracted 0 _ _ final rfl traces completed ids trace
      member
    exact ⟨step.byClass, step.byReason⟩
  obtain ⟨_, served, deferred, dropped, rejected, _, _, byClass⟩ :=
    RunSummary.foldl_add (traces.map StepTrace.counters) {}
  constructor
  · exact ControlLoop.run_steps _ _ _ final traces completed
  · exact ControlLoop.run_conserved _ contracted 0 _ _ final rfl traces completed ids
  · simp [dispositionSeries, ControlLoop.summarize, served, deferred, dropped, rejected]
  · have classes := RunSummary.foldl_add_classes (traces.map StepTrace.counters) {}
    rw [List.map_congr_left fun counters listed => (reconciled counters listed).1] at classes
    rw [servedByClassTotals_sum]
    simpa [ControlLoop.summarize, served, Dict.values] using classes
  · intro trafficClass
    rw [servedByClassTotals_getD]
    simpa [ControlLoop.summarize, Dict.getD] using byClass trafficClass
  · rw [rejectionReasonTotals_sum,
      List.map_congr_left fun counters listed => (reconciled counters listed).2, List.sum_map_add]
    simp [ControlLoop.summarize, dropped, rejected]
  · exact rejectionReasonTotals_getD _
  · obtain ⟨latency, found, counted⟩ := latencyPercentiles_count (traces.map StepTrace.counters)
    have waits := ControlLoop.run_latency_count _ 0 _ _ final traces completed
    refine ⟨latency, found, ?_⟩
    rw [counted, waits]
    simp [ControlLoop.summarize, served, Function.comp_def]
  · have inRange := ControlLoop.run_inRange (buildSimulation config math fuel optimizer)
      (selectedScheduler config fuel) (.heuristic config.schedulerParams.degradeMinFraction)
      (fun _ => none) (fun _ => none) 0 _ _ final (le_refl 0) traces completed
      (fun trace member request arrived => (sampled trace member request arrived).size_pos)
    simp only [healthSeries, List.map_map, List.forall_mem_append, List.forall_mem_map,
      Function.comp_apply]
    exact ⟨⟨fun trace member => (inRange trace member).utilization,
      fun trace member => (inRange trace member).collapse⟩,
      fun trace member => (inRange trace member).fairness⟩

/-- The steps of the surges alone. -/
def shortSurges : SimulationConfig :=
  { SyntheticRequestSource.surgeConfig.lasting 3 three_pos with
    accepted := SyntheticRequestSource.surgeConfig.lasting_accepted 3 three_pos }

/-- The experiment on the surges, on one stream for all. -/
def surgeExperiment : Option ExperimentResult :=
  runExperiment shortSurges Rng.coarseExp 0 smallLoop.optimizer () evenRng evenRng evenRng evenRng
    evenRng

/-- It completes, which evaluation finds. -/
theorem surgeExperiment_returns : surgeExperiment.isSome = true := by decide +kernel

/-- Three photos are polled, and all of them are served. -/
theorem experiment_accounts_surges :
    let result := surgeExperiment.get surgeExperiment_returns
    (servedByClassTotals result.summary).getD "PHOTO" 0 = 3 ∧
      (servedByClassTotals result.summary).values.sum = result.summary.served := by
  obtain ⟨_, _, _, _, accounts⟩ :=
    experiment_accounts shortSurges Rng.coarseExp 0 smallLoop.optimizer () evenRng evenRng evenRng
      evenRng evenRng _ (Option.some_get surgeExperiment_returns).symm
  exact ⟨by decide +kernel, accounts.classes⟩

end Satsim
