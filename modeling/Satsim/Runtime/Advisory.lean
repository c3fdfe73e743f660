import Satsim.Optimization.Switching
import Satsim.Runtime.Feedback
import Satsim.Runtime.Telemetry

/-!
# What the loop takes from a plan

A plan carries a curve, fairness weights, budgets, hints and its validity. The loop reads the
curve, through the probability it gives each score, and the weight of each class; the rest is
advice. Two planners that agree on these two drive the same runs from the same start: every
request is polled, scored, admitted, granted, retried and counted alike, whatever else the
plans say and whatever memory the planners keep.

The comparison is a simulation between two loops that differ in their planner. Its
relation leaves out exactly what the loop never reads, so the proof doubles as a check
that a stage reads nothing else of a plan.
-/

namespace Satsim

open Library

/-- Two plans that give every score the same probability and every class the same weight. Their
curves may be given by different points, and their budgets and hints may differ. -/
structure ResourcePlan.SteersAlike (first second : ResourcePlan) : Prop where
  curve : ∀ score,
    first.admissionCurve.admitProbability score = second.admissionCurve.admitProbability score
  weights : ∀ trafficClass,
    first.fairnessWeights.getD trafficClass 1 = second.fairnessWeights.getD trafficClass 1

/-- A plan steers like itself. -/
theorem ResourcePlan.SteersAlike.refl (plan : ResourcePlan) : plan.SteersAlike plan :=
  ⟨fun _ => rfl, fun _ => rfl⟩

/-- Two planners that, from related memories, answer every window with plans that steer alike,
and stay related. The relation is chosen by whoever compares them, as in a simulation. -/
def Optimizer.PlansAlike {α β : Type} (first : Optimizer α) (second : Optimizer β)
    (related : α → β → Prop) : Prop :=
  ∀ left right window, related left right →
    (first.plan left window).1.SteersAlike (second.plan right window).1 ∧
      related (first.plan left window).2 (second.plan right window).2

/-- A score reads the weight of its class from a plan, and nothing else. -/
theorem evaluateScore_alike (scoring : ScoringConfig) (request : ServiceRequest) (step : ℤ)
    (first second : ResourcePlan) (alike : first.SteersAlike second) :
    evaluateScore scoring request step first = evaluateScore scoring request step second := by
  simp only [evaluateScore, alike.weights]

/-- A flip reads the probabilities of the scores from a curve, so the draws are compared with
equal numbers and the stream stays in step. -/
theorem AdmissionController.flip_alike (first second : AdmissionCurve)
    (alike : ∀ score, first.admitProbability score = second.admitProbability score) (overage : ℚ)
    (scored : List ScoredRequest) (rng : Rng) :
    flip first overage scored rng = flip second overage scored rng := by
  induction scored generalizing rng with
  | nil => rfl
  | cons item rest inductionHypothesis =>
    have same : admitProbability first overage = admitProbability second overage := by
      funext score
      simp only [admitProbability, alike]
    rw [flip, flip, same]
    simp only [inductionHypothesis]

/-- Controllers with plans that steer alike admit the same from the same stream. -/
theorem AdmissionController.admitScored_alike (controller : AdmissionController)
    (heard : ResourcePlan) (alike : controller.plan.SteersAlike heard)
    (scored : List ScoredRequest) (congestion : CongestionState) (step : ℤ) :
    (controller.updatePolicy heard).admitScored scored congestion step =
      ((controller.admitScored scored congestion step).1,
        (controller.admitScored scored congestion step).2.updatePolicy heard) := by
  simp only [admitScored, updatePolicy, flip_alike _ _ alike.curve]

namespace ControlLoop

variable {σ π φ ο α : Type} (loop : ControlLoop σ π φ ο) (planner : Optimizer α)

/-- The same loop with another planner: every other part is shared. -/
def replanned : ControlLoop σ π φ α where
  config := loop.config
  requestSource := loop.requestSource
  constellations := loop.constellations
  regulatory := loop.regulatory
  scheduler := loop.scheduler
  fallbackScheduler := loop.fallbackScheduler
  optimizer := planner

end ControlLoop

/-- The same state with another planner's memory, another plan in force and another plan
broadcast to the controller. The two plans may differ until the first replanning. -/
def LoopState.advised {σ π φ ο α : Type} (state : LoopState σ π φ ο) (memory : α)
    (plan heard : ResourcePlan) : LoopState σ π φ α where
  source := state.source
  scheduler := state.scheduler
  fallback := state.fallback
  optimizer := memory
  admission := state.admission.updatePolicy heard
  rng := state.rng
  breakers := state.breakers
  plan := plan
  retryQueue := state.retryQueue
  recentCongestion := state.recentCongestion
  recentCounters := state.recentCounters
  recentDemand := state.recentDemand
  lastDropRate := state.lastDropRate

/-- The states of two loops that differ in what they are advised, and are steered alike. -/
structure LoopState.Alongside {σ π φ ο α : Type} (related : ο → α → Prop)
    (state : LoopState σ π φ ο) (memory : α) (plan heard : ResourcePlan) : Prop where
  together : related state.optimizer memory
  plan : state.plan.SteersAlike plan
  heard : state.admission.plan.SteersAlike heard

namespace ControlLoop

variable {σ π φ ο α : Type} (loop : ControlLoop σ π φ ο) (planner : Optimizer α)
variable (related : ο → α → Prop) (alike : loop.optimizer.PlansAlike planner related)

section Step

variable (t : ℤ) (state : LoopState σ π φ ο) (memory : α) (plan heard : ResourcePlan)
variable (alongside : state.Alongside related memory plan heard)
include alike alongside

/-- Replanning from such states leads to such states, whether or not the step is on the
cadence. -/
theorem maybeReplan_advised (snapshot : ConstellationSnapshot) :
    ∃ memory' plan' heard', (loop.replanned planner).maybeReplan t snapshot
        (state.advised memory plan heard) =
          (loop.maybeReplan t snapshot state).advised memory' plan' heard' ∧
      (loop.maybeReplan t snapshot state).Alongside related memory' plan' heard' := by
  by_cases off : t % loop.config.optimizer.cadenceSteps ≠ 0
  · rw [maybeReplan_off loop t snapshot state off,
      maybeReplan_off (loop.replanned planner) t snapshot _ off]
    exact ⟨memory, plan, heard, rfl, alongside⟩
  · have due := not_not.mp off
    obtain ⟨steers, together⟩ :=
      alike state.optimizer memory (windowAt t snapshot state) alongside.together
    rw [maybeReplan_due loop t snapshot state due,
      maybeReplan_due (loop.replanned planner) t snapshot _ due]
    exact ⟨_, _, _, rfl, together, steers, steers⟩

/-- Steps of the two loops from such states return alike, in all but what is advised. This is
the simulation step, and it goes stage by stage in the order of the loop. -/
theorem step_advised (next : LoopState σ π φ ο) (trace : StepTrace)
    (stepped : loop.step t state = some (next, trace)) :
    ∃ memory' plan' heard', (loop.replanned planner).step t (state.advised memory plan heard) =
        some (next.advised memory' plan' heard', { trace with plan := plan' }) ∧
      next.Alongside related memory' plan' heard' ∧ trace.plan.SteersAlike plan' := by
  unfold step at stepped ⊢
  simp only [loop.gather_congr (loop.replanned planner) rfl,
    loop.handleDeferred_congr (loop.replanned planner) rfl rfl, Option.bind_eq_bind,
    Option.bind_eq_some_iff] at stepped ⊢
  have gathered : loop.gather t (loop.replanned planner).constellations
    (state.advised memory plan heard).breakers = loop.gather t loop.constellations state.breakers :=
      rfl
  simp only [gathered]
  generalize loop.gather t loop.constellations state.breakers = lookups at stepped
  generalize mergeSnapshots t (lookups.1.filterMap Lookup.snapshot?) = snapshot at stepped
  obtain ⟨memory', plan', heard', replanned, after⟩ :=
    maybeReplan_advised loop planner related alike t { state with breakers := lookups.2 } memory
      plan heard ⟨alongside.together, alongside.plan, alongside.heard⟩ snapshot
  have seen : ({ state.advised memory plan heard with breakers := lookups.2 } :
      LoopState σ π φ α) = ({ state with breakers := lookups.2 }).advised memory plan heard := rfl
  rw [seen, replanned]
  generalize loop.maybeReplan t snapshot { state with breakers := lookups.2 } = middle
    at stepped after
  obtain ⟨polled, returned, scheduled, ran, same⟩ := stepped
  obtain ⟨rfl, rfl⟩ := Prod.mk.inj (Option.some.inj same)
  have scores : (loop.replanned planner).score plan' t = loop.score middle.plan t := by
    funext request
    simp only [score]
    rw [evaluateScore_alike _ _ _ _ _ after.plan]
    rfl
  have admitted := AdmissionController.admitScored_alike middle.admission heard' after.heard
  refine ⟨memory', plan', heard', ?_, ⟨after.together, after.plan, ?_⟩, after.plan⟩
  · simp only [LoopState.advised, scores, admitted]
    exact ⟨polled, returned, scheduled, ran, rfl⟩
  · exact after.heard

end Step

/-- What is recorded of two runs that differ in what they were advised. -/
def RecordedAlike (trace response : StepTrace) : Prop :=
  trace.plan.SteersAlike response.plan ∧ { response with plan := trace.plan } = trace

/-- Like records have the same counters, since they differ in the plan alone. -/
theorem recorded_counters (traces responses : List StepTrace)
    (recorded : List.Forall₂ RecordedAlike traces responses) :
    responses.map StepTrace.counters = traces.map StepTrace.counters := by
  induction recorded with
  | nil => rfl
  | cons first _ inductionHypothesis =>
    rw [List.map_cons, List.map_cons, inductionHypothesis, ← first.2]

include alike

/-- Tier 3 steers the loop through its curve and its fairness weights alone. From the same start,
a run under one planner and a run under another that plans alike do the same in every step, and
end with the same retry queue and the same summary. -/
theorem plans_advise (start : ℤ) (count : ℕ) (initial final : LoopState σ π φ ο)
    (traces : List StepTrace) (completed : loop.run start count initial = some (final, traces))
    (memory : α) (begins : related initial.optimizer memory) :
    ∃ reached responses, (loop.replanned planner).run start count
        (initial.advised memory initial.plan initial.admission.plan) = some (reached, responses) ∧
      List.Forall₂ RecordedAlike traces responses ∧ reached.retryQueue = final.retryQueue ∧
        summarize reached responses = summarize final traces := by
  obtain ⟨reached, responses, ran, ⟨memory', plan', heard', rfl, _⟩, recorded⟩ :=
    Runs.run_lockstep (fun index state => loop.step (start + index) state)
      (fun index state => (loop.replanned planner).step (start + index) state)
      (fun state partner => ∃ memory plan heard, partner = state.advised memory plan heard ∧
        state.Alongside related memory plan heard) RecordedAlike (by
      rintro index state partner next trace ⟨memory, plan, heard, rfl, alongside⟩ stepped
      obtain ⟨memory', plan', heard', answered, after, steers⟩ := loop.step_advised planner related
        alike (start + index) state memory plan heard alongside next trace stepped
      exact ⟨_, _, answered, ⟨memory', plan', heard', rfl, after⟩, steers, rfl⟩)
    count initial final traces completed _ ⟨memory, initial.plan, initial.admission.plan, rfl,
      begins, .refl _, .refl _⟩
  refine ⟨_, responses, ran, recorded, rfl, ?_⟩
  simp only [summarize, recorded_counters traces responses recorded]
  rfl

end ControlLoop

/-- A solver planner whose OR-Tools never reports a usable status plans as its fallback does. It
covers the library that is missing and the program that is infeasible. -/
theorem SolverOptimizer.unsolved_plansAlike (planner : SolverOptimizer) (ortools : Option Pywraplp)
    (unusable : ∀ tools ∈ ortools, ∀ limit program status values,
      tools.solve limit program = some (status, values) → status.usable = false) :
    (planner.optimizer ortools).PlansAlike planner.fallback.optimizer (fun _ _ => True) := by
  intro prevHints _ window _
  have fallen := planner.plan_fallback prevHints ⟨ortools, window⟩ (by
    rintro ⟨_, tools, present, _, status, values, returned, usable⟩
    have rejected := unusable tools present _ _ status values returned
    rw [usable] at rejected
    exact Bool.noConfusion rejected)
  simp only [optimizer, HeuristicOptimizer.optimizer, fallen]
  exact ⟨.refl _, trivial⟩

/-- The faulty loop with the solver planner, where OR-Tools is not installed. -/
def unsolvedLoop : ControlLoop (List (List ServiceRequest)) Rng Rng (Dict Region FleetId) :=
  faultyLoop.replanned (SolverOptimizer.optimizer {} none)

/-- Its start, with two requests to come. -/
def unsolvedStart : LoopState (List (List ServiceRequest)) Rng Rng (Dict Region FleetId) :=
  unsolvedLoop.initial [[smallRequest "a" .emergencySos 5, smallRequest "b" .photo 5]] evenRng
    evenRng Dict.empty evenRng evenRng

/-- Its three steps return, which evaluation finds. -/
theorem unsolvedRun_returns : (unsolvedLoop.run 0 3 unsolvedStart).isSome = true := by
  decide +kernel

/-- Three steps under the solver planner are three steps under the heuristic one. -/
theorem ControlLoop.plans_advise_unsolved : ∃ reached responses,
    (unsolvedLoop.replanned (SolverOptimizer.fallback {}).optimizer).run 0 3
        (unsolvedStart.advised () unsolvedStart.plan unsolvedStart.admission.plan) =
          some (reached, responses) ∧
      List.Forall₂ RecordedAlike ((unsolvedLoop.run 0 3 unsolvedStart).get unsolvedRun_returns).2
        responses ∧
      reached.retryQueue =
        ((unsolvedLoop.run 0 3 unsolvedStart).get unsolvedRun_returns).1.retryQueue ∧
      summarize reached responses = summarize
        ((unsolvedLoop.run 0 3 unsolvedStart).get unsolvedRun_returns).1
        ((unsolvedLoop.run 0 3 unsolvedStart).get unsolvedRun_returns).2 :=
  unsolvedLoop.plans_advise _ (fun _ _ => True)
    (SolverOptimizer.unsolved_plansAlike {} none (by simp)) 0 3 unsolvedStart _ _
    (Option.some_get unsolvedRun_returns).symm () trivial

end Satsim
