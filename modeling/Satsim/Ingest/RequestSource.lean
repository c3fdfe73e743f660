import Satsim.Ingest.Demand
import Satsim.Ports

/-!
# The synthetic request source

A poll first generates every step up to the polled one that has not been generated, then
drains a batch from the bus. Polls may repeat a step, skip ahead or go back; each step is
still generated once, and what is generated is returned once or waits on the bus.

The source keeps its generator and the last step it has generated. An exception in the
middle of a generation is an error of the poll, after which the model does not go on.
-/

namespace Satsim

open Library

/-- The source's memory: the generator and the last step it has generated. -/
structure SyntheticRequestSource where
  generator : DemandGenerator
  generatedThrough : ℤ := -1

/-- What one poll did: its arguments, the steps it generated with their requests, and what
it returned. -/
structure Poll where
  step : ℤ
  maxBatch : ℤ
  generated : List (ℤ × List ServiceRequest)
  returned : List ServiceRequest

namespace SyntheticRequestSource

variable (config : SimulationConfig) (math : Rng.MathExp) (fuel : ℕ)

/-- A fresh source, which has generated nothing; its last step is the one before the first. -/
def initial (rng : Rng) : SyntheticRequestSource := { generator := { rng := rng } }

/-- Generate a number of steps after the last one generated. Each step is recorded with its
requests. -/
def catchUp : ℕ → SyntheticRequestSource →
    Except DemandError (List (ℤ × List ServiceRequest) × SyntheticRequestSource)
  | 0, source => .ok ([], source)
  | count + 1, source => do
      let step := source.generatedThrough + 1
      let (produced, generator) ←
        DemandGenerator.generateStep config math fuel step source.generator
      let (later, source) ← catchUp count { generator := generator, generatedThrough := step }
      pure ((step, produced) :: later, source)

/-- How many requests wait on the bus. -/
def backlog (source : SyntheticRequestSource) : ℤ := source.generator.bus.length

/-- Generate up to the polled step, then drain a batch. A poll for an earlier step generates
nothing. -/
def poll (source : SyntheticRequestSource) (step maxBatch : ℤ) :
    Except DemandError (Poll × SyntheticRequestSource) := do
  let (generated, source) ←
    catchUp config math fuel (step - source.generatedThrough).toNat source
  let (returned, bus) := source.generator.bus.drain step maxBatch
  pure (⟨step, maxBatch, generated, returned⟩,
    { source with generator := { source.generator with bus := bus } })

/-- The source behind its port; a generation that raises does not return to the loop, which the
port shows as no answer. -/
def port : RequestSource SyntheticRequestSource where
  poll source step maxBatch :=
    match poll config math fuel source step maxBatch with
    | .ok (polled, source) => some (polled.returned, source)
    | .error _ => none
  backlog := backlog

/-- The `i`-th poll of a sequence, unless it raises. -/
def pollAt (polls : ℕ → ℤ × ℤ) (index : ℕ) (source : SyntheticRequestSource) :
    Option (SyntheticRequestSource × Poll) :=
  match poll config math fuel source (polls index).1 (polls index).2 with
  | .ok (polled, next) => some (next, polled)
  | .error _ => none

/-- The first `count` polls of a sequence, while none of them raises. -/
def pollRun (polls : ℕ → ℤ × ℤ) (count : ℕ) (source : SyntheticRequestSource) :
    Option (SyntheticRequestSource × List Poll) :=
  Runs.run (pollAt config math fuel polls) count source

/-- Catching up by one step more generates the next step and goes on from there. -/
theorem catchUp_succ (count : ℕ) (source after : SyntheticRequestSource)
    (generated : List (ℤ × List ServiceRequest)) :
    catchUp config math fuel (count + 1) source = .ok (generated, after) ↔
      ∃ produced generator later,
        DemandGenerator.generateStep config math fuel (source.generatedThrough + 1)
          source.generator = .ok (produced, generator) ∧
        catchUp config math fuel count ⟨generator, source.generatedThrough + 1⟩ =
          .ok (later, after) ∧ (source.generatedThrough + 1, produced) :: later = generated := by
  simp only [catchUp, bind_eq_ok, pure_eq_ok, Prod.exists, Prod.mk.injEq]
  constructor
  · rintro ⟨produced, generator, made, later, _, rest, same, rfl⟩
    exact ⟨produced, generator, later, made, rest, same⟩
  · rintro ⟨produced, generator, later, made, rest, same⟩
    exact ⟨produced, generator, made, later, after, rest, same, rfl⟩

/-- A poll succeeds when catching up does, and then drains the bus. -/
theorem poll_eq_ok (source next : SyntheticRequestSource) (step maxBatch : ℤ) (polled : Poll) :
    poll config math fuel source step maxBatch = .ok (polled, next) ↔ ∃ generated caught,
      catchUp config math fuel (step - source.generatedThrough).toNat source =
        .ok (generated, caught) ∧
      polled = ⟨step, maxBatch, generated, (caught.generator.bus.drain step maxBatch).1⟩ ∧
      next = { caught with generator := { caught.generator with
        bus := (caught.generator.bus.drain step maxBatch).2 } } := by
  simp only [poll, bind_eq_ok, pure_eq_ok, Prod.exists, Prod.mk.injEq]
  constructor
  · rintro ⟨generated, caught, extended, rfl, rfl⟩
    exact ⟨generated, caught, extended, rfl, rfl⟩
  · rintro ⟨generated, caught, extended, rfl, rfl⟩
    exact ⟨generated, caught, extended, rfl, rfl⟩

/-- A poll of the sequence returns when the poll itself succeeds. -/
theorem pollAt_eq_some (polls : ℕ → ℤ × ℤ) (index : ℕ) (source next : SyntheticRequestSource)
    (polled : Poll) : pollAt config math fuel polls index source = some (next, polled) ↔
      poll config math fuel source (polls index).1 (polls index).2 = .ok (polled, next) := by
  unfold pollAt
  split
  · rename_i returned
    simp [returned, and_comm]
  · rename_i raised
    simp [raised]

end SyntheticRequestSource

end Satsim
