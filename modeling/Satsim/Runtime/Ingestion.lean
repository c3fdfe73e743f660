import Satsim.Library.Batches
import Satsim.Runtime.Simulation

/-!
# Ingest as a queue served in batches

The loop polls every step once, in turn, with a fixed batch. Then everything on the bus is
available, and the bus is a queue served in batches: what a run polls in its first steps is
known from what those steps generate.

The general law of such queues is in the library. What is shown here is that polling in
turn is an instance of it, with the generated requests as arrivals, and from it the
delay of a request follows.
-/

namespace Satsim

open Library

/-- What the polls of a sequence generate, by the place of the poll; nothing past the last. -/
def Poll.produced (polls : List Poll) (index : ℕ) : List ServiceRequest :=
  (polls[index]?).elim [] fun polled => SyntheticRequestSource.requestsOf polled.generated

/-- Another poll changes nothing for the places before it. -/
theorem Poll.produced_before (polls : List Poll) (polled : Poll) (index : ℕ)
    (earlier : index < polls.length) :
    produced (polls ++ [polled]) index = produced polls index := by
  simp [produced, List.getElem?_append_left earlier]

/-- And its own place has what it generates. -/
@[simp] theorem Poll.produced_last (polls : List Poll) (polled : Poll) :
    produced (polls ++ [polled]) polls.length =
      SyntheticRequestSource.requestsOf polled.generated := by
  simp [produced]

/-- Past the last poll there is nothing. -/
theorem Poll.produced_after (polls : List Poll) (index : ℕ) (later : polls.length ≤ index) :
    produced polls index = [] := by
  simp [produced, List.getElem?_eq_none later]

/-- A bus on which everything is available is cut where the batch ends: what is drained is the
front of the backlog. -/
theorem InMemoryBus.drain_available (bus : InMemoryBus) (step maxBatch : ℤ)
    (available : ∀ entry ∈ bus.pending, entry.availableAtStep ≤ step) :
    (bus.drain step maxBatch).1 = bus.backlog.take maxBatch.toNat ∧
      (bus.drain step maxBatch).2.backlog = bus.backlog.drop maxBatch.toNat := by
  have prepared := Queue.drain_prepared (fun entry : BusEntry =>
    decide (entry.availableAtStep ≤ step)) maxBatch bus.pending
      (fun entry listed => decide_eq_true (available entry listed))
  unfold drain
  split_ifs with closed
  · have idle : maxBatch.toNat = 0 := by omega
    simp [idle]
  · simp only [prepared, backlog, List.map_take, List.map_drop, and_self]

namespace SyntheticRequestSource

variable (config : SimulationConfig) (math : Rng.MathExp) (fuel : ℕ)

/-- The source after polling every step once, in turn. It has generated as many steps as were
polled, and what was returned and the backlog are the two parts into which batches cut what was
generated. -/
structure Served (batch : ℤ) (polls : List Poll) (source : SyntheticRequestSource) : Prop where
  through : source.generatedThrough + 1 = polls.length
  gated : source.generator.bus.Gated
  arrived : ∀ index, ∀ request ∈ Poll.produced polls index, request.arrivalStep = index
  returned : polls.map Poll.returned = (List.range polls.length).map
    (Batches.leaving batch.toNat (Poll.produced polls))
  backlog : source.generator.bus.backlog =
    Batches.waiting batch.toNat (Poll.produced polls) polls.length

/-- The next poll serves the next batch. -/
theorem poll_served (batch : ℤ) (polls : List Poll) (source next : SyntheticRequestSource)
    (polled : Poll)
    (completed : poll config math fuel source polls.length batch = .ok (polled, next))
    (served : Served batch polls source) : Served batch (polls ++ [polled]) next := by
  obtain ⟨generated, caught, extended, rfl, rfl⟩ :=
    (poll_eq_ok config math fuel source next _ batch polled).mp completed
  have through := served.through
  have single : (polls.length - source.generatedThrough : ℤ).toNat = 1 := by omega
  rw [single] at extended
  have caughtUp := catchUp_spec config math fuel polls.length 1 source caught generated through
    extended
  set polled : Poll := ⟨polls.length, batch, generated,
    (caught.generator.bus.drain polls.length batch).1⟩ with same
  have before (index : ℕ) (earlier : index < polls.length) :=
    Poll.produced_before polls polled index earlier
  have last : Poll.produced (polls ++ [polled]) polls.length = requestsOf generated :=
    Poll.produced_last polls polled
  have arrived : ∀ index, ∀ request ∈ Poll.produced (polls ++ [polled]) index,
      request.arrivalStep = index := by
    intro index request listed
    rcases Nat.lt_trichotomy index polls.length with earlier | rfl | later
    · exact served.arrived index request (before index earlier ▸ listed)
    · rw [last] at listed
      obtain ⟨pair, member, inside⟩ := List.mem_flatMap.mp listed
      have numbered : pair.1 ∈ generated.map Prod.fst := List.mem_map_of_mem member
      rw [caughtUp.steps] at numbered
      rw [(caughtUp.arrived pair member request inside).1]
      simpa using numbered
    · rw [Poll.produced_after _ _ (by simpa using later)] at listed
      exact absurd listed List.not_mem_nil
  have waits : source.generator.bus.backlog =
      Batches.waiting batch.toNat (Poll.produced (polls ++ [polled])) polls.length :=
    served.backlog.trans (Batches.waiting_congr _ _ _ _ fun index earlier =>
      (before index earlier).symm)
  have joined : caught.generator.bus.backlog =
      Batches.waiting batch.toNat (Poll.produced (polls ++ [polled])) polls.length ++
        Poll.produced (polls ++ [polled]) polls.length := by
    rw [caughtUp.backlog, waits, last]
  -- What is on the bus has arrived, so all of it is available.
  have available : ∀ entry ∈ caught.generator.bus.pending,
      entry.availableAtStep ≤ (polls.length : ℤ) := by
    intro entry pending
    rw [caughtUp.gated served.gated entry pending]
    have listed : entry.request ∈ caught.generator.bus.backlog := List.mem_map_of_mem pending
    rw [joined, Batches.waiting_eq] at listed
    rcases List.mem_append.mp listed with waiting | fresh
    · obtain ⟨index, earlier, inside⟩ := List.mem_flatMap.mp (List.mem_of_mem_drop waiting)
      have numbered := List.mem_range.mp earlier
      rw [arrived index _ inside]
      omega
    · exact (arrived _ _ fresh).le
  obtain ⟨taken, left⟩ := caught.generator.bus.drain_available polls.length batch available
  constructor
  · have through := caughtUp.through
    simpa using through
  · exact (caught.generator.bus.drain_gated _ _ (caughtUp.gated served.gated)).2
  · exact arrived
  · have earlier : (List.range polls.length).map (Batches.leaving batch.toNat
        (Poll.produced (polls ++ [polled]))) = polls.map Poll.returned := by
      rw [served.returned]
      refine List.map_congr_left fun index listed => ?_
      have numbered := List.mem_range.mp listed
      rw [Batches.leaving, Batches.leaving, before index numbered,
        Batches.waiting_congr _ _ _ _ fun slot within => before slot (by omega)]
    rw [List.length_append, List.length_singleton, List.range_succ, List.map_append,
      List.map_append, earlier, List.map_singleton, List.map_singleton, Batches.leaving, ← joined]
    simp only [same, taken]
  · rw [List.length_append, List.length_singleton, Batches.waiting, ← joined]
    exact left

/-- Before the first poll nothing is generated, returned or queued. -/
theorem initial_served (batch : ℤ) (rng : Rng) : Served batch [] (initial rng) where
  through := rfl
  gated := by simp [initial, InMemoryBus.Gated]
  arrived := by simp [Poll.produced]
  returned := rfl
  backlog := rfl

/-- Polling every step once, in turn, serves the source in batches. This is the run lemma to the
step before. -/
theorem pollRun_served (batch : ℤ) (count : ℕ) (rng : Rng) (final : SyntheticRequestSource)
    (polls : List Poll)
    (completed : pollRun config math fuel (fun index => (index, batch)) count (initial rng) =
      some (final, polls)) : polls.length = count ∧ Served batch polls final := by
  refine Runs.run_invariant _ (fun count polls source =>
    polls.length = count ∧ Served batch polls source) (initial rng)
    ⟨rfl, initial_served batch rng⟩ ?_ count final polls completed
  rintro count polls source next polled ⟨rfl, served⟩ stepped
  have called := (pollAt_eq_some config math fuel _ polls.length source next polled).mp stepped
  exact ⟨by simp, poll_served config math fuel batch polls source next polled called served⟩

end SyntheticRequestSource

namespace ControlLoop

variable {π φ ο : Type} (loop : ControlLoop SyntheticRequestSource π φ ο)
  (config : SimulationConfig) (math : Rng.MathExp) (fuel : ℕ)

/-- A run polls its source once in every step, in turn, with the configured batch. So what is
known of sequences of polls is known of runs. -/
theorem run_polls (sourced : loop.requestSource = SyntheticRequestSource.port config math fuel)
    (count : ℕ) (initial final : LoopState SyntheticRequestSource π φ ο) (traces : List StepTrace)
    (completed : loop.run 0 count initial = some (final, traces)) :
    ∃ polls, SyntheticRequestSource.pollRun config math fuel
        (fun index => (index, loop.config.arrival.maxBatchPerStep)) count initial.source =
          some (final.source, polls) ∧
      polls.map Poll.returned = traces.map StepTrace.polled := by
  obtain ⟨reached, polls, polled, rfl, alike⟩ := Runs.run_lockstep _
    (SyntheticRequestSource.pollAt config math fuel
      fun index => (index, loop.config.arrival.maxBatchPerStep))
    (fun state source => state.source = source)
    (fun (trace : StepTrace) (polled : Poll) => polled.returned = trace.polled) (by
      rintro index state source next trace rfl stepped
      have called := (loop.step_inv _ state next trace stepped).polled
      rw [sourced, Int.zero_add] at called
      simp only [SyntheticRequestSource.port] at called
      split at called
      · rename_i polled after returned
        obtain ⟨same, kept⟩ := Prod.mk.inj (Option.some.inj called)
        exact ⟨after, polled, (SyntheticRequestSource.pollAt_eq_some config math fuel _ index
          state.source after polled).mpr returned, kept.symm, same⟩
      · simp at called) count initial final traces completed initial.source rfl
  refine ⟨polls, polled, ?_⟩
  rw [← List.forall₂_eq_eq_eq, List.forall₂_map_left_iff, List.forall₂_map_right_iff]
  exact alike.flip

/-- Ingest is a queue served in batches. A run polls its source once in every step; the poll of
a step generates the requests of that step; what the first steps poll are the first requests
generated, in their order, and exactly as many as have arrived up to some step with a full
batch for every step since, at the least such step; the others wait on the bus. So what waits
or is generated in a step is polled before full batches would have taken it. -/
theorem ingest_batches (sourced : loop.requestSource = SyntheticRequestSource.port config math fuel)
    (count : ℕ) (demandRng : Rng) (initial final : LoopState SyntheticRequestSource π φ ο)
    (fresh : initial.source = SyntheticRequestSource.initial demandRng) (traces : List StepTrace)
    (completed : loop.run 0 count initial = some (final, traces)) :
    ∃ polls, SyntheticRequestSource.pollRun config math fuel
        (fun index => (index, loop.config.arrival.maxBatchPerStep)) count
          (SyntheticRequestSource.initial demandRng) = some (final.source, polls) ∧
      polls.map Poll.returned = traces.map StepTrace.polled ∧
      (∀ index, ∀ request ∈ Poll.produced polls index, request.arrivalStep = index) ∧
      (∀ slots ≤ count, (traces.take slots).flatMap StepTrace.polled =
        (Batches.arrived (Poll.produced polls) slots).take (Batches.departed
          loop.config.arrival.maxBatchPerStep.toNat (Poll.produced polls) slots)) ∧
      final.source.generator.bus.backlog =
        (Batches.arrived (Poll.produced polls) count).drop (Batches.departed
          loop.config.arrival.maxBatchPerStep.toNat (Poll.produced polls) count) ∧
      ∀ slot later, slot < later → later ≤ count →
        (Batches.waiting loop.config.arrival.maxBatchPerStep.toNat (Poll.produced polls) slot ++
          Poll.produced polls slot).length ≤
            (later - slot) * loop.config.arrival.maxBatchPerStep.toNat →
        ∀ request ∈ Poll.produced polls slot,
          request ∈ (traces.take later).flatMap StepTrace.polled := by
  obtain ⟨polls, polled, returned⟩ := loop.run_polls config math fuel sourced count initial final
    traces completed
  rw [fresh] at polled
  obtain ⟨counted, served⟩ := SyntheticRequestSource.pollRun_served config math fuel _ count
    demandRng final.source polls polled
  have order : ∀ slots ≤ count, (traces.take slots).flatMap StepTrace.polled =
      (Batches.arrived (Poll.produced polls) slots).take (Batches.departed
        loop.config.arrival.maxBatchPerStep.toNat (Poll.produced polls) slots) := by
    intro slots within
    rw [← Batches.leaving_eq, List.flatMap_def, List.flatMap_def, List.map_take, ← returned,
      served.returned, counted, ← List.map_take, List.take_range, min_eq_left within]
  refine ⟨polls, polled, returned, served.arrived, order, ?_, ?_⟩
  · rw [served.backlog, counted, Batches.waiting_eq]
  · intro slot later ordered within room request listed
    have taken := Batches.departed_by _ (Poll.produced polls) slot later ordered room
    have early := List.prefix_iff_eq_take.mp
      (Batches.arrived_monotone (Poll.produced polls) (slot + 1) later ordered)
    have first : request ∈ Batches.arrived (Poll.produced polls) (slot + 1) :=
      Batches.arrived_succ (Poll.produced polls) slot ▸ List.mem_append_right _ listed
    rw [order later within]
    exact List.take_subset_take_left _ taken (early ▸ first)

end ControlLoop

/-- The configuration, whose batch is one request a step. -/
def narrowConfig : SimulationConfig := { narrowFields with accepted := by decide +kernel }

/-- The small loop over that configuration, with the synthetic source. -/
def narrowLoop : ControlLoop SyntheticRequestSource Rng Rng Unit where
  config := narrowConfig
  requestSource := SyntheticRequestSource.port narrowConfig Rng.coarseExp 0
  constellations := smallLoop.constellations
  regulatory := smallLoop.regulatory
  scheduler := smallLoop.scheduler
  fallbackScheduler := smallLoop.fallbackScheduler
  optimizer := smallLoop.optimizer

/-- Its three steps return, which evaluation finds. -/
theorem narrowRun_returns :
    (narrowLoop.run 0 3 (narrowLoop.initial (SyntheticRequestSource.initial evenRng) evenRng
      evenRng () evenRng evenRng)).isSome = true := by
  decide +kernel

/-- What they return. -/
def narrowRun : LoopState SyntheticRequestSource Rng Rng Unit × List StepTrace :=
  (narrowLoop.run 0 3 (narrowLoop.initial (SyntheticRequestSource.initial evenRng) evenRng evenRng
    () evenRng evenRng)).get narrowRun_returns

/-- The second of two photos is polled a step after it is generated. -/
theorem ControlLoop.ingest_batches_narrow :
    narrowRun.2.map (fun trace => trace.polled.map ServiceRequest.arrivalStep) =
        [[0], [0], [2]] ∧
      ∃ polls : List Poll, polls.map Poll.returned = narrowRun.2.map StepTrace.polled ∧
        narrowRun.1.source.generator.bus.backlog = (Batches.arrived (Poll.produced polls) 3).drop
          (Batches.departed narrowLoop.config.arrival.maxBatchPerStep.toNat (Poll.produced polls)
            3) := by
  refine ⟨by decide +kernel, ?_⟩
  obtain ⟨polls, _, returned, _, _, backlog, _⟩ := narrowLoop.ingest_batches narrowConfig
    Rng.coarseExp 0 rfl 3 evenRng _ narrowRun.1 rfl narrowRun.2
    (Option.some_get narrowRun_returns).symm
  exact ⟨polls, returned, backlog⟩

end Satsim
