import Satsim.Ingest.RequestSource

/-!
# Exactly-once delivery

The ledger of a source: every request generated so far has its own id, and has either
been returned or waits on the bus. Generating a step extends the ledger on one side,
draining moves requests across it, so it stays balanced over any sequence of polls.

No hypothesis is made about the polls. Steps may repeat or go back, and batches may be
too small to keep up; what is generated and not yet returned is then simply on the bus.
-/

namespace Satsim

open Library

namespace DemandGenerator

/-- An id determines the step and the number it was made from. Ids made from different numbers
therefore differ. -/
theorem requestId_injective (m n i j : ℕ) (same : requestId m i = requestId n j) :
    m = n ∧ i = j :=
  Naming.pair_injective "req-" "-" '-' (by decide) [] rfl (by simp) m i n j same

/-- Requests whose ids are all different and have been given out already. The counter is ahead
of every id. -/
structure Issued (requests : List ServiceRequest) (generator : DemandGenerator) : Prop where
  named : ∀ request ∈ requests, ∃ step seq : ℕ, seq < generator.seq ∧
    request.requestId = requestId step seq
  distinct : (requests.map ServiceRequest.requestId).Nodup

/-- The ids of a step's requests are new and different from each other, since the counter goes
up with each and is never set back. -/
theorem Produces.issued {step : ℕ} {before after : DemandGenerator}
    {produced : List ServiceRequest} (made : Produces step before after produced)
    (requests : List ServiceRequest) (issued : Issued requests before) :
    Issued (requests ++ produced) after := by
  have fresh : ∀ request ∈ produced, ∃ seq, before.seq ≤ seq ∧ seq < after.seq ∧
      request.requestId = requestId step seq := by
    intro request member
    have listed : request.requestId ∈ produced.map ServiceRequest.requestId :=
      List.mem_map_of_mem member
    rw [made.named] at listed
    obtain ⟨seq, counted, same⟩ := List.mem_map.mp listed
    have bounds := List.mem_range'_1.mp counted
    exact ⟨seq, bounds.1, by rw [made.seq]; exact bounds.2, same.symm⟩
  constructor
  · intro request member
    cases List.mem_append.mp member with
    | inl old =>
      obtain ⟨step, seq, bound, same⟩ := issued.named request old
      exact ⟨step, seq, by rw [made.seq]; omega, same⟩
    | inr new =>
      obtain ⟨seq, _, bound, same⟩ := fresh request new
      exact ⟨step, seq, bound, same⟩
  · rw [List.map_append, List.nodup_append]
    refine ⟨issued.distinct, ?_, ?_⟩
    · rw [made.named]
      refine List.Nodup.map ?_ List.nodup_range'
      intro i j same
      exact (requestId_injective step step i j same).2
    · intro first old second new same
      obtain ⟨request, member, rfl⟩ := List.mem_map.mp old
      obtain ⟨other, member', rfl⟩ := List.mem_map.mp new
      obtain ⟨_, seq, bound, named⟩ := issued.named request member
      obtain ⟨seq', bound', _, named'⟩ := fresh other member'
      have := (requestId_injective _ _ _ _ (named.symm.trans (same.trans named'))).2
      omega

end DemandGenerator

namespace SyntheticRequestSource

open DemandGenerator (Issued)

variable (config : SimulationConfig) (math : Rng.MathExp) (fuel : ℕ)

/-- The requests of generated steps, in order. -/
def requestsOf (generated : List (ℤ × List ServiceRequest)) : List ServiceRequest :=
  generated.flatMap Prod.snd

/-- Steps generated one after another list their requests one after another. -/
theorem requestsOf_append (left right : List (ℤ × List ServiceRequest)) :
    requestsOf (left ++ right) = requestsOf left ++ requestsOf right :=
  List.flatMap_append

/-- What catching up does to a source that has generated `done` steps: it generates the next
ones in order, and publishes their requests. Nothing is drained on the way. -/
structure CaughtUp (done count : ℕ) (source after : SyntheticRequestSource)
    (generated : List (ℤ × List ServiceRequest)) : Prop where
  through : after.generatedThrough + 1 = (done + count : ℕ)
  steps : generated.map Prod.fst = (List.range' done count).map Nat.cast
  arrived : ∀ pair ∈ generated, ∀ request ∈ pair.2,
    request.arrivalStep = pair.1 ∧ request.retryCount = 0
  backlog : after.generator.bus.backlog =
    source.generator.bus.backlog ++ requestsOf generated
  gated : source.generator.bus.Gated → after.generator.bus.Gated
  issued : ∀ requests, Issued requests source.generator →
    Issued (requests ++ requestsOf generated) after.generator

/-- Catching up does that, by induction on the number of steps. -/
theorem catchUp_spec (done count : ℕ) (source after : SyntheticRequestSource)
    (generated : List (ℤ × List ServiceRequest)) (through : source.generatedThrough + 1 = done)
    (completed : catchUp config math fuel count source = .ok (generated, after)) :
    CaughtUp done count source after generated := by
  induction count generalizing done source generated with
  | zero =>
    simp only [catchUp, Except.ok.injEq, Prod.mk.injEq] at completed
    obtain ⟨rfl, rfl⟩ := completed
    exact ⟨by simpa using through, rfl, by simp, by simp [requestsOf], id,
      fun requests issued => by simpa [requestsOf] using issued⟩
  | succ count inductionHypothesis =>
    obtain ⟨produced, generator, later, made, rest, rfl⟩ :=
      (catchUp_succ config math fuel count source after generated).mp completed
    rw [through] at made rest ⊢
    have first := DemandGenerator.generateStep_produces config math fuel _ _ _ _ made
    have following := inductionHypothesis (done + 1) _ later (by push_cast; rfl) rest
    constructor
    · rw [following.through]
      congr 1
      omega
    · simp only [List.map_cons, List.range'_succ, following.steps]
    · intro pair member
      rcases List.mem_cons.mp member with rfl | others
      · exact first.arrived
      · exact following.arrived pair others
    · rw [following.backlog, first.backlog]
      simp [requestsOf]
    · exact following.gated ∘ first.gated
    · intro requests issued
      have extended := following.issued _ (first.issued requests issued)
      simpa [requestsOf] using extended

/-- The ledger of a source after some polls: what was generated is what was returned and what
waits, each request under an id of its own. -/
structure Delivered (traces : List Poll) (source : SyntheticRequestSource) : Prop where
  through : source.generatedThrough = (traces.map Poll.step).foldl max (-1)
  steps : (traces.flatMap Poll.generated).map Prod.fst =
    (List.range (source.generatedThrough + 1).toNat).map Nat.cast
  arrived : ∀ pair ∈ traces.flatMap Poll.generated, ∀ request ∈ pair.2,
    request.arrivalStep = pair.1 ∧ request.retryCount = 0
  account : (requestsOf (traces.flatMap Poll.generated)).Perm
    (traces.flatMap Poll.returned ++ source.generator.bus.backlog)
  gated : source.generator.bus.Gated
  issued : Issued (requestsOf (traces.flatMap Poll.generated)) source.generator
  timely : ∀ polled ∈ traces, ∀ request ∈ polled.returned, request.arrivalStep ≤ polled.step

/-- The ledger of a fresh source is empty: nothing generated, returned or waiting. -/
theorem initial_delivered (rng : Rng) : Delivered [] (initial rng) where
  through := rfl
  steps := rfl
  arrived := by simp
  account := by simp [requestsOf, initial, InMemoryBus.backlog]
  gated := by simp [initial, InMemoryBus.Gated]
  issued := ⟨by simp [requestsOf], by simp [requestsOf]⟩
  timely := by simp

/-- The last generated step never goes below the one before the first. -/
theorem Delivered.started {traces : List Poll} {source : SyntheticRequestSource}
    (delivered : Delivered traces source) : -1 ≤ source.generatedThrough := by
  rw [delivered.through]
  generalize (-1 : ℤ) = low
  induction traces.map Poll.step generalizing low with
  | nil => exact le_refl low
  | cons step rest inductionHypothesis =>
    exact (le_max_left low step).trans (inductionHypothesis (max low step))

/-- A poll keeps the ledger, whatever its step and its batch. -/
theorem poll_delivered (traces : List Poll) (source next : SyntheticRequestSource)
    (step maxBatch : ℤ) (polled : Poll)
    (completed : poll config math fuel source step maxBatch = .ok (polled, next))
    (delivered : Delivered traces source) :
    polled.step = step ∧ polled.maxBatch = maxBatch ∧ Delivered (traces ++ [polled]) next := by
  have started := delivered.started
  obtain ⟨generated, caught, extended, rfl, rfl⟩ :=
    (poll_eq_ok config math fuel source next step maxBatch polled).mp completed
  have caughtUp := catchUp_spec config math fuel (source.generatedThrough + 1).toNat _ source
    caught generated (by omega) extended
  have drained := caught.generator.bus.drain_backlog step maxBatch
  obtain ⟨timely, gated⟩ := caught.generator.bus.drain_gated step maxBatch
    (caughtUp.gated delivered.gated)
  refine ⟨rfl, rfl, ?_⟩
  constructor
  · have through := caughtUp.through
    simp only [List.map_append, List.map_cons, List.map_nil, List.foldl_append, List.foldl_cons,
      List.foldl_nil, ← delivered.through]
    omega
  · have total : (caught.generatedThrough + 1).toNat =
        (source.generatedThrough + 1).toNat + (step - source.generatedThrough).toNat := by
      have := caughtUp.through
      omega
    have consecutive : List.range' 0 (source.generatedThrough + 1).toNat ++
        List.range' (0 + (source.generatedThrough + 1).toNat)
          (step - source.generatedThrough).toNat = _ := List.range'_append_1
    rw [List.flatMap_append, List.flatMap_singleton, List.map_append, delivered.steps,
      caughtUp.steps, total, ← List.map_append, List.range_eq_range', List.range_eq_range',
      ← consecutive, Nat.zero_add]
  · intro pair member
    simp only [List.flatMap_append, List.flatMap_singleton] at member
    exact (List.mem_append.mp member).elim (delivered.arrived pair) (caughtUp.arrived pair)
  · -- The new requests join the backlog, and the drained ones leave it.
    generalize caught.generator.bus.drain step maxBatch = outcome at drained
    rw [List.flatMap_append, List.flatMap_singleton, requestsOf_append, List.flatMap_append,
      List.flatMap_singleton]
    calc (requestsOf (traces.flatMap Poll.generated) ++ requestsOf generated).Perm
          (traces.flatMap Poll.returned ++ source.generator.bus.backlog ++ requestsOf generated) :=
          delivered.account.append_right _
      List.Perm _ (traces.flatMap Poll.returned ++ caught.generator.bus.backlog) := by
          rw [caughtUp.backlog, List.append_assoc]
      List.Perm _ (traces.flatMap Poll.returned ++ (outcome.1 ++ outcome.2.backlog)) :=
          drained.symm.append_left _
      List.Perm _ (traces.flatMap Poll.returned ++ outcome.1 ++ outcome.2.backlog) := by
          rw [List.append_assoc]
  · exact gated
  · have issued := caughtUp.issued _ delivered.issued
    rw [← requestsOf_append] at issued
    rw [List.flatMap_append, List.flatMap_singleton]
    exact ⟨issued.named, issued.distinct⟩
  · intro earlier member
    cases List.mem_append.mp member with
    | inl before =>
      exact delivered.timely earlier before
    | inr last =>
      rw [List.mem_singleton.mp last]
      exact timely

/-- The ledger is kept over any sequence of polls, by the induction rule for runs. -/
theorem pollRun_delivered (polls : ℕ → ℤ × ℤ) (count : ℕ) (rng : Rng)
    (final : SyntheticRequestSource) (traces : List Poll)
    (completed : pollRun config math fuel polls count (initial rng) = some (final, traces)) :
    traces.map (fun polled => (polled.step, polled.maxBatch)) = (List.range count).map polls ∧
      Delivered traces final := by
  refine Runs.run_invariant _ (fun count traces source =>
    traces.map (fun polled => (polled.step, polled.maxBatch)) = (List.range count).map polls ∧
      Delivered traces source) (initial rng) ⟨rfl, initial_delivered rng⟩ ?_ count final traces
    completed
  rintro count traces source next polled ⟨called, delivered⟩ stepped
  obtain ⟨step, batch, extended⟩ := poll_delivered config math fuel traces source next _ _ polled
    ((pollAt_eq_some config math fuel polls count source next polled).mp stepped) delivered
  refine ⟨?_, extended⟩
  rw [List.map_append, called, List.range_succ, List.map_append]
  simp only [List.map_cons, List.map_nil, step, batch]

/-- Exactly-once delivery. Over any sequence of polls with any steps, batch sizes and draws, as
long as generation does not raise: each call is one poll of the trace; the steps up to the
largest one polled are generated once each, in increasing order; all generated ids are
different; no poll returns a request that arrives later than the polled step; no request is
returned twice; and what is generated is what is returned and what waits on the bus. -/
theorem exactly_once_delivery (polls : ℕ → ℤ × ℤ) (count : ℕ) (rng : Rng)
    (final : SyntheticRequestSource) (traces : List Poll)
    (completed : pollRun config math fuel polls count (initial rng) = some (final, traces)) :
    traces.map (fun polled => (polled.step, polled.maxBatch)) = (List.range count).map polls ∧
      (traces.flatMap Poll.generated).map Prod.fst = (List.range ((((List.range count).map
        (fun index => (polls index).1)).foldl max (-1) + 1).toNat)).map Nat.cast ∧
      (∀ pair ∈ traces.flatMap Poll.generated, ∀ request ∈ pair.2,
        request.arrivalStep = pair.1) ∧
      ((requestsOf (traces.flatMap Poll.generated)).map ServiceRequest.requestId).Nodup ∧
      (∀ polled ∈ traces, ∀ request ∈ polled.returned, request.arrivalStep ≤ polled.step) ∧
      ((traces.flatMap Poll.returned).map ServiceRequest.requestId).Nodup ∧
      (requestsOf (traces.flatMap Poll.generated)).Perm
        (traces.flatMap Poll.returned ++ final.generator.bus.backlog) := by
  obtain ⟨called, delivered⟩ := pollRun_delivered config math fuel polls count rng final traces
    completed
  have steps : traces.map Poll.step = (List.range count).map (fun index => (polls index).1) := by
    simpa [Function.comp_def] using congrArg (List.map Prod.fst) called
  refine ⟨called, ?_,
    fun pair member request listed => (delivered.arrived pair member request listed).1,
    delivered.issued.distinct, delivered.timely, ?_, delivered.account⟩
  · rw [delivered.steps, delivered.through, steps]
  · have ids := (delivered.account.map ServiceRequest.requestId).nodup_iff.mp
      delivered.issued.distinct
    rw [List.map_append] at ids
    exact (List.nodup_append.mp ids).1

/-- Two photos surge in step 0 and one in step 2, with no other arrivals. -/
def surgeConfig : SimulationConfig :=
  { smallFields.surging [photoPair, latePhoto] with accepted := by decide +kernel }

/-- A poll that skips ahead, then one that goes back, and one that drains nothing. -/
def unevenPolls (index : ℕ) : ℤ × ℤ := [(2, 1), (1, 5), (2, 0)].getD index (0, 0)

/-- Generation does not raise in these polls. -/
theorem unevenRun_returns : (pollRun surgeConfig Rng.coarseExp 0 unevenPolls 3
    (initial evenRng)).isSome = true := by decide +kernel

/-- The third photo arrives in step 2 and waits on the bus. -/
theorem exactly_once_delivery_uneven :
    ∃ final traces, pollRun surgeConfig Rng.coarseExp 0 unevenPolls 3 (initial evenRng) =
        some (final, traces) ∧ final.generator.bus.backlog.length = 1 ∧
      (requestsOf (traces.flatMap Poll.generated)).Perm
        (traces.flatMap Poll.returned ++ final.generator.bus.backlog) :=
  ⟨_, _, (Option.some_get unevenRun_returns).symm, by decide +kernel,
    (exactly_once_delivery surgeConfig Rng.coarseExp 0 unevenPolls 3 evenRng _ _
      (Option.some_get unevenRun_returns).symm).2.2.2.2.2.2⟩

end SyntheticRequestSource

end Satsim
