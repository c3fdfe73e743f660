import Satsim.Ingest.Delivery

/-!
# What the generator samples

A published request takes its size and its deadline from the profile of its class, its link
from the arrival settings and its urgency from the unit interval. Nothing that happens to a
request later touches these, so they hold of whatever waits on the bus, is polled or is put
back.

The invariant is a property of requests, not of the source: it is established where a
request is published, and everything later only moves requests about or counts their
retries.
-/

namespace Satsim

open Library

/-- A request as the generator samples it: size and deadline by the profile of its class, link
and urgency within their ranges. -/
structure SimulationConfig.Samples (config : SimulationConfig) (request : ServiceRequest) :
    Prop where
  profiled : ∃ profile, config.profile? request.trafficClass = some profile ∧
    profile.minSizeBytes ≤ request.sizeBytes ∧ request.sizeBytes ≤ profile.maxSizeBytes ∧
      request.deadlineStep = request.arrivalStep + profile.deadlineSlackSteps
  linked : config.arrival.linkQualityMin ≤ request.linkQuality ∧
    request.linkQuality ≤ config.arrival.linkQualityMax
  urgent : 0 ≤ request.urgency ∧ request.urgency ≤ 1

section

variable {config : SimulationConfig} {request : ServiceRequest} (sampled : config.Samples request)
include sampled

/-- Every profile has positive sizes, so every request costs something. -/
theorem SimulationConfig.Samples.size_pos : 0 < request.sizeBytes := by
  obtain ⟨profile, _, least, _⟩ := sampled.profiled
  exact profile.minSizePositive.trans_le least

/-- A request that is put back is still as it was sampled, the retry count being no part
of it. -/
theorem SimulationConfig.Samples.retried (retries : ℤ) :
    config.Samples { request with retryCount := retries } :=
  ⟨sampled.profiled, sampled.linked, sampled.urgent⟩

end

namespace ArrivalConfig

variable (arrival : ArrivalConfig)

/-- The link bounds are in order, as their validator checked. -/
theorem links_ordered : arrival.linkQualityMin ≤ arrival.linkQualityMax := by
  have checked := arrival.linksChecked
  unfold checkLinkRange at checked
  split at checked
  · simp at checked
  · rename_i ordered
    exact not_lt.mp ordered

/-- A link is sampled between the two bounds, also when they coincide. -/
theorem link_sampled (value : ℚ) (nonneg : 0 ≤ value) (below : value ≤ 1) :
    arrival.linkQualityMin ≤
        arrival.linkQualityMin +
          max 0 (arrival.linkQualityMax - arrival.linkQualityMin) * value ∧
      arrival.linkQualityMin +
          max 0 (arrival.linkQualityMax - arrival.linkQualityMin) * value ≤
        arrival.linkQualityMax := by
  have span : 0 ≤ arrival.linkQualityMax - arrival.linkQualityMin :=
    sub_nonneg.mpr arrival.links_ordered
  rw [max_eq_right span]
  constructor
  · exact le_add_of_nonneg_right (mul_nonneg span nonneg)
  · have scaled := mul_le_of_le_one_right span below
    linarith

end ArrivalConfig

variable (config : SimulationConfig)

namespace DemandGenerator

/-- A request published with an urgency of the unit interval is sampled. The urgency is the
caller's, all else is drawn here. -/
theorem publish_samples (step : ℤ) (trafficClass : TrafficClass) (region : Region) (urgency : ℚ)
    (range : 0 ≤ urgency ∧ urgency ≤ 1) (generator after : DemandGenerator)
    (request : ServiceRequest)
    (published : publish config step trafficClass region urgency generator =
      .ok (request, after)) : config.Samples request := by
  unfold publish at published
  split at published
  · simp at published
  · rename_i profile found
    simp only [Except.ok.injEq, Prod.mk.injEq] at published
    obtain ⟨rfl, _⟩ := published
    have sized := generator.rng.randint_mem profile.minSizeBytes profile.maxSizeBytes
      profile.sizes_ordered
    constructor
    · exact ⟨profile, found, sized.1, sized.2, rfl⟩
    · exact config.arrival.link_sampled _ (Rng.random_nonneg _) (Rng.random_lt_one _).le
    · exact range

/-- The baseline arrivals are sampled. -/
theorem baseline_samples (step : ℤ) (count : ℕ) (generator after : DemandGenerator)
    (produced : List ServiceRequest)
    (generated : baseline config step count generator = .ok (produced, after)) :
    ∀ request ∈ produced, config.Samples request := by
  induction count generalizing generator produced with
  | zero =>
    simp only [baseline, Except.ok.injEq, Prod.mk.injEq] at generated
    simp [← generated.1]
  | succ count inductionHypothesis =>
    obtain ⟨region, rng, request, middle, rest, _, published, later, rfl⟩ :=
      (baseline_succ config step count generator after produced).mp generated
    have first := publish_samples config step _ region _
      ⟨rng.random_nonneg, rng.random_lt_one.le⟩ _ middle request published
    rw [List.forall_mem_cons]
    exact ⟨first, inductionHypothesis middle rest later⟩

/-- The arrivals of a surge are sampled: their urgency is clamped after the jitter. -/
theorem surge_samples (step : ℤ) (event : SurgeEvent) (count : ℕ)
    (generator after : DemandGenerator) (produced : List ServiceRequest)
    (generated : surge config step event count generator = .ok (produced, after)) :
    ∀ request ∈ produced, config.Samples request := by
  induction count generalizing generator produced with
  | zero =>
    simp only [surge, Except.ok.injEq, Prod.mk.injEq] at generated
    simp [← generated.1]
  | succ count inductionHypothesis =>
    obtain ⟨request, middle, rest, published, later, rfl⟩ :=
      (surge_succ config step event count generator after produced).mp generated
    have first := publish_samples config step _ event.region _
      (clamp_range _ 0 1 zero_le_one) _ middle request published
    rw [List.forall_mem_cons]
    exact ⟨first, inductionHypothesis middle rest later⟩

/-- So are those of all surges of a step. -/
theorem surges_samples (step : ℤ) (events : List SurgeEvent) (generator after : DemandGenerator)
    (produced : List ServiceRequest)
    (generated : surges config step events generator = .ok (produced, after)) :
    ∀ request ∈ produced, config.Samples request := by
  induction events generalizing generator produced with
  | nil =>
    simp only [surges, Except.ok.injEq, Prod.mk.injEq] at generated
    simp [← generated.1]
  | cons event rest inductionHypothesis =>
    by_cases scheduled : event.atStep = step
    · obtain ⟨first, middle, second, made, later, rfl⟩ :=
        (surges_scheduled config step event rest generator after produced scheduled).mp generated
      rw [List.forall_mem_append]
      constructor
      · exact surge_samples config step event _ _ middle first made
      · exact inductionHypothesis middle second later
    · rw [surges_elsewhere config step event rest generator scheduled] at generated
      exact inductionHypothesis generator produced generated

/-- Everything a step generates is sampled. -/
theorem generateStep_samples (math : Rng.MathExp) (fuel : ℕ) (step : ℤ)
    (generator after : DemandGenerator) (produced : List ServiceRequest)
    (generated : generateStep config math fuel step generator = .ok (produced, after)) :
    ∀ request ∈ produced, config.Samples request := by
  obtain ⟨count, rng, first, middle, second, _, arrived, surged, rfl⟩ :=
    (generateStep_eq_ok config math fuel step generator after produced).mp generated
  rw [List.forall_mem_append]
  constructor
  · exact baseline_samples config step count _ middle first arrived
  · exact surges_samples config step _ middle after second surged

end DemandGenerator

namespace SyntheticRequestSource

variable (math : Rng.MathExp) (fuel : ℕ)

/-- The bus holds sampled requests only. It is all that the source has to remember of them. -/
def Stocked (source : SyntheticRequestSource) : Prop :=
  ∀ request ∈ source.generator.bus.backlog, config.Samples request

/-- A fresh bus holds nothing. -/
theorem initial_stocked (rng : Rng) : (initial rng).Stocked config := by
  simp [Stocked, initial, InMemoryBus.backlog]

/-- Catching up adds sampled requests only. -/
theorem catchUp_stocked (count : ℕ) (source after : SyntheticRequestSource)
    (generated : List (ℤ × List ServiceRequest)) (stocked : source.Stocked config)
    (completed : catchUp config math fuel count source = .ok (generated, after)) :
    after.Stocked config := by
  induction count generalizing source generated with
  | zero =>
    simp only [catchUp, Except.ok.injEq, Prod.mk.injEq] at completed
    exact completed.2 ▸ stocked
  | succ count inductionHypothesis =>
    obtain ⟨produced, generator, later, made, rest, _⟩ :=
      (catchUp_succ config math fuel count source after generated).mp completed
    have sampled := DemandGenerator.generateStep_samples config math fuel _ _ generator produced
      made
    have published := DemandGenerator.generateStep_produces config math fuel _ _ generator produced
      made
    refine inductionHypothesis ⟨generator, source.generatedThrough + 1⟩ later ?_ rest
    rw [Stocked, published.backlog, List.forall_mem_append]
    exact ⟨stocked, sampled⟩

/-- A poll of a stocked source returns sampled requests and leaves it stocked. -/
theorem poll_stocked (source next : SyntheticRequestSource) (step maxBatch : ℤ) (polled : Poll)
    (stocked : source.Stocked config)
    (completed : poll config math fuel source step maxBatch = .ok (polled, next)) :
    (∀ request ∈ polled.returned, config.Samples request) ∧ next.Stocked config := by
  obtain ⟨generated, caught, extended, rfl, rfl⟩ :=
    (poll_eq_ok config math fuel source next step maxBatch polled).mp completed
  have filled := catchUp_stocked config math fuel _ source caught generated stocked extended
  have drained := caught.generator.bus.drain_backlog step maxBatch
  rw [Stocked, ← List.forall_mem_append]
  exact fun request member => filled request (drained.subset member)

/-- So does a poll behind the port. -/
theorem port_stocked (source next : SyntheticRequestSource) (step maxBatch : ℤ)
    (returned : List ServiceRequest) (stocked : source.Stocked config)
    (completed : (port config math fuel).poll source step maxBatch = some (returned, next)) :
    (∀ request ∈ returned, config.Samples request) ∧ next.Stocked config := by
  simp only [port] at completed
  split at completed
  · rename_i polled after made
    simp only [Option.some.injEq, Prod.mk.injEq] at completed
    obtain ⟨rfl, rfl⟩ := completed
    exact poll_stocked config math fuel source after step maxBatch polled stocked made
  · simp at completed

end SyntheticRequestSource

end Satsim
