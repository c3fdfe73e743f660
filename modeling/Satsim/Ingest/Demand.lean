import Satsim.Config
import Satsim.Ingest.Bus
import Satsim.Library.Naming
import Satsim.Library.Runs
import Satsim.Rng

/-!
# The demand generator

Each step's demand is a Poisson number of baseline arrivals and the surges scheduled for
the step, published one by one under ids that count up. The draws are made in source
order. Two lookups can fail: the region of a baseline arrival, when there is no rule to
draw from, and the profile of a surge's class, when the mix does not have it.

The order of the draws is part of the model: class, region and urgency of an arrival,
then its size and its link as `_publish` draws them. Results about one stream of draws,
as when two runs share their demand, depend on it.
-/

namespace Satsim

open Library

/-- How a generation ends early: a draw from an empty range, a class that is not in the
mix, or a Poisson draw that outlasts the fuel, which is not an error of the source. -/
inductive DemandError where
  | emptyRange
  | missingClass (trafficClass : TrafficClass)
  | unfinished
  deriving DecidableEq, Repr

/-- The generator's memory: its stream, the bus it publishes on, and the number of requests so
far. -/
structure DemandGenerator where
  rng : Rng
  bus : InMemoryBus := {}
  seq : ℕ := 0

namespace DemandGenerator

variable (config : SimulationConfig)

/-- The classes of the mix with their weights, in the order of the mix. -/
def classWeights : List (ℚ × TrafficClass) :=
  config.classMix.entries.map (fun entry => (entry.2.weight, entry.1))

/-- The mix has a class, so there is something to choose from. -/
theorem classWeights_ne_nil : classWeights config ≠ [] := by
  simpa [classWeights] using config.classMix_ne_nil

/-- The regions of the rule table, in its order. -/
def regions : List Region := config.regionRules.map RegionRule.region

/-- A uniform region of the rule table; an empty table is an empty range, on which the draw
raises. -/
def drawRegion (rng : Rng) (regions : List Region) : Except DemandError (Region × Rng) :=
  if vacant : regions = [] then .error .emptyRange
  else
    have nonempty : (0 : ℤ) ≤ regions.length - 1 := by
      have := List.length_pos_iff.mpr vacant
      omega
    let index := (rng.randint 0 (regions.length - 1) nonempty).1
    have inside : index.toNat < regions.length := by
      have := rng.randint_mem 0 (regions.length - 1) nonempty
      omega
    .ok (regions.get ⟨index.toNat, inside⟩, (rng.randint 0 (regions.length - 1) nonempty).2)

/-- The text of an id, from the step and the counter. -/
def requestId (step : ℤ) (seq : ℕ) : String := "req-" ++ toString step ++ "-" ++ toString seq

/-- `_sample_size`: a uniform size of the range of the profile. -/
def sampleSize (profile : ClassProfile) (rng : Rng) : ℤ × Rng :=
  rng.randint profile.minSizeBytes profile.maxSizeBytes profile.sizes_ordered

/-- `_publish`: sample the request and put it on the bus. A class without a profile raises
before anything is drawn. -/
def publish (step : ℤ) (trafficClass : TrafficClass) (region : Region) (urgency : ℚ)
    (generator : DemandGenerator) : Except DemandError (ServiceRequest × DemandGenerator) :=
  match config.profile? trafficClass with
  | none => .error (.missingClass trafficClass)
  | some profile =>
      let linkFloor := config.arrival.linkQualityMin
      let linkSpan := max 0 (config.arrival.linkQualityMax - linkFloor)
      let (sizeBytes, rng) := sampleSize profile generator.rng
      let (value, rng) := rng.random
      let request : ServiceRequest :=
        { requestId := requestId step generator.seq
          trafficClass := trafficClass
          region := region
          sizeBytes := sizeBytes
          linkQuality := linkFloor + linkSpan * value
          urgency := urgency
          arrivalStep := step
          deadlineStep := step + profile.deadlineSlackSteps }
      .ok (request, { rng := rng
                      bus := generator.bus.publish request step
                      seq := generator.seq + 1 })

/-- The baseline arrivals of a step, a given number of them. Each draws its class, then its
region. -/
def baseline (step : ℤ) : ℕ → DemandGenerator →
    Except DemandError (List ServiceRequest × DemandGenerator)
  | 0, generator => .ok ([], generator)
  | count + 1, generator => do
      let (trafficClass, rng) :=
        generator.rng.weightedChoice (classWeights config) (classWeights_ne_nil config)
      let (region, rng) ← drawRegion rng (regions config)
      let (urgency, rng) := rng.random
      let (request, generator) ←
        publish config step trafficClass region urgency { generator with rng := rng }
      let (produced, generator) ← baseline step count generator
      pure (request :: produced, generator)

/-- A successful baseline draws and publishes one arrival and goes on from there. -/
theorem baseline_succ (step : ℤ) (count : ℕ) (generator after : DemandGenerator)
    (produced : List ServiceRequest) :
    baseline config step (count + 1) generator = .ok (produced, after) ↔
      ∃ region rng request middle rest,
        drawRegion (generator.rng.weightedChoice (classWeights config)
          (classWeights_ne_nil config)).2 (regions config) = .ok (region, rng) ∧
        publish config step (generator.rng.weightedChoice (classWeights config)
          (classWeights_ne_nil config)).1 region rng.random.1
          { generator with rng := rng.random.2 } = .ok (request, middle) ∧
        baseline config step count middle = .ok (rest, after) ∧ request :: rest = produced := by
  simp only [baseline, bind_eq_ok, pure_eq_ok, Prod.exists, Prod.mk.injEq]
  constructor
  · rintro ⟨region, rng, drawn, request, middle, published, rest, _, later, same, rfl⟩
    exact ⟨region, rng, request, middle, rest, drawn, published, later, same⟩
  · rintro ⟨region, rng, request, middle, rest, drawn, published, later, same⟩
    exact ⟨region, rng, drawn, request, middle, published, rest, after, later, same, rfl⟩

/-- The arrivals of one surge, a given number of them. Only the urgency varies; class and region
are the event's. -/
def surge (step : ℤ) (event : SurgeEvent) : ℕ → DemandGenerator →
    Except DemandError (List ServiceRequest × DemandGenerator)
  | 0, generator => .ok ([], generator)
  | count + 1, generator => do
      let (value, rng) := generator.rng.random
      let urgency :=
        clampUnit (event.urgencyMean + (value - 1 / 2) * config.arrival.surgeUrgencyJitter)
      let (request, generator) ←
        publish config step event.trafficClass event.region urgency { generator with rng := rng }
      let (produced, generator) ← surge step event count generator
      pure (request :: produced, generator)

/-- A successful surge publishes one arrival and goes on from there. -/
theorem surge_succ (step : ℤ) (event : SurgeEvent) (count : ℕ) (generator after : DemandGenerator)
    (produced : List ServiceRequest) :
    surge config step event (count + 1) generator = .ok (produced, after) ↔
      ∃ request middle rest,
        publish config step event.trafficClass event.region
          (clampUnit (event.urgencyMean +
            (generator.rng.random.1 - 1 / 2) * config.arrival.surgeUrgencyJitter))
          { generator with rng := generator.rng.random.2 } = .ok (request, middle) ∧
        surge config step event count middle = .ok (rest, after) ∧ request :: rest = produced := by
  simp only [surge, bind_eq_ok, pure_eq_ok, Prod.exists, Prod.mk.injEq]
  constructor
  · rintro ⟨request, middle, published, rest, _, later, same, rfl⟩
    exact ⟨request, middle, rest, published, later, same⟩
  · rintro ⟨request, middle, rest, published, later, same⟩
    exact ⟨request, middle, published, rest, after, later, same, rfl⟩

/-- The surges scheduled for the step, in configuration order. -/
def surges (step : ℤ) : List SurgeEvent → DemandGenerator →
    Except DemandError (List ServiceRequest × DemandGenerator)
  | [], generator => .ok ([], generator)
  | event :: rest, generator =>
      if event.atStep ≠ step then surges step rest generator
      else do
        let (produced, generator) ← surge config step event event.count.toNat generator
        let (later, generator) ← surges step rest generator
        pure (produced ++ later, generator)

/-- A surge scheduled for another step publishes nothing. -/
theorem surges_elsewhere (step : ℤ) (event : SurgeEvent) (rest : List SurgeEvent)
    (generator : DemandGenerator) (elsewhere : event.atStep ≠ step) :
    surges config step (event :: rest) generator = surges config step rest generator := by
  rw [surges, if_pos elsewhere]

/-- A surge scheduled for the step is published before those after it. -/
theorem surges_scheduled (step : ℤ) (event : SurgeEvent) (rest : List SurgeEvent)
    (generator after : DemandGenerator) (produced : List ServiceRequest)
    (scheduled : event.atStep = step) :
    surges config step (event :: rest) generator = .ok (produced, after) ↔
      ∃ first middle later,
        surge config step event event.count.toNat generator = .ok (first, middle) ∧
        surges config step rest middle = .ok (later, after) ∧ first ++ later = produced := by
  rw [surges, if_neg (not_not.mpr scheduled)]
  simp only [bind_eq_ok, pure_eq_ok, Prod.exists, Prod.mk.injEq]
  constructor
  · rintro ⟨first, middle, made, later, _, following, same, rfl⟩
    exact ⟨first, middle, later, made, following, same⟩
  · rintro ⟨first, middle, later, made, following, same⟩
    exact ⟨first, middle, made, later, after, following, same, rfl⟩

/-- Generate and publish a step's requests. The source returns how many they are; here the
requests themselves are returned. -/
def generateStep (math : Rng.MathExp) (fuel : ℕ) (step : ℤ) (generator : DemandGenerator) :
    Except DemandError (List ServiceRequest × DemandGenerator) :=
  match generator.rng.poisson math fuel config.arrival.baselineRate with
  | none => .error .unfinished
  | some (count, rng) => do
      let (arrived, generator) ← baseline config step count { generator with rng := rng }
      let (surged, generator) ← surges config step config.surges generator
      pure (arrived ++ surged, generator)

/-- A generation counts its baseline arrivals, publishes them and then the surges. -/
theorem generateStep_eq_ok (math : Rng.MathExp) (fuel : ℕ) (step : ℤ)
    (generator after : DemandGenerator) (produced : List ServiceRequest) :
    generateStep config math fuel step generator = .ok (produced, after) ↔
      ∃ count rng arrived middle surged,
        generator.rng.poisson math fuel config.arrival.baselineRate = some (count, rng) ∧
        baseline config step count { generator with rng := rng } = .ok (arrived, middle) ∧
        surges config step config.surges middle = .ok (surged, after) ∧
        arrived ++ surged = produced := by
  unfold generateStep
  cases drawn : generator.rng.poisson math fuel config.arrival.baselineRate with
  | none => simp
  | some pair =>
    obtain ⟨count, rng⟩ := pair
    simp only [bind_eq_ok, pure_eq_ok, Prod.exists, Prod.mk.injEq]
    constructor
    · rintro ⟨arrived, middle, made, surged, _, later, same, rfl⟩
      exact ⟨count, rng, arrived, middle, surged, rfl, made, later, same⟩
    · rintro ⟨_, _, arrived, middle, surged, counted, made, later, same⟩
      obtain ⟨rfl, rfl⟩ := Prod.mk.inj (Option.some.inj counted)
      exact ⟨arrived, middle, made, surged, after, later, same, rfl⟩

/-- What a part of the generation does: it publishes these requests, in this order, under
consecutive ids, and each arrives now and has not been retried. Every loop of the generator is
shown to do this. -/
structure Produces (step : ℤ) (before after : DemandGenerator) (produced : List ServiceRequest) :
    Prop where
  seq : after.seq = before.seq + produced.length
  backlog : after.bus.backlog = before.bus.backlog ++ produced
  gated : before.bus.Gated → after.bus.Gated
  named : produced.map ServiceRequest.requestId =
    (List.range' before.seq produced.length).map (requestId step)
  arrived : ∀ request ∈ produced, request.arrivalStep = step ∧ request.retryCount = 0

/-- Doing nothing publishes nothing. -/
theorem Produces.nothing (step : ℤ) (generator : DemandGenerator) :
    Produces step generator generator [] := by
  constructor <;> simp

/-- Drawing from the stream publishes nothing. -/
theorem Produces.redrawn {step : ℤ} {generator after : DemandGenerator}
    {produced : List ServiceRequest} {rng : Rng}
    (made : Produces step { generator with rng := rng } after produced) :
    Produces step generator after produced :=
  ⟨made.seq, made.backlog, made.gated, made.named, made.arrived⟩

/-- Parts of a generation run one after the other. -/
theorem Produces.append {step : ℤ} {before middle after : DemandGenerator}
    {first second : List ServiceRequest} (earlier : Produces step before middle first)
    (later : Produces step middle after second) : Produces step before after (first ++ second) where
  seq := by
    rw [later.seq, earlier.seq, List.length_append, Nat.add_assoc]
  backlog := by
    rw [later.backlog, earlier.backlog, List.append_assoc]
  gated := later.gated ∘ earlier.gated
  named := by
    rw [List.map_append, earlier.named, later.named, earlier.seq, List.length_append,
      ← List.range'_append_1, List.map_append]
  arrived := by
    intro request member
    exact (List.mem_append.mp member).elim (earlier.arrived request) (later.arrived request)

/-- What a publication that succeeds makes and leaves: the class is of the mix, the request is new,
it is named after the counter, and the generator is moved on by one. -/
theorem publish_eq_ok {config : SimulationConfig} {step : ℤ} {trafficClass : TrafficClass}
    {region : Region} {urgency : ℚ} {generator after : DemandGenerator} {request : ServiceRequest}
    (published : publish config step trafficClass region urgency generator =
      .ok (request, after)) :
    ∃ profile, config.profile? trafficClass = some profile ∧
      request.requestId = requestId step generator.seq ∧
      request.trafficClass = trafficClass ∧ request.arrivalStep = step ∧
      request.retryCount = 0 ∧
      after = { rng := (sampleSize profile generator.rng).2.random.2
                bus := generator.bus.publish request step
                seq := generator.seq + 1 } := by
  unfold publish at published
  split at published
  · simp at published
  · rename_i profile found
    simp only [Except.ok.injEq, Prod.mk.injEq] at published
    obtain ⟨rfl, rfl⟩ := published
    exact ⟨profile, found, rfl, rfl, rfl, rfl, rfl⟩

/-- One publication publishes its request. -/
theorem publish_produces (step : ℤ) (trafficClass : TrafficClass) (region : Region) (urgency : ℚ)
    (generator after : DemandGenerator) (request : ServiceRequest)
    (published : publish config step trafficClass region urgency generator =
      .ok (request, after)) : Produces step generator after [request] := by
  obtain ⟨_, _, named, _, rfl, fresh, rfl⟩ := publish_eq_ok published
  exact ⟨rfl, InMemoryBus.backlog_publish _ _ _, InMemoryBus.publish_gated _ _,
    by simp [named], by simp [fresh]⟩

/-- So do the baseline arrivals, one after another. -/
theorem baseline_produces (step : ℤ) (count : ℕ) (generator after : DemandGenerator)
    (produced : List ServiceRequest)
    (generated : baseline config step count generator = .ok (produced, after)) :
    Produces step generator after produced := by
  induction count generalizing generator produced with
  | zero =>
    simp only [baseline, Except.ok.injEq, Prod.mk.injEq] at generated
    obtain ⟨rfl, rfl⟩ := generated
    exact Produces.nothing step _
  | succ count inductionHypothesis =>
    obtain ⟨region, rng, request, middle, rest, _, published, later, rfl⟩ :=
      (baseline_succ config step count generator after produced).mp generated
    exact (publish_produces config step _ _ _ _ _ _ published).redrawn.append
      (inductionHypothesis middle rest later)

/-- And the arrivals of one surge. -/
theorem surge_produces (step : ℤ) (event : SurgeEvent) (count : ℕ)
    (generator after : DemandGenerator) (produced : List ServiceRequest)
    (generated : surge config step event count generator = .ok (produced, after)) :
    Produces step generator after produced := by
  induction count generalizing generator produced with
  | zero =>
    simp only [surge, Except.ok.injEq, Prod.mk.injEq] at generated
    obtain ⟨rfl, rfl⟩ := generated
    exact Produces.nothing step _
  | succ count inductionHypothesis =>
    obtain ⟨request, middle, rest, published, later, rfl⟩ :=
      (surge_succ config step event count generator after produced).mp generated
    exact (publish_produces config step _ _ _ _ _ _ published).redrawn.append
      (inductionHypothesis middle rest later)

/-- And those of all surges of the step. -/
theorem surges_produces (step : ℤ) (events : List SurgeEvent) (generator after : DemandGenerator)
    (produced : List ServiceRequest)
    (generated : surges config step events generator = .ok (produced, after)) :
    Produces step generator after produced := by
  induction events generalizing generator produced with
  | nil =>
    simp only [surges, Except.ok.injEq, Prod.mk.injEq] at generated
    obtain ⟨rfl, rfl⟩ := generated
    exact Produces.nothing step _
  | cons event rest inductionHypothesis =>
    by_cases scheduled : event.atStep = step
    · obtain ⟨first, middle, second, made, later, rfl⟩ :=
        (surges_scheduled config step event rest generator after produced scheduled).mp generated
      exact (surge_produces config step event _ _ _ _ made).append
        (inductionHypothesis middle second later)
    · rw [surges_elsewhere config step event rest generator scheduled] at generated
      exact inductionHypothesis generator produced generated

/-- A completed generation publishes what it returns: the baseline arrivals, then the surges. -/
theorem generateStep_produces (math : Rng.MathExp) (fuel : ℕ) (step : ℤ)
    (generator after : DemandGenerator) (produced : List ServiceRequest)
    (generated : generateStep config math fuel step generator = .ok (produced, after)) :
    Produces step generator after produced := by
  obtain ⟨count, rng, first, middle, second, _, arrived, surged, rfl⟩ :=
    (generateStep_eq_ok config math fuel step generator after produced).mp generated
  exact (baseline_produces config step _ _ _ _ arrived).redrawn.append
    (surges_produces config step _ _ _ _ surged)

end DemandGenerator

end Satsim
