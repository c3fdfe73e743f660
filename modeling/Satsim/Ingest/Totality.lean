import Satsim.Ingest.Delivery

/-!
# When ingestion is total

A generation can fail in two places, the draw of a region and the lookup of a surge's
class. Neither is guarded by the configuration's validators, so an accepted configuration
ingests on every stream and under every sequence of polls exactly when it has a region to
draw or no baseline to draw for, and lists the classes its surges name.

The two directions are proved by lemmas of two kinds: those whose name ends in `total`
give success from the condition, and those that end in `needs` read the condition off a
success.
-/

namespace Satsim

open Library

namespace DemandGenerator

variable (config : SimulationConfig)

/-- A class that the mix has is found, and no other. -/
theorem profile_isSome (trafficClass : TrafficClass) :
    (config.profile? trafficClass).isSome ↔ trafficClass ∈ config.classMix.keys :=
  Dict.get?_isSome config.classMix trafficClass

/-- Publishing succeeds exactly for the classes of the mix, and leaves the tape. Everything else
in it is a draw, which cannot fail. -/
theorem publish_total (step : ℤ) (trafficClass : TrafficClass) (region : Region) (urgency : ℚ)
    (generator : DemandGenerator) :
    (∃ request after, publish config step trafficClass region urgency generator =
      .ok (request, after) ∧ after.rng.tape = generator.rng.tape) ↔
        trafficClass ∈ config.classMix.keys := by
  rw [← profile_isSome]
  unfold publish
  cases config.profile? trafficClass with
  | none => simp
  | some profile => exact iff_of_true ⟨_, _, rfl, rfl⟩ rfl

/-- A region is drawn from a table that has one. On an empty table the source's choice
raises. -/
theorem drawRegion_total (rng : Rng) (table : List Region) :
    (∃ region after, drawRegion rng table = .ok (region, after) ∧ after.tape = rng.tape) ↔
      table ≠ [] := by
  unfold drawRegion
  split
  · rename_i vacant
    simp [vacant]
  · rename_i inhabited
    exact iff_of_true ⟨_, _, rfl, rfl⟩ inhabited

/-- The class of a baseline arrival is one of the mix, so its profile is found. Only surges can
miss. -/
theorem weightedChoice_listed (rng : Rng) :
    (rng.weightedChoice (classWeights config) (classWeights_ne_nil config)).1 ∈
      config.classMix.keys := by
  have chosen := rng.weightedChoice_mem (classWeights config) (classWeights_ne_nil config)
  simpa [classWeights, Dict.keys, Function.comp_def] using chosen

/-- Baseline arrivals are generated when there is a region to draw, or when none is to be
made. -/
theorem baseline_total (step : ℤ) (count : ℕ) (generator : DemandGenerator)
    (inhabited : count = 0 ∨ regions config ≠ []) :
    ∃ produced after, baseline config step count generator = .ok (produced, after) ∧
      after.rng.tape = generator.rng.tape := by
  induction count generalizing generator with
  | zero => exact ⟨[], generator, rfl, rfl⟩
  | succ count inductionHypothesis =>
    have table : regions config ≠ [] := inhabited.resolve_left (by simp)
    obtain ⟨region, rng, drawn, kept⟩ := (drawRegion_total
      (generator.rng.weightedChoice (classWeights config)
        (classWeights_ne_nil config)).2 _).mpr table
    obtain ⟨request, middle, published, same⟩ := (publish_total config step _ region rng.random.1
      { generator with rng := rng.random.2 }).mpr (weightedChoice_listed config generator.rng)
    obtain ⟨rest, after, later, tape⟩ := inductionHypothesis middle (Or.inr table)
    refine ⟨request :: rest, after, ?_, tape.trans (same.trans kept)⟩
    exact (baseline_succ config step count generator after _).mpr
      ⟨region, rng, request, middle, rest, drawn, published, later, rfl⟩

/-- Some baseline arrival needs a region to draw. -/
theorem baseline_needs (step : ℤ) (count : ℕ) (generator after : DemandGenerator)
    (produced : List ServiceRequest) (positive : 0 < count)
    (generated : baseline config step count generator = .ok (produced, after)) :
    regions config ≠ [] := by
  obtain ⟨count, rfl⟩ : ∃ rest, count = rest + 1 := ⟨count - 1, by omega⟩
  obtain ⟨region, rng, _, _, _, drawn, _⟩ :=
    (baseline_succ config step count generator after produced).mp generated
  intro vacant
  simp [drawRegion, vacant] at drawn

/-- A surge of a class of the mix is generated, whatever its region: a surge does not look at
the rule table. -/
theorem surge_total (step : ℤ) (event : SurgeEvent) (count : ℕ) (generator : DemandGenerator)
    (listed : event.trafficClass ∈ config.classMix.keys) :
    ∃ produced after, surge config step event count generator = .ok (produced, after) ∧
      after.rng.tape = generator.rng.tape := by
  induction count generalizing generator with
  | zero => exact ⟨[], generator, rfl, rfl⟩
  | succ count inductionHypothesis =>
    obtain ⟨request, middle, published, same⟩ := (publish_total config step event.trafficClass
      event.region (clampUnit (event.urgencyMean +
        (generator.rng.random.1 - 1 / 2) * config.arrival.surgeUrgencyJitter))
      { generator with rng := generator.rng.random.2 }).mpr listed
    obtain ⟨rest, after, later, tape⟩ := inductionHypothesis middle
    refine ⟨request :: rest, after, ?_, tape.trans same⟩
    exact (surge_succ config step event count generator after _).mpr
      ⟨request, middle, rest, published, later, rfl⟩

/-- A surge that is generated is of a class of the mix. -/
theorem surge_needs (step : ℤ) (event : SurgeEvent) (generator after : DemandGenerator)
    (produced : List ServiceRequest)
    (generated : surge config step event event.count.toNat generator = .ok (produced, after)) :
    event.trafficClass ∈ config.classMix.keys := by
  have positive := event.countPositive
  obtain ⟨count, counted⟩ : ∃ rest, event.count.toNat = rest + 1 :=
    ⟨event.count.toNat - 1, by omega⟩
  rw [counted] at generated
  obtain ⟨request, middle, _, published, _⟩ :=
    (surge_succ config step event count generator after produced).mp generated
  rw [← profile_isSome]
  obtain ⟨_, found, _⟩ := publish_eq_ok published
  simp [found]

/-- The surges of a step are generated when their classes are in the mix. -/
theorem surges_total (step : ℤ) (events : List SurgeEvent) (generator : DemandGenerator)
    (listed : ∀ event ∈ events, event.trafficClass ∈ config.classMix.keys) :
    ∃ produced after, surges config step events generator = .ok (produced, after) ∧
      after.rng.tape = generator.rng.tape := by
  induction events generalizing generator with
  | nil => exact ⟨[], generator, rfl, rfl⟩
  | cons event rest inductionHypothesis =>
    have others (generator : DemandGenerator) := inductionHypothesis generator
      (fun other member => listed other (List.mem_cons_of_mem _ member))
    by_cases scheduled : event.atStep = step
    · obtain ⟨first, middle, made, same⟩ :=
        surge_total config step event event.count.toNat generator
          (listed event List.mem_cons_self)
      obtain ⟨second, after, later, tape⟩ := others middle
      refine ⟨first ++ second, after, ?_, tape.trans same⟩
      exact (surges_scheduled config step event rest generator after _ scheduled).mpr
        ⟨first, middle, second, made, later, rfl⟩
    · rw [surges_elsewhere config step event rest generator scheduled]
      exact others generator

/-- When the surges of a step are generated, the classes scheduled for it are in the mix. -/
theorem surges_needs (step : ℤ) (events : List SurgeEvent) (generator after : DemandGenerator)
    (produced : List ServiceRequest)
    (generated : surges config step events generator = .ok (produced, after)) :
    ∀ event ∈ events, event.atStep = step → event.trafficClass ∈ config.classMix.keys := by
  induction events generalizing generator after produced with
  | nil => simp
  | cons event rest inductionHypothesis =>
    intro tested member scheduled
    by_cases now : event.atStep = step
    · obtain ⟨first, middle, second, made, following, _⟩ :=
        (surges_scheduled config step event rest generator after produced now).mp generated
      rcases List.mem_cons.mp member with rfl | later
      · exact surge_needs config step _ generator middle first made
      · exact inductionHypothesis middle after second following tested later scheduled
    · rw [surges_elsewhere config step event rest generator now] at generated
      rcases List.mem_cons.mp member with rfl | later
      · exact absurd scheduled now
      · exact inductionHypothesis generator after produced generated tested later scheduled

/-- A step is generated when the Poisson draw finishes, there is a region to draw or no
baseline, and the surges name classes of the mix. The first of these is about the stream and the
others about the configuration. -/
theorem generateStep_total (math : Rng.MathExp) (fuel : ℕ) (step : ℤ) (generator : DemandGenerator)
    (finishes : ∃ drawn, generator.rng.poisson math fuel config.arrival.baselineRate = some drawn)
    (inhabited : config.arrival.baselineRate ≤ 0 ∨ config.regionRules ≠ [])
    (listed : ∀ event ∈ config.surges, event.trafficClass ∈ config.classMix.keys) :
    ∃ produced after, generateStep config math fuel step generator = .ok (produced, after) ∧
      after.rng.tape = generator.rng.tape := by
  obtain ⟨⟨count, rng⟩, drawn⟩ := finishes
  obtain ⟨kept, idle, _⟩ := Rng.poisson_spec math fuel generator.rng rng _ count drawn
  have table : count = 0 ∨ regions config ≠ [] :=
    inhabited.imp idle (fun rules => by simpa [regions] using rules)
  obtain ⟨arrived, middle, made, same⟩ := baseline_total config step count
    { generator with rng := rng } table
  obtain ⟨surged, after, later, tape⟩ := surges_total config step config.surges middle listed
  refine ⟨arrived ++ surged, after, ?_, tape.trans (same.trans kept)⟩
  exact (generateStep_eq_ok config math fuel step generator after _).mpr
    ⟨count, rng, arrived, middle, surged, drawn, made, later, rfl⟩

/-- A generated step had the region and the classes it needed. The region is only known to be
needed when a first draw shows that the count is positive. -/
theorem generateStep_needs (math : Rng.MathExp) (fuel : ℕ) (step : ℤ)
    (generator after : DemandGenerator) (produced : List ServiceRequest)
    (generated : generateStep config math fuel step generator = .ok (produced, after)) :
    (0 < config.arrival.baselineRate →
      math.exp (-config.arrival.baselineRate) < generator.rng.random.1 →
        config.regionRules ≠ []) ∧
      ∀ event ∈ config.surges, event.atStep = step →
        event.trafficClass ∈ config.classMix.keys := by
  obtain ⟨count, rng, arrived, middle, surged, drawn, made, later, _⟩ :=
    (generateStep_eq_ok config math fuel step generator after produced).mp generated
  constructor
  · intro positive above
    have counted := (Rng.poisson_spec math fuel generator.rng rng _ count drawn).2.2 positive above
    have table := baseline_needs config step count _ middle arrived counted made
    simpa [regions] using table
  · exact surges_needs config step _ middle after surged later

end DemandGenerator

namespace SyntheticRequestSource

variable (config : SimulationConfig) (math : Rng.MathExp)

/-- Catching up generates each of its steps, so a failure in any of them would have shown. -/
theorem catchUp_needs (fuel count : ℕ) (source after : SyntheticRequestSource)
    (generated : List (ℤ × List ServiceRequest))
    (completed : catchUp config math fuel count source = .ok (generated, after)) (ahead : ℕ)
    (within : ahead < count) : ∃ generator outcome, DemandGenerator.generateStep config math fuel
      (source.generatedThrough + 1 + ahead) generator = .ok outcome ∧
        (ahead = 0 → generator = source.generator) := by
  induction count generalizing source generated ahead with
  | zero => omega
  | succ count inductionHypothesis =>
    obtain ⟨produced, generator, later, made, rest, _⟩ :=
      (catchUp_succ config math fuel count source after generated).mp completed
    cases ahead with
    | zero => exact ⟨source.generator, _, by simpa using made, fun _ => rfl⟩
    | succ ahead =>
      obtain ⟨next, outcome, found, _⟩ := inductionHypothesis _ later rest ahead (by omega)
      refine ⟨next, outcome, ?_, by simp⟩
      rw [← found]
      congr 1
      push_cast
      ring

/-- Catching up succeeds when every generation does, on the tape the source was left with. -/
theorem catchUp_total (fuel count : ℕ) (source : SyntheticRequestSource)
    (total : ∀ step generator, generator.rng.tape = source.generator.rng.tape →
      ∃ produced after, DemandGenerator.generateStep config math fuel step generator =
        .ok (produced, after) ∧ after.rng.tape = generator.rng.tape) :
    ∃ generated after, catchUp config math fuel count source = .ok (generated, after) ∧
      after.generator.rng.tape = source.generator.rng.tape := by
  induction count generalizing source with
  | zero => exact ⟨[], source, rfl, rfl⟩
  | succ count inductionHypothesis =>
    obtain ⟨produced, generator, made, same⟩ :=
      total (source.generatedThrough + 1) source.generator rfl
    obtain ⟨later, after, rest, tape⟩ := inductionHypothesis
      ⟨generator, source.generatedThrough + 1⟩ (fun step other kept => total step other
        (kept.trans same))
    refine ⟨(source.generatedThrough + 1, produced) :: later, after, ?_, tape.trans same⟩
    exact (catchUp_succ config math fuel count source after _).mpr
      ⟨produced, generator, later, made, rest, rfl⟩

/-- On every stream whose unit values stay below one by a margin, and under every sequence of
polls, ingestion completes without raising. The margin rules out the tapes on which the Poisson
loop has no end. -/
def NeverRaises : Prop :=
  ∀ (rng : Rng) (margin : ℚ), margin < 1 → (∀ index, (rng.tape index).unit ≤ margin) →
    ∀ (polls : ℕ → ℤ × ℤ) (count : ℕ), ∃ fuel,
      (pollRun config math fuel polls count (initial rng)).isSome

/-- Polls complete when every generation does: draining a bus cannot fail. -/
theorem pollRun_total (fuel : ℕ) (polls : ℕ → ℤ × ℤ) (count : ℕ) (rng : Rng)
    (total : ∀ step generator, generator.rng.tape = rng.tape → ∃ produced after,
      DemandGenerator.generateStep config math fuel step generator = .ok (produced, after) ∧
        after.rng.tape = generator.rng.tape) :
    (pollRun config math fuel polls count (initial rng)).isSome := by
  have returns : ∀ (index : ℕ) (source : SyntheticRequestSource),
      source.generator.rng.tape = rng.tape → ∃ next polled,
        pollAt config math fuel polls index source = some (next, polled) ∧
          next.generator.rng.tape = rng.tape := by
    intro index source kept
    obtain ⟨generated, after, caught, same⟩ := catchUp_total config math fuel
      ((polls index).1 - source.generatedThrough).toNat source
      (fun step generator tape => total step generator (tape.trans kept))
    exact ⟨_, _, (pollAt_eq_some config math fuel polls index source _ _).mpr
      ((poll_eq_ok config math fuel source _ _ _ _).mpr ⟨generated, after, caught, rfl, rfl⟩),
        same.trans kept⟩
  obtain ⟨final, traces, completed, _⟩ := Runs.run_returns (pollAt config math fuel polls)
    (fun _ source => source.generator.rng.tape = rng.tape) (initial rng) rfl returns count
  exact Option.isSome_iff_exists.mpr ⟨_, completed⟩

/-- The first poll of a completed run generates every step up to the one it names. By naming a
late one, a poll can ask for any surge. -/
theorem pollRun_first (fuel : ℕ) (polls : ℕ → ℤ × ℤ) (rng : Rng)
    (completed : (pollRun config math fuel polls 1 (initial rng)).isSome) :
    ∃ generated after, catchUp config math fuel ((polls 0).1 + 1).toNat (initial rng) =
      .ok (generated, after) := by
  obtain ⟨⟨final, traces⟩, completed⟩ := Option.isSome_iff_exists.mp completed
  obtain ⟨middle, before, polled, started, stepped, _⟩ := (Runs.run_succ _ _ _ _ _).mp completed
  simp only [Runs.run, Option.some.injEq, Prod.mk.injEq] at started
  obtain ⟨rfl, rfl⟩ := started
  obtain ⟨generated, caught, extended, _⟩ := (poll_eq_ok config math fuel _ _ _ _ _).mp
    ((pollAt_eq_some config math fuel polls 0 _ _ _).mp stepped)
  have ahead : (polls 0).1 - (initial rng).generatedThrough = (polls 0).1 + 1 := by
    simp only [initial]
    omega
  exact ⟨generated, caught, ahead ▸ extended⟩

/-- An accepted configuration never raises on ingestion if and only if it has a region to
draw or no baseline arrivals, and every surge names a class of the mix. -/
theorem never_raises_iff : NeverRaises config math ↔
    (config.arrival.baselineRate ≤ 0 ∨ config.regionRules ≠ []) ∧
      ∀ event ∈ config.surges, event.trafficClass ∈ config.classMix.keys := by
  constructor
  · intro total
    constructor
    · -- A stream of one value above the target of the Poisson loop has an arrival in step 0.
      by_contra refused
      obtain ⟨positive, vacant⟩ := not_or.mp refused
      have rate := not_le.mp positive
      have below := math.exp_lt_one (-config.arrival.baselineRate) (by linarith)
      have above := math.exp_pos (-config.arrival.baselineRate)
      let rng : Rng := ⟨fun _ => ⟨(math.exp (-config.arrival.baselineRate) + 1) / 2, 0,
        by linarith, by linarith⟩, 0⟩
      obtain ⟨fuel, completed⟩ := total rng ((math.exp (-config.arrival.baselineRate) + 1) / 2)
        (by linarith) (fun _ => le_refl _) (fun _ => (0, 0)) 1
      obtain ⟨generated, after, caught⟩ := pollRun_first config math fuel _ rng completed
      obtain ⟨generator, outcome, made, same⟩ := catchUp_needs config math fuel _ _ after generated
        caught 0 (by simp)
      obtain rfl := same rfl
      refine vacant ((DemandGenerator.generateStep_needs config math fuel _ _ outcome.2 outcome.1
        made).1 rate ?_)
      change math.exp (-config.arrival.baselineRate) <
        (math.exp (-config.arrival.baselineRate) + 1) / 2
      linarith
    · intro event member
      have scheduled := event.atStepNonneg
      obtain ⟨fuel, completed⟩ := total evenRng (1 / 2) (by norm_num) (fun _ => le_refl _)
        (fun _ => (event.atStep, 0)) 1
      obtain ⟨generated, after, caught⟩ := pollRun_first config math fuel _ evenRng completed
      obtain ⟨generator, outcome, made, _⟩ := catchUp_needs config math fuel _ _ after generated
        caught event.atStep.toNat (by dsimp only; omega)
      refine (DemandGenerator.generateStep_needs config math fuel _ generator outcome.2 outcome.1
        made).2 event member ?_
      simp only [initial]
      omega
  · rintro ⟨inhabited, listed⟩ rng margin below bounded polls count
    obtain ⟨fuel, finishes⟩ := Rng.poisson_finishes math config.arrival.baselineRate margin below
    refine ⟨fuel, pollRun_total config math fuel polls count rng fun step generator kept => ?_⟩
    exact DemandGenerator.generateStep_total config math fuel step generator
      (finishes generator.rng (by rw [kept]; exact bounded)) inhabited listed

/-- A surge of the default class, which the mix of the small configuration does not have. -/
def strandedConfig : SimulationConfig :=
  { smallFields.surging [defaultSurge] with accepted := by decide +kernel }

/-- The first poll raises on the surge's class, with any fuel. -/
theorem stranded_raises : ¬NeverRaises strandedConfig Rng.coarseExp ∧
    ∀ fuel, poll strandedConfig Rng.coarseExp fuel (initial evenRng) 0 1 =
      .error (.missingClass .emergencySos) := by
  have raises (fuel : ℕ) : poll strandedConfig Rng.coarseExp fuel (initial evenRng) 0 1 =
      .error (.missingClass .emergencySos) := rfl
  refine ⟨fun total => ?_, raises⟩
  obtain ⟨fuel, completed⟩ := total evenRng (1 / 2) (by norm_num) (fun _ => le_refl _)
    (fun _ => (0, 1)) 1
  have stopped : pollRun strandedConfig Rng.coarseExp fuel (fun _ => (0, 1)) 1 (initial evenRng) =
      none := rfl
  simp [stopped] at completed

end SyntheticRequestSource

end Satsim
