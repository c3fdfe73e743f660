import Satsim.Domain.Planning

/-!
# Validated simulation configuration

Each model carries the constraints its fields are declared with, so a value that
validation would refuse cannot be built. The validators that compare fields are
executable checks with the texts they raise, and a model holds the evidence that
its own check passed. A statement about every `SimulationConfig` is therefore a
statement about every configuration that passes its validators.

Nothing here is assumed about combinations the validators do not look at: repeated
fleets, an empty rule table, or a surge of a class outside the mix are all accepted.

The registered scenarios stand at the end, each a configuration with its seed.

Refusals of single fields (a negative rate, a threshold of zero) are proofs carried by
the record and have no text of their own here. The refusals that compare fields have
their texts, since callers and tests see them.
-/

namespace Satsim

open Library (Dict)

/-- `ClassProfile._check_sizes`, the one validator of this model that compares two fields. -/
def checkSizes (minSizeBytes maxSizeBytes : ℤ) : Except String Unit :=
  if maxSizeBytes < minSizeBytes then .error "max_size_bytes must be >= min_size_bytes"
  else .ok ()

/-- Demand profile for a single traffic class: its share of arrivals, the sizes drawn, the
deadline slack, the retries and whether it may be degraded. -/
structure ClassProfile where
  weight : ℚ
  minSizeBytes : ℤ
  maxSizeBytes : ℤ
  deadlineSlackSteps : ℤ
  retryBudget : ℤ
  degradable : Bool := false
  weightNonneg : 0 ≤ weight := by norm_num
  minSizePositive : 0 < minSizeBytes := by norm_num
  maxSizePositive : 0 < maxSizeBytes := by norm_num
  slackNonneg : 0 ≤ deadlineSlackSteps := by norm_num
  budgetNonneg : 0 ≤ retryBudget := by norm_num
  sizesChecked : checkSizes minSizeBytes maxSizeBytes = .ok () := by decide
  deriving DecidableEq

/-- The range a size is drawn from is nonempty. Drawing a size therefore never raises. -/
theorem ClassProfile.sizes_ordered (profile : ClassProfile) :
    profile.minSizeBytes ≤ profile.maxSizeBytes := by
  by_contra inverted
  have refused := profile.sizesChecked
  simp [checkSizes, not_le.mp inverted] at refused

/-- `ArrivalConfig._check_link_range`. -/
def checkLinkRange (linkQualityMin linkQualityMax : ℚ) : Except String Unit :=
  if linkQualityMax < linkQualityMin then
    .error "link_quality_max must be >= link_quality_min"
  else .ok ()

/-- Baseline arrival process plus the batch cap of one step's ingest, with the ranges that link
quality and surge urgency are sampled from. -/
structure ArrivalConfig where
  baselineRate : ℚ
  maxBatchPerStep : ℤ
  linkQualityMin : ℚ := 1 / 10
  linkQualityMax : ℚ := 1
  surgeUrgencyJitter : ℚ := 1 / 5
  rateNonneg : 0 ≤ baselineRate := by norm_num
  batchPositive : 0 < maxBatchPerStep := by norm_num
  linkMinRange : 0 < linkQualityMin ∧ linkQualityMin ≤ 1 := by norm_num
  linkMaxRange : 0 < linkQualityMax ∧ linkQualityMax ≤ 1 := by norm_num
  jitterNonneg : 0 ≤ surgeUrgencyJitter := by norm_num
  linksChecked : checkLinkRange linkQualityMin linkQualityMax = .ok () := by decide +kernel
  deriving DecidableEq

/-- A scheduled burst injected on top of baseline arrivals. Its class and region are not
compared with the class mix or the rule table. -/
structure SurgeEvent where
  atStep : ℤ
  count : ℤ
  trafficClass : TrafficClass := .emergencySos
  region : Region := .na
  urgencyMean : ℚ := 9 / 10
  atStepNonneg : 0 ≤ atStep := by norm_num
  countPositive : 0 < count := by norm_num
  urgencyRange : 0 ≤ urgencyMean ∧ urgencyMean ≤ 1 := by norm_num
  deriving DecidableEq

/-- Capacity shape of one constellation fleet, when it comes online, and the step from which its
lookups fail, if any. -/
structure FleetConfig where
  fleet : FleetId
  numSatellites : ℤ
  beamsPerSatellite : ℤ
  capacityPerBeam : ℚ
  onlineAtStep : ℤ := 0
  failFromStep : Option ℤ := none
  satellitesNonneg : 0 ≤ numSatellites := by norm_num
  beamsNonneg : 0 ≤ beamsPerSatellite := by norm_num
  capacityNonneg : 0 ≤ capacityPerBeam := by norm_num
  onlineNonneg : 0 ≤ onlineAtStep := by norm_num
  failNonneg : ∀ step ∈ failFromStep, 0 ≤ step := by simp
  deriving DecidableEq

/-- Spectrum legality and caps for one region. Empty lists are accepted and license nothing. -/
structure RegionRule where
  region : Region
  allowedBands : List Band
  allowedFleets : List FleetId
  maxAirtimeUnits : Option ℚ := none
  maxPower : Option ℚ := none
  airtimeNonneg : ∀ cap ∈ maxAirtimeUnits, 0 ≤ cap := by simp
  powerNonneg : ∀ cap ∈ maxPower, 0 ≤ cap := by simp
  deriving DecidableEq

/-- Bounded-queue, congestion and resilience thresholds. The defaults of the breaker and of the
backoff stand here. -/
structure OverloadConfig where
  queueCapacity : ℤ
  historyCapacity : ℤ := 256
  collapseUtilization : ℚ := 3 / 2
  breakerFailureThreshold : ℤ := 3
  breakerCooldownSteps : ℤ := 10
  retryBackoffBaseSteps : ℤ := 1
  retryBackoffMaxSteps : ℤ := 16
  queuePositive : 0 < queueCapacity := by norm_num
  historyPositive : 0 < historyCapacity := by norm_num
  collapsePositive : 0 < collapseUtilization := by norm_num
  thresholdPositive : 0 < breakerFailureThreshold := by norm_num
  cooldownPositive : 0 < breakerCooldownSteps := by norm_num
  backoffBaseNonneg : 0 ≤ retryBackoffBaseSteps := by norm_num
  backoffMaxPositive : 0 < retryBackoffMaxSteps := by norm_num
  deriving DecidableEq

/-- Tunables for the request scorer: the weights of the composite score and the airtime cost
model. -/
structure ScoringConfig where
  priorityWeight : ℚ := 3 / 5
  urgencyWeight : ℚ := 1 / 4
  waitingWeight : ℚ := 3 / 20
  bytesPerUnit : ℚ := 4096
  minLinkQuality : ℚ := 1 / 20
  priorityNonneg : 0 ≤ priorityWeight := by norm_num
  urgencyNonneg : 0 ≤ urgencyWeight := by norm_num
  waitingNonneg : 0 ≤ waitingWeight := by norm_num
  bytesPositive : 0 < bytesPerUnit := by norm_num
  minLinkRange : 0 < minLinkQuality ∧ minLinkQuality ≤ 1 := by norm_num
  deriving DecidableEq

/-- Tunables shared by the schedulers. The cap is read by one of them only. -/
structure SchedulerConfig where
  priorityFairMaxUnitsPerRequest : ℚ := 6
  degradeMinFraction : ℚ := 1 / 4
  maxUnitsPositive : 0 < priorityFairMaxUnitsPerRequest := by norm_num
  degradeRange : 0 < degradeMinFraction ∧ degradeMinFraction ≤ 1 := by norm_num
  deriving DecidableEq

/-- One modulation-and-coding tier, usable above a link-quality threshold. -/
structure McsLevel where
  minLinkQuality : ℚ
  bitsPerSymbol : ℚ
  minLinkRange : 0 ≤ minLinkQuality ∧ minLinkQuality ≤ 1 := by norm_num
  bitsPositive : 0 < bitsPerSymbol := by norm_num
  deriving DecidableEq

/-- The default ladder, from BPSK to 256QAM. Thresholds and rates both rise, which the validator
does not ask of a ladder. -/
def defaultMcs : List McsLevel :=
  [{ minLinkQuality := 0, bitsPerSymbol := 1 }, { minLinkQuality := 1 / 5, bitsPerSymbol := 2 },
    { minLinkQuality := 2 / 5, bitsPerSymbol := 4 },
    { minLinkQuality := 3 / 5, bitsPerSymbol := 6 },
    { minLinkQuality := 4 / 5, bitsPerSymbol := 8 }]

/-- `MacConfig._check_mcs`. It asks for a level; it does not ask the rates to rise with the
thresholds. -/
def checkMcs (mcsTable : List McsLevel) : Except String Unit :=
  if mcsTable.isEmpty then .error "mcs_table must have at least one MCS level" else .ok ()

/-- The grid of the block schedulers: a beam's capacity becomes slots times subchannels. The
capture capacity is how many transmissions one block survives. -/
structure MacConfig where
  slotsPerStep : ℤ := 10
  subchannels : ℤ := 4
  symbolsPerRb : ℤ := 2048
  maxRbsPerRequest : Option ℤ := none
  degradeMinFraction : ℚ := 1 / 4
  captureCapacity : ℤ := 1
  mcsTable : List McsLevel := defaultMcs
  slotsPositive : 0 < slotsPerStep := by norm_num
  subchannelsPositive : 0 < subchannels := by norm_num
  symbolsPositive : 0 < symbolsPerRb := by norm_num
  maxRbsPositive : ∀ cap ∈ maxRbsPerRequest, 1 ≤ cap := by simp
  degradeRange : 0 < degradeMinFraction ∧ degradeMinFraction ≤ 1 := by norm_num
  capturePositive : 1 ≤ captureCapacity := by norm_num
  mcsChecked : checkMcs mcsTable = .ok () := by rfl
  deriving DecidableEq

namespace MacConfig

/-- The blocks of one beam: slots times subchannels. -/
def resourceBlocksPerBeam (config : MacConfig) : ℤ := config.slotsPerStep * config.subchannels

/-- Every beam has a block, so the worth of a block is a proper quotient. -/
theorem resourceBlocksPerBeam_pos (config : MacConfig) : 0 < config.resourceBlocksPerBeam :=
  mul_pos config.slotsPositive config.subchannelsPositive

/-- Every ladder has a level, so a level can always be selected. -/
theorem mcsTable_ne_nil (config : MacConfig) : config.mcsTable ≠ [] := by
  intro vacant
  have refused := config.mcsChecked
  simp [checkMcs, vacant] at refused

end MacConfig

/-- Cadence and backend of the Tier-3 optimizer. The utilization clamp may be infinite. The
weights shape the solver's objective, and the adaptive fields the learned curve. -/
structure OptimizerConfig where
  backend : OptimizerBackend := .heuristic
  cadenceSteps : ℤ := 10
  utilizationClamp : WithTop ℚ := ((10 : ℚ) : WithTop ℚ)
  fairnessWeightMin : ℚ := 1 / 2
  fairnessWeightMax : ℚ := 3 / 2
  solverTimeLimitS : ℚ := 1 / 2
  servedWeight : ℚ := 1
  fairnessBonusWeight : ℚ := 3 / 10
  assignmentWeight : ℚ := 1 / 5
  switchingPenaltyWeight : ℚ := 1 / 2
  congestionPenaltyWeight : ℚ := 1 / 10
  softUtilization : ℚ := 9 / 10
  adaptiveBuckets : ℤ := 8
  adaptiveLearningRate : ℚ := 3 / 10
  adaptiveSignalSmoothing : ℚ := 1 / 2
  adaptiveFloorMin : ℚ := 1 / 20
  adaptiveCollapsePenalty : ℚ := 1
  cadencePositive : 0 < cadenceSteps := by norm_num
  clampPositive : 0 < utilizationClamp := by exact_mod_cast (by norm_num : (0 : ℚ) < 10)
  fairnessMinPositive : 0 < fairnessWeightMin := by norm_num
  fairnessMaxPositive : 0 < fairnessWeightMax := by norm_num
  timeLimitPositive : 0 < solverTimeLimitS := by norm_num
  servedNonneg : 0 ≤ servedWeight := by norm_num
  bonusNonneg : 0 ≤ fairnessBonusWeight := by norm_num
  assignmentNonneg : 0 ≤ assignmentWeight := by norm_num
  switchingNonneg : 0 ≤ switchingPenaltyWeight := by norm_num
  congestionNonneg : 0 ≤ congestionPenaltyWeight := by norm_num
  softRange : 0 < softUtilization ∧ softUtilization ≤ 1 := by norm_num
  bucketsPositive : 0 < adaptiveBuckets := by norm_num
  learningRange : 0 < adaptiveLearningRate ∧ adaptiveLearningRate ≤ 1 := by norm_num
  smoothingRange : 0 < adaptiveSignalSmoothing ∧ adaptiveSignalSmoothing ≤ 1 := by norm_num
  floorRange : 0 ≤ adaptiveFloorMin ∧ adaptiveFloorMin ≤ 1 := by norm_num
  penaltyNonneg : 0 ≤ adaptiveCollapsePenalty := by norm_num
  deriving DecidableEq

/-- Reservation and fairness caps of the emergency lane, and the weights of its ranking. -/
structure EmergencyConfig where
  reservedFraction : ℚ := 1 / 5
  maxUnitsPerRequest : ℚ := 4
  geoFairnessWeight : ℚ := 1
  maxRetries : ℤ := 8
  severityWeight : ℚ := 1 / 2
  waitingWeight : ℚ := 3 / 10
  retryWeight : ℚ := 1 / 5
  reservedRange : 0 ≤ reservedFraction ∧ reservedFraction ≤ 1 := by norm_num
  maxUnitsPositive : 0 < maxUnitsPerRequest := by norm_num
  geoNonneg : 0 ≤ geoFairnessWeight := by norm_num
  maxRetriesNonneg : 0 ≤ maxRetries := by norm_num
  severityNonneg : 0 ≤ severityWeight := by norm_num
  waitingNonneg : 0 ≤ waitingWeight := by norm_num
  retryNonneg : 0 ≤ retryWeight := by norm_num
  deriving DecidableEq

/-- The roadmap mix: sizes in bytes, deadlines in steps. -/
def defaultClassMix : Dict TrafficClass ClassProfile :=
  Dict.ofPairs
    [(.emergencySos, { weight := 1 / 20, minSizeBytes := 64, maxSizeBytes := 256,
                       deadlineSlackSteps := 20, retryBudget := 8, degradable := false }),
     (.roadside, { weight := 1 / 20, minSizeBytes := 128, maxSizeBytes := 512,
                   deadlineSlackSteps := 8, retryBudget := 4, degradable := false }),
     (.messaging, { weight := 3 / 10, minSizeBytes := 256, maxSizeBytes := 4096,
                    deadlineSlackSteps := 6, retryBudget := 3, degradable := false }),
     (.findMy, { weight := 3 / 20, minSizeBytes := 32, maxSizeBytes := 128,
                 deadlineSlackSteps := 30, retryBudget := 5, degradable := true }),
     (.mapsTiles, { weight := 1 / 5, minSizeBytes := 8192, maxSizeBytes := 65536,
                    deadlineSlackSteps := 12, retryBudget := 2, degradable := true }),
     (.photo, { weight := 3 / 20, minSizeBytes := 65536, maxSizeBytes := 1048576,
                deadlineSlackSteps := 40, retryBudget := 2, degradable := true }),
     (.thirdPartyApi, { weight := 1 / 10, minSizeBytes := 128, maxSizeBytes := 16384,
                        deadlineSlackSteps := 10, retryBudget := 1, degradable := true })]

/-- The second fleet comes online in the middle of a run. -/
def defaultFleets : List FleetConfig :=
  [{ fleet := .legacyLeo, numSatellites := 4, beamsPerSatellite := 3, capacityPerBeam := 10,
     onlineAtStep := 0 },
   { fleet := .nextGen, numSatellites := 8, beamsPerSatellite := 6, capacityPerBeam := 16,
     onlineAtStep := 50 }]

/-- The default table: every region has some licensed fleet and band, and one region has an
airtime cap. -/
def defaultRegionRules : List RegionRule :=
  [{ region := .na, allowedBands := [.l, .s, .ku], allowedFleets := [.legacyLeo, .nextGen] },
   { region := .eu, allowedBands := [.l, .s], allowedFleets := [.legacyLeo, .nextGen] },
   { region := .apac, allowedBands := [.s], allowedFleets := [.legacyLeo],
     maxAirtimeUnits := some 8 },
   { region := .latam, allowedBands := [.l, .ku], allowedFleets := [.legacyLeo, .nextGen] },
   { region := .ocean, allowedBands := [.l], allowedFleets := [.nextGen] }]

/-- The fields of a configuration whose own models have been validated. What is still open is
how they fit together. -/
structure SimulationFields where
  durationSteps : ℤ := 200
  arrival : ArrivalConfig := { baselineRate := 20, maxBatchPerStep := 512 }
  classMix : Dict TrafficClass ClassProfile := defaultClassMix
  surges : List SurgeEvent := []
  fleets : List FleetConfig := defaultFleets
  regionRules : List RegionRule := defaultRegionRules
  overload : OverloadConfig := { queueCapacity := 4096 }
  optimizer : OptimizerConfig := {}
  emergency : EmergencyConfig := {}
  scoring : ScoringConfig := {}
  schedulerParams : SchedulerConfig := {}
  mac : MacConfig := {}
  scheduler : SchedulerKind := .priorityFair
  durationPositive : 0 < durationSteps := by norm_num

namespace SimulationFields

/-- The first surge scheduled at or past the end of the run is refused. -/
def checkSurges (durationSteps : ℤ) : List SurgeEvent → Except String Unit
  | [] => .ok ()
  | surge :: rest =>
      if durationSteps ≤ surge.atStep then
        .error ("surge at_step " ++ toString surge.atStep ++ " is beyond duration_steps")
      else checkSurges durationSteps rest

/-- `SimulationConfig._validate`, its checks in source order, so that the first failing check
names the error. It does not look for repeated fleets. -/
def validate (fields : SimulationFields) : Except String Unit :=
  if fields.classMix.entries.isEmpty then
    .error "class_mix must define at least one traffic class"
  else if (fields.classMix.values.map ClassProfile.weight).sum ≤ 0 then
    .error "class_mix weights must sum to a positive value"
  else if fields.fleets.isEmpty then
    .error "at least one fleet must be configured"
  else
    let ruleRegions := fields.regionRules.map RegionRule.region
    if ruleRegions.length ≠ ruleRegions.dedup.length then
      .error "duplicate region in region_rules"
    else checkSurges fields.durationSteps fields.surges

/-- The surges pass when each lies before the end of the run. -/
theorem checkSurges_ok (durationSteps : ℤ) (surges : List SurgeEvent) :
    checkSurges durationSteps surges = .ok () ↔ ∀ surge ∈ surges, surge.atStep < durationSteps := by
  induction surges with
  | nil => simp [checkSurges]
  | cons surge rest inductionHypothesis =>
    by_cases late : durationSteps ≤ surge.atStep
    · simp [checkSurges, late]
    · simp [checkSurges, late, inductionHypothesis, not_le.mp late]

/-- What the validators establish, and nothing else. Statements about accepted configurations
draw on these five facts alone. -/
theorem validate_ok (fields : SimulationFields) :
    fields.validate = .ok () ↔
      fields.classMix.entries ≠ [] ∧ 0 < (fields.classMix.values.map ClassProfile.weight).sum ∧
        fields.fleets ≠ [] ∧ (fields.regionRules.map RegionRule.region).Nodup ∧
          ∀ surge ∈ fields.surges, surge.atStep < fields.durationSteps := by
  have distinct (regions : List Region) :
      regions.length = regions.dedup.length ↔ regions.Nodup := by
    rw [← List.dedup_eq_self]
    exact ⟨fun same => (List.dedup_sublist regions).eq_of_length same.symm,
      fun same => by rw [same]⟩
  by_cases vacant : fields.classMix.entries = []
  · simp [validate, vacant]
  by_cases weightless : (fields.classMix.values.map ClassProfile.weight).sum ≤ 0
  · simp [validate, vacant, weightless, not_lt.mpr weightless]
  by_cases unserved : fields.fleets = []
  · simp [validate, vacant, weightless, unserved]
  by_cases repeated : (fields.regionRules.map RegionRule.region).Nodup
  · have counted := (distinct _).mpr repeated
    simp only [validate, List.isEmpty_iff, vacant, weightless, unserved, ↓reduceIte, counted,
      ne_eq, not_true_eq_false, checkSurges_ok, repeated, not_le.mp weightless, not_false_eq_true,
      true_and]
  · have counted : ¬ (fields.regionRules.map RegionRule.region).length =
        (fields.regionRules.map RegionRule.region).dedup.length :=
      fun same => repeated ((distinct _).mp same)
    simp only [validate, List.isEmpty_iff, vacant, weightless, unserved, ↓reduceIte, counted,
      ne_eq, not_false_eq_true, reduceCtorEq, repeated, false_and, and_false]

/-- The defaults pass the checks. -/
theorem defaults_accepted : ({} : SimulationFields).validate = .ok () := by decide +kernel

end SimulationFields

/-- A configuration that passed its validators. No proof about one has to consider a
configuration that construction refuses. -/
structure SimulationConfig extends SimulationFields where
  accepted : toSimulationFields.validate = .ok ()

namespace SimulationConfig

variable (config : SimulationConfig)

/-- The mix of an accepted configuration has a class. -/
theorem classMix_ne_nil : config.classMix.entries ≠ [] :=
  ((SimulationFields.validate_ok config.toSimulationFields).mp config.accepted).1

/-- An accepted configuration has at most one rule for a region, so looking a rule up is
unambiguous. -/
theorem regionRules_distinct : (config.regionRules.map RegionRule.region).Nodup :=
  ((SimulationFields.validate_ok config.toSimulationFields).mp config.accepted).2.2.2.1

/-- The profile of a class, when the mix has one. -/
def profile? (trafficClass : TrafficClass) : Option ClassProfile :=
  config.classMix.get? trafficClass

end SimulationConfig

/-- One fleet with one beam, one region and one class. -/
def smallFields : SimulationFields where
  classMix := Dict.ofPairs [(.photo,
    { weight := 1, minSizeBytes := 1024, maxSizeBytes := 4096, deadlineSlackSteps := 5,
      retryBudget := 2 })]
  fleets := [{ fleet := .legacyLeo, numSatellites := 1, beamsPerSatellite := 1,
               capacityPerBeam := 10 }]
  regionRules := [{ region := .na, allowedBands := [.ku], allowedFleets := [.legacyLeo] }]

/-- The small configuration passes the checks. -/
def smallConfig : SimulationConfig := { smallFields with accepted := by decide +kernel }

/-- The small configuration with the adaptive planner, re-planning every two steps. -/
def adaptiveFields : SimulationFields :=
  { smallFields with optimizer := { backend := .adaptive, cadenceSteps := 2 } }

/-- It passes the checks as well. -/
def adaptiveConfig : SimulationConfig := { adaptiveFields with accepted := by decide +kernel }

/-- Arrivals come from the given surges alone. -/
def SimulationFields.surging (fields : SimulationFields) (surges : List SurgeEvent) :
    SimulationFields :=
  { fields with arrival := { baselineRate := 0, maxBatchPerStep := 512 }, surges := surges }

/-- Two photos in the first step of a run. -/
def photoPair : SurgeEvent := { atStep := 0, count := 2, trafficClass := .photo }

/-- One photo in the third step of a run. -/
def latePhoto : SurgeEvent := { atStep := 2, count := 1, trafficClass := .photo }

/-- One request of the default class, for mixes that do not list that class. -/
def defaultSurge : SurgeEvent := { atStep := 0, count := 1 }

/-- One slot of two blocks. -/
def twoBlocks : MacConfig := { slotsPerStep := 1, subchannels := 2 }

/-- The small configuration with a batch of one request. -/
def narrowFields : SimulationFields :=
  { smallFields with
    arrival := { baselineRate := 0, maxBatchPerStep := 1 }
    surges := [photoPair, latePhoto] }

/-- The small configuration with a fleet that fails from its second step on. -/
def outageFields : SimulationFields :=
  { smallFields with
    fleets := [{ fleet := .legacyLeo, numSatellites := 1, beamsPerSatellite := 1,
                 capacityPerBeam := 10, failFromStep := some 1 }] }

/-- The small configuration whose one region is licensed to no fleet. -/
def deniedFields : SimulationFields :=
  { smallFields with
    regionRules := [{ region := .na, allowedBands := [.ku], allowedFleets := [] }] }

/-- The small configuration with surges in its first and third step and a fleet that fails from
the second on. -/
def faultFields : SimulationFields :=
  { smallFields with
    arrival := { baselineRate := 0, maxBatchPerStep := 512 }
    surges := [photoPair, latePhoto]
    fleets := [{ fleet := .legacyLeo, numSatellites := 1, beamsPerSatellite := 1,
                 capacityPerBeam := 10, failFromStep := some 1 }] }

/-! ### The scenario catalog -/

/-- A configuration and the seed its streams are derived from. The seed only selects the tapes,
and what is proved of runs is proved for every tape. -/
structure SeededConfig where
  seed : ℤ := 0
  config : SimulationConfig

/-- A registered scenario: its name and what it builds. -/
structure Scenario where
  name : String
  build : SeededConfig

namespace Scenario

/-- Thousands of urgent requests at once, on limited spectrum. -/
def emergencySurge : SeededConfig where
  seed := 1
  config :=
    { durationSteps := 60
      arrival := { baselineRate := 10, maxBatchPerStep := 20000 }
      surges := [{ atStep := 10, count := 3000, trafficClass := .emergencySos }]
      emergency := { reservedFraction := 1 / 4 }
      accepted := by decide +kernel }

/-- Poor links throughout, under the scheduler that caps one request. -/
def poorLinkVsGoodLink : SeededConfig where
  seed := 2
  config :=
    { durationSteps := 40
      arrival := { baselineRate := 50, maxBatchPerStep := 20000, linkQualityMax := 1 / 4 }
      scheduler := .priorityFair
      surges := [{ atStep := 5, count := 300, trafficClass := .emergencySos }]
      accepted := by decide +kernel }

/-- All classes compete at a moderate rate. -/
def mixedRoadmap : SeededConfig where
  seed := 3
  config :=
    { durationSteps := 60
      arrival := { baselineRate := 60, maxBatchPerStep := 20000 }
      accepted := by decide +kernel }

/-- The second fleet comes online in the middle of a long run at a high rate. -/
def capacityExpansion : SeededConfig where
  seed := 4
  config :=
    { durationSteps := 120
      arrival := { baselineRate := 150, maxBatchPerStep := 20000 }
      accepted := by decide +kernel }

/-- One region is licensed to no constellation. -/
def regulatoryDenial : SeededConfig where
  seed := 5
  config :=
    { durationSteps := 40
      arrival := { baselineRate := 40, maxBatchPerStep := 20000 }
      regionRules := defaultRegionRules.map fun rule =>
        if rule.region = .ocean then { rule with allowedFleets := [] } else rule
      accepted := by decide +kernel }

/-- The default fleets; the second is online from the start and fails in the middle of the
run. -/
def failingFleets : List FleetConfig :=
  defaultFleets.map fun fleet =>
    if fleet.fleet = .nextGen then
      { fleet with
        onlineAtStep := 0
        failFromStep := some 15
        onlineNonneg := le_refl 0
        failNonneg := by simp }
    else fleet

/-- The second fleet fails in the middle of the run, so its breaker trips. -/
def constellationFault : SeededConfig where
  seed := 6
  config :=
    { durationSteps := 40
      arrival := { baselineRate := 60, maxBatchPerStep := 20000 }
      fleets := failingFleets
      accepted := by decide +kernel }

end Scenario

/-- `SCENARIOS`, in registration order. -/
def scenarios : List Scenario :=
  [⟨"emergency_surge", Scenario.emergencySurge⟩,
    ⟨"poor_link_vs_good_link", Scenario.poorLinkVsGoodLink⟩,
    ⟨"mixed_roadmap", Scenario.mixedRoadmap⟩,
    ⟨"capacity_expansion", Scenario.capacityExpansion⟩,
    ⟨"regulatory_denial", Scenario.regulatoryDenial⟩,
    ⟨"constellation_fault", Scenario.constellationFault⟩]

/-- The names under which scenarios can be asked for. -/
def scenarioNames : List String := scenarios.map Scenario.name

end Satsim
