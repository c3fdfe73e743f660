import Satsim.Network.Constellation
import Satsim.Network.Regulatory

/-!
# One spectrum law, read three ways

The options of a request, the verdict on a single triple and the coverage of a fleet are
computed separately from the same rule table. For an accepted table, in which no region
has two rules, they describe one relation.

The relation in the middle is stated of the table itself, so that none of the three
computations is taken as the definition of the other two.
-/

namespace Satsim

open Library (Dict)

namespace TableRegulatoryPolicy

variable (regionRules : List RegionRule)

/-- The relation that all three describe. The rule is the one found for the region, which in an
accepted table is the only one. -/
def Licensed (region : Region) (fleet : FleetId) (band : Band) : Prop :=
  ∃ rule, (rules regionRules).get? region = some rule ∧ fleet ∈ rule.allowedFleets ∧
    band ∈ rule.allowedBands

/-- The verdict allows exactly the licensed triples. -/
theorem evaluate_allowed_iff (region : Region) (fleet : FleetId) (band : Band) :
    (evaluate regionRules region fleet band).allowed = true ↔
      Licensed regionRules region fleet band := by
  unfold evaluate Licensed
  cases (rules regionRules).get? region with
  | none => simp
  | some rule =>
    by_cases licensed : fleet ∈ rule.allowedFleets
    · by_cases permitted : band ∈ rule.allowedBands <;> simp [licensed, permitted]
    · simp [licensed]

/-- An option of a rule is one of its fleets with one of its bands, under its caps. -/
theorem mem_ruleOptions (rule : RegionRule) (option : CandidateOption) :
    option ∈ ruleOptions rule ↔ option.fleet ∈ rule.allowedFleets ∧
      option.band ∈ rule.allowedBands ∧ option.constraints = constraints rule := by
  rw [ruleOptions, List.mem_flatMap]
  constructor
  · rintro ⟨fleet, licensed, listed⟩
    obtain ⟨band, permitted, rfl⟩ := List.mem_map.mp listed
    exact ⟨licensed, permitted, rfl⟩
  · rintro ⟨licensed, permitted, caps⟩
    refine ⟨option.fleet, licensed, List.mem_map.mpr ⟨option.band, permitted, ?_⟩⟩
    rw [← caps]

/-- A preference reorders the options and changes none of them, for sorting is a permutation. -/
theorem mem_allowedOptions (request : ServiceRequest) (option : CandidateOption) :
    option ∈ allowedOptions regionRules request ↔
      ∃ rule, (rules regionRules).get? request.region = some rule ∧ option ∈ ruleOptions rule := by
  unfold allowedOptions
  cases (rules regionRules).get? request.region with
  | none => simp
  | some rule => cases request.preferredBand <;> simp [List.mem_insertionSort]

/-- Inserting an option that is not preferred passes over the preferred ones. -/
theorem insert_unpreferred (preferred : Band) (option : CandidateOption)
    (other : option.band ≠ preferred) (first rest : List CandidateOption)
    (chosen : ∀ item ∈ first, item.band = preferred)
    (unchosen : ∀ item ∈ rest, item.band ≠ preferred) :
    (first ++ rest).orderedInsert (preferredFirst preferred) option = first ++ option :: rest := by
  induction first with
  | nil =>
    cases rest with
    | nil => rfl
    | cons item rest =>
      have before : preferredFirst preferred option item :=
        fun same => absurd same (unchosen item List.mem_cons_self)
      rw [List.nil_append, List.orderedInsert_cons_of_le _ _ before, List.nil_append]
  | cons item first inductionHypothesis =>
    have after : ¬ preferredFirst preferred option item :=
      fun before => other (before (chosen item List.mem_cons_self))
    rw [List.cons_append, List.orderedInsert, if_neg after,
      inductionHypothesis (fun listed member => chosen listed (List.mem_cons_of_mem _ member)),
      List.cons_append]

/-- The stable sort puts the preferred options first and keeps both groups in order. Insertion
from the right is what makes it stable. -/
theorem sort_preferred (preferred : Band) (options : List CandidateOption) :
    options.insertionSort (preferredFirst preferred) =
      options.filter (fun option => decide (option.band = preferred)) ++
        options.filter (fun option => !decide (option.band = preferred)) := by
  induction options with
  | nil => rfl
  | cons option rest inductionHypothesis =>
    rw [List.insertionSort_cons, inductionHypothesis]
    by_cases same : option.band = preferred
    · have front : ∀ sorted : List CandidateOption,
          sorted.orderedInsert (preferredFirst preferred) option = option :: sorted := by
        intro sorted
        cases sorted with
        | nil => rfl
        | cons item sorted => exact List.orderedInsert_cons_of_le _ _ (fun _ => same)
      rw [front]
      simp [same]
    · rw [insert_unpreferred preferred option same]
      · simp [same]
      · intro item member
        simpa using (List.mem_filter.mp member).2
      · intro item member
        simpa using (List.mem_filter.mp member).2

/-- In an accepted table every rule is the one found for its region. With a repeated region only
the last would be. -/
theorem rules_get? (distinct : (regionRules.map RegionRule.region).Nodup) (rule : RegionRule)
    (member : rule ∈ regionRules) : (rules regionRules).get? rule.region = some rule := by
  apply Dict.ofPairs_of_mem
  · simpa [Function.comp_def] using distinct
  · exact List.mem_map.mpr ⟨rule, member, rfl⟩

end TableRegulatoryPolicy

/-- A fleet covers only what it is licensed for. -/
theorem coverage_licensed (config : SimulationConfig) (fleet : FleetId) (pair : Region × Band)
    (member : pair ∈ coverageForFleet config fleet) :
    TableRegulatoryPolicy.Licensed config.regionRules pair.1 fleet pair.2 := by
  obtain ⟨rule, inTable, listed⟩ := List.mem_flatMap.mp member
  by_cases licensed : fleet ∈ rule.allowedFleets
  · rw [if_pos licensed] at listed
    obtain ⟨band, permitted, rfl⟩ := List.mem_map.mp listed
    exact ⟨rule, TableRegulatoryPolicy.rules_get? config.regionRules config.regionRules_distinct
      rule inTable, licensed, permitted⟩
  · simp [licensed] at listed

/-- Three views of the spectrum law agree. For every accepted configuration, the pairs among
the options of a request are those the policy allows in its region, with the same caps; a
preferred band brings its options to the front and keeps the order otherwise; and every
beam that a client of the configuration ever shows is allowed where it shines. -/
theorem spectrum_views_agree (config : SimulationConfig) :
    (∀ (request : ServiceRequest) (fleet : FleetId) (band : Band),
      (∃ option ∈ TableRegulatoryPolicy.allowedOptions config.regionRules request,
          option.fleet = fleet ∧ option.band = band) ↔
        (TableRegulatoryPolicy.evaluate config.regionRules request.region fleet band).allowed =
          true) ∧
      (∀ (request : ServiceRequest),
        ∀ option ∈ TableRegulatoryPolicy.allowedOptions config.regionRules request,
          (TableRegulatoryPolicy.evaluate config.regionRules request.region option.fleet
            option.band).constraints = some option.constraints) ∧
      (∀ (request : ServiceRequest) (preferred : Band),
        request.preferredBand = some preferred →
        let unordered := TableRegulatoryPolicy.allowedOptions config.regionRules
          { request with preferredBand := none }
        TableRegulatoryPolicy.allowedOptions config.regionRules request =
          unordered.filter (fun option => decide (option.band = preferred)) ++
            unordered.filter (fun option => !decide (option.band = preferred))) ∧
      ∀ client ∈ buildFakeConstellations config, ∀ step snapshot,
        client.visibleResources step = some snapshot → ∀ beam ∈ snapshot.beams,
          (TableRegulatoryPolicy.evaluate config.regionRules beam.region beam.fleet
            beam.band).allowed = true := by
  refine ⟨?_, ?_, ?_, ?_⟩
  · intro request fleet band
    rw [TableRegulatoryPolicy.evaluate_allowed_iff]
    constructor
    · rintro ⟨option, member, rfl, rfl⟩
      obtain ⟨rule, found, listed⟩ :=
        (TableRegulatoryPolicy.mem_allowedOptions _ request option).mp member
      obtain ⟨licensed, permitted, _⟩ :=
        (TableRegulatoryPolicy.mem_ruleOptions rule option).mp listed
      exact ⟨rule, found, licensed, permitted⟩
    · rintro ⟨rule, found, licensed, permitted⟩
      refine ⟨⟨fleet, band, TableRegulatoryPolicy.constraints rule⟩, ?_, rfl, rfl⟩
      apply (TableRegulatoryPolicy.mem_allowedOptions _ request _).mpr
      exact ⟨rule, found, (TableRegulatoryPolicy.mem_ruleOptions rule _).mpr
        ⟨licensed, permitted, rfl⟩⟩
  · intro request option member
    obtain ⟨rule, found, listed⟩ :=
      (TableRegulatoryPolicy.mem_allowedOptions _ request option).mp member
    obtain ⟨licensed, permitted, caps⟩ :=
      (TableRegulatoryPolicy.mem_ruleOptions rule option).mp listed
    simp [TableRegulatoryPolicy.evaluate, found, licensed, permitted, caps]
  · intro request preferred preference unordered
    simp only [unordered, TableRegulatoryPolicy.allowedOptions, preference]
    cases (TableRegulatoryPolicy.rules config.regionRules).get? request.region with
    | none => rfl
    | some rule => exact TableRegulatoryPolicy.sort_preferred preferred _
  · intro client member step snapshot seen beam shown
    obtain ⟨fleetConfig, _, rfl⟩ := List.mem_map.mp member
    obtain ⟨nonempty, i, j, rfl⟩ :=
      FakeConstellation.visible_beam _ step snapshot seen beam shown
    rw [TableRegulatoryPolicy.evaluate_allowed_iff]
    exact coverage_licensed config fleetConfig.fleet _ (List.get_mem _ _)

end Satsim
