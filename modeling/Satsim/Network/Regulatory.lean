import Satsim.Config
import Satsim.Ports

/-!
# The table-driven regulatory policy

A region's rule lists fleets and bands; an option is legal when both are listed,
and carries the rule's caps. Options are enumerated fleet by fleet and stably
reordered so that a preferred band comes first.

The table is a list, as the configuration has it. That no region has two rules is known
of accepted configurations and is not built into the policy; on other tables the last
rule of a region decides.
-/

namespace Satsim

open Library (Dict)

namespace TableRegulatoryPolicy

/-- The rules by region; with distinct regions no rule shadows another. -/
def rules (regionRules : List RegionRule) : Dict Region RegionRule :=
  Dict.ofPairs (regionRules.map (fun rule => (rule.region, rule)))

/-- The caps of a rule, as they are attached to its options. -/
def constraints (rule : RegionRule) : RegulatoryConstraints :=
  { maxAirtimeUnits := rule.maxAirtimeUnits, maxPower := rule.maxPower }

/-- Every fleet of a rule with every band, fleet by fleet. -/
def ruleOptions (rule : RegionRule) : List CandidateOption :=
  rule.allowedFleets.flatMap fun fleet =>
    rule.allowedBands.map fun band => ⟨fleet, band, constraints rule⟩

/-- Whether an option sorts no later than another: preferred bands come first. Options of one
kind are equal in this order, so a stable sort keeps their sequence. -/
def preferredFirst (preferred : Band) (left right : CandidateOption) : Prop :=
  right.band = preferred → left.band = preferred

/-- The order is decidable, so the sort can be run. -/
instance (preferred : Band) : DecidableRel (preferredFirst preferred) :=
  fun left right => inferInstanceAs (Decidable (right.band = preferred → left.band = preferred))

/-- The options of a request in its region, with a preferred band in front. A region without a
rule has none. -/
def allowedOptions (regionRules : List RegionRule) (request : ServiceRequest) :
    List CandidateOption :=
  match (rules regionRules).get? request.region with
  | none => []
  | some rule =>
      match request.preferredBand with
      | none => ruleOptions rule
      | some preferred => (ruleOptions rule).insertionSort (preferredFirst preferred)

/-- The verdict on one triple. Denials are checked in order: region, fleet, band, and the reason
names the first that fails. -/
def evaluate (regionRules : List RegionRule) (region : Region) (fleet : FleetId) (band : Band) :
    RegulatoryDecision :=
  match (rules regionRules).get? region with
  | none => { allowed := false, reason := some ("no spectrum rule for region " ++ region.value) }
  | some rule =>
      if fleet ∉ rule.allowedFleets then
        { allowed := false,
          reason := some ("fleet " ++ fleet.value ++ " not licensed in " ++ region.value) }
      else if band ∉ rule.allowedBands then
        { allowed := false,
          reason := some ("band " ++ band.value ++ " not permitted in " ++ region.value) }
      else { allowed := true, constraints := some (constraints rule) }

/-- A rule that is found is in the table and is about the region asked for. -/
theorem rule_found (regionRules : List RegionRule) (region : Region) (rule : RegionRule)
    (found : (rules regionRules).get? region = some rule) :
    rule ∈ regionRules ∧ rule.region = region := by
  obtain ⟨stored, member, same⟩ := List.mem_map.mp (Dict.ofPairs_mem _ _ _ found)
  obtain ⟨named, rfl⟩ := Prod.mk.inj same
  exact ⟨member, named⟩

/-- An option of a request is licensed by its region's rule and has that rule's caps. The
preference does not enter. -/
theorem allowedOptions_lawful (regionRules : List RegionRule) (request : ServiceRequest)
    (option : CandidateOption) (member : option ∈ allowedOptions regionRules request) :
    ∃ rule ∈ regionRules, rule.region = request.region ∧ option.fleet ∈ rule.allowedFleets ∧
      option.band ∈ rule.allowedBands ∧ option.constraints = constraints rule := by
  unfold allowedOptions at member
  cases found : (rules regionRules).get? request.region with
  | none => simp [found] at member
  | some rule =>
    have listed : option ∈ ruleOptions rule := by
      cases preference : request.preferredBand with
      | none => simpa [found, preference] using member
      | some preferred => simpa [found, preference, List.mem_insertionSort] using member
    obtain ⟨inTable, named⟩ := rule_found regionRules request.region rule found
    obtain ⟨fleet, licensed, listed⟩ := List.mem_flatMap.mp listed
    obtain ⟨band, permitted, rfl⟩ := List.mem_map.mp listed
    exact ⟨rule, inTable, named, licensed, permitted, rfl⟩

/-- A triple that is allowed is licensed by the region's rule and has its caps. -/
theorem evaluate_lawful (regionRules : List RegionRule) (region : Region) (fleet : FleetId)
    (band : Band) (allowed : (evaluate regionRules region fleet band).allowed = true) :
    ∃ rule ∈ regionRules, rule.region = region ∧ fleet ∈ rule.allowedFleets ∧
      band ∈ rule.allowedBands ∧
      (evaluate regionRules region fleet band).constraints = some (constraints rule) := by
  unfold evaluate at allowed ⊢
  cases found : (rules regionRules).get? region with
  | none => simp [found] at allowed
  | some rule =>
    obtain ⟨inTable, named⟩ := rule_found regionRules region rule found
    by_cases licensed : fleet ∈ rule.allowedFleets
    · by_cases permitted : band ∈ rule.allowedBands
      · exact ⟨rule, inTable, named, licensed, permitted, by simp [licensed, permitted]⟩
      · simp [found, licensed, permitted] at allowed
    · simp [found, licensed] at allowed

end TableRegulatoryPolicy

/-- The policy built from a configuration's rule table. -/
def tableRegulatoryPolicy (regionRules : List RegionRule) : RegulatoryPolicy where
  allowedOptions := TableRegulatoryPolicy.allowedOptions regionRules
  evaluate := TableRegulatoryPolicy.evaluate regionRules

end Satsim
