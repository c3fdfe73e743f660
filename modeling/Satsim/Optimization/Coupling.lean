import Satsim.Optimization.Solver

/-!
# What a solved plan promises

Of the assignments that satisfy the program, whichever the solver returns: each region with
beams has one fleet, a fleet with beams there; no fleet has many more regions than its part;
and the budgets of a region are positive, within the demand, and within what its fleet
carries there.

The statements are about assignments that satisfy the program, not about optimal ones.
So they hold of a plan read off a feasible status as well, when the time limit cut the
search short.
-/

namespace Satsim

open Library (Dict)
open Library.Linear (Expr Constraint)

namespace ConstellationSnapshot

variable (snapshot : ConstellationSnapshot)

/-- What the beams of a fleet carry in a region, read off the snapshot and not off the table. -/
def fleetCapacity (region : Region) (fleet : FleetId) : ℚ :=
  ((snapshot.beams.filter (fun beam => decide (beam.region = region ∧ beam.fleet = fleet))).map
    Beam.capacityUnits).sum

/-- The regions some beam illuminates. -/
def litRegions : List Region := (snapshot.beams.map Beam.region).dedup

/-- The fleets with a beam somewhere. -/
def flyingFleets : List FleetId := (snapshot.beams.map Beam.fleet).dedup

end ConstellationSnapshot

/-- The coupling a plan honours, read from the window and the plan alone. The program and its
variables do not occur in it, so it can be checked without knowing how the plan was found. -/
structure Coupled (planner : SolverOptimizer) (window : PlanningWindow) (plan : ResourcePlan) :
    Prop where
  hinted : ∀ region, (plan.fleetHints.get? region).isSome ↔
    ∃ beam ∈ window.snapshot.beams, beam.region = region
  present : ∀ region fleet, plan.fleetHints.get? region = some fleet →
    ∃ beam ∈ window.snapshot.beams, beam.region = region ∧ beam.fleet = fleet
  balanced : ∀ fleet,
    ((plan.fleetHints.entries.filter (fun entry => decide (entry.2 = fleet))).length : ℤ) ≤
      ⌈(window.snapshot.litRegions.length : ℚ) / window.snapshot.flyingFleets.length⌉ + 1
  demanded : ∀ region trafficClass units,
    plan.regionClassBudgets.get? (region, trafficClass) = some units →
      0 < units ∧ ∃ demand,
        window.recentDemandByRegion.get? (region, trafficClass) = some demand ∧ units ≤ demand
  housed : ∀ region trafficClass, (plan.regionClassBudgets.get? (region, trafficClass)).isSome →
    (plan.fleetHints.get? region).isSome
  carried : ∀ region fleet, plan.fleetHints.get? region = some fleet →
    (∃ trafficClass, (plan.regionClassBudgets.get? (region, trafficClass)).isSome) ∨
        0 ≤ window.snapshot.fleetCapacity region fleet →
      ((plan.regionClassBudgets.entries.filter (fun entry => decide (entry.1.1 = region))).map
        Prod.snd).sum ≤ window.snapshot.fleetCapacity region fleet
  budgeted : ∀ trafficClass, (plan.airtimeBudgets.get? trafficClass).isSome ↔
    ∃ region, (plan.regionClassBudgets.get? (region, trafficClass)).isSome
  totalled : ∀ trafficClass, plan.airtimeBudgets.getD trafficClass 0 =
    ((plan.regionClassBudgets.entries.filter (fun entry =>
      decide (entry.1.2 = trafficClass))).map Prod.snd).sum
  fair : planner.fairnessMin ≤ planner.fairnessMax →
    ∀ trafficClass weight, plan.fairnessWeights.get? trafficClass = some weight →
      planner.fairnessMin ≤ weight ∧ weight ≤ planner.fairnessMax

namespace CapTable

section Table

variable (snapshot : ConstellationSnapshot)

/-- The table has the regions with beams. -/
theorem mem_keys (region : Region) : region ∈ (capacityByRegionFleet snapshot).keys ↔
    ∃ beam ∈ snapshot.beams, beam.region = region := by
  rw [← Dict.get?_isSome]
  refine (Dict.isSome_foldl_update Beam.region
    (fun perFleet beam => perFleet.bump beam.fleet beam.capacityUnits) Dict.empty snapshot.beams
    Dict.empty region).trans ?_
  simp

/-- A region's row is a tally over the beams there. The nested accumulation of the source comes
to one tally for each region. -/
theorem perFleet_eq (region : Region) : perFleet (capacityByRegionFleet snapshot) region =
    Dict.tally ((snapshot.beams.filter (fun beam => decide (beam.region = region))).map
      (fun beam => (beam.fleet, beam.capacityUnits))) := by
  rw [Dict.tally, List.foldl_map]
  exact Dict.getD_foldl_update Beam.region
    (fun perFleet beam => perFleet.bump beam.fleet beam.capacityUnits) Dict.empty snapshot.beams
    Dict.empty region

/-- A region's row has the fleets with beams there. -/
theorem mem_perFleet (region : Region) (fleet : FleetId) :
    fleet ∈ (perFleet (capacityByRegionFleet snapshot) region).keys ↔
      ∃ beam ∈ snapshot.beams, beam.region = region ∧ beam.fleet = fleet := by
  rw [← Dict.get?_isSome, perFleet_eq, Dict.tally_isSome]
  simp [and_assoc]

/-- The row holds what each fleet carries there. -/
theorem perFleet_getD (region : Region) (fleet : FleetId) :
    (perFleet (capacityByRegionFleet snapshot) region).getD fleet 0 =
      snapshot.fleetCapacity region fleet := by
  rw [perFleet_eq, Dict.getD_tally, Dict.sumUnder, List.filter_map, List.filter_filter,
    List.map_map, ConstellationSnapshot.fleetCapacity]
  simp only [Function.comp_def, ← Bool.decide_and, and_comm]

/-- The regions of the table, sorted, are those with beams. Sorting is for the order of the
constraints and changes no member. -/
theorem mem_regions (region : Region) : region ∈ regions (capacityByRegionFleet snapshot) ↔
    ∃ beam ∈ snapshot.beams, beam.region = region := by
  rw [regions, List.mem_insertionSort, mem_keys]

/-- No region is listed twice. -/
theorem regions_distinct (capTable : Dict Region (Dict FleetId ℚ)) : (regions capTable).Nodup :=
  (List.perm_insertionSort _ _).nodup_iff.mpr capTable.distinct

/-- The fleets of a table are those of its rows. -/
theorem mem_fleets (capTable : Dict Region (Dict FleetId ℚ)) (fleet : FleetId) :
    fleet ∈ fleets capTable ↔
      ∃ region ∈ capTable.keys, fleet ∈ (perFleet capTable region).keys := by
  rw [fleets, List.mem_insertionSort, List.mem_dedup, List.mem_flatMap]
  constructor
  · rintro ⟨row, stored, listed⟩
    obtain ⟨⟨region, row⟩, member, rfl⟩ := List.mem_map.mp stored
    have found := (Dict.mem_entries_iff _ _ _).mp member
    refine ⟨region, List.mem_map_of_mem member, ?_⟩
    rw [perFleet, Dict.getD, found, Option.getD_some]
    exact listed
  · rintro ⟨region, present, listed⟩
    obtain ⟨row, found⟩ := Option.isSome_iff_exists.mp ((Dict.get?_isSome _ _).mpr present)
    rw [perFleet, Dict.getD, found, Option.getD_some] at listed
    exact ⟨row, List.mem_map.mpr ⟨_, (Dict.mem_entries_iff _ _ _).mpr found, rfl⟩, listed⟩

/-- The fleets of the table are those with beams. -/
theorem mem_flying (fleet : FleetId) : fleet ∈ fleets (capacityByRegionFleet snapshot) ↔
    ∃ beam ∈ snapshot.beams, beam.fleet = fleet := by
  rw [mem_fleets]
  constructor
  · rintro ⟨region, _, listed⟩
    obtain ⟨beam, visible, _, flown⟩ := (mem_perFleet snapshot region fleet).mp listed
    exact ⟨beam, visible, flown⟩
  · rintro ⟨beam, visible, flown⟩
    exact ⟨beam.region, (mem_keys snapshot beam.region).mpr ⟨beam, visible, rfl⟩,
      (mem_perFleet snapshot beam.region fleet).mpr ⟨beam, visible, rfl, flown⟩⟩

/-- The part of a fleet is counted over the regions and the fleets that have beams. -/
theorem maxPerFleet_eq : maxPerFleet (capacityByRegionFleet snapshot) =
    ⌈(snapshot.litRegions.length : ℚ) / snapshot.flyingFleets.length⌉ + 1 := by
  have lit : (regions (capacityByRegionFleet snapshot)).Perm snapshot.litRegions := by
    refine (List.perm_ext_iff_of_nodup (regions_distinct _) (List.nodup_dedup _)).mpr ?_
    intro region
    rw [mem_regions, List.mem_dedup, List.mem_map]
  have flying : (fleets (capacityByRegionFleet snapshot)).Perm snapshot.flyingFleets := by
    have distinct : (fleets (capacityByRegionFleet snapshot)).Nodup :=
      (List.perm_insertionSort _ _).nodup_iff.mpr (List.nodup_dedup _)
    refine (List.perm_ext_iff_of_nodup distinct (List.nodup_dedup _)).mpr ?_
    intro fleet
    rw [mem_flying, List.mem_dedup, List.mem_map]
  rw [maxPerFleet, lit.length_eq, flying.length_eq]

end Table

section Demand

variable (capTable : Dict Region (Dict FleetId ℚ)) (demand : Dict (Region × TrafficClass) ℚ)

/-- Each demand gets one variable, since the demands of the window are keyed by region and
class. -/
theorem requested_distinct : ((requested capTable demand).map Prod.fst).Nodup :=
  demand.distinct.sublist (List.filter_sublist.map Prod.fst)

/-- A region with a budget variable has its classes listed, in the order of the demands. -/
theorem regionClasses_eq (entry : (Region × TrafficClass) × ℚ)
    (listed : entry ∈ requested capTable demand) :
    (regionClasses capTable demand).get? entry.1.1 =
      some (((requested capTable demand).filter
        (fun other => decide (other.1.1 = entry.1.1))).map (fun other => other.1.2)) := by
  have present : ((regionClasses capTable demand).get? entry.1.1).isSome :=
    (Dict.isSome_foldl_update (fun other : (Region × TrafficClass) × ℚ => other.1.1)
      (fun classes other => classes ++ [other.1.2]) [] (requested capTable demand) Dict.empty
      entry.1.1).mpr (Or.inl (List.mem_map.mpr ⟨entry, listed, rfl⟩))
  obtain ⟨classes, found⟩ := Option.isSome_iff_exists.mp present
  have grouped := Dict.getD_foldl_update (fun other : (Region × TrafficClass) × ℚ => other.1.1)
    (fun classes other => classes ++ [other.1.2]) [] (requested capTable demand) Dict.empty
    entry.1.1
  rw [← regionClasses, Dict.getD, found, Option.getD_some, List.foldl_append_eq_append,
    ← List.flatMap_def, ← List.map_eq_flatMap] at grouped
  rw [found, grouped]
  rfl

end Demand

end CapTable

namespace SolverOptimizer

open CapTable

section Extraction

variable (window : PlanningWindow) (capTable : Dict Region (Dict FleetId ℚ))
variable (values : PlanVariable → ℚ)

/-- A region's hint is the fleet assigned to it. Regions outside the table have none. -/
theorem hint_iff (region : Region) (fleet : FleetId) :
    (hints capTable values).get? region = some fleet ↔
      region ∈ regions capTable ∧ assigned capTable values region = some fleet :=
  Dict.ofPairs_choose_eq_some _ (regions_distinct capTable) _ region fleet

/-- The budgets are the values past the threshold, one for each demand, in the order of the
demands. -/
theorem regionBudgets_entries :
    (regionBudgets window capTable values).entries = granted window capTable values := by
  apply Dict.ofPairs_entries
  refine List.Nodup.sublist (List.filter_sublist.map Prod.fst) ?_
  rw [List.map_map]
  exact requested_distinct capTable window.recentDemandByRegion

/-- A budget is the value of its variable, past the threshold, for a demand of the window. -/
theorem mem_granted (region : Region) (trafficClass : TrafficClass) (units : ℚ) :
    (regionBudgets window capTable values).get? (region, trafficClass) = some units ↔
      units = values (.y region trafficClass) ∧ 1 / 1000000000 < units ∧
        ∃ demand, ((region, trafficClass), demand) ∈
          requested capTable window.recentDemandByRegion := by
  rw [← Dict.mem_entries_iff, regionBudgets_entries, granted, List.mem_filter, List.mem_map]
  constructor
  · rintro ⟨⟨⟨key, demand⟩, listed, same⟩, past⟩
    obtain ⟨rfl, rfl⟩ := Prod.mk.inj same
    exact ⟨rfl, of_decide_eq_true past, demand, listed⟩
  · rintro ⟨rfl, past, demand, listed⟩
    exact ⟨⟨_, listed, rfl⟩, decide_eq_true past⟩

/-- Only demands are budgeted: a class that asked for nothing in a region has no budget
there. -/
theorem budget_requested (region : Region) (trafficClass : TrafficClass)
    (budget : ((regionBudgets window capTable values).get? (region, trafficClass)).isSome) :
    ∃ demand, ((region, trafficClass), demand) ∈
      requested capTable window.recentDemandByRegion := by
  obtain ⟨units, found⟩ := Option.isSome_iff_exists.mp budget
  exact ((mem_granted window capTable values _ _ _).mp found).2.2

/-- The budgets of a region are some of the values of its variables, in their order. Those below
the threshold are left out, so their sum is no larger. -/
theorem granted_sublist (region : Region) :
    (((granted window capTable values).filter
      (fun entry => decide (entry.1.1 = region))).map Prod.snd).Sublist
      (((requested capTable window.recentDemandByRegion).filter
        (fun entry => decide (entry.1.1 = region))).map
          ((fun trafficClass => values (.y region trafficClass)) ∘ fun entry => entry.1.2)) := by
  have kept : ((granted window capTable values).filter
      (fun entry => decide (entry.1.1 = region))).Sublist
      (((requested capTable window.recentDemandByRegion).map
        (fun entry => (entry.1, values (.y entry.1.1 entry.1.2)))).filter
          (fun entry => decide (entry.1.1 = region))) := List.filter_sublist.filter _
  have valued := kept.map Prod.snd
  rw [List.filter_map, List.map_map] at valued
  have renamed : ∀ entry ∈ (requested capTable window.recentDemandByRegion).filter
      (fun entry => decide (entry.1.1 = region)),
      values (.y entry.1.1 entry.1.2) = values (.y region entry.1.2) := by
    intro entry member
    rw [of_decide_eq_true (List.mem_filter.mp member).2]
  exact List.map_congr_left renamed ▸ valued

end Extraction

section Solution

variable {planner : SolverOptimizer} {prevHints : Dict Region FleetId} {window : PlanningWindow}
variable {capTable : Dict Region (Dict FleetId ℚ)} {values : PlanVariable → ℚ}
variable (feasible : (planner.program prevHints window capTable).Feasible values)
include feasible

/-- An assignment variable is zero or one, being integral and within its bounds. -/
theorem x_binary (region : Region) (fleet : FleetId) (listed : region ∈ regions capTable)
    (flown : fleet ∈ (perFleet capTable region).keys) :
    values (.x region fleet) = 0 ∨ values (.x region fleet) = 1 := by
  have declared : PlanVariable.boolVar (.x region fleet) ∈
      (planner.program prevHints window capTable).declarations := by
    apply List.mem_append_left
    apply List.mem_append_left
    exact List.mem_flatMap.mpr ⟨region, listed, List.mem_map_of_mem flown⟩
  obtain ⟨low, high, whole⟩ := feasible.admitted _ declared
  exact Library.Linear.binary _ (whole rfl) low (high 1 rfl)

/-- The assignment variables of a region sum to one: the program's first family of
constraints. -/
theorem x_total (region : Region) (listed : region ∈ regions capTable) :
    ((perFleet capTable region).keys.map (fun fleet => values (.x region fleet))).sum = 1 := by
  have added : assignment capTable region ∈
      (planner.program prevHints window capTable).constraints := by
    apply List.mem_append_left
    apply List.mem_append_left
    exact List.mem_map_of_mem listed
  have holds : (assignment capTable region).left.value values =
      (assignment capTable region).right.value values := feasible.satisfied _ added
  simpa [assignment, Function.comp_def] using holds

/-- Those of a fleet sum to no more than its part and one: the second family. -/
theorem x_balance (fleet : FleetId) (somewhere : within capTable fleet ≠ []) :
    ((within capTable fleet).map (fun region => values (.x region fleet))).sum ≤
      maxPerFleet capTable := by
  have flown : fleet ∈ fleets capTable := by
    obtain ⟨region, member⟩ := List.exists_mem_of_ne_nil _ somewhere
    obtain ⟨listed, there⟩ := List.mem_filter.mp member
    exact (mem_fleets capTable fleet).mpr
      ⟨region, (List.mem_insertionSort _).mp listed, of_decide_eq_true there⟩
  have added :
      balance capTable fleet ∈ (planner.program prevHints window capTable).constraints := by
    apply List.mem_append_left
    apply List.mem_append_right
    refine List.mem_map_of_mem (List.mem_filter.mpr ⟨flown, ?_⟩)
    simpa using somewhere
  have holds : (balance capTable fleet).left.value values ≤
      (balance capTable fleet).right.value values := feasible.satisfied _ added
  simpa [balance, Function.comp_def] using holds

/-- A budget variable is within its demand, by the bounds it was declared with. -/
theorem y_range (entry : (Region × TrafficClass) × ℚ)
    (listed : entry ∈ requested capTable window.recentDemandByRegion) :
    0 ≤ values (.y entry.1.1 entry.1.2) ∧ values (.y entry.1.1 entry.1.2) ≤ entry.2 := by
  have declared : PlanVariable.numVar (.y entry.1.1 entry.1.2) (some entry.2) ∈
      (planner.program prevHints window capTable).declarations := by
    apply List.mem_append_left
    apply List.mem_append_right
    exact List.mem_map.mpr ⟨entry, listed, rfl⟩
  obtain ⟨low, high, _⟩ := feasible.admitted _ declared
  exact ⟨low, high entry.2 rfl⟩

/-- The budget variables of a region stay within its assigned capacity, and its congestion
covers what they take beyond the soft part. -/
theorem region_coupled (region : Region) (classes : List TrafficClass)
    (stored : (regionClasses capTable window.recentDemandByRegion).get? region = some classes) :
    (servedIn region classes).value values ≤ (capExpr capTable region).value values ∧
      (servedIn region classes).value values -
          planner.softUtilization * (capExpr capTable region).value values ≤
        values (.u region) := by
  have added : coupling capTable planner.softUtilization region classes ⊆
      (planner.program prevHints window capTable).constraints := by
    intro constraint member
    apply List.mem_append_right
    exact List.mem_flatMap.mpr
      ⟨(region, classes), (Dict.mem_entries_iff _ _ _).mpr stored, member⟩
  constructor
  · exact feasible.satisfied _ (added List.mem_cons_self)
  · have slack := feasible.satisfied _ (added (List.mem_cons_of_mem _ List.mem_cons_self))
    simpa [Constraint.Holds] using slack

/-- A region is assigned exactly one of its fleets, and its assigned capacity is that fleet's.
Rounding past one half finds it, since the variable is one. -/
theorem exists_assigned (region : Region) (listed : region ∈ regions capTable) :
    ∃ fleet, assigned capTable values region = some fleet ∧
      fleet ∈ (perFleet capTable region).keys ∧ values (.x region fleet) = 1 ∧
      (capExpr capTable region).value values = (perFleet capTable region).getD fleet 0 := by
  have total := x_total feasible region listed
  rw [Dict.keys, List.map_map] at total
  have binary : ∀ entry ∈ (perFleet capTable region).entries,
      values (.x region entry.1) = 0 ∨ values (.x region entry.1) = 1 :=
    fun entry member => x_binary feasible region entry.1 listed (List.mem_map_of_mem member)
  obtain ⟨before, pick, after, split, picked, early, late⟩ :=
    Library.Linear.exists_pick _ (fun entry : FleetId × ℚ => values (.x region entry.1))
      binary total
  have member : pick ∈ (perFleet capTable region).entries := by
    rw [split]
    exact List.mem_append_right _ List.mem_cons_self
  refine ⟨pick.1, ?_, List.mem_map_of_mem member, picked, ?_⟩
  · have passed : (before.map Prod.fst).find?
        (fun fleet => decide (1 / 2 < values (.x region fleet))) = none := by
      rw [List.find?_eq_none]
      rintro fleet passed
      obtain ⟨entry, earlier, rfl⟩ := List.mem_map.mp passed
      norm_num [early entry earlier]
    rw [assigned, Dict.keys, split, List.map_append, List.find?_append, passed, Option.none_or,
      List.map_cons, List.find?_cons_of_pos]
    norm_num [picked]
  · have found := (Dict.mem_entries_iff (perFleet capTable region) pick.1 pick.2).mp member
    rw [Dict.getD, found, Option.getD_some, capExpr, Library.Linear.Expr.value_sum, List.map_map,
      ← Library.Linear.weighted_pick before after pick _ Prod.snd picked early late, ← split]
    simp [Function.comp_def]

/-- A hinted fleet is one of the region's, chosen by the solver, and lends the region its
capacity there. The expression for the assigned capacity so becomes a number of the snapshot. -/
theorem hint_assigned (region : Region) (fleet : FleetId)
    (hint : (hints capTable values).get? region = some fleet) :
    region ∈ regions capTable ∧ fleet ∈ (perFleet capTable region).keys ∧
      values (.x region fleet) = 1 ∧
      (capExpr capTable region).value values = (perFleet capTable region).getD fleet 0 := by
  obtain ⟨listed, chosen⟩ := (hint_iff capTable values region fleet).mp hint
  obtain ⟨other, found, flown, picked, capacity⟩ := exists_assigned feasible region listed
  obtain rfl : other = fleet := Option.some.inj (found.symm.trans chosen)
  exact ⟨listed, flown, picked, capacity⟩

/-- The regions hinted for a fleet are among those where its variable is one. There are no more
of them than the program's balance allows. -/
theorem hints_balanced (fleet : FleetId) :
    (((hints capTable values).entries.filter
      (fun entry => decide (entry.2 = fleet))).length : ℤ) ≤ maxPerFleet capTable := by
  have chosen : ((hints capTable values).entries.filter
      (fun entry => decide (entry.2 = fleet))).map Prod.fst ⊆
      (within capTable fleet).filter (fun region => decide (values (.x region fleet) = 1)) := by
    rintro region member
    obtain ⟨⟨region, other⟩, kept, rfl⟩ := List.mem_map.mp member
    obtain ⟨stored, same⟩ := List.mem_filter.mp kept
    obtain rfl : other = fleet := of_decide_eq_true same
    have hint := (Dict.mem_entries_iff _ _ _).mp stored
    obtain ⟨listed, there, picked, _⟩ := hint_assigned feasible region other hint
    exact List.mem_filter.mpr
      ⟨List.mem_filter.mpr ⟨listed, decide_eq_true there⟩, decide_eq_true picked⟩
  have distinct := (hints capTable values).distinct.sublist
    ((List.filter_sublist (p := fun entry : Region × FleetId => decide (entry.2 = fleet))).map
      Prod.fst)
  have fewer := distinct.length_le_of_subset chosen
  rw [List.length_map] at fewer
  have binary : ∀ region ∈ within capTable fleet,
      values (.x region fleet) = 0 ∨ values (.x region fleet) = 1 := by
    intro region member
    obtain ⟨listed, there⟩ := List.mem_filter.mp member
    exact x_binary feasible region fleet listed (of_decide_eq_true there)
  have counted := Library.Linear.count_le_sum (within capTable fleet)
    (fun region => decide (values (.x region fleet) = 1)) (fun region => values (.x region fleet))
    (fun region member => by rcases binary region member with same | same <;> norm_num [same])
    (fun region _ one => (of_decide_eq_true one).ge)
  by_cases somewhere : within capTable fleet = []
  · rw [somewhere] at fewer
    have part : 0 ≤ ⌈((regions capTable).length : ℚ) / (fleets capTable).length⌉ :=
      Int.ceil_nonneg (by positivity)
    simp only [List.filter_nil, List.length_nil] at fewer
    rw [maxPerFleet]
    omega
  · have bounded := counted.trans (x_balance feasible fleet somewhere)
    have whole : ((((within capTable fleet).filter
        (fun region => decide (values (.x region fleet) = 1))).length : ℤ) : ℚ) ≤
        (maxPerFleet capTable : ℤ) := by exact_mod_cast bounded
    exact (Int.ofNat_le.mpr fewer).trans (Int.cast_le.mp whole)

/-- The budgets granted in a region are no more than its budget variables, which the program
couples to its assigned capacity. -/
theorem granted_coupled (entry : (Region × TrafficClass) × ℚ)
    (listed : entry ∈ requested capTable window.recentDemandByRegion) :
    ∃ served, (((granted window capTable values).filter
        (fun other => decide (other.1.1 = entry.1.1))).map Prod.snd).sum ≤ served ∧
      served ≤ (capExpr capTable entry.1.1).value values ∧
      served - planner.softUtilization * (capExpr capTable entry.1.1).value values ≤
        values (.u entry.1.1) := by
  have coupled := region_coupled feasible entry.1.1 _ (regionClasses_eq capTable _ entry listed)
  refine ⟨_, ?_, coupled⟩
  rw [servedIn, Expr.value_sum, List.map_map, List.map_map]
  have kept := granted_sublist window capTable values entry.1.1
  simp only [Function.comp_def, Expr.value_var] at kept ⊢
  refine kept.sum_le_sum ?_
  intro value member
  obtain ⟨other, among, rfl⟩ := List.mem_map.mp member
  obtain ⟨asked, there⟩ := List.mem_filter.mp among
  rw [← of_decide_eq_true there]
  exact (y_range feasible other asked).1

/-- The budgets of a hinted region are within what its fleet carries there. A region without
budgets asks for a capacity that is not negative, since then the sum is zero. -/
theorem hint_carries (region : Region) (fleet : FleetId)
    (hint : (hints capTable values).get? region = some fleet)
    (loaded : (∃ trafficClass,
        ((regionBudgets window capTable values).get? (region, trafficClass)).isSome) ∨
      0 ≤ (perFleet capTable region).getD fleet 0) :
    (((granted window capTable values).filter
      (fun entry => decide (entry.1.1 = region))).map Prod.snd).sum ≤
      (perFleet capTable region).getD fleet 0 := by
  by_cases budgeted : ∃ trafficClass,
      ((regionBudgets window capTable values).get? (region, trafficClass)).isSome
  · obtain ⟨trafficClass, budget⟩ := budgeted
    obtain ⟨demand, listed⟩ := budget_requested _ _ _ _ _ budget
    obtain ⟨_, _, _, capacity⟩ := hint_assigned feasible region fleet hint
    obtain ⟨served, granted, within, _⟩ := granted_coupled feasible _ listed
    exact (granted.trans within).trans capacity.le
  · have vacant : (granted window capTable values).filter
        (fun entry => decide (entry.1.1 = region)) = [] := by
      rw [List.filter_eq_nil_iff]
      rintro ⟨⟨other, trafficClass⟩, units⟩ listed there
      obtain rfl : other = region := of_decide_eq_true there
      rw [← regionBudgets_entries, Dict.mem_entries_iff] at listed
      exact budgeted ⟨trafficClass, Option.isSome_iff_exists.mpr ⟨units, listed⟩⟩
    rw [vacant]
    exact loaded.resolve_left budgeted

/-- The congestion charged to a region is at least what its budgets take beyond the soft part
of its fleet's capacity. -/
theorem congestion_covers (region : Region) (trafficClass : TrafficClass) (fleet : FleetId)
    (budget : ((regionBudgets window capTable values).get? (region, trafficClass)).isSome)
    (hint : (hints capTable values).get? region = some fleet) :
    (((granted window capTable values).filter
      (fun entry => decide (entry.1.1 = region))).map Prod.snd).sum -
        planner.softUtilization * (perFleet capTable region).getD fleet 0 ≤
      values (.u region) := by
  obtain ⟨demand, listed⟩ := budget_requested _ _ _ _ _ budget
  obtain ⟨_, _, _, capacity⟩ := hint_assigned feasible region fleet hint
  obtain ⟨served, granted, _, slack⟩ := granted_coupled feasible _ listed
  rw [← capacity]
  exact (sub_le_sub_right granted _).trans slack

end Solution

/-- Whatever feasible assignment the plan is read from, the plan honours the coupling. No solver
occurs in the statement. -/
theorem extract_coupled (planner : SolverOptimizer) (prevHints : Dict Region FleetId)
    (window : PlanningWindow) (values : PlanVariable → ℚ)
    (feasible : (planner.program prevHints window
      (capacityByRegionFleet window.snapshot)).Feasible values) :
    Coupled planner window
      (planner.extract window (capacityByRegionFleet window.snapshot) values) where
  hinted region := by
    rw [← mem_regions, Option.isSome_iff_exists]
    constructor
    · rintro ⟨fleet, hint⟩
      exact ((hint_iff _ _ _ _).mp hint).1
    · intro listed
      obtain ⟨fleet, chosen, _⟩ := exists_assigned feasible region listed
      exact ⟨fleet, (hint_iff _ _ _ _).mpr ⟨listed, chosen⟩⟩
  present region fleet hint :=
    (mem_perFleet window.snapshot region fleet).mp (hint_assigned feasible region fleet hint).2.1
  balanced fleet := by
    rw [← maxPerFleet_eq]
    exact hints_balanced feasible fleet
  demanded region trafficClass units budget := by
    obtain ⟨rfl, past, demand, listed⟩ := (mem_granted _ _ _ _ _ _).mp budget
    have stored := (Dict.mem_entries_iff _ _ _).mp (List.mem_filter.mp listed).1
    exact ⟨lt_trans (by norm_num) past, demand, stored, (y_range feasible _ listed).2⟩
  housed region trafficClass budget := by
    obtain ⟨demand, listed⟩ := budget_requested _ _ _ _ _ budget
    have lit : region ∈ regions (capacityByRegionFleet window.snapshot) :=
      (List.mem_insertionSort _).mpr (of_decide_eq_true (List.mem_filter.mp listed).2).1
    obtain ⟨fleet, chosen, _⟩ := exists_assigned feasible region lit
    exact Option.isSome_iff_exists.mpr ⟨fleet, (hint_iff _ _ _ _).mpr ⟨lit, chosen⟩⟩
  carried region fleet hint loaded := by
    rw [← perFleet_getD] at loaded ⊢
    have bounded := hint_carries feasible region fleet hint loaded
    exact (regionBudgets_entries window _ values).symm ▸ bounded
  budgeted trafficClass := by
    refine (Dict.tally_isSome _ _).trans ?_
    rw [List.map_map, List.mem_map]
    constructor
    · rintro ⟨⟨⟨region, trafficClass⟩, units⟩, listed, rfl⟩
      rw [← regionBudgets_entries] at listed
      exact ⟨region, Option.isSome_iff_exists.mpr ⟨units, (Dict.mem_entries_iff _ _ _).mp listed⟩⟩
    · rintro ⟨region, budget⟩
      obtain ⟨units, found⟩ := Option.isSome_iff_exists.mp budget
      have listed := (Dict.mem_entries_iff _ _ _).mpr found
      exact ⟨_, (regionBudgets_entries window _ values) ▸ listed, rfl⟩
  totalled trafficClass := by
    refine (Dict.getD_tally _ _).trans ?_
    rw [Dict.sumUnder, List.filter_map, List.map_map]
    exact congrArg (fun entries => ((List.filter _ entries).map Prod.snd).sum)
      (regionBudgets_entries window _ values).symm
  fair ordered trafficClass weight weighed := by
    have listed := Dict.ofPairs_mem _ _ _ weighed
    obtain ⟨_, _, same⟩ := List.mem_map.mp listed
    obtain ⟨rfl, rfl⟩ := Prod.mk.inj same
    exact clamp_range _ _ _ ordered

/-- With capacity in the window, a usable result is read as a plan. -/
theorem solve_usable (planner : SolverOptimizer) (prevHints : Dict Region FleetId)
    (ortools : Pywraplp) (window : PlanningWindow) (status : ResultStatus)
    (values : PlanVariable → ℚ) (capacity : 0 < window.snapshot.totalCapacity)
    (created : ortools.createSolver "CBC" = true)
    (returned : ortools.solve planner.timeLimitMs (planner.program prevHints window
      (capacityByRegionFleet window.snapshot)) = some (status, values))
    (usable : status.usable = true) :
    planner.solve prevHints (some ortools) window =
      .solved (planner.extract window (capacityByRegionFleet window.snapshot) values) := by
  have inhabited : (capacityByRegionFleet window.snapshot).entries.isEmpty = false := by
    by_contra vacant
    have vacant : (capacityByRegionFleet window.snapshot).entries = [] := by simpa using vacant
    have none : window.snapshot.beams = [] := by
      rw [List.eq_nil_iff_forall_not_mem]
      intro beam visible
      have present := (mem_keys window.snapshot beam.region).mpr ⟨beam, visible, rfl⟩
      rw [Dict.keys, vacant] at present
      exact List.not_mem_nil present
    rw [ConstellationSnapshot.totalCapacity, none] at capacity
    exact lt_irrefl 0 capacity
  simp [solve, not_le.mpr capacity, inhabited, created, returned, usable]

/-- With capacity in the window, every usable result of an exact solver gives a plan that
honours the coupling. -/
theorem solver_plan_coupled (planner : SolverOptimizer) (prevHints : Dict Region FleetId)
    (ortools : Pywraplp) (exact : ortools.Exact) (window : PlanningWindow) (status : ResultStatus)
    (values : PlanVariable → ℚ) (capacity : 0 < window.snapshot.totalCapacity)
    (created : ortools.createSolver "CBC" = true)
    (returned : ortools.solve planner.timeLimitMs (planner.program prevHints window
      (capacityByRegionFleet window.snapshot)) = some (status, values))
    (usable : status.usable = true) :
    ∃ plan, planner.solve prevHints (some ortools) window = .solved plan ∧
      Coupled planner window plan :=
  ⟨_, solve_usable planner prevHints ortools window status values capacity created returned usable,
    extract_coupled planner prevHints window values (exact _ _ _ _ returned usable)⟩

end SolverOptimizer

/-- A solver with one idea: it returns a given assignment when that is feasible. It does not
look for a better one. -/
def Pywraplp.guessing (guess : PlanVariable → ℚ) : Pywraplp where
  createSolver _ := true
  solve _ program :=
    if program.Feasible guess then some (.optimal, guess) else some (.notSolved, guess)

/-- What it returns under a usable status is feasible, because it checked. -/
theorem Pywraplp.guessing_exact (guess : PlanVariable → ℚ) : (guessing guess).Exact := by
  intro limit program status values returned usable
  simp only [guessing] at returned
  split at returned
  · rename_i feasible
    obtain ⟨_, rfl⟩ := Prod.mk.inj (Option.some.inj returned)
    exact feasible
  · obtain ⟨rfl, _⟩ := Prod.mk.inj (Option.some.inj returned)
    exact absurd usable (by decide)

/-- Two fleets over one region and one of them over another, with more demand than either
carries in the first. -/
def contestedWindow : PlanningWindow where
  step := 1
  snapshot :=
    { step := 1
      satellites :=
        [{ satelliteId := "legacy", fleet := .legacyLeo, beams :=
            [{ beamId := "l0", fleet := .legacyLeo, satelliteId := "legacy", region := .na,
               band := .ku, capacityUnits := 4 },
             { beamId := "l1", fleet := .legacyLeo, satelliteId := "legacy", region := .eu,
               band := .ku, capacityUnits := 5 }] },
         { satelliteId := "next", fleet := .nextGen, beams :=
            [{ beamId := "n0", fleet := .nextGen, satelliteId := "next", region := .na,
               band := .ka, capacityUnits := 10 }] }] }
  recentDemandUnits := Dict.ofPairs [(.emergencySos, 6), (.photo, 8), (.messaging, 3)]
  recentDemandByRegion := Dict.ofPairs [((.na, .emergencySos), 6), ((.na, .photo), 8),
    ((.eu, .messaging), 3)]

/-- The best plan there: the larger fleet in the contested region, and all it carries. -/
def contestedGuess : PlanVariable → ℚ
  | .x .na .nextGen => 1
  | .x .eu .legacyLeo => 1
  | .y .na .emergencySos => 6
  | .y .na .photo => 4
  | .y .eu .messaging => 3
  | .u .na => 1
  | _ => 0

/-- On the contested window, with the best plan as the guess, the call is solved and its plan
honours the coupling. -/
theorem SolverOptimizer.solver_plan_coupled_contested :
    ∃ plan, SolverOptimizer.solve {} Dict.empty (some (Pywraplp.guessing contestedGuess))
        contestedWindow = .solved plan ∧ Coupled {} contestedWindow plan :=
  SolverOptimizer.solver_plan_coupled {} Dict.empty _ (Pywraplp.guessing_exact contestedGuess)
    contestedWindow .optimal contestedGuess (by decide +kernel) rfl
    (if_pos (by decide +kernel)) rfl

end Satsim
