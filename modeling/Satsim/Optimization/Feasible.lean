import Satsim.Optimization.Coupling

/-!
# The solver's program has a solution

Whatever the window and the hints remembered, the program the solver planner builds can be
satisfied and its objective is bounded: a call falls back only because OR-Tools is missing or
gives up, or because there is no capacity. The balance of the fleets is the constraint that
could fail. It asks of each fleet at most its rounded-up part of the regions and one more, and
two fleets that each serve some region leave the other at most all regions but one, which is
within the part for up to five regions.

The solution is constructed and not searched for: hints that are balanced, and budgets
of zero. It uses that there are two fleets and at most five regions, and would need
another argument for more.
-/

namespace Satsim

open Library (Dict)
open Library.Linear (Expr Declaration Constraint Program)

/-- Two options that are each offered somewhere are both taken by some choice, when there are
two items to choose for. This is the combinatorial core: it keeps either fleet from being given
every region. -/
theorem exists_both_taken {α β : Type} (items : List α) (offers : α → β → Prop) (first second : β)
    (offered : ∀ item ∈ items, offers item first ∨ offers item second) (several : 2 ≤ items.length)
    (distinct : items.Nodup) (one : ∃ item ∈ items, offers item first)
    (two : ∃ item ∈ items, offers item second) :
    ∃ choice : α → β, (∀ item ∈ items, offers item (choice item)) ∧
      (∃ item ∈ items, choice item = first) ∧ ∃ item ∈ items, choice item = second := by
  classical
  obtain ⟨leader, listed, leads⟩ := one
  by_cases elsewhere : ∃ item ∈ items, item ≠ leader ∧ offers item second
  · obtain ⟨other, member, differs, follows⟩ := elsewhere
    refine ⟨fun item => if item ≠ leader ∧ offers item second then second else first, ?_,
      ⟨leader, listed, by simp⟩, other, member, if_pos ⟨differs, follows⟩⟩
    intro item here
    dsimp only
    split_ifs with taken
    · exact taken.2
    · by_cases same : item = leader
      · exact same ▸ leads
      · exact (offered item here).resolve_right (fun offer => taken ⟨same, offer⟩)
  · -- only the leader is offered the second option, so it takes that
    push Not at elsewhere
    obtain ⟨last, present, offer⟩ := two
    have same : last = leader := by
      by_contra differs
      exact elsewhere last present differs offer
    obtain ⟨other, member, differs⟩ : ∃ other ∈ items, other ≠ leader := by
      match items, several, distinct with
      | left :: right :: rest, _, distinct =>
        have unequal : left ≠ right := by
          rintro rfl
          exact (List.nodup_cons.mp distinct).1 List.mem_cons_self
        by_cases equal : left = leader
        · exact ⟨right, by simp, fun equals => unequal (equal.trans equals.symm)⟩
        · exact ⟨left, by simp, equal⟩
    refine ⟨fun item => if item = leader then second else first, ?_,
      ⟨other, member, if_neg differs⟩, leader, listed, if_pos rfl⟩
    intro item here
    dsimp only
    split_ifs with taken
    · exact taken ▸ same ▸ offer
    · exact (offered item here).resolve_right (elsewhere item here taken)

namespace CapTable

variable (capTable : Dict Region (Dict FleetId ℚ))

/-- There are five regions at most, as many as the enumeration has. The argument for the balance
uses this bound. -/
theorem regions_length : (regions capTable).length ≤ 5 := by
  have included : regions capTable ⊆ [.na, .eu, .apac, .latam, .ocean] := by
    intro region _
    cases region <;> decide
  exact ((regions_distinct capTable).subperm included).length_le

/-- No fleet is listed twice. -/
theorem fleets_distinct : (fleets capTable).Nodup :=
  (List.perm_insertionSort _ _).nodup_iff.mpr (List.nodup_dedup _)

/-- The part of a fleet covers the regions, shared among the fleets: rounding up loses none of
them. -/
theorem regions_shared (some_fleet : fleets capTable ≠ []) :
    ((regions capTable).length : ℤ) ≤
      (maxPerFleet capTable - 1) * (fleets capTable).length := by
  have positive : (0 : ℚ) < (fleets capTable).length := by
    exact_mod_cast List.length_pos_iff.mpr some_fleet
  have part := Int.le_ceil (((regions capTable).length : ℚ) / (fleets capTable).length)
  rw [div_le_iff₀ positive] at part
  rw [maxPerFleet, add_sub_cancel_right]
  exact_mod_cast part

/-- The part of a fleet and one more is at least one. -/
theorem maxPerFleet_pos : 1 ≤ maxPerFleet capTable := by
  have nonneg : (0 : ℚ) ≤ (regions capTable).length / (fleets capTable).length := by positivity
  have rounded := Int.ceil_nonneg nonneg
  rw [maxPerFleet]
  omega

/-- How many regions a choice of fleets gives to a fleet. This is what the balance of the
program bounds. -/
def load (choice : Region → FleetId) (fleet : FleetId) : ℕ :=
  ((regions capTable).filter (fun region => decide (choice region = fleet))).length

/-- A fleet that some region is not given has all regions but one at most. Two fleets in use
therefore spare one another. -/
theorem load_lt (choice : Region → FleetId) (fleet : FleetId) (region : Region)
    (listed : region ∈ regions capTable) (spared : choice region ≠ fleet) :
    load capTable choice fleet < (regions capTable).length := by
  apply List.length_filter_lt_length_iff_exists.mpr
  exact ⟨region, listed, by simpa using spared⟩

/-- The regions of a table with beams can be given fleets within the part of each. With
one fleet there is no choice; with two, either each is used or all regions offer the same
one only. -/
theorem exists_balanced (inhabited : ∀ region ∈ regions capTable,
      (perFleet capTable region).keys ≠ []) :
    ∃ choice : Region → FleetId,
      (∀ region ∈ regions capTable, choice region ∈ (perFleet capTable region).keys) ∧
        ∀ fleet, (load capTable choice fleet : ℤ) ≤ maxPerFleet capTable := by
  have few := regions_length capTable
  have offered : ∀ region ∈ regions capTable, ∃ fleet, fleet ∈ (perFleet capTable region).keys :=
    fun region listed => List.exists_mem_of_ne_nil _ (inhabited region listed)
  have flown : ∀ region ∈ regions capTable, ∀ fleet ∈ (perFleet capTable region).keys,
      fleet ∈ fleets capTable := by
    intro region listed fleet there
    exact (mem_fleets capTable fleet).mpr ⟨region, (List.mem_insertionSort _).mp listed, there⟩
  have within : ∀ choice fleet, load capTable choice fleet ≤ (regions capTable).length :=
    fun _ _ => List.length_filter_le _ _
  by_cases both : FleetId.legacyLeo ∈ fleets capTable ∧ FleetId.nextGen ∈ fleets capTable ∧
      2 ≤ (regions capTable).length
  · obtain ⟨legacy, next, several⟩ := both
    have somewhere : ∀ fleet ∈ fleets capTable, ∃ region ∈ regions capTable,
        fleet ∈ (perFleet capTable region).keys := by
      intro fleet present
      obtain ⟨region, listed, there⟩ := (mem_fleets capTable fleet).mp present
      exact ⟨region, (List.mem_insertionSort _).mpr listed, there⟩
    have either : ∀ region ∈ regions capTable,
        FleetId.legacyLeo ∈ (perFleet capTable region).keys ∨
          FleetId.nextGen ∈ (perFleet capTable region).keys := by
      intro region listed
      obtain ⟨fleet, there⟩ := offered region listed
      cases fleet with
      | legacyLeo => exact Or.inl there
      | nextGen => exact Or.inr there
    obtain ⟨choice, offers, ⟨first, listed, chosen⟩, second, present, picked⟩ :=
      exists_both_taken (regions capTable) (fun region fleet =>
        fleet ∈ (perFleet capTable region).keys) .legacyLeo .nextGen either several
          (regions_distinct capTable) (somewhere _ legacy) (somewhere _ next)
    have two : (fleets capTable).length = 2 := by
      have same : (fleets capTable).Perm [.legacyLeo, .nextGen] := by
        refine (List.perm_ext_iff_of_nodup (fleets_distinct capTable) (by decide)).mpr ?_
        intro fleet
        cases fleet <;> simp [legacy, next]
      exact same.length_eq
    have shared := regions_shared capTable (List.ne_nil_of_mem legacy)
    refine ⟨choice, offers, fun fleet => ?_⟩
    have spared : load capTable choice fleet < (regions capTable).length := by
      cases fleet with
      | legacyLeo => exact load_lt capTable choice _ second present (by simp [picked])
      | nextGen => exact load_lt capTable choice _ first listed (by simp [chosen])
    rw [two] at shared
    push_cast at shared
    omega
  · -- with one fleet, or one region, any choice is within the part
    have _ : Nonempty FleetId := ⟨.legacyLeo⟩
    choose! choice offers using offered
    refine ⟨choice, offers, fun fleet => ?_⟩
    have bounded := within choice fleet
    have positive := maxPerFleet_pos capTable
    by_cases several : 2 ≤ (regions capTable).length
    · obtain ⟨region, listed⟩ := List.exists_mem_of_length_pos
        (by omega : 0 < (regions capTable).length)
      have present := flown region listed _ (offers region listed)
      have shared := regions_shared capTable (List.ne_nil_of_mem present)
      have single : (fleets capTable).length ≤ 1 := by
        have included : fleets capTable ⊆ [choice region] := by
          intro other there
          by_contra differs
          have apart : other ≠ choice region := by simpa using differs
          refine both ⟨?_, ?_, several⟩
          · cases other <;> cases here : choice region <;> simp_all
          · cases other <;> cases here : choice region <;> simp_all
        exact ((fleets_distinct capTable).subperm included).length_le
      nlinarith
    · omega

end CapTable

namespace SolverOptimizer

open CapTable

variable (planner : SolverOptimizer) (prevHints : Dict Region FleetId) (window : PlanningWindow)

/-- A choice of fleets without budgets, charged with the congestion it may need. It is a
feasible point, not a good one. -/
def spread (capTable : Dict Region (Dict FleetId ℚ)) (choice : Region → FleetId) :
    PlanVariable → ℚ
  | .x region fleet => if choice region = fleet then 1 else 0
  | .y _ _ => 0
  | .u region =>
      max 0 (-(planner.softUtilization * (perFleet capTable region).getD (choice region) 0))

/-- The capacity a region is assigned is that of the fleet chosen for it, since its variables
pick out one term of the sum. -/
theorem spread_capExpr (capTable : Dict Region (Dict FleetId ℚ)) (choice : Region → FleetId)
    (region : Region) :
    (capExpr capTable region).value (planner.spread capTable choice) =
      (perFleet capTable region).getD (choice region) 0 := by
  have stored : ∀ entry ∈ (perFleet capTable region).entries,
      entry.2 * (if choice region = entry.1 then (1 : ℚ) else 0) =
        (perFleet capTable region).getD entry.1 0 * if choice region = entry.1 then 1 else 0 := by
    intro entry member
    rw [Dict.getD, (Dict.mem_entries_iff _ entry.1 entry.2).mp member, Option.getD_some]
  have listed : (capExpr capTable region).value (planner.spread capTable choice) =
      ((perFleet capTable region).keys.map (fun fleet => (perFleet capTable region).getD fleet 0 *
        if choice region = fleet then 1 else 0)).sum := by
    rw [Dict.keys, List.map_map, capExpr, Expr.value_sum, List.map_map]
    refine congrArg List.sum (List.map_congr_left fun entry member => ?_)
    simpa [spread] using stored entry member
  rw [listed]
  by_cases offered : choice region ∈ (perFleet capTable region).keys
  · exact Library.Linear.weighted_indicator _ (perFleet capTable region).distinct _ offered _
  · rw [Dict.getD, Option.not_isSome_iff_eq_none.mp (mt (Dict.get?_isSome _ _).mp offered),
      Option.getD_none]
    apply List.sum_eq_zero
    intro value member
    obtain ⟨fleet, there, rfl⟩ := List.mem_map.mp member
    rw [if_neg (by rintro rfl; exact offered there), mul_zero]

/-- Chosen within the part of each fleet, it satisfies the program: declarations first, then the
constraints in the order they were added. -/
theorem spread_feasible (capTable : Dict Region (Dict FleetId ℚ)) (choice : Region → FleetId)
    (offers : ∀ region ∈ regions capTable, choice region ∈ (perFleet capTable region).keys)
    (balanced : ∀ fleet, (load capTable choice fleet : ℤ) ≤ maxPerFleet capTable)
    (capacities : ∀ region fleet, 0 ≤ (perFleet capTable region).getD fleet 0) :
    (planner.program prevHints window capTable).Feasible (planner.spread capTable choice) where
  admitted := by
    intro declaration declared
    rcases List.mem_append.mp declared with earlier | congestion
    · rcases List.mem_append.mp earlier with assigned | budgeted
      · obtain ⟨region, _, there⟩ := List.mem_flatMap.mp assigned
        obtain ⟨fleet, _, rfl⟩ := List.mem_map.mp there
        simp only [Declaration.Admits, PlanVariable.boolVar, spread]
        split_ifs with chosen
        · exact ⟨zero_le_one, by simp, fun _ => ⟨1, by norm_num⟩⟩
        · exact ⟨le_refl _, by simp, fun _ => ⟨0, by norm_num⟩⟩
      · obtain ⟨entry, requested, rfl⟩ := List.mem_map.mp budgeted
        obtain ⟨_, demanded⟩ := of_decide_eq_true (List.mem_filter.mp requested).2
        refine ⟨le_refl _, ?_, fun integral => Bool.noConfusion integral⟩
        intro bound stated
        obtain rfl : entry.2 = bound := by simpa [PlanVariable.numVar] using stated
        exact demanded.le
    · obtain ⟨region, _, rfl⟩ := List.mem_map.mp congestion
      exact ⟨le_max_left _ _, by simp [PlanVariable.numVar],
        fun integral => Bool.noConfusion integral⟩
  satisfied := by
    intro constraint added
    rcases List.mem_append.mp added with earlier | coupled
    · rcases List.mem_append.mp earlier with assigned | balances
      · obtain ⟨region, listed, rfl⟩ := List.mem_map.mp assigned
        have one := Library.Linear.weighted_indicator (perFleet capTable region).keys
          (perFleet capTable region).distinct (choice region) (offers region listed)
          (fun _ => (1 : ℚ))
        simpa [Constraint.Holds, assignment, spread, Function.comp_def] using one
      · obtain ⟨fleet, _, rfl⟩ := List.mem_map.mp balances
        have counted := Library.Linear.sum_indicator (K := ℚ) (within capTable fleet)
          (fun region => choice region = fleet)
        have part : ((within capTable fleet).filter
            (fun region => decide (choice region = fleet))).length ≤ load capTable choice fleet :=
          (List.filter_sublist.filter _).length_le
        have fits : (((within capTable fleet).filter
            (fun region => decide (choice region = fleet))).length : ℚ) ≤ maxPerFleet capTable := by
          exact_mod_cast (Int.ofNat_le.mpr part).trans (balanced fleet)
        rw [← counted] at fits
        simpa [Constraint.Holds, balance, spread, Function.comp_def] using fits
    · obtain ⟨entry, _, there⟩ := List.mem_flatMap.mp coupled
      have served : (servedIn entry.1 entry.2).value (planner.spread capTable choice) = 0 := by
        simp [servedIn, spread, Function.comp_def]
      have carried := planner.spread_capExpr capTable choice entry.1
      rcases List.mem_cons.mp there with rfl | later
      · simp only [Constraint.Holds, served, carried]
        exact capacities entry.1 (choice entry.1)
      · obtain rfl := List.mem_singleton.mp later
        simp [Constraint.Holds, served, carried, spread]

section Objective

variable (capTable : Dict Region (Dict FleetId ℚ))

/-- Every term on an assignment variable is capped, whatever the sign of its factor: it lies
between two bounds. -/
theorem x_capped (region : Region) (listed : region ∈ regions capTable) (fleet : FleetId)
    (flown : fleet ∈ (perFleet capTable region).keys) (factor : ℚ) :
    (planner.program prevHints window capTable).Capped
      (Expr.scale factor (Expr.var (.x region fleet))) := by
  refine Program.capped_bounded _ (PlanVariable.boolVar (.x region fleet)) ?_ 1 rfl factor
  apply List.mem_append_left
  apply List.mem_append_left
  exact List.mem_flatMap.mpr ⟨region, listed, List.mem_map_of_mem flown⟩

/-- The objective of a planner that charges for congestion is bounded. With a negative charge it
could grow with the congestion variables, which have no upper bound. -/
theorem objective_capped (penalty : 0 ≤ planner.congestionPenaltyWeight) :
    (planner.program prevHints window capTable).Capped
      (planner.program prevHints window capTable).objective := by
  apply Program.capped_sum
  intro expr listed
  rcases List.mem_append.mp listed with earlier | congestion
  · rcases List.mem_append.mp earlier with first | switches
    · rcases List.mem_append.mp first with served | assigned
      · obtain ⟨entry, requested, rfl⟩ := List.mem_map.mp served
        refine Program.capped_bounded _
          (PlanVariable.numVar (.y entry.1.1 entry.1.2) (some entry.2)) ?_ entry.2 rfl _
        apply List.mem_append_left
        apply List.mem_append_right
        exact List.mem_map.mpr ⟨entry, requested, rfl⟩
      · obtain ⟨region, there, term⟩ := List.mem_flatMap.mp assigned
        obtain ⟨entry, stored, rfl⟩ := List.mem_map.mp term
        exact planner.x_capped prevHints window capTable region there entry.1
          (List.mem_map_of_mem stored) _
    · obtain ⟨region, there, term⟩ := List.mem_flatMap.mp switches
      cases previous : prevHints.get? region with
      | none => simp [previous] at term
      | some last =>
        simp only [previous] at term
        obtain ⟨fleet, stored, rfl⟩ := List.mem_map.mp term
        exact planner.x_capped prevHints window capTable region there fleet
          (List.mem_filter.mp stored).1 _
  · obtain ⟨region, stored, rfl⟩ := List.mem_map.mp congestion
    refine Program.capped_penalty _ (PlanVariable.numVar (.u region) none) ?_ _
      (neg_nonpos.mpr penalty)
    exact List.mem_append_right _ (List.mem_map_of_mem stored)

end Objective

end SolverOptimizer

/-- OR-Tools finds a solution of every program that has one and whose objective is bounded. A
time limit that is too short is therefore ruled out by assumption. -/
def Pywraplp.Complete (ortools : Pywraplp) : Prop :=
  ortools.createSolver "CBC" = true ∧
    ∀ limit program, (∃ values, program.Feasible values) → program.Capped program.objective →
      ∃ status values, ortools.solve limit program = some (status, values) ∧ status.usable = true

/-- The program of every window is feasible and bounded, for every accepted configuration and
whatever is remembered, as long as no beam has a negative capacity. With a complete OR-Tools the
planner falls back only on windows without capacity. -/
theorem SolverOptimizer.program_solvable (config : OptimizerConfig)
    (prevHints : Dict Region FleetId) (window : PlanningWindow)
    (capacities : ∀ beam ∈ window.snapshot.beams, 0 ≤ beam.capacityUnits) :
    (∃ values, ((ofConfig config).program prevHints window
        (capacityByRegionFleet window.snapshot)).Feasible values) ∧
      ((ofConfig config).program prevHints window
        (capacityByRegionFleet window.snapshot)).Capped
          ((ofConfig config).program prevHints window
            (capacityByRegionFleet window.snapshot)).objective ∧
      ∀ ortools : Pywraplp, ortools.Complete → 0 < window.snapshot.totalCapacity →
        ∃ plan, (ofConfig config).solve prevHints (some ortools) window = .solved plan := by
  have inhabited : ∀ region ∈ CapTable.regions (capacityByRegionFleet window.snapshot),
      (CapTable.perFleet (capacityByRegionFleet window.snapshot) region).keys ≠ [] := by
    intro region listed
    obtain ⟨beam, shown, lit⟩ := (CapTable.mem_regions window.snapshot region).mp listed
    exact List.ne_nil_of_mem ((CapTable.mem_perFleet window.snapshot region beam.fleet).mpr
      ⟨beam, shown, lit, rfl⟩)
  have nonneg : ∀ region fleet,
      0 ≤ (CapTable.perFleet (capacityByRegionFleet window.snapshot) region).getD fleet 0 := by
    intro region fleet
    rw [CapTable.perFleet_getD, ConstellationSnapshot.fleetCapacity]
    apply List.sum_nonneg
    intro units member
    obtain ⟨beam, kept, rfl⟩ := List.mem_map.mp member
    exact capacities beam (List.mem_filter.mp kept).1
  obtain ⟨choice, offers, balanced⟩ := CapTable.exists_balanced _ inhabited
  have feasible :=
    (ofConfig config).spread_feasible prevHints window _ choice offers balanced nonneg
  have capped := (ofConfig config).objective_capped prevHints window
    (capacityByRegionFleet window.snapshot) config.congestionNonneg
  refine ⟨⟨_, feasible⟩, capped, ?_⟩
  rintro ortools ⟨created, complete⟩ capacity
  obtain ⟨status, values, returned, usable⟩ :=
    complete (ofConfig config).timeLimitMs _ ⟨_, feasible⟩ capped
  exact ⟨_, solve_usable _ prevHints ortools window status values capacity created returned usable⟩

/-- On the contested window, under the default configuration: there are two fleets and two
regions, so the balance is not vacuous. -/
theorem SolverOptimizer.program_solvable_contested :
    (∃ values, ((ofConfig {}).program Dict.empty contestedWindow
        (capacityByRegionFleet contestedWindow.snapshot)).Feasible values) ∧
      ((ofConfig {}).program Dict.empty contestedWindow
        (capacityByRegionFleet contestedWindow.snapshot)).Capped
          ((ofConfig {}).program Dict.empty contestedWindow
            (capacityByRegionFleet contestedWindow.snapshot)).objective ∧
      ∀ ortools : Pywraplp, ortools.Complete → 0 < contestedWindow.snapshot.totalCapacity →
        ∃ plan, (ofConfig {}).solve Dict.empty (some ortools) contestedWindow = .solved plan :=
  SolverOptimizer.program_solvable {} Dict.empty contestedWindow (by decide +kernel)

end Satsim
