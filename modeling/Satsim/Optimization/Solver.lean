import Satsim.Library.Linear
import Satsim.Optimization.Heuristic
import Satsim.Scoring

/-!
# The solver planner

One mixed-integer program assigns each region a fleet and budgets the airtime of each class
in each region, the budgets bounded by the capacity of the assigned fleet. The program is
built here as the source adds it, variable by variable; solving it is OR-Tools' part, and
whatever a call of it does is a value of `Pywraplp`. A call that fails leaves the plan to the
heuristic planner.

The program is compared with the source constraint by constraint, in the order in which
they are added. A solver is any function from programs to an answer, and what is asked
of it is stated where it is used.
-/

namespace Satsim

open Library (Dict)
open Library.Linear (Expr Declaration Constraint Program)

/-- The name of a class, as it enters the names of variables. -/
def TrafficClass.name : TrafficClass → String
  | .thirdPartyApi => "THIRD_PARTY_API"
  | .photo => "PHOTO"
  | .mapsTiles => "MAPS_TILES"
  | .findMy => "FIND_MY"
  | .messaging => "MESSAGING"
  | .roadside => "ROADSIDE"
  | .emergencySos => "EMERGENCY_SOS"

/-- The variables of the program, under the keys the planner files them by: whether a region
has a fleet, the airtime of a class in a region, and the congestion of a region. -/
inductive PlanVariable where
  | x (region : Region) (fleet : FleetId)
  | y (region : Region) (trafficClass : TrafficClass)
  | u (region : Region)
  deriving DecidableEq

namespace PlanVariable

/-- The name of a variable, as the source gives it to the solver. -/
def name : PlanVariable → String
  | .x region fleet => "x_" ++ region.value ++ "_" ++ fleet.value
  | .y region trafficClass => "y_" ++ region.value ++ "_" ++ trafficClass.name
  | .u region => "u_" ++ region.value

/-- `solver.BoolVar`. -/
def boolVar (index : PlanVariable) : Declaration ℚ PlanVariable :=
  { index := index, name := index.name, lower := 0, upper := some 1, integral := true }

/-- `solver.NumVar` from zero. -/
def numVar (index : PlanVariable) (upper : Option ℚ) : Declaration ℚ PlanVariable :=
  { index := index, name := index.name, lower := 0, upper := upper, integral := false }

end PlanVariable

/-- How a solve ends. -/
inductive ResultStatus where
  | optimal
  | feasible
  | infeasible
  | unbounded
  | abnormal
  | modelInvalid
  | notSolved
  deriving DecidableEq

/-- OR-Tools as one planning call meets it: whether the backend of a name can be created, and
what a solve under a time limit in milliseconds reports, with the values to be read from the
variables. `none` is a call that raises, at whichever of its steps. Nothing is assumed of it
here; assumptions are named where they are used. -/
structure Pywraplp where
  createSolver : String → Bool
  solve : ℤ → Program ℚ PlanVariable → Option (ResultStatus × (PlanVariable → ℚ))

/-- The statuses with values to be read. -/
def ResultStatus.usable (status : ResultStatus) : Bool :=
  decide (status = .optimal ∨ status = .feasible)

/-- With a usable status, OR-Tools has found an assignment that satisfies the program. Solvers
work to a tolerance; this is the exact reading of their promise. -/
def Pywraplp.Exact (ortools : Pywraplp) : Prop :=
  ∀ limit program status values, ortools.solve limit program = some (status, values) →
    status.usable = true → program.Feasible values

namespace PlanningWindow

variable (window : PlanningWindow)

/-- `_fairness_bonus`: how far a class's share of the service trails its share of the demand. -/
def fairnessBonus : Dict TrafficClass ℚ :=
  let served := window.servedByClass
  let servedTotal := served.values.sum
  Dict.ofPairs (window.demandShares.entries.map (fun entry =>
    let servedShare : ℚ := if 0 < servedTotal then served.getD entry.1 0 / servedTotal else 0
    (entry.1, clampUnit (entry.2 - servedShare))))

end PlanningWindow

/-- `_region_pressure_share`: each region's share of the demand in these regions. -/
def regionPressureShare (demand : Dict (Region × TrafficClass) ℚ) (regions : List Region) :
    Dict Region ℚ :=
  let perRegion := (demand.entries.filter
      (fun entry => decide (entry.1.1 ∈ regions ∧ 0 < entry.2))).foldl
    (fun perRegion entry => perRegion.bump entry.1.1 entry.2)
    (Dict.ofPairs (regions.map (fun region => (region, (0 : ℚ)))))
  let total := perRegion.values.sum
  if total ≤ 0 then Dict.ofPairs (regions.map (fun region => (region, 0)))
  else Dict.ofPairs (regions.map (fun region => (region, perRegion.getD region 0 / total)))

namespace CapTable

variable (capTable : Dict Region (Dict FleetId ℚ))

/-- `cap_table[r]`, for a region of the table. -/
def perFleet (region : Region) : Dict FleetId ℚ := capTable.getD region Dict.empty

/-- The regions of the table in the order of their names. -/
def regions : List Region :=
  capTable.keys.insertionSort (fun left right => left.value ≤ right.value)

/-- The fleets of the table in the order of their names, each once. -/
def fleets : List FleetId :=
  (capTable.values.flatMap Dict.keys).dedup.insertionSort
    (fun left right => left.value ≤ right.value)

/-- A fleet's part of the regions, rounded up, and one more. -/
def maxPerFleet : ℤ := ⌈((regions capTable).length : ℚ) / (fleets capTable).length⌉ + 1

/-- The capacity a region is assigned, linear in the assignment. -/
def capExpr (region : Region) : Expr ℚ PlanVariable :=
  Expr.sum ((perFleet capTable region).entries.map (fun entry =>
    Expr.scale entry.2 (Expr.var (.x region entry.1))))

/-- Each region gets exactly one fleet. -/
def assignment (region : Region) : Constraint ℚ PlanVariable where
  left := Expr.sum ((perFleet capTable region).keys.map (fun fleet => Expr.var (.x region fleet)))
  sense := .exactly
  right := Expr.number 1

/-- The regions where a fleet can be assigned. -/
def within (fleet : FleetId) : List Region :=
  (regions capTable).filter (fun region => decide (fleet ∈ (perFleet capTable region).keys))

/-- A fleet gets no more regions than its part and one. -/
def balance (fleet : FleetId) : Constraint ℚ PlanVariable where
  left := Expr.sum ((within capTable fleet).map (fun region => Expr.var (.x region fleet)))
  sense := .atMost
  right := Expr.number (maxPerFleet capTable)

/-- The demands that get a budget variable. -/
def requested (demand : Dict (Region × TrafficClass) ℚ) : List ((Region × TrafficClass) × ℚ) :=
  demand.entries.filter (fun entry => decide (entry.1.1 ∈ capTable.keys ∧ 0 < entry.2))

/-- The classes with a budget variable, by region. -/
def regionClasses (demand : Dict (Region × TrafficClass) ℚ) : Dict Region (List TrafficClass) :=
  (requested capTable demand).foldl (fun table entry =>
    table.set entry.1.1 (table.getD entry.1.1 [] ++ [entry.1.2])) Dict.empty

/-- The airtime budgeted in a region, over its classes. -/
def servedIn (region : Region) (classes : List TrafficClass) : Expr ℚ PlanVariable :=
  Expr.sum (classes.map (fun trafficClass => Expr.var (.y region trafficClass)))

/-- Budgets stay within the assigned capacity, and what exceeds its soft part is congestion. -/
def coupling (softUtilization : ℚ) (region : Region) (classes : List TrafficClass) :
    List (Constraint ℚ PlanVariable) :=
  [{ left := servedIn region classes, sense := .atMost, right := capExpr capTable region },
   { left := Expr.var (.u region), sense := .atLeast,
     right := Expr.minus (servedIn region classes)
       (Expr.scale softUtilization (capExpr capTable region)) }]

end CapTable

/-- The parameters of the planner: those of the heuristic one, the time limit and the weights of
the objective. -/
structure SolverOptimizer where
  validForSteps : ℤ := 1
  timeLimitS : ℚ := 1 / 2
  utilClamp : WithTop ℚ := ((10 : ℚ) : WithTop ℚ)
  fairnessMin : ℚ := 1 / 2
  fairnessMax : ℚ := 3 / 2
  servedWeight : ℚ := 1
  fairnessBonusWeight : ℚ := 3 / 10
  assignmentWeight : ℚ := 1 / 5
  switchingPenaltyWeight : ℚ := 1 / 2
  congestionPenaltyWeight : ℚ := 1 / 10
  softUtilization : ℚ := 9 / 10

/-- What `_solve` gives back to `plan`. -/
inductive SolveReply where
  | raised
  | unsolved
  | solved (plan : ResourcePlan)
  deriving DecidableEq

namespace SolverOptimizer

variable (planner : SolverOptimizer)

/-- The heuristic planner under the same parameters, for calls that are not solved. -/
def fallback : HeuristicOptimizer where
  validForSteps := planner.validForSteps
  utilClamp := planner.utilClamp
  fairnessMin := planner.fairnessMin
  fairnessMax := planner.fairnessMax

/-- `int(self._time_limit_s * 1000)`, cut towards zero. -/
def timeLimitMs : ℤ := (planner.timeLimitS * 1000).num.tdiv (planner.timeLimitS * 1000).den

section Model

open CapTable

variable (prevHints : Dict Region FleetId) (window : PlanningWindow)
variable (capTable : Dict Region (Dict FleetId ℚ))

/-- Served airtime, by priority and by how far the class trails. -/
def serveTerms : List (Expr ℚ PlanVariable) :=
  (requested capTable window.recentDemandByRegion).map (fun entry =>
    Expr.scale (planner.servedWeight * ((entry.1.2.value : ℚ) / maxPriority) +
        planner.fairnessBonusWeight * window.fairnessBonus.getD entry.1.2 0)
      (Expr.var (.y entry.1.1 entry.1.2)))

/-- Capacity where the demand presses. -/
def assignTerms : List (Expr ℚ PlanVariable) :=
  let pressure := regionPressureShare window.recentDemandByRegion (regions capTable)
  (regions capTable).flatMap (fun region =>
    (perFleet capTable region).entries.map (fun entry =>
      Expr.scale (planner.assignmentWeight * entry.2 * pressure.getD region 0)
        (Expr.var (.x region entry.1))))

/-- A fleet other than the last one assigned to the region is a switch. -/
def switchTerms : List (Expr ℚ PlanVariable) :=
  (regions capTable).flatMap (fun region =>
    match prevHints.get? region with
    | none => []
    | some previous =>
        ((perFleet capTable region).keys.filter (fun fleet => decide (fleet ≠ previous))).map
          (fun fleet => Expr.scale (-planner.switchingPenaltyWeight) (Expr.var (.x region fleet))))

/-- The penalty on congestion, for each region with budgets. -/
def congTerms : List (Expr ℚ PlanVariable) :=
  (regionClasses capTable window.recentDemandByRegion).keys.map (fun region =>
    Expr.scale (-planner.congestionPenaltyWeight) (Expr.var (.u region)))

/-- The program of a window, its parts in the order in which the source adds them. Names, bounds
and integrality are those of the source. -/
def program : Program ℚ PlanVariable where
  declarations :=
    ((regions capTable).flatMap (fun region => (perFleet capTable region).keys.map (fun fleet =>
        PlanVariable.boolVar (.x region fleet)))) ++
      (requested capTable window.recentDemandByRegion).map (fun entry =>
        PlanVariable.numVar (.y entry.1.1 entry.1.2) (some entry.2)) ++
      (regionClasses capTable window.recentDemandByRegion).keys.map (fun region =>
        PlanVariable.numVar (.u region) none)
  constraints :=
    (regions capTable).map (assignment capTable) ++
      ((fleets capTable).filter (fun fleet => !(within capTable fleet).isEmpty)).map
        (balance capTable) ++
      (regionClasses capTable window.recentDemandByRegion).entries.flatMap (fun entry =>
        coupling capTable planner.softUtilization entry.1 entry.2)
  objective := Expr.sum (planner.serveTerms window capTable ++
    planner.assignTerms window capTable ++ planner.switchTerms prevHints capTable ++
    planner.congTerms window capTable)

end Model

section Extraction

open CapTable

variable (window : PlanningWindow) (capTable : Dict Region (Dict FleetId ℚ))
variable (values : PlanVariable → ℚ)

/-- The first fleet of a region whose variable is past one half. -/
def assigned (region : Region) : Option FleetId :=
  (perFleet capTable region).keys.find? (fun fleet => decide (1 / 2 < values (.x region fleet)))

/-- For each region the fleet it is assigned. -/
def hints : Dict Region FleetId :=
  Dict.ofPairs ((regions capTable).filterMap (fun region =>
    (assigned capTable values region).map (fun fleet => (region, fleet))))

/-- The budgets that are more than noise. -/
def granted : List ((Region × TrafficClass) × ℚ) :=
  ((requested capTable window.recentDemandByRegion).map (fun entry =>
      (entry.1, values (.y entry.1.1 entry.1.2)))).filter
    (fun entry => decide (1 / 1000000000 < entry.2))

/-- The granted budgets by region and class. -/
def regionBudgets : Dict (Region × TrafficClass) ℚ :=
  Dict.ofPairs (granted window capTable values)

/-- The granted budgets by class, over the regions. -/
def budgets : Dict TrafficClass ℚ :=
  Dict.tally ((granted window capTable values).map (fun entry => (entry.1.2, entry.2)))

/-- The less of its demand a class is budgeted, the more it weighs. -/
def fairness : Dict TrafficClass ℚ :=
  Dict.ofPairs (((requested capTable window.recentDemandByRegion).map
      (fun entry => entry.1.2)).dedup.map (fun trafficClass =>
    let demand := window.recentDemandUnits.getD trafficClass 0
    let fill := if 0 < demand then (budgets window capTable values).getD trafficClass 0 / demand
      else 1
    (trafficClass,
      clamp (planner.fairnessMax - 1 / 2 * fill) planner.fairnessMin planner.fairnessMax)))

/-- The plan read off the values of the variables. -/
def extract : ResourcePlan :=
  { generatedAtStep := window.step
    validForSteps := planner.validForSteps
    admissionCurve := admissionCurve (window.meanUtilization planner.utilClamp) window.meanDropRate
    fairnessWeights := planner.fairness window capTable values
    airtimeBudgets := budgets window capTable values
    regionClassBudgets := regionBudgets window capTable values
    fleetHints := hints capTable values }

end Extraction

/-- `_solve`. Without OR-Tools its import raises; a window without capacity, a backend that
is not there and a status without values leave the window unsolved. -/
def solve (prevHints : Dict Region FleetId) (ortools : Option Pywraplp)
    (window : PlanningWindow) : SolveReply :=
  match ortools with
  | none => .raised
  | some ortools =>
      let capTable := capacityByRegionFleet window.snapshot
      if window.snapshot.totalCapacity ≤ 0 ∨ capTable.entries.isEmpty then .unsolved
      else if !ortools.createSolver "CBC" then .unsolved
      else
        match ortools.solve planner.timeLimitMs (planner.program prevHints window capTable) with
        | none => .raised
        | some (status, values) =>
            if status.usable then .solved (planner.extract window capTable values) else .unsolved

/-- A plan, and the hints to be remembered for the next run's switching penalty. Only a solved
plan replaces them; a call that falls back leaves them as they were. -/
def plan (ortools : Option Pywraplp) (prevHints : Dict Region FleetId)
    (window : PlanningWindow) : ResourcePlan × Dict Region FleetId :=
  match planner.solve prevHints ortools window with
  | .solved plan => (plan, plan.fleetHints)
  | _ => (planner.fallback.plan window, prevHints)

/-- The solver planner that a configuration selects. -/
def ofConfig (config : OptimizerConfig) : SolverOptimizer where
  validForSteps := config.cadenceSteps
  timeLimitS := config.solverTimeLimitS
  utilClamp := config.utilizationClamp
  fairnessMin := config.fairnessWeightMin
  fairnessMax := config.fairnessWeightMax
  servedWeight := config.servedWeight
  fairnessBonusWeight := config.fairnessBonusWeight
  assignmentWeight := config.assignmentWeight
  switchingPenaltyWeight := config.switchingPenaltyWeight
  congestionPenaltyWeight := config.congestionPenaltyWeight
  softUtilization := config.softUtilization

/-- The planner as the loop sees it, with one OR-Tools for every call. -/
def optimizer (ortools : Option Pywraplp) : Optimizer (Dict Region FleetId) where
  plan prevHints window := planner.plan ortools prevHints window

end SolverOptimizer

end Satsim
