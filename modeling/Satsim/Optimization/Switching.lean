import Satsim.Optimization.Coupling

/-!
# What a switch is measured against

The solver planner remembers the hints of its last solved plan and penalises a region's
change of fleet against them. A plan of the fallback comes into force without being
remembered, so the penalty of the next call is measured against an older plan, unless the
two happen to hint alike.

The sequence of calls is arbitrary, and so is what OR-Tools does in each. The condition
is read off the memory before a call and the call itself, never off the plan it
returned.
-/

namespace Satsim

open Library (Dict)
open Library.Linear (Expr)

/-- Two tables that hint the same fleet for each region, in whatever order. -/
def HintAlike (first second : Dict Region FleetId) : Prop :=
  ∀ region, first.get? region = second.get? region

/-- One call of the planner: its window, and OR-Tools as the call meets it. -/
structure SolverCall where
  ortools : Option Pywraplp
  window : PlanningWindow

/-- The hints the planner remembers, and those of the plan it returned last. The second is not
state of the planner; it is what the first is meant to be. -/
structure SwitchingMemory where
  prevHints : Dict Region FleetId := Dict.empty
  inForce : Dict Region FleetId := Dict.empty

/-- The next penalty is measured against the plan in force. -/
def SwitchingMemory.Measured (memory : SwitchingMemory) : Prop :=
  HintAlike memory.prevHints memory.inForce

namespace SolverOptimizer

variable (planner : SolverOptimizer)

/-- One call, keeping both. -/
def step (memory : SwitchingMemory) (call : SolverCall) : SwitchingMemory :=
  let (plan, prevHints) := planner.plan call.ortools memory.prevHints call.window
  { prevHints := prevHints, inForce := plan.fleetHints }

/-- The memory after a sequence of calls, from the one before the first. -/
def after (calls : List SolverCall) : SwitchingMemory := calls.foldl planner.step {}

/-- OR-Tools is there, creates its backend and reports a usable status, on a window with
capacity. -/
def Solvable (prevHints : Dict Region FleetId) (call : SolverCall) : Prop :=
  0 < call.window.snapshot.totalCapacity ∧ ∃ ortools, call.ortools = some ortools ∧
    ortools.createSolver "CBC" = true ∧ ∃ status values,
      ortools.solve planner.timeLimitMs (planner.program prevHints call.window
          (capacityByRegionFleet call.window.snapshot)) = some (status, values) ∧
        status.usable = true

/-- The call is solvable, or the fleets with the most capacity are those remembered. In the
second case the fallback happens to hint what the planner remembers anyway. -/
def Remembers (memory : SwitchingMemory) (call : SolverCall) : Prop :=
  planner.Solvable memory.prevHints call ∨
    HintAlike (fleetHints call.window.snapshot) memory.prevHints

/-- The switching terms read a table of hints region by region. -/
theorem switchTerms_congr (first second : Dict Region FleetId) (alike : HintAlike first second)
    (capTable : Dict Region (Dict FleetId ℚ)) :
    planner.switchTerms first capTable = planner.switchTerms second capTable := by
  simp only [switchTerms, alike _]

/-- Tables that hint alike give the same program. -/
theorem program_congr (first second : Dict Region FleetId) (alike : HintAlike first second)
    (window : PlanningWindow) (capTable : Dict Region (Dict FleetId ℚ)) :
    planner.program first window capTable = planner.program second window capTable := by
  simp only [program, planner.switchTerms_congr first second alike]

/-- A solvable call remembers the plan it returns. -/
theorem plan_solved (prevHints : Dict Region FleetId) (call : SolverCall)
    (solvable : planner.Solvable prevHints call) :
    (planner.plan call.ortools prevHints call.window).2 =
      (planner.plan call.ortools prevHints call.window).1.fleetHints := by
  obtain ⟨capacity, ortools, present, created, status, values, returned, usable⟩ := solvable
  have solved := solve_usable planner prevHints ortools call.window status values capacity created
    returned usable
  rw [plan, present, solved]

/-- A call is solved only when it is solvable. -/
theorem solvable_of_solved (prevHints : Dict Region FleetId) (call : SolverCall)
    (plan : ResourcePlan)
    (solved : planner.solve prevHints call.ortools call.window = .solved plan) :
    planner.Solvable prevHints call := by
  unfold solve at solved
  split at solved
  · simp at solved
  rename_i ortools present
  dsimp only at solved
  split at solved
  · simp at solved
  rename_i capacity
  split at solved
  · simp at solved
  rename_i created
  split at solved
  · simp at solved
  rename_i status values returned
  split at solved
  · rename_i usable
    exact ⟨not_le.mp (not_or.mp capacity).1, ortools, present, by simpa using created, status,
      values, returned, usable⟩
  · simp at solved

/-- Any other call returns the fallback's plan and remembers what it remembered. This is the one
place where memory and plan part. -/
theorem plan_fallback (prevHints : Dict Region FleetId) (call : SolverCall)
    (unsolvable : ¬ planner.Solvable prevHints call) :
    planner.plan call.ortools prevHints call.window =
      (planner.fallback.plan call.window, prevHints) := by
  rw [plan]
  split
  · rename_i plan solved
    exact absurd (planner.solvable_of_solved prevHints call plan solved) unsolvable
  · rfl

/-- After a call the penalty is measured against its plan exactly when the call remembers it. -/
theorem step_measured_iff (memory : SwitchingMemory) (call : SolverCall) :
    (planner.step memory call).Measured ↔ planner.Remembers memory call := by
  by_cases solvable : planner.Solvable memory.prevHints call
  · have same := planner.plan_solved memory.prevHints call solvable
    refine iff_of_true ?_ (Or.inl solvable)
    intro region
    simp only [step, same]
  · have fallen := planner.plan_fallback memory.prevHints call solvable
    simp only [SwitchingMemory.Measured, Remembers, solvable, false_or, step, fallen]
    exact forall_congr' (fun region => eq_comm)

/-- One call more is a call after the earlier ones. -/
theorem after_append (earlier : List SolverCall) (call : SolverCall) :
    planner.after (earlier ++ [call]) = planner.step (planner.after earlier) call := by
  simp [after]

/-- In a sequence where every call that has a successor remembers its plan, each call is
measured against the plan in force. -/
theorem after_measured (calls : List SolverCall)
    (remembers : ∀ earlier call next later, calls = earlier ++ call :: next :: later →
      planner.Remembers (planner.after earlier) call)
    (earlier : List SolverCall) (call : SolverCall) (later : List SolverCall)
    (split : calls = earlier ++ call :: later) : (planner.after earlier).Measured := by
  -- before the first call both tables are empty; afterwards the last call decides
  induction earlier using List.reverseRecOn with
  | nil => exact fun region => rfl
  | append_singleton before last _ =>
    rw [after_append, step_measured_iff]
    exact remembers before last call later (by simp [split])

/-- There each call solves the program whose switching terms name the plan in force. -/
theorem program_in_force (calls : List SolverCall)
    (remembers : ∀ earlier call next later, calls = earlier ++ call :: next :: later →
      planner.Remembers (planner.after earlier) call)
    (earlier : List SolverCall) (call : SolverCall) (later : List SolverCall)
    (split : calls = earlier ++ call :: later) :
    planner.program (planner.after earlier).prevHints call.window
        (capacityByRegionFleet call.window.snapshot) =
      planner.program (planner.after earlier).inForce call.window
        (capacityByRegionFleet call.window.snapshot) :=
  planner.program_congr _ _ (planner.after_measured calls remembers earlier call later split) _ _

/-- Switching is measured against the plan in force, at every call of a sequence, exactly when
every call that has a successor is solvable or its fallback would hint what is already
remembered. -/
theorem switching_measured_iff (calls : List SolverCall) :
    (∀ earlier call later, calls = earlier ++ call :: later →
        (planner.after earlier).Measured) ↔
      ∀ earlier call next later, calls = earlier ++ call :: next :: later →
        planner.Remembers (planner.after earlier) call := by
  refine ⟨?_, planner.after_measured calls⟩
  intro measured earlier call next later split
  have here := measured (earlier ++ [call]) next later (by simp [split])
  rw [after_append, step_measured_iff] at here
  exact here

/-- A first call without OR-Tools puts the fallback's plan in force and remembers nothing. -/
theorem fallback_forgotten :
    ¬ ∀ (planner : SolverOptimizer) (calls : List SolverCall) (earlier : List SolverCall)
        (call : SolverCall) (later : List SolverCall), calls = earlier ++ call :: later →
      (planner.after earlier).Measured := by
  intro measured
  have second := measured {} [⟨none, contestedWindow⟩,
      ⟨some (Pywraplp.guessing contestedGuess), contestedWindow⟩]
    [⟨none, contestedWindow⟩] ⟨some (Pywraplp.guessing contestedGuess), contestedWindow⟩ [] rfl .na
  exact absurd second (by decide +kernel)

end SolverOptimizer

end Satsim
