import Satsim.Admission.Monotone
import Satsim.Optimization.Direction
import Satsim.Runtime.Wiring

/-!
# What the learning planner learns from

The loop re-plans on a cadence, keeps a bounded history of counters, and the adaptive
planner reads the end of that history. These three fit together: each re-plan learns from
the last steps since the re-plan before it, which all ran under the plan broadcast then,
and from no step twice.

The invariant is about the run and its lessons side by side. What a lesson does to the
curve belongs to the planner and is proved there; here it matters which counters reach
it, under which plan they arose, and that none comes twice.
-/

namespace Satsim

open Library

namespace ControlLoop

section Replanning

variable {σ π φ ο : Type} (loop : ControlLoop σ π φ ο)

/-- The window the planner would see at a step. It holds the histories as the step before has
left them. -/
def windowAt (t : ℤ) (snapshot : ConstellationSnapshot) (state : LoopState σ π φ ο) :
    PlanningWindow :=
  let byRegion := aggregateDemandByRegion state.recentDemand
  { step := t
    snapshot := snapshot
    recentCongestion := state.recentCongestion
    recentDemandUnits := Dict.tally (byRegion.entries.map (fun entry => (entry.1.2, entry.2)))
    recentDemandByRegion := byRegion
    recentCounters := state.recentCounters }

/-- Off the cadence nothing is planned. -/
theorem maybeReplan_off (t : ℤ) (snapshot : ConstellationSnapshot) (state : LoopState σ π φ ο)
    (off : t % loop.config.optimizer.cadenceSteps ≠ 0) :
    loop.maybeReplan t snapshot state = state := by
  rw [maybeReplan, if_pos off]

/-- On the cadence the plan is the planner's, and the controller adopts it in the same step. -/
theorem maybeReplan_due (t : ℤ) (snapshot : ConstellationSnapshot) (state : LoopState σ π φ ο)
    (due : t % loop.config.optimizer.cadenceSteps = 0) :
    loop.maybeReplan t snapshot state =
      { state with
        plan := (loop.optimizer.plan state.optimizer (windowAt t snapshot state)).1
        optimizer := (loop.optimizer.plan state.optimizer (windowAt t snapshot state)).2
        admission := state.admission.updatePolicy
          (loop.optimizer.plan state.optimizer (windowAt t snapshot state)).1 } := by
  rw [maybeReplan, if_neg (not_not.mpr due)]
  rfl

/-- A bounded history is the end of everything that happened. This turns the deque of the source
into a suffix, which is what the results below speak of. -/
theorem remember_recent {α : Type} (history items : List α) (item : α)
    (recent : history = items.drop (items.length - loop.config.overload.historyCapacity.toNat)) :
    loop.remember history item = (items ++ [item]).drop
      ((items ++ [item]).length - loop.config.overload.historyCapacity.toNat) := by
  have positive := loop.config.overload.historyPositive
  subst recent
  rw [remember, List.length_drop, List.length_append, List.length_singleton]
  cases Nat.lt_or_ge items.length loop.config.overload.historyCapacity.toNat with
  | inl room =>
    rw [Nat.sub_eq_zero_of_le room.le, List.drop_zero]
    congr 1
  | inr full =>
    rw [List.drop_append_of_le_length (by simp; omega), List.drop_drop,
      List.drop_append_of_le_length (by omega)]
    congr 2
    omega

/-- The congestion of a step carries the drop rate of the step before, since that of the step
itself is not known yet. -/
theorem step_congestion (t : ℤ) (state next : LoopState σ π φ ο) (trace : StepTrace)
    (stepped : loop.step t state = some (next, trace)) :
    trace.congestion.dropRate = state.lastDropRate := by
  have frame : ∀ snapshot breakers,
      (loop.maybeReplan t snapshot { state with breakers := breakers }).lastDropRate =
        state.lastDropRate := by
    intro snapshot breakers
    unfold maybeReplan
    split <;> rfl
  simp only [step, Option.bind_eq_bind, Option.bind_eq_some_iff, Option.pure_def,
    Option.some.injEq, Prod.mk.injEq, Prod.exists] at stepped
  obtain ⟨_, _, _, _, _, rfl, rfl⟩ := stepped
  exact frame _ _

/-- A drop rate is a quotient of counts. -/
theorem dropRate_nonneg (counters : StepCounters) : 0 ≤ dropRate counters := by
  simp only [dropRate]
  split
  · positivity
  · exact le_refl 0

/-- Every window that a loop can build reports collapse risks that count from zero. It is what a
planner may rely on, and the loop has to show. -/
theorem run_measured (source : σ) (scheduler : π) (fallback : φ) (optimizer : ο)
    (admissionRng rng : Rng) (start : ℤ) (count : ℕ) (final : LoopState σ π φ ο)
    (traces : List StepTrace)
    (completed : loop.run start count
      (loop.initial source scheduler fallback optimizer admissionRng rng) = some (final, traces))
    (t : ℤ) (snapshot : ConstellationSnapshot) : (windowAt t snapshot final).Measured := by
  have kept := Runs.run_invariant _ (fun _ _ (state : LoopState σ π φ ο) =>
      0 ≤ state.lastDropRate ∧ ∀ counters ∈ state.recentCounters, 0 ≤ counters.collapseRisk)
    (loop.initial source scheduler fallback optimizer admissionRng rng) (by simp [initial]) ?_
    count final traces completed
  · exact kept.2
  · rintro count traces state next trace ⟨dropped, measured⟩ stepped
    have remembered := loop.step_remembered _ state next trace stepped
    constructor
    · rw [remembered.lastDropRate]
      exact dropRate_nonneg _
    · intro counters member
      rw [remembered.recentCounters, remember] at member
      cases List.mem_append.mp (List.mem_of_mem_drop member) with
      | inl old => exact measured counters old
      | inr last =>
        obtain rfl := List.mem_singleton.mp last
        rw [(loop.step_inv _ state next trace stepped).counters]
        apply CongestionState.collapseRisk_nonneg
        rw [loop.step_congestion _ state next trace stepped]
        exact dropped

end Replanning

end ControlLoop

/-- The step's admission ran under a plan: the plan in force, and the one the controller flipped
its coins by. That the two agree is a fact about the loop. -/
def StepTrace.RanUnder (trace : StepTrace) (plan : ResourcePlan) : Prop :=
  trace.plan = plan ∧ ∃ rng, trace.admitted = ((AdmissionController.mk rng plan).admitScored
    trace.bestEffort trace.congestion trace.step).1

namespace ControlLoop

variable {σ π φ : Type} (loop : ControlLoop σ π φ AdaptiveState)

/-- The adaptive planner of the loop's configuration. -/
def planner : AdaptiveOptimizer := AdaptiveOptimizer.ofConfig loop.config.optimizer

/-- What the planner learns from in a step: the counters it reads from its window, when it is
asked to plan. A step off the cadence has the empty lesson. -/
def lesson (t : ℤ) (snapshot : ConstellationSnapshot) (state : LoopState σ π φ AdaptiveState) :
    List StepCounters :=
  if t % loop.config.optimizer.cadenceSteps = 0 then
    loop.planner.recent (windowAt t snapshot state)
  else []

/-- The steps from one re-plan to the next. -/
def cadence : ℕ := loop.config.optimizer.cadenceSteps.toNat

/-- How far back a lesson can reach: to the previous re-plan, as far as the history goes. With a
history shorter than the cadence some steps are never learned from. -/
def horizon : ℕ := min loop.cadence loop.config.overload.historyCapacity.toNat

/-- The last step, of a number of steps, at which the loop re-planned. -/
def latestReplan (count : ℕ) : ℕ := (count - 1) / loop.cadence * loop.cadence

/-- What a step of a run teaches: at a re-plan after the first, the counters of the last
steps up to the horizon, which ran under the plan broadcast one cadence earlier; otherwise
nothing. -/
def Teaches (traces : List StepTrace) (t : ℕ) (lesson : List StepCounters) : Prop :=
  if 0 < t ∧ t % loop.cadence = 0 then
    lesson = ((traces.take t).drop (t - loop.horizon)).map StepTrace.counters ∧
      ∃ broadcast, traces[t - loop.cadence]? = some broadcast ∧
        broadcast.plan.generatedAtStep = t - loop.cadence ∧
        ∀ trace ∈ (traces.take t).drop (t - loop.horizon), trace.RanUnder broadcast.plan
  else lesson = []

/-- A step of the loop, observed together with what was learned in it. Observation changes
nothing: forgetting the lessons leaves the run. -/
def attended (t : ℤ) (state : LoopState σ π φ AdaptiveState) :
    Option (LoopState σ π φ AdaptiveState × StepTrace × List StepCounters) :=
  (loop.step t state).map (fun (next, trace) =>
    (next, trace, loop.lesson t trace.snapshot state))

/-- The validators ask for a positive cadence. -/
theorem cadence_pos : 0 < loop.cadence := by
  have positive := loop.config.optimizer.cadencePositive
  rw [cadence]
  omega

/-- The remainder of the source, on integers, is that on the count of the steps. -/
theorem due_iff (count : ℕ) :
    (0 + (count : ℤ)) % loop.config.optimizer.cadenceSteps = 0 ↔ count % loop.cadence = 0 := by
  have positive := loop.config.optimizer.cadencePositive
  have cast : loop.config.optimizer.cadenceSteps = (loop.cadence : ℤ) := by
    rw [cadence, Int.toNat_of_nonneg positive.le]
  rw [cast, zero_add]
  exact_mod_cast Iff.rfl

/-- The last re-plan is not in the future. -/
theorem latestReplan_le (count : ℕ) : loop.latestReplan count ≤ count :=
  (Nat.div_mul_le_self _ _).trans (Nat.sub_le _ _)

/-- The step after a multiple of the cadence has just re-planned. -/
theorem latestReplan_due (count : ℕ) (due : count % loop.cadence = 0) :
    loop.latestReplan (count + 1) = count := by
  rw [latestReplan, Nat.add_sub_cancel]
  exact Nat.div_mul_cancel (Nat.dvd_of_mod_eq_zero due)

/-- Off the cadence the last re-plan stays what it was. -/
theorem latestReplan_off (count : ℕ) (off : count % loop.cadence ≠ 0) :
    loop.latestReplan (count + 1) = loop.latestReplan count := by
  obtain ⟨before, rfl⟩ : ∃ before, count = before + 1 := by
    apply Nat.exists_eq_succ_of_ne_zero
    rintro rfl
    exact off (Nat.zero_mod _)
  rw [latestReplan, latestReplan, Nat.add_sub_cancel, Nat.add_sub_cancel,
    Nat.succ_div_of_not_dvd (fun divides => off (Nat.mod_eq_zero_of_dvd divides))]

/-- When a re-plan is due, the one before it was a cadence ago. -/
theorem latestReplan_previous (count : ℕ) (later : 0 < count) (due : count % loop.cadence = 0) :
    loop.cadence ≤ count ∧ loop.latestReplan count = count - loop.cadence := by
  obtain ⟨rounds, rfl⟩ := Nat.dvd_of_mod_eq_zero due
  have positive := loop.cadence_pos
  obtain ⟨earlier, rfl⟩ : ∃ earlier, rounds = earlier + 1 := by
    apply Nat.exists_eq_succ_of_ne_zero
    rintro rfl
    exact absurd later (by simp)
  constructor
  · exact Nat.le_mul_of_pos_right _ (Nat.succ_pos _)
  · have quotient : (loop.cadence * (earlier + 1) - 1) / loop.cadence = earlier := by
      apply Nat.div_eq_of_lt_le
      · rw [Nat.mul_comm, Nat.mul_succ]
        omega
      · rw [Nat.mul_comm, Nat.succ_mul]
        have split : (earlier + 1) * loop.cadence = earlier * loop.cadence + loop.cadence :=
          Nat.succ_mul _ _
        omega
    rw [latestReplan, quotient, Nat.mul_succ, Nat.add_sub_cancel, Nat.mul_comm]

/-- What holds after some steps of a run, observed with their lessons. The counters recorded are
the end of those of the run; the steps since the last re-plan ran under the plan in force; and
the lessons so far, in order, are what the planner's memory was folded from. -/
structure Attends (count : ℕ) (traces : List StepTrace) (lessons : List (List StepCounters))
    (state : LoopState σ π φ AdaptiveState) : Prop where
  counted : traces.length = count ∧ lessons.length = count
  numbered : traces.map (fun trace => trace.counters.step) =
    (List.range count).map (fun (i : ℕ) => (i : ℤ))
  recorded : state.recentCounters = (traces.map StepTrace.counters).drop
    ((traces.map StepTrace.counters).length - loop.config.overload.historyCapacity.toNat)
  broadcast : state.admission.plan = state.plan
  governed : ∀ trace ∈ traces.drop (loop.latestReplan count), trace.RanUnder state.plan
  planned : 0 < count → state.plan.generatedAtStep = loop.latestReplan count
  learned : state.optimizer = lessons.foldl loop.planner.learnFrom loop.planner.initial
  taught : ∀ t lesson, lessons[t]? = some lesson → loop.Teaches traces t lesson
  rising : (lessons.flatten.map StepCounters.step).Pairwise (· < ·)
  past : ∀ counters ∈ lessons.flatten, counters.step < loop.latestReplan count
  complete : loop.cadence ≤ loop.config.overload.historyCapacity.toNat →
    lessons.flatten = (traces.take (loop.latestReplan count)).map StepTrace.counters

section Invariant

variable {loop} {count : ℕ} {traces : List StepTrace} {lessons : List (List StepCounters)}
  {state : LoopState σ π φ AdaptiveState}

/-- A due lesson is the end of the history, as far back as the horizon. -/
theorem Attends.lesson_due (attends : loop.Attends count traces lessons state) (later : 0 < count)
    (due : count % loop.cadence = 0) (snapshot : ConstellationSnapshot) :
    loop.lesson (0 + count) snapshot state =
      (traces.drop (count - loop.horizon)).map StepTrace.counters := by
  have positive := loop.config.optimizer.cadencePositive
  have reached := (loop.latestReplan_previous count later due).1
  have read : loop.planner.recent (windowAt (0 + count) snapshot state) =
      lastItems loop.config.optimizer.cadenceSteps state.recentCounters := rfl
  rw [lesson, if_pos ((loop.due_iff count).mpr due), read, lastItems, if_pos positive,
    attends.recorded, List.drop_drop, List.map_drop, List.length_drop, List.length_map,
    attends.counted.1]
  congr 1
  rw [horizon]
  unfold cadence at *
  omega

/-- Off the cadence nothing is learned, and at the first re-plan nothing has been recorded. The
empty lesson leaves the planner's memory as it is. -/
theorem Attends.lesson_idle (attends : loop.Attends count traces lessons state)
    (idle : ¬ (0 < count ∧ count % loop.cadence = 0)) (snapshot : ConstellationSnapshot) :
    loop.lesson (0 + count) snapshot state = [] := by
  by_cases due : count % loop.cadence = 0
  · obtain rfl : count = 0 := Nat.eq_zero_of_not_pos (fun later => idle ⟨later, due⟩)
    have recorded := attends.recorded
    have read : loop.planner.recent (windowAt (0 + (0 : ℕ)) snapshot state) =
        lastItems loop.config.optimizer.cadenceSteps state.recentCounters := rfl
    rw [List.length_eq_zero_iff.mp attends.counted.1] at recorded
    rw [lesson, read, recorded]
    simp [lastItems]
  · rw [lesson, if_neg (fun landed => due ((loop.due_iff count).mp landed))]

/-- The counters from some step of the run on have the numbers of those steps. -/
theorem Attends.numbered_from (attends : loop.Attends count traces lessons state) (start : ℕ) :
    (((traces.drop start).map StepTrace.counters).map StepCounters.step).Pairwise (· < ·) ∧
      ∀ counters ∈ (traces.drop start).map StepTrace.counters,
        (start : ℤ) ≤ counters.step ∧ counters.step < count := by
  have numbers : ((traces.drop start).map StepTrace.counters).map StepCounters.step =
      (List.range' start (count - start)).map (fun (i : ℕ) => (i : ℤ)) := by
    rw [List.map_map, List.map_drop]
    refine (congrArg (List.drop start) attends.numbered).trans ?_
    rw [← List.map_drop, List.range_eq_range', List.drop_range']
    simp
  constructor
  · rw [numbers, List.pairwise_map]
    refine (List.pairwise_lt_range' 1 Nat.zero_lt_one).imp ?_
    intro i j ordered
    exact_mod_cast ordered
  · intro counters member
    have listed := List.mem_map_of_mem (f := StepCounters.step) member
    rw [numbers] at listed
    obtain ⟨i, inside, same⟩ := List.mem_map.mp listed
    have bounds := List.mem_range'_1.mp inside
    omega

/-- A lesson of an earlier step is not changed by a later one, since it only looks at the traces
before it. -/
theorem Teaches.append (trace : StepTrace) (t : ℕ) (lesson : List StepCounters)
    (inside : t < traces.length) (teaches : loop.Teaches traces t lesson) :
    loop.Teaches (traces ++ [trace]) t lesson := by
  unfold Teaches at *
  rw [List.take_append_of_le_length inside.le]
  split at teaches
  · rename_i due
    obtain ⟨learned, broadcast, found, rest⟩ := teaches
    rw [if_pos due]
    refine ⟨learned, broadcast, ?_, rest⟩
    rw [List.getElem?_append_left (by omega), found]
  · rename_i idle
    rw [if_neg idle]
    exact teaches

/-- Without a lesson the planner's log stands; a lesson adds its counters to it. They come after
everything in the log, which is why no step is learned from twice. -/
theorem Attends.log_append (attends : loop.Attends count traces lessons state)
    (trace : StepTrace) (snapshot : ConstellationSnapshot) :
    ((lessons ++ [loop.lesson (0 + count) snapshot state]).flatten.map
        StepCounters.step).Pairwise (· < ·) ∧
      (∀ counters ∈ (lessons ++ [loop.lesson (0 + count) snapshot state]).flatten,
        counters.step < loop.latestReplan (count + 1)) ∧
      (loop.cadence ≤ loop.config.overload.historyCapacity.toNat →
        (lessons ++ [loop.lesson (0 + count) snapshot state]).flatten =
          ((traces ++ [trace]).take (loop.latestReplan (count + 1))).map StepTrace.counters) := by
  have short := loop.latestReplan_le count
  have sized := attends.counted.1
  rw [List.flatten_append, List.flatten_singleton, List.map_append]
  by_cases due : count % loop.cadence = 0
  · rcases Nat.eq_zero_or_pos count with rfl | later
    · have none : lessons = [] := List.length_eq_zero_iff.mp attends.counted.2
      rw [attends.lesson_idle (fun both => absurd both.1 (lt_irrefl 0)),
        loop.latestReplan_due 0 due, none]
      simp
    · obtain ⟨reached, previous⟩ := loop.latestReplan_previous count later due
      obtain ⟨increasing, between⟩ := attends.numbered_from (count - loop.horizon)
      have near : loop.horizon ≤ loop.cadence := min_le_left _ _
      rw [attends.lesson_due later due snapshot, loop.latestReplan_due count due]
      refine ⟨List.pairwise_append.mpr ⟨attends.rising, increasing, ?_⟩, ?_, ?_⟩
      · intro early earlyMember late lateMember
        obtain ⟨first, firstMember, rfl⟩ := List.mem_map.mp earlyMember
        obtain ⟨second, secondMember, rfl⟩ := List.mem_map.mp lateMember
        have before := attends.past first firstMember
        have after := (between second secondMember).1
        omega
      · intro counters member
        cases List.mem_append.mp member with
        | inl early =>
          have before := attends.past counters early
          omega
        | inr late =>
          exact (between counters late).2
      · intro enough
        have reaches : loop.horizon = loop.cadence := min_eq_left enough
        rw [attends.complete enough, previous, reaches, ← List.map_append,
          List.take_append_drop, List.take_append_of_le_length (by omega),
          List.take_of_length_le (by omega)]
  · rw [attends.lesson_idle (fun both => due both.2), loop.latestReplan_off count due,
      List.map_nil, List.append_nil, List.append_nil, List.take_append_of_le_length (by omega)]
    exact ⟨attends.rising, attends.past, attends.complete⟩

/-- The lesson of the next step is what that step teaches. -/
theorem Attends.teaches_now (attends : loop.Attends count traces lessons state)
    (trace : StepTrace) (snapshot : ConstellationSnapshot) :
    loop.Teaches (traces ++ [trace]) count (loop.lesson (0 + count) snapshot state) := by
  have sized := attends.counted.1
  unfold Teaches
  rw [← sized, List.take_left, sized]
  split
  · rename_i due
    obtain ⟨reached, previous⟩ := loop.latestReplan_previous count due.1 due.2
    have near : loop.horizon ≤ loop.cadence := min_le_left _ _
    have positive := loop.cadence_pos
    have inside : count - loop.cadence < traces.length := by omega
    have governed := attends.governed
    have planned := attends.planned due.1
    rw [previous] at governed planned
    have current : (traces.get ⟨count - loop.cadence, inside⟩).plan = state.plan := by
      apply (governed _ _).1
      exact List.mem_drop_iff_getElem.mpr ⟨0, by omega, by simp⟩
    refine ⟨attends.lesson_due due.1 due.2 snapshot,
      traces.get ⟨count - loop.cadence, inside⟩, ?_, ?_, ?_⟩
    · rw [List.getElem?_append_left inside]
      simp
    · rw [current, planned, Nat.cast_sub reached]
    · intro tested member
      rw [current]
      apply governed tested
      have deeper : count - loop.horizon =
          (count - loop.cadence) + (loop.cadence - loop.horizon) := by omega
      rw [deeper, ← List.drop_drop] at member
      exact List.mem_of_mem_drop member
  · rename_i idle
    exact attends.lesson_idle idle snapshot

end Invariant

variable (adaptive : loop.optimizer = loop.planner.optimizer)
include adaptive

/-- One step of a loop whose controller holds the plan in force: the step runs under the plan it
leaves, which is a new one exactly on the cadence, and the planner learns the lesson. The
premise is kept by the step, and holds at the start. -/
theorem step_learns (t : ℤ) (state next : LoopState σ π φ AdaptiveState) (trace : StepTrace)
    (broadcast : state.admission.plan = state.plan)
    (stepped : loop.step t state = some (next, trace)) :
    next.plan = trace.plan ∧ next.admission.plan = trace.plan ∧ trace.RanUnder trace.plan ∧
      (t % loop.config.optimizer.cadenceSteps ≠ 0 → trace.plan = state.plan) ∧
      (t % loop.config.optimizer.cadenceSteps = 0 → trace.plan.generatedAtStep = t) ∧
      next.optimizer =
        loop.planner.learnFrom state.optimizer (loop.lesson t trace.snapshot state) := by
  have current := (loop.step_inv t state next trace stepped).step
  have remembered := loop.step_remembered t state next trace stepped
  obtain ⟨breakers, plan, optimizer, controller, same, flipped⟩ := remembered.replanned
  obtain ⟨admitted, left⟩ := Prod.mk.inj flipped
  have ran : controller.plan = trace.plan → next.admission.plan = trace.plan ∧
      trace.RanUnder trace.plan := by
    intro held
    constructor
    · rw [left]
      exact held
    · refine ⟨rfl, controller.rng, ?_⟩
      rw [current, admitted, ← held]
      rfl
  by_cases due : t % loop.config.optimizer.cadenceSteps = 0
  · rw [loop.maybeReplan_due t _ _ due] at plan optimizer same
    have held : controller.plan = trace.plan := by
      rw [plan, same]
      rfl
    refine ⟨remembered.plan, (ran held).1, (ran held).2, fun off => absurd due off, ?_, ?_⟩
    · intro _
      rw [plan, adaptive]
      rfl
    · rw [optimizer, lesson, if_pos due, adaptive]
      rfl
  · rw [loop.maybeReplan_off t _ _ due] at plan optimizer same
    have held : controller.plan = trace.plan := by
      rw [plan, same]
      exact broadcast
    refine ⟨remembered.plan, (ran held).1, (ran held).2, fun _ => plan,
      fun landed => absurd landed due, ?_⟩
    rw [optimizer, lesson, if_neg due]
    rfl

/-- Each step extends what holds of a run. The fields of the invariant are extended one by one,
by the lemmas above. -/
theorem Attends.step {count : ℕ} {traces : List StepTrace} {lessons : List (List StepCounters)}
    {state next : LoopState σ π φ AdaptiveState} {trace : StepTrace}
    (attends : loop.Attends count traces lessons state)
    (stepped : loop.step (0 + count) state = some (next, trace)) :
    loop.Attends (count + 1) (traces ++ [trace])
      (lessons ++ [loop.lesson (0 + count) trace.snapshot state]) next := by
  have inverted := loop.step_inv _ state next trace stepped
  have remembered := loop.step_remembered _ state next trace stepped
  obtain ⟨plan, adopted, ran, kept, made, learned⟩ :=
    loop.step_learns adaptive _ state next trace attends.broadcast stepped
  obtain ⟨rising, past, complete⟩ := attends.log_append trace trace.snapshot
  have short := loop.latestReplan_le count
  obtain ⟨sized, taught⟩ := attends.counted
  refine ⟨by simp [sized, taught], ?_, ?_, adopted.trans plan.symm, ?_, ?_, ?_, ?_, rising, past,
    complete⟩
  · have number : trace.counters.step = count := by
      rw [inverted.counters]
      exact zero_add _
    rw [List.map_append, attends.numbered, List.range_succ, List.map_append]
    exact congrArg _ (congrArg (fun number => [number]) number)
  · rw [List.map_append, remembered.recentCounters]
    exact loop.remember_recent _ _ _ attends.recorded
  · rw [plan]
    by_cases due : count % loop.cadence = 0
    · rw [loop.latestReplan_due count due, ← sized, List.drop_left]
      intro tested member
      obtain rfl := List.mem_singleton.mp member
      exact ran
    · have same := kept (fun landed => due ((loop.due_iff count).mp landed))
      rw [loop.latestReplan_off count due, List.drop_append_of_le_length (by omega)]
      intro tested member
      cases List.mem_append.mp member with
      | inl earlier =>
        rw [same]
        exact attends.governed tested earlier
      | inr last =>
        obtain rfl := List.mem_singleton.mp last
        exact ran
  · intro _
    rw [plan]
    by_cases due : count % loop.cadence = 0
    · rw [loop.latestReplan_due count due, made ((loop.due_iff count).mpr due), zero_add]
    · have later : 0 < count := by
        apply Nat.pos_of_ne_zero
        rintro rfl
        exact due (Nat.zero_mod _)
      rw [loop.latestReplan_off count due,
        kept (fun landed => due ((loop.due_iff count).mp landed)), attends.planned later]
  · rw [List.foldl_append, ← attends.learned]
    exact learned
  · intro t lesson found
    cases Nat.lt_or_ge t count with
    | inl before =>
      rw [List.getElem?_append_left (by omega)] at found
      exact (attends.taught t lesson found).append trace t lesson (by omega)
    | inr beyond =>
      rw [List.getElem?_append_right (by omega), List.getElem?_singleton] at found
      split at found
      · rename_i last
        obtain rfl : t = count := by omega
        obtain rfl := Option.some.inj found
        exact attends.teaches_now trace trace.snapshot
      · simp at found

/-- Feedback attribution. In every run of a loop with the adaptive planner of its
configuration, the planner ends where learning the lessons of the steps leads it. The
lesson of a re-plan after the first is the counters of the last steps, up to a cadence and
as far as the history goes, all of which ran under the plan broadcast a cadence earlier;
other steps teach nothing. No step is learned from twice, and with a history that covers a
cadence every step before the latest re-plan is learned from exactly once, in order. -/
theorem feedback_attribution (source : σ) (scheduler : π) (fallback : φ) (admissionRng rng : Rng)
    (count : ℕ) (final : LoopState σ π φ AdaptiveState) (traces : List StepTrace)
    (completed : loop.run 0 count (loop.initial source scheduler fallback loop.planner.initial
      admissionRng rng) = some (final, traces)) :
    traces.map (fun trace => trace.counters.step) =
        (List.range count).map (fun (i : ℕ) => (i : ℤ)) ∧
      ∃ lessons : List (List StepCounters), lessons.length = traces.length ∧
        Runs.run (fun index state => loop.attended (0 + index) state) count
            (loop.initial source scheduler fallback loop.planner.initial admissionRng rng) =
          some (final, traces.zip lessons) ∧
        final.optimizer = lessons.foldl loop.planner.learnFrom loop.planner.initial ∧
        (∀ t lesson, lessons[t]? = some lesson → loop.Teaches traces t lesson) ∧
        (lessons.flatten.map StepCounters.step).Nodup ∧
        (loop.cadence ≤ loop.config.overload.historyCapacity.toNat → lessons.flatten =
          (traces.take (loop.latestReplan count)).map StepTrace.counters) := by
  obtain ⟨lessons, paired, attendedRun⟩ := Runs.run_annotated
    (fun (index : ℕ) state => loop.step (0 + index) state)
    (fun (index : ℕ) state trace => loop.lesson (0 + index) trace.snapshot state)
    count _ final traces completed
  have attends := Runs.run_invariant _
    (fun count seen state => loop.Attends count (seen.map Prod.fst) (seen.map Prod.snd) state)
    _ ?_ ?_ count final (traces.zip lessons) attendedRun
  · rw [List.map_fst_zip paired.ge, List.map_snd_zip paired.le] at attends
    exact ⟨attends.numbered, lessons, paired, attendedRun, attends.learned, attends.taught,
      attends.rising.imp ne_of_lt, attends.complete⟩
  · constructor <;> simp [initial, latestReplan]
  · rintro count seen state next ⟨trace, lesson⟩ attends stepped
    obtain ⟨⟨after, shown⟩, took, same⟩ := Option.map_eq_some_iff.mp stepped
    simp only [Prod.mk.injEq] at same
    obtain ⟨rfl, rfl, rfl⟩ := same
    rw [List.map_append, List.map_append]
    exact attends.step loop adaptive took

end ControlLoop

/-- The small loop with the adaptive planner of its configuration. -/
def learningLoop : ControlLoop (List (List ServiceRequest)) Rng Rng AdaptiveState where
  config := adaptiveConfig
  requestSource := listedSource
  constellations := (buildFakeConstellations adaptiveConfig).map FakeConstellation.toClient
  regulatory := tableRegulatoryPolicy adaptiveConfig.regionRules
  scheduler := (InRepoScheduler.heuristic (1 / 4)).port
  fallbackScheduler := (InRepoScheduler.heuristic (1 / 4)).port
  optimizer := (AdaptiveOptimizer.ofConfig adaptiveConfig.optimizer).optimizer

/-- Its start: twelve photos for the first step, one for the second, and none after. -/
def learningStart : LoopState (List (List ServiceRequest)) Rng Rng AdaptiveState :=
  learningLoop.initial
    [["a", "b", "c", "d", "e", "f", "g", "h", "i", "j", "k", "l"].map fun requestId =>
      smallRequest requestId .photo 5, [smallRequest "m" .photo 5]] evenRng evenRng
    learningLoop.planner.initial evenRng evenRng

/-- The five steps return, which evaluation finds. -/
theorem learningRun_returns : (learningLoop.run 0 5 learningStart).isSome = true := by
  decide +kernel

/-- What they return. -/
def learningRun : LoopState (List (List ServiceRequest)) Rng Rng AdaptiveState × List StepTrace :=
  (learningLoop.run 0 5 learningStart).get learningRun_returns

/-- Five steps with a cadence of two: the first four are learned from, once each. More was
offered in the first than the beam can carry, so every admit probability ends below one. -/
theorem ControlLoop.feedback_attribution_learning : ∃ lessons : List (List StepCounters),
    learningRun.1.optimizer =
        lessons.foldl learningLoop.planner.learnFrom learningLoop.planner.initial ∧
      lessons.flatten = (learningRun.2.take 4).map StepTrace.counters ∧
      learningLoop.planner.initial = ⟨[1, 1, 1, 1, 1, 1, 1, 1], none⟩ ∧
      lessons.foldl learningLoop.planner.learnFrom learningLoop.planner.initial =
        ⟨[1253 / 1280, 6283 / 6400, 6301 / 6400, 6319 / 6400, 6337 / 6400, 1271 / 1280,
          6373 / 6400, 6391 / 6400], some ⟨13 / 40, 1 / 40, 0⟩⟩ := by
  obtain ⟨_, lessons, _, _, learned, _, _, complete⟩ :=
    learningLoop.feedback_attribution rfl _ _ _ _ _ 5 learningRun.1 learningRun.2
      (Option.some_get learningRun_returns).symm
  exact ⟨lessons, learned, complete (by decide), by decide +kernel,
    learned.symm.trans (by decide +kernel)⟩

end Satsim
