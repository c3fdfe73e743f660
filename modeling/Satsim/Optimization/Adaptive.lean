import Satsim.Domain.Curves
import Satsim.Optimization.Heuristic

/-!
# The learning planner

The admit probability of each score bucket is persistent state, nudged from the realized
outcome of the curve that was last broadcast: raised when traffic was shed while beams sat
idle, lowered under collapse. Only the admission curve is learned; the rest of the plan is
the heuristic planner's.

The model of learning is the code's own arithmetic. Nothing is assumed about the
feedback: the invariants below hold after any windows whatever, including empty ones and
windows with counters that no loop would produce.
-/

namespace Satsim

/-- The feedback signals, of one window or smoothed over the windows so far. -/
structure Signals where
  utilization : ℚ
  collapse : ℚ
  shed : ℚ
  deriving DecidableEq, Repr

/-- What the planner remembers: its buckets' probabilities, and the smoothed signals once a
window has carried counters. Before that there is nothing to smooth with. -/
structure AdaptiveState where
  p : List ℚ
  ewma : Option Signals
  deriving DecidableEq, Repr

/-- The parameters of the planner, as a configuration accepts them. -/
structure AdaptiveOptimizer where
  validForSteps : ℤ := 1
  buckets : ℤ := 8
  learningRate : ℚ := 3 / 10
  signalSmoothing : ℚ := 1 / 2
  floorMin : ℚ := 1 / 20
  collapsePenalty : ℚ := 1
  utilClamp : WithTop ℚ := ((10 : ℚ) : WithTop ℚ)
  fairnessMin : ℚ := 1 / 2
  fairnessMax : ℚ := 3 / 2
  bucketsPositive : 1 ≤ buckets := by norm_num
  learningRange : 0 < learningRate ∧ learningRate ≤ 1 := by norm_num
  smoothingRange : 0 < signalSmoothing ∧ signalSmoothing ≤ 1 := by norm_num
  floorRange : 0 ≤ floorMin ∧ floorMin ≤ 1 := by norm_num
  penaltyNonneg : 0 ≤ collapsePenalty := by norm_num

/-- `items[-count:]`: the last items, or for a count that is not positive those from its
absolute value on. -/
def lastItems {α : Type} (count : ℤ) (items : List α) : List α :=
  if 0 < count then items.drop (items.length - count.toNat) else items.drop (-count).toNat

/-- The running maximum of a list. -/
def runningMax : List ℚ → List ℚ
  | [] => []
  | first :: rest => rest.scanl (fun previous value => max value previous) first

namespace AdaptiveOptimizer

variable (planner : AdaptiveOptimizer)

/-- The heuristic planner that supplies the rest of the plan. -/
def base : HeuristicOptimizer where
  validForSteps := planner.validForSteps
  utilClamp := planner.utilClamp
  fairnessMin := planner.fairnessMin
  fairnessMax := planner.fairnessMax

/-- The midpoints of the score buckets. -/
def mids : List ℚ :=
  (List.range planner.buckets.toNat).map (fun (i : ℕ) => ((i : ℚ) + 1 / 2) / (planner.buckets : ℚ))

/-- A lower score moves more. Every grade is positive, so no bucket stands still under a
signal. -/
def grades : List ℚ := planner.mids.map (1 - ·)

/-- Admit all, until there is evidence. The smoothed signals are absent, not zero. -/
def initial : AdaptiveState := ⟨List.replicate planner.buckets.toNat 1, none⟩

/-- The counters that are feedback on the curve last broadcast: those of the last steps, as many
as a plan is valid for. -/
def recent (window : PlanningWindow) : List StepCounters :=
  lastItems planner.validForSteps window.recentCounters

/-- The signals of the steps in a window: mean utilization, mean collapse risk, and the share of
the requests handled that admission shed. -/
def realized (recent : List StepCounters) : Signals :=
  let handled : ℕ := (recent.map (fun counters =>
    counters.served + counters.deferred + counters.dropped + counters.rejected)).sum
  let shed : ℕ := (recent.map (fun counters => counters.rejectedByReason.getD .admissionShed 0)).sum
  { utilization := (recent.map StepCounters.utilization).sum / recent.length
    collapse := (recent.map StepCounters.collapseRisk).sum / recent.length
    shed := if 0 < handled then (shed : ℚ) / (handled : ℚ) else 0 }

/-- `_ewma`: the first value as it is, later ones mixed with the past. -/
def ewma (prev : Option ℚ) (value : ℚ) : ℚ :=
  match prev with
  | none => value
  | some prev => (1 - planner.signalSmoothing) * prev + planner.signalSmoothing * value

/-- All three signals, smoothed with the same weight. -/
def smooth (prev : Option Signals) (window : Signals) : Signals where
  utilization := planner.ewma (prev.map Signals.utilization) window.utilization
  collapse := planner.ewma (prev.map Signals.collapse) window.collapse
  shed := planner.ewma (prev.map Signals.shed) window.shed

/-- The net signal: loosen for what was shed beside idle capacity, tighten on collapse. -/
def signal (smoothed : Signals) : ℚ :=
  max 0 (1 - smoothed.utilization) * smoothed.shed - planner.collapsePenalty * smoothed.collapse

/-- Move each bucket by its grade, within the floor and one. The result need not rise any more,
which the running maximum repairs. -/
def nudge (signal : ℚ) (p : List ℚ) : List ℚ :=
  (p.zip planner.grades).map (fun (value, grade) =>
    clamp (value + planner.learningRate * grade * signal) planner.floorMin 1)

/-- Learn from the counters of some steps; from none there is no outcome to learn, and neither
the buckets nor the smoothed signals change. -/
def learnFrom (state : AdaptiveState) (recent : List StepCounters) : AdaptiveState :=
  if recent.isEmpty then state
  else
    let smoothed := planner.smooth state.ewma (realized recent)
    { p := runningMax (planner.nudge (planner.signal smoothed) state.p)
      ewma := some smoothed }

/-- Learn from the counters of a window that are feedback. -/
def learn (state : AdaptiveState) (window : PlanningWindow) : AdaptiveState :=
  planner.learnFrom state (planner.recent window)

/-- The learned points between the score-zero floor and the always-admitted top. A planner
has a bucket, so the first probability is there. -/
def curve (state : AdaptiveState) : AdmissionCurve :=
  ⟨(0, state.p.headD 1) :: planner.mids.zip state.p ++ [(1, 1)]⟩

/-- Learn, then plan with the curve just learned. -/
def plan (state : AdaptiveState) (window : PlanningWindow) : ResourcePlan × AdaptiveState :=
  let state := planner.learn state window
  ({ planner.base.plan window with admissionCurve := planner.curve state }, state)

/-- The state after planning from each of the windows in turn. -/
def after (windows : List PlanningWindow) : AdaptiveState :=
  windows.foldl (fun state window => (planner.plan state window).2) planner.initial

/-- The adaptive planner that a configuration selects. -/
def ofConfig (config : OptimizerConfig) : AdaptiveOptimizer where
  validForSteps := config.cadenceSteps
  buckets := config.adaptiveBuckets
  learningRate := config.adaptiveLearningRate
  signalSmoothing := config.adaptiveSignalSmoothing
  floorMin := config.adaptiveFloorMin
  collapsePenalty := config.adaptiveCollapsePenalty
  utilClamp := config.utilizationClamp
  fairnessMin := config.fairnessWeightMin
  fairnessMax := config.fairnessWeightMax
  bucketsPositive := config.bucketsPositive
  learningRange := config.learningRange
  smoothingRange := config.smoothingRange
  floorRange := config.floorRange
  penaltyNonneg := config.penaltyNonneg

/-- The planner as the loop sees it. -/
def optimizer : Optimizer AdaptiveState where
  plan := planner.plan

/-- What every reachable state satisfies: one probability for each bucket, rising along
the buckets, between the floor and one. The initial state and one learning step suffice to
show it. -/
structure Learned (state : AdaptiveState) : Prop where
  sized : state.p.length = planner.buckets.toNat
  rising : state.p.Pairwise (· ≤ ·)
  within : ∀ value ∈ state.p, planner.floorMin ≤ value ∧ value ≤ 1

end AdaptiveOptimizer

/-- A running maximum starts from its first value; each later one is at least the one
before it and is one of the values. -/
theorem scanl_max (first : ℚ) (rest : List ℚ) :
    (rest.scanl (fun previous value => max value previous) first).length = rest.length + 1 ∧
      (rest.scanl (fun previous value => max value previous) first).Pairwise (· ≤ ·) ∧
      ∀ value ∈ rest.scanl (fun previous value => max value previous) first,
        first ≤ value ∧ value ∈ first :: rest := by
  induction rest generalizing first with
  | nil => simp
  | cons second rest inductionHypothesis =>
    obtain ⟨sized, rising, within⟩ := inductionHypothesis (max second first)
    rw [List.scanl_cons]
    refine ⟨by simp [sized], ?_, ?_⟩
    · refine List.pairwise_cons.mpr ⟨?_, rising⟩
      intro value member
      exact (le_max_right second first).trans (within value member).1
    · intro value member
      rcases List.mem_cons.mp member with rfl | later
      · exact ⟨le_refl _, List.mem_cons_self⟩
      · obtain ⟨above, listed⟩ := within value later
        refine ⟨(le_max_right second first).trans above, ?_⟩
        rcases List.mem_cons.mp listed with rfl | deeper
        · rcases max_choice second first with same | same <;> simp [same]
        · exact List.mem_cons_of_mem _ (List.mem_cons_of_mem _ deeper)

/-- The repair keeps the number of values, orders them, and adds no new one. -/
theorem runningMax_spec (values : List ℚ) :
    (runningMax values).length = values.length ∧ (runningMax values).Pairwise (· ≤ ·) ∧
      runningMax values ⊆ values := by
  cases values with
  | nil => simp [runningMax]
  | cons first rest =>
    obtain ⟨sized, rising, within⟩ := scanl_max first rest
    exact ⟨sized, rising, fun value member => (within value member).2⟩

/-- Lists that are ordered each in its own way are ordered together. -/
theorem pairwise_zip {α β : Type} (before : α → α → Prop) (below : β → β → Prop) (left : List α)
    (right : List β) (leftOrdered : left.Pairwise before) (rightOrdered : right.Pairwise below) :
    (left.zip right).Pairwise (fun first second =>
      before first.1 second.1 ∧ below first.2 second.2) := by
  rw [List.pairwise_iff_getElem] at *
  intro i j iInside jInside ordered
  rw [List.length_zip] at iInside jInside
  rw [List.getElem_zip, List.getElem_zip]
  exact ⟨leftOrdered i j (by omega) (by omega) ordered,
    rightOrdered i j (by omega) (by omega) ordered⟩

namespace AdaptiveOptimizer

variable (planner : AdaptiveOptimizer)

/-- The initial state is learned: equal probabilities rise. -/
theorem initial_learned : planner.Learned planner.initial where
  sized := by simp [initial]
  rising := by simp [initial, List.pairwise_replicate]
  within := by
    intro value member
    obtain rfl := List.eq_of_mem_replicate member
    exact ⟨planner.floorRange.2, le_refl _⟩

/-- A nudged bucket is clamped, whatever the signal. -/
theorem nudge_spec (signal : ℚ) (p : List ℚ) (sized : p.length = planner.buckets.toNat) :
    (planner.nudge signal p).length = planner.buckets.toNat ∧
      ∀ value ∈ planner.nudge signal p, planner.floorMin ≤ value ∧ value ≤ 1 := by
  constructor
  · simp [nudge, grades, mids, sized]
  · intro value member
    obtain ⟨pair, _, rfl⟩ := List.mem_map.mp member
    exact ⟨le_max_left _ _, max_le planner.floorRange.2 (min_le_left _ _)⟩

/-- Learning from a window keeps the state learned, whatever the window holds. -/
theorem learn_learned (state : AdaptiveState) (window : PlanningWindow)
    (learned : planner.Learned state) : planner.Learned (planner.learn state window) := by
  unfold learn learnFrom
  split
  · exact learned
  · obtain ⟨sized, within⟩ := planner.nudge_spec
      (planner.signal (planner.smooth state.ewma (realized (planner.recent window)))) state.p
      learned.sized
    obtain ⟨kept, rising, chosen⟩ := runningMax_spec (planner.nudge
      (planner.signal (planner.smooth state.ewma (realized (planner.recent window)))) state.p)
    constructor
    · exact kept.trans sized
    · exact rising
    · intro value member
      exact within value (chosen member)

/-- However many windows have been planned from, the state is learned. -/
theorem after_learned (windows : List PlanningWindow) :
    planner.Learned (planner.after windows) := by
  induction windows using List.reverseRecOn with
  | nil => exact planner.initial_learned
  | append_singleton earlier window inductionHypothesis =>
    rw [after, List.foldl_append]
    exact planner.learn_learned _ window inductionHypothesis

/-- The midpoints rise and lie inside the unit interval. -/
theorem mids_spec : planner.mids.length = planner.buckets.toNat ∧
    planner.mids.Pairwise (· < ·) ∧ ∀ mid ∈ planner.mids, 0 < mid ∧ mid < 1 := by
  have several := planner.bucketsPositive
  have buckets : (0 : ℚ) < planner.buckets := by exact_mod_cast several
  refine ⟨by simp [mids], ?_, ?_⟩
  · rw [mids, List.pairwise_map]
    apply List.pairwise_lt_range.imp
    intro i j ordered
    have cast : (i : ℚ) < j := by exact_mod_cast ordered
    gcongr
  · intro mid member
    obtain ⟨i, listed, rfl⟩ := List.mem_map.mp member
    have bound : (i : ℤ) + 1 ≤ planner.buckets := by
      have inside := List.mem_range.mp listed
      omega
    have cast : (i : ℚ) + 1 ≤ planner.buckets := by exact_mod_cast bound
    have start : (0 : ℚ) ≤ i := Nat.cast_nonneg i
    constructor
    · positivity
    · rw [div_lt_one buckets]
      linarith

/-- The points of a learned state's curve: scores rise strictly and probabilities do not
fall, from the floor of the score zero to the pinned top. -/
theorem curve_points (state : AdaptiveState) (learned : planner.Learned state) :
    (planner.curve state).breakpoints.Pairwise
        (fun before after => before.1 < after.1 ∧ before.2 ≤ after.2) ∧
      ∀ point ∈ (planner.curve state).breakpoints,
        planner.floorMin ≤ point.2 ∧ point.2 ≤ 1 := by
  obtain ⟨_, increasing, inside⟩ := planner.mids_spec
  have several := planner.bucketsPositive
  obtain ⟨first, rest, same⟩ : ∃ first rest, state.p = first :: rest := by
    apply List.exists_cons_of_length_pos
    rw [learned.sized]
    omega
  have members : ∀ point ∈ planner.mids.zip state.p, (0 < point.1 ∧ point.1 < 1) ∧
      first ≤ point.2 ∧ planner.floorMin ≤ point.2 ∧ point.2 ≤ 1 := by
    intro point member
    obtain ⟨mid, value⟩ := List.of_mem_zip member
    refine ⟨inside _ mid, ?_, learned.within _ value⟩
    have ordered := learned.rising
    rw [same] at ordered value
    cases List.mem_cons.mp value with
    | inl equal =>
      exact equal.ge
    | inr later =>
      exact (List.pairwise_cons.mp ordered).1 _ later
  have start := learned.within first (by simp [same])
  constructor
  · simp only [curve, same, List.headD_cons]
    rw [← same]
    rw [List.cons_append, List.pairwise_cons, List.pairwise_append]
    refine ⟨?_, pairwise_zip _ _ _ _ increasing learned.rising, by simp, ?_⟩
    · intro point member
      cases List.mem_append.mp member with
      | inl bucket =>
        exact ⟨(members point bucket).1.1, (members point bucket).2.1⟩
      | inr top =>
        obtain rfl := List.mem_singleton.mp top
        exact ⟨zero_lt_one, start.2⟩
    · intro point bucket top pinned
      obtain rfl := List.mem_singleton.mp pinned
      exact ⟨(members point bucket).1.2, (members point bucket).2.2.2⟩
  · intro point member
    simp only [curve, same, List.headD_cons] at member
    rw [← same] at member
    cases List.mem_append.mp member with
    | inl left =>
      rcases List.mem_cons.mp left with rfl | bucket
      · exact start
      · exact (members point bucket).2.2
    | inr top =>
      obtain rfl := List.mem_singleton.mp top
      exact ⟨planner.floorRange.2, le_refl _⟩

/-- A learned state's curve rises, from the floor point through the buckets to the top. -/
theorem curve_rising (state : AdaptiveState) (learned : planner.Learned state) :
    AdmissionCurve.Rising ((0, state.p.headD 1) :: (planner.mids.zip state.p ++ [(1, 1)])) :=
  (planner.curve_points state learned).1.imp (fun both => ⟨both.1.le, both.2⟩)

/-- Its last point is the pinned top. -/
theorem curve_top (state : AdaptiveState) :
    AdmissionCurve.lastPoint (0, state.p.headD 1) (planner.mids.zip state.p ++ [(1, 1)]) =
      (1, 1) := by
  simp [AdmissionCurve.lastPoint]

/-- A learned curve keeps every score between the floor and one. Scores beyond the unit interval
are no exception. -/
theorem curve_bounds (state : AdaptiveState) (learned : planner.Learned state) (score : ℚ) :
    planner.floorMin ≤ (planner.curve state).admitProbability score ∧
      (planner.curve state).admitProbability score ≤ 1 := by
  have start := (planner.curve_points state learned).2 (0, state.p.headD 1) (by simp [curve])
  have bounds := AdmissionCurve.admitProbability_bounds (0, state.p.headD 1) _
    (planner.curve_rising state learned) score
  rw [curve_top] at bounds
  exact ⟨start.1.trans bounds.1, bounds.2⟩

/-- A learned curve always admits the score one. -/
theorem curve_one (state : AdaptiveState) (learned : planner.Learned state) :
    (planner.curve state).admitProbability 1 = 1 := by
  have top := planner.curve_top state
  rcases AdmissionCurve.admitProbability_cases (0, state.p.headD 1) _
      (planner.curve_rising state learned) 1 with ⟨before, _⟩ | ⟨_, _, value⟩ | ⟨_, short, _⟩
  · exact absurd before (by norm_num)
  · rw [top] at value
    exact value
  · rw [top] at short
    exact absurd short (lt_irrefl 1)

/-- The learned curve invariant. Whatever windows were planned from before, the curve that is
broadcast has scores that rise strictly from zero to one, probabilities that do not fall
and lie between the floor and one, and an always-admitted top; so over the scores of the
unit interval the admit probability keeps those bounds, does not fall, and ends at one. -/
theorem learned_curve_invariant (earlier : List PlanningWindow) (window : PlanningWindow) :
    let curve := (planner.plan (planner.after earlier) window).1.admissionCurve
    ((curve.breakpoints.map Prod.fst).Pairwise (· < ·) ∧
        (curve.breakpoints.map Prod.fst).head? = some 0 ∧
        (curve.breakpoints.map Prod.snd).Pairwise (· ≤ ·) ∧
        (∀ point ∈ curve.breakpoints, planner.floorMin ≤ point.2 ∧ point.2 ≤ 1) ∧
        curve.breakpoints.getLast? = some (1, 1)) ∧
      (∀ score, 0 ≤ score → score ≤ 1 →
        planner.floorMin ≤ curve.admitProbability score ∧ curve.admitProbability score ≤ 1) ∧
      (∀ low high, 0 ≤ low → low ≤ high → high ≤ 1 →
        curve.admitProbability low ≤ curve.admitProbability high) ∧
      curve.admitProbability 1 = 1 := by
  intro curve
  have learned := planner.learn_learned _ window (planner.after_learned earlier)
  have same : curve = planner.curve (planner.learn (planner.after earlier) window) := rfl
  rw [same]
  obtain ⟨ordered, within⟩ := planner.curve_points _ learned
  refine ⟨⟨?_, rfl, ?_, within, ?_⟩, ?_, ?_, ?_⟩
  · exact List.pairwise_map.mpr (ordered.imp And.left)
  · exact List.pairwise_map.mpr (ordered.imp And.right)
  · exact List.getLast?_concat
  · intro score _ _
    exact planner.curve_bounds _ learned score
  · intro low high _ between _
    exact AdmissionCurve.admitProbability_mono _ _ (planner.curve_rising _ learned) low high between
  · exact planner.curve_one _ learned

end AdaptiveOptimizer

end Satsim
