import Satsim.Optimization.Adaptive

/-!
# Learning moves in the direction of its signal

A nudge moves every bucket the way of the signal, and neither the clamp nor the running
maximum turns one back: the buckets were already within the floor and one, and already
rising. So the whole curve moves one way, and its lowest point moves unless it has arrived.

Strictness is shown of the lowest point alone. Other buckets may be held by the
running maximum, which is raised by a lower bucket that was nudged past them.
-/

namespace Satsim

/-- A running maximum stays above what its values are above. -/
theorem le_scanl_max (low first : ℚ) (lows rest : List ℚ) (start : low ≤ first)
    (above : List.Forall₂ (· ≤ ·) lows rest) :
    List.Forall₂ (· ≤ ·) (low :: lows)
      (rest.scanl (fun previous value => max value previous) first) := by
  induction above generalizing low first with
  | nil => exact List.Forall₂.cons start List.Forall₂.nil
  | @cons next second lows rest ordered later inductionHypothesis =>
    rw [List.scanl_cons]
    exact List.Forall₂.cons start
      (inductionHypothesis next _ (ordered.trans (le_max_left second first)))

/-- The repair of a list stays above what its values are above. -/
theorem le_runningMax (lows values : List ℚ) (above : List.Forall₂ (· ≤ ·) lows values) :
    List.Forall₂ (· ≤ ·) lows (runningMax values) := by
  cases above with
  | nil => exact List.Forall₂.nil
  | cons start later => exact le_scanl_max _ _ _ _ start later

/-- A running maximum stays below bounds that rise. Bounds that fall somewhere would be
crossed. -/
theorem scanl_max_le (first bound : ℚ) (rest bounds : List ℚ) (start : first ≤ bound)
    (within : List.Forall₂ (· ≤ ·) rest bounds) (rising : (bound :: bounds).Pairwise (· ≤ ·)) :
    List.Forall₂ (· ≤ ·) (rest.scanl (fun previous value => max value previous) first)
      (bound :: bounds) := by
  induction within generalizing first bound with
  | nil => exact List.Forall₂.cons start List.Forall₂.nil
  | @cons second second' rest bounds next later inductionHypothesis =>
    obtain ⟨above, tail⟩ := List.pairwise_cons.mp rising
    rw [List.scanl_cons]
    refine List.Forall₂.cons start (inductionHypothesis (max second first) second' ?_ tail)
    exact max_le next (start.trans (above second' List.mem_cons_self))

/-- The repair stays below rising bounds of its values. -/
theorem runningMax_le (values bounds : List ℚ) (within : List.Forall₂ (· ≤ ·) values bounds)
    (rising : bounds.Pairwise (· ≤ ·)) : List.Forall₂ (· ≤ ·) (runningMax values) bounds := by
  cases within with
  | nil => exact List.Forall₂.nil
  | cons start later => exact scanl_max_le _ _ _ _ start later rising

/-- The first value is never repaired. -/
theorem headD_runningMax (values : List ℚ) (default : ℚ) :
    (runningMax values).headD default = values.headD default := by
  cases values with
  | nil => rfl
  | cons first rest => cases rest <;> simp [runningMax]

/-- The counters of a window report a collapse risk that counts from zero, as it is documented
to. Loops build no other windows. -/
def PlanningWindow.Measured (window : PlanningWindow) : Prop :=
  ∀ counters ∈ window.recentCounters, 0 ≤ counters.collapseRisk

namespace AdaptiveOptimizer

variable (planner : AdaptiveOptimizer)

/-- There is a positive grade for each bucket, since midpoints lie below one. -/
theorem grades_spec : planner.grades.length = planner.buckets.toNat ∧
    ∀ grade ∈ planner.grades, 0 < grade := by
  obtain ⟨sized, _, inside⟩ := planner.mids_spec
  constructor
  · rw [grades, List.length_map, sized]
  · intro grade member
    obtain ⟨mid, listed, rfl⟩ := List.mem_map.mp member
    exact sub_pos.mpr (inside mid listed).2

section Bucket

variable (signal value grade : ℚ) (graded : 0 < grade)
include graded

/-- A loosening signal moves a bucket up, before the clamp. -/
theorem move_nonneg (loosens : 0 ≤ signal) : 0 ≤ planner.learningRate * grade * signal :=
  mul_nonneg (mul_nonneg planner.learningRange.1.le graded.le) loosens

/-- A tightening signal moves it down. -/
theorem move_nonpos (tightens : signal ≤ 0) : planner.learningRate * grade * signal ≤ 0 :=
  mul_nonpos_of_nonneg_of_nonpos (mul_nonneg planner.learningRange.1.le graded.le) tightens

/-- The clamp does not hold a bucket back that has not arrived at one. -/
theorem clamp_rises (loosens : 0 < signal) (below : value < 1) :
    value < clamp (value + planner.learningRate * grade * signal) planner.floorMin 1 := by
  have moved : 0 < planner.learningRate * grade * signal :=
    mul_pos (mul_pos planner.learningRange.1 graded) loosens
  apply lt_max_of_lt_right
  exact lt_min below (by linarith)

/-- Nor one that has not arrived at the floor. -/
theorem clamp_falls (tightens : signal < 0) (above : planner.floorMin < value) :
    clamp (value + planner.learningRate * grade * signal) planner.floorMin 1 < value := by
  have moved : planner.learningRate * grade * signal < 0 :=
    mul_neg_of_pos_of_neg (mul_pos planner.learningRange.1 graded) tightens
  apply max_lt above
  exact (min_le_right _ _).trans_lt (by linarith)

end Bucket

/-- Pairing with grades and nudging keeps a relation to the buckets that each nudge has. -/
theorem nudge_related (related : ℚ → ℚ → Prop) (signal : ℚ) (p grades : List ℚ)
    (sized : p.length = grades.length)
    (each : ∀ value ∈ p, ∀ grade ∈ grades,
      related value (clamp (value + planner.learningRate * grade * signal) planner.floorMin 1)) :
    List.Forall₂ related p ((p.zip grades).map (fun (value, grade) =>
      clamp (value + planner.learningRate * grade * signal) planner.floorMin 1)) := by
  induction p generalizing grades with
  | nil => exact List.Forall₂.nil
  | cons value p inductionHypothesis =>
    obtain ⟨grade, grades, rfl⟩ := List.exists_cons_of_length_pos
      (sized ▸ Nat.succ_pos p.length : 0 < grades.length)
    refine List.Forall₂.cons (each value List.mem_cons_self grade List.mem_cons_self) ?_
    apply inductionHypothesis
    · exact Nat.succ.inj sized
    · intro later member other listed
      exact each later (List.mem_cons_of_mem _ member) other (List.mem_cons_of_mem _ listed)

section Learned

variable (state : AdaptiveState) (learned : planner.Learned state) (signal : ℚ)
include learned

/-- A signal that loosens lowers no bucket, and the repair only raises. -/
theorem learned_rises (loosens : 0 ≤ signal) :
    List.Forall₂ (· ≤ ·) state.p (runningMax (planner.nudge signal state.p)) := by
  obtain ⟨sized, graded⟩ := planner.grades_spec
  have nudged : List.Forall₂ (· ≤ ·) state.p (planner.nudge signal state.p) := by
    apply planner.nudge_related (· ≤ ·) signal _ _ (learned.sized.trans sized.symm)
    intro value member grade listed
    have moved := planner.move_nonneg signal grade (graded grade listed) loosens
    apply le_max_of_le_right
    exact le_min (learned.within value member).2 (by linarith)
  exact le_runningMax _ _ nudged

/-- A signal that tightens raises no bucket, and the repair stays below the old buckets, as
they were rising. -/
theorem learned_falls (tightens : signal ≤ 0) :
    List.Forall₂ (· ≤ ·) (runningMax (planner.nudge signal state.p)) state.p := by
  obtain ⟨sized, graded⟩ := planner.grades_spec
  have nudged : List.Forall₂ (· ≥ ·) state.p (planner.nudge signal state.p) := by
    apply planner.nudge_related (· ≥ ·) signal _ _ (learned.sized.trans sized.symm)
    intro value member grade listed
    have moved := planner.move_nonpos signal grade (graded grade listed) tightens
    apply max_le (learned.within value member).1
    exact (min_le_right _ _).trans (by linarith)
  exact runningMax_le _ _ nudged.flip learned.rising

/-- A learned state has a lowest bucket, which the repair leaves as it was nudged. -/
theorem learned_head : ∃ value grade, 0 < grade ∧ state.p.headD 1 = value ∧
    planner.floorMin ≤ value ∧ value ≤ 1 ∧
    (runningMax (planner.nudge signal state.p)).headD 1 =
      clamp (value + planner.learningRate * grade * signal) planner.floorMin 1 := by
  obtain ⟨sized, graded⟩ := planner.grades_spec
  have several : 0 < planner.buckets.toNat := by
    have positive := planner.bucketsPositive
    omega
  obtain ⟨value, rest, probabilities⟩ :=
    List.exists_cons_of_length_pos (learned.sized.symm ▸ several : 0 < state.p.length)
  obtain ⟨grade, grades, gains⟩ :=
    List.exists_cons_of_length_pos (sized.symm ▸ several : 0 < planner.grades.length)
  refine ⟨value, grade, graded grade (by simp [gains]), by simp [probabilities],
    (learned.within value (by simp [probabilities])).1,
    (learned.within value (by simp [probabilities])).2, ?_⟩
  rw [headD_runningMax, nudge, probabilities, gains]
  rfl

end Learned

/-- Pairing ordered probabilities with the same scores gives points under one another. -/
theorem zip_under (mids lows highs : List ℚ) (ordered : List.Forall₂ (· ≤ ·) lows highs) :
    List.Forall₂ AdmissionCurve.Under (mids.zip lows) (mids.zip highs) := by
  induction ordered generalizing mids with
  | nil => simp
  | cons start later inductionHypothesis =>
    cases mids with
    | nil => exact List.Forall₂.nil
    | cons mid mids => exact List.Forall₂.cons ⟨rfl, start⟩ (inductionHypothesis mids)

/-- Curves over the same buckets are ordered as their buckets are. -/
theorem curve_below (low high : AdaptiveState) (ordered : List.Forall₂ (· ≤ ·) low.p high.p) :
    (planner.curve low).Below (planner.curve high) := by
  have head : low.p.headD 1 ≤ high.p.headD 1 := by
    revert ordered
    cases low.p <;> cases high.p <;> rintro ⟨⟩
    · exact le_refl 1
    · assumption
  apply List.Forall₂.cons ⟨rfl, head⟩
  apply List.rel_append (zip_under planner.mids _ _ ordered)
  exact List.Forall₂.cons ⟨rfl, le_refl 1⟩ List.Forall₂.nil

/-- The score zero is admitted with the lowest bucket's probability. -/
theorem curve_zero (state : AdaptiveState) :
    (planner.curve state).admitProbability 0 = state.p.headD 1 := by
  simp [curve, AdmissionCurve.admitProbability]

/-- Smoothing nonnegative signals gives nonnegative ones. -/
theorem ewma_nonneg (prev : Option ℚ) (value : ℚ) (before : ∀ past ∈ prev, 0 ≤ past)
    (now : 0 ≤ value) : 0 ≤ planner.ewma prev value := by
  obtain ⟨fresh, bounded⟩ := planner.smoothingRange
  cases prev with
  | none => exact now
  | some past =>
    have kept := mul_nonneg (sub_nonneg.mpr bounded) (before past rfl)
    have added := mul_nonneg fresh.le now
    exact add_nonneg kept added

/-- The mean of collapse risks that count from zero counts from zero. -/
theorem realized_collapse_nonneg (recent : List StepCounters)
    (measured : ∀ counters ∈ recent, 0 ≤ counters.collapseRisk) :
    0 ≤ (realized recent).collapse := by
  apply div_nonneg
  · apply List.sum_nonneg
    intro risk member
    obtain ⟨counters, listed, rfl⟩ := List.mem_map.mp member
    exact measured counters listed
  · exact Nat.cast_nonneg _

/-- The counters a planner reads are of its window. -/
theorem mem_recent (window : PlanningWindow) (counters : StepCounters)
    (read : counters ∈ planner.recent window) : counters ∈ window.recentCounters := by
  unfold recent lastItems at read
  split at read <;> exact List.mem_of_mem_drop read

/-- From measured windows the smoothed collapse signal counts from zero. -/
theorem smooth_collapse_nonneg (state : AdaptiveState) (window : PlanningWindow)
    (before : ∀ past ∈ state.ewma, 0 ≤ past.collapse) (measured : window.Measured) :
    0 ≤ (planner.smooth state.ewma (realized (planner.recent window))).collapse := by
  apply planner.ewma_nonneg
  · intro past member
    obtain ⟨signals, known, rfl⟩ := Option.mem_map.mp member
    exact before signals known
  · apply realized_collapse_nonneg
    intro counters read
    exact measured counters (planner.mem_recent window counters read)

/-- So do the smoothed ones after any windows. -/
theorem after_collapse_nonneg (windows : List PlanningWindow)
    (measured : ∀ window ∈ windows, window.Measured) :
    ∀ past ∈ (planner.after windows).ewma, 0 ≤ past.collapse := by
  induction windows using List.reverseRecOn with
  | nil => simp [after, initial]
  | append_singleton earlier window inductionHypothesis =>
    have before := inductionHypothesis (fun old listed => measured old (by simp [listed]))
    rw [after, List.foldl_append]
    change ∀ past ∈ (planner.learn (planner.after earlier) window).ewma, 0 ≤ past.collapse
    unfold learn learnFrom
    split
    · exact before
    · intro past member
      obtain rfl := Option.some.inj member
      exact planner.smooth_collapse_nonneg _ window before (measured window (by simp))

/-- With nothing shed there is nothing to loosen for. The signal is then the collapse term
alone. -/
theorem signal_calm (smoothed : Signals) (calm : smoothed.shed = 0)
    (collapse : 0 ≤ smoothed.collapse) : planner.signal smoothed ≤ 0 := by
  have penalty := mul_nonneg planner.penaltyNonneg collapse
  rw [signal, calm, mul_zero]
  linarith

/-- Learning moves in the direction of its signal. Whatever windows were planned from
before, the curve planned from a window with counters is nowhere below the previous one when
the signal loosens and nowhere above it when the signal tightens; the score zero then moves
strictly, unless it was admitted always, or with the floor's probability, already. With
nothing shed, in the window or before, no score is admitted more often than it was. -/
theorem learning_direction (earlier : List PlanningWindow) (window : PlanningWindow)
    (counted : planner.recent window ≠ []) :
    let state := planner.after earlier
    let smoothed := planner.smooth state.ewma (realized (planner.recent window))
    let signal := planner.signal smoothed
    let previous := planner.curve state
    let broadcast := (planner.plan state window).1.admissionCurve
    (0 ≤ signal → ∀ score, 0 ≤ score → score ≤ 1 →
        previous.admitProbability score ≤ broadcast.admitProbability score) ∧
      (signal ≤ 0 → ∀ score, 0 ≤ score → score ≤ 1 →
        broadcast.admitProbability score ≤ previous.admitProbability score) ∧
      (0 < signal → previous.admitProbability 0 = 1 ∨
        previous.admitProbability 0 < broadcast.admitProbability 0) ∧
      (signal < 0 → previous.admitProbability 0 = planner.floorMin ∨
        broadcast.admitProbability 0 < previous.admitProbability 0) ∧
      ((∀ planned ∈ earlier ++ [window], planned.Measured) → smoothed.shed = 0 →
        ∀ score, 0 ≤ score → score ≤ 1 →
          broadcast.admitProbability score ≤ previous.admitProbability score) := by
  intro state smoothed signal previous broadcast
  have learned := planner.after_learned earlier
  have planned : broadcast = planner.curve
      { p := runningMax (planner.nudge signal state.p), ewma := some smoothed } := by
    change planner.curve (planner.learnFrom state (planner.recent window)) = _
    rw [learnFrom, if_neg (by simpa using counted)]
  have falls : signal ≤ 0 → broadcast.Below previous := by
    intro tightens
    rw [planned]
    exact planner.curve_below _ _ (planner.learned_falls state learned signal tightens)
  obtain ⟨value, grade, graded, old, floored, topped, new⟩ :=
    planner.learned_head state learned signal
  have start : previous.admitProbability 0 = value := (planner.curve_zero state).trans old
  have moved : broadcast.admitProbability 0 =
      clamp (value + planner.learningRate * grade * signal) planner.floorMin 1 := by
    rw [planned, planner.curve_zero]
    exact new
  refine ⟨?_, ?_, ?_, ?_, ?_⟩
  · intro loosens score _ _
    rw [planned]
    exact (planner.curve_below _ _
      (planner.learned_rises state learned signal loosens)).admitProbability_le score
  · intro tightens score _ _
    exact (falls tightens).admitProbability_le score
  · intro loosens
    rw [start, moved]
    cases eq_or_lt_of_le topped with
    | inl full => exact Or.inl full
    | inr below => exact Or.inr (planner.clamp_rises signal value grade graded loosens below)
  · intro tightens
    rw [start, moved]
    cases eq_or_lt_of_le floored with
    | inl arrived => exact Or.inl arrived.symm
    | inr above => exact Or.inr (planner.clamp_falls signal value grade graded tightens above)
  · intro measured calm score _ _
    have collapse : 0 ≤ smoothed.collapse := by
      apply planner.smooth_collapse_nonneg
      · exact planner.after_collapse_nonneg earlier
          (fun old listed => measured old (by simp [listed]))
      · exact measured window (by simp)
    exact (falls (planner.signal_calm smoothed calm collapse)).admitProbability_le score

/-- A window whose one step was near collapse. -/
def collapsedWindow : PlanningWindow where
  step := 1
  snapshot := { step := 1 }
  recentCounters := [{ step := 0, served := 10, utilization := 1, collapseRisk := 1 }]

/-- After a collapse the score zero is admitted less often than before, and, as nothing was
shed, no score more often. -/
theorem learning_direction_collapse : ∃ planner : AdaptiveOptimizer,
    (planner.plan planner.initial collapsedWindow).1.admissionCurve.admitProbability 0 < 1 ∧
      ∀ score, 0 ≤ score → score ≤ 1 →
        (planner.plan planner.initial collapsedWindow).1.admissionCurve.admitProbability score ≤
          (planner.curve planner.initial).admitProbability score := by
  have moves := learning_direction {} [] collapsedWindow (by decide)
  refine ⟨{}, ?_, moves.2.2.2.2 (by simp [PlanningWindow.Measured, collapsedWindow])
    (by decide +kernel)⟩
  rcases moves.2.2.2.1 (by decide +kernel) with arrived | falls
  · exact absurd arrived (by decide +kernel)
  · exact falls

end AdaptiveOptimizer

end Satsim
