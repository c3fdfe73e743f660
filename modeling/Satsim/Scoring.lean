import Satsim.Config

/-!
# Request scoring

One score, cost and delivery probability for a request in a step, shared by
admission, the congestion estimate, the schedulers and the emergency lane's pricing.

The order of service is a total order on sort keys, a score with an identifier. Every
pass sorts by it with an insertion sort, so the results below are what makes the
sequence of service independent of how requests arrived.
-/

namespace Satsim

/-- Expected airtime to clear a payload over a link of the given quality. A link below the
minimum is priced as the minimum, which keeps the quotient finite. -/
def estimateCostUnits (sizeBytes : ℤ) (linkQuality bytesPerUnit minLink : ℚ) : ℚ :=
  sizeBytes / bytesPerUnit / max minLink linkQuality

/-- The largest class value, which normalizes priority into the unit interval. -/
def maxPriority : ℕ := TrafficClass.emergencySos.value

/-- The share of its deadline span a request has waited, in the unit interval. A request without
a span counts as having a span of one step. -/
def waitingPressure (request : ServiceRequest) (step : ℤ) : ℚ :=
  clampUnit (request.waitingSteps step / max 1 (request.deadlineStep - request.arrivalStep) : ℚ)

/-- `RequestScorer.evaluate`: a weighted sum of class, urgency and waiting, scaled by the plan's
fairness weight for the class, beside the cost and delivery probability of the request. -/
def evaluateScore (scoring : ScoringConfig) (request : ServiceRequest) (currentStep : ℤ)
    (plan : ResourcePlan) : RequestScore :=
  let priority : ℚ := request.trafficClass.value / maxPriority
  let urgency := clampUnit request.urgency
  let waiting := waitingPressure request currentStep
  let base := scoring.priorityWeight * priority + scoring.urgencyWeight * urgency +
    scoring.waitingWeight * waiting
  let fairness := plan.fairnessWeights.getD request.trafficClass 1
  { score := clampUnit (base * fairness)
    estimatedCostUnits := estimateCostUnits request.sizeBytes request.linkQuality
      scoring.bytesPerUnit scoring.minLinkQuality
    deliveryProbability := clampUnit request.linkQuality }

/-- Highest score first; the request id breaks ties. A sort key is a score with an id. -/
def ranksBefore (left right : ℚ × String) : Prop :=
  right.1 < left.1 ∨ left.1 = right.1 ∧ left.2 ≤ right.2

/-- The order is decidable, so a sort by it can be run. -/
instance : DecidableRel ranksBefore := fun left right =>
  inferInstanceAs (Decidable (right.1 < left.1 ∨ left.1 = right.1 ∧ left.2 ≤ right.2))

/-- A key ranks before itself: the order is not strict. -/
theorem ranksBefore_refl (key : ℚ × String) : ranksBefore key key := Or.inr ⟨rfl, le_refl _⟩

/-- Strictly earlier in this order: a higher score, or the same score and a smaller id. -/
def Precedes (first second : ℚ × String) : Prop :=
  second.1 < first.1 ∨ first.1 = second.1 ∧ first.2 < second.2

/-- What strictly precedes is not preceded. -/
theorem Precedes.not_ranksBefore {first second : ℚ × String} (precedes : Precedes first second) :
    ¬ ranksBefore second first := by
  rintro (higher | ⟨tied, smaller⟩) <;> rcases precedes with above | ⟨same, less⟩
  · exact lt_asymm higher above
  · exact higher.ne same
  · exact above.ne tied
  · exact not_le.mpr less smaller

/-- Any two keys are ordered one way or the other. -/
theorem ranksBefore_total (left right : ℚ × String) :
    ranksBefore left right ∨ ranksBefore right left := by
  rcases lt_trichotomy left.1 right.1 with lower | same | higher
  · exact Or.inr (Or.inl lower)
  · cases le_total left.2 right.2 with
    | inl smaller =>
      exact Or.inl (Or.inr ⟨same, smaller⟩)
    | inr larger =>
      exact Or.inr (Or.inr ⟨same.symm, larger⟩)
  · exact Or.inl (Or.inl higher)

/-- The order is transitive, by the score and then by the identifier. -/
theorem ranksBefore_trans {first second third : ℚ × String} (left : ranksBefore first second)
    (right : ranksBefore second third) : ranksBefore first third := by
  rcases left with higher | ⟨same, smaller⟩ <;> rcases right with above | ⟨tied, less⟩
  · exact Or.inl (above.trans higher)
  · exact Or.inl (tied ▸ higher)
  · exact Or.inl (same ▸ above)
  · exact Or.inr ⟨same.trans tied, smaller.trans less⟩

/-- Keys that rank before each other are one key. With distinct identifiers this tells the items
apart. -/
theorem ranksBefore_antisymm {left right : ℚ × String} (forth : ranksBefore left right)
    (back : ranksBefore right left) : left = right := by
  rcases forth with higher | ⟨same, smaller⟩
  · rcases back with lower | ⟨tied, _⟩
    · exact absurd higher (lt_asymm lower)
    · exact absurd tied higher.ne
  · rcases back with lower | ⟨_, larger⟩
    · exact absurd same lower.ne
    · exact Prod.ext same (le_antisymm smaller larger)

/-- Sorting by a key yields the order of the keys, so an earlier position means a rank that is
no worse. -/
theorem pairwise_ranksBefore {α : Type} (key : α → ℚ × String) (items : List α) :
    (items.insertionSort fun left right => ranksBefore (key left) (key right)).Pairwise
      fun left right => ranksBefore (key left) (key right) := by
  have total : Std.Total fun left right : α => ranksBefore (key left) (key right) :=
    ⟨fun left right => ranksBefore_total (key left) (key right)⟩
  have transitive : IsTrans α fun left right => ranksBefore (key left) (key right) :=
    ⟨fun _ _ _ => ranksBefore_trans⟩
  exact List.pairwise_insertionSort _ items

/-- A sort whose order tells the items of a list apart does not depend on how they arrived.
Without the last hypothesis equal items could keep their arrival order. -/
theorem insertionSort_eq_of_perm {α : Type} (before : α → α → Prop) [DecidableRel before]
    (total : ∀ left right, before left right ∨ before right left)
    (trans : ∀ first second third, before first second → before second third → before first third)
    (items permuted : List α) (rearranged : items.Perm permuted)
    (apart : ∀ left ∈ items, ∀ right ∈ items,
      before left right → before right left → left = right) :
    items.insertionSort before = permuted.insertionSort before := by
  have totalOrder : Std.Total before := ⟨total⟩
  have transitive : IsTrans α before := ⟨trans⟩
  refine List.Perm.eq_of_pairwise ?_ (List.pairwise_insertionSort before items)
    (List.pairwise_insertionSort before permuted) ?_
  · intro left right leftListed rightListed
    refine apart left ((List.mem_insertionSort before).mp leftListed) right ?_
    exact rearranged.mem_iff.mpr ((List.mem_insertionSort before).mp rightListed)
  · exact (List.perm_insertionSort before items).trans
      (rearranged.trans (List.perm_insertionSort before permuted).symm)

/-- Sorting items with distinct ids by a score and the id does not depend on how they arrived. -/
theorem ranked_eq_of_perm {α : Type} (key : α → ℚ × String) (items permuted : List α)
    (rearranged : items.Perm permuted) (distinct : (items.map (fun item => (key item).2)).Nodup) :
    items.insertionSort (fun left right => ranksBefore (key left) (key right)) =
      permuted.insertionSort (fun left right => ranksBefore (key left) (key right)) := by
  apply insertionSort_eq_of_perm _ (fun left right => ranksBefore_total (key left) (key right))
    (fun _ _ _ => ranksBefore_trans) items permuted rearranged
  intro left leftListed right rightListed forth back
  exact List.inj_on_of_nodup_map distinct leftListed rightListed
    (congrArg Prod.snd (ranksBefore_antisymm forth back))

end Satsim
