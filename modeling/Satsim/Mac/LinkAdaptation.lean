import Satsim.Mac.Grid

/-!
# When a better link never costs more blocks

The lookup keeps the last level that a link supports, in a ladder that is sorted by
thresholds alone. Its efficiency rises with the link exactly when the levels that decide,
the last of each threshold, rise along the ladder, and no link below the lowest threshold
falls back to more than they give.

The condition is one on configurations, and the equivalence says that nothing weaker
will do: where it fails, some payload costs more over some better link.
-/

namespace Satsim

/-- Of the levels with one threshold the last decides, for the links the threshold is for. -/
def decisive : List McsLevel → List McsLevel
  | [] => []
  | [level] => [level]
  | level :: next :: rest =>
      if level.minLinkQuality < next.minLinkQuality then level :: decisive (next :: rest)
      else decisive (next :: rest)

/-- Efficiencies do not fall along the levels that decide; and where links are left below the
first threshold, the first level, to which they fall back, has no more than any of them. The
default ladder satisfies it. -/
structure Graded (ladder : List McsLevel) (nonempty : ladder ≠ []) : Prop where
  rising : (decisive ladder).Pairwise
    (fun lower higher => lower.bitsPerSymbol ≤ higher.bitsPerSymbol)
  fallback : 0 < (ladder.head nonempty).minLinkQuality →
    ∀ level ∈ decisive ladder, (ladder.head nonempty).bitsPerSymbol ≤ level.bitsPerSymbol

/-- The lookup from an efficiency in hand. It generalizes the source's loop over its starting
value, so that induction applies. -/
def efficiencyFrom (held : ℚ) (ladder : List McsLevel) (linkQuality : ℚ) : ℚ :=
  ladder.foldl
    (fun efficiency level =>
      if level.minLinkQuality ≤ linkQuality then level.bitsPerSymbol else efficiency) held

/-- Thresholds do not fall along a sorted ladder. -/
def Sorted (ladder : List McsLevel) : Prop :=
  ladder.Pairwise (fun lower higher => lower.minLinkQuality ≤ higher.minLinkQuality)

/-- The source looks levels up in a sorted ladder. -/
theorem sortedMcs_sorted (config : MacConfig) : Sorted (sortedMcs config) := by
  have total : Std.Total fun left right : McsLevel => left.minLinkQuality ≤ right.minLinkQuality :=
    ⟨fun _ _ => le_total _ _⟩
  have transitive : IsTrans McsLevel fun left right => left.minLinkQuality ≤ right.minLinkQuality :=
    ⟨fun _ _ _ => le_trans⟩
  exact List.pairwise_insertionSort _ _

/-- A link below every threshold keeps what is in hand. -/
theorem efficiencyFrom_below (held : ℚ) (ladder : List McsLevel) (linkQuality : ℚ)
    (below : ∀ level ∈ ladder, linkQuality < level.minLinkQuality) :
    efficiencyFrom held ladder linkQuality = held := by
  induction ladder with
  | nil => rfl
  | cons level rest inductionHypothesis =>
    have unsupported := not_le.mpr (below level List.mem_cons_self)
    rw [efficiencyFrom, List.foldl_cons, if_neg unsupported]
    exact inductionHypothesis (fun other member => below other (List.mem_cons_of_mem _ member))

/-- On a sorted ladder the first threshold decides whether the lookup goes on. On an unsorted
one a later level could still apply. -/
theorem efficiencyFrom_cons (held : ℚ) (level : McsLevel) (rest : List McsLevel)
    (sorted : Sorted (level :: rest)) (linkQuality : ℚ) :
    efficiencyFrom held (level :: rest) linkQuality =
      if level.minLinkQuality ≤ linkQuality then
        efficiencyFrom level.bitsPerSymbol rest linkQuality
      else held := by
  split
  · rename_i supported
    rw [efficiencyFrom, List.foldl_cons, if_pos supported]
    rfl
  · rename_i unsupported
    apply efficiencyFrom_below
    intro other member
    rcases List.mem_cons.mp member with rfl | later
    · exact not_le.mp unsupported
    · exact (not_le.mp unsupported).trans_le ((List.pairwise_cons.mp sorted).1 other later)

/-- The levels that decide are levels of the ladder, in its order. -/
theorem decisive_sublist (ladder : List McsLevel) : (decisive ladder).Sublist ladder := by
  induction ladder using decisive.induct with
  | case1 => exact List.Sublist.refl _
  | case2 level => exact List.Sublist.refl _
  | case3 level next rest apart inductionHypothesis =>
    rw [decisive, if_pos apart]
    exact inductionHypothesis.cons_cons level
  | case4 level next rest together inductionHypothesis =>
    rw [decisive, if_neg together]
    exact inductionHypothesis.cons level

/-- From the first threshold on, the lookup gives the efficiency of a level that decides. -/
theorem efficiency_decisive (level : McsLevel) (rest : List McsLevel)
    (sorted : Sorted (level :: rest)) (linkQuality : ℚ)
    (above : level.minLinkQuality ≤ linkQuality) :
    ∃ decider ∈ decisive (level :: rest),
      efficiencyFrom level.bitsPerSymbol rest linkQuality = decider.bitsPerSymbol := by
  induction rest generalizing level with
  | nil => exact ⟨level, List.mem_singleton_self level, rfl⟩
  | cons next rest inductionHypothesis =>
    have tail := (List.pairwise_cons.mp sorted).2
    rw [efficiencyFrom_cons _ next rest tail, decisive]
    by_cases supported : next.minLinkQuality ≤ linkQuality
    · obtain ⟨decider, listed, same⟩ := inductionHypothesis next tail supported
      rw [if_pos supported]
      refine ⟨decider, ?_, same⟩
      split
      · exact List.mem_cons_of_mem _ listed
      · exact listed
    · rw [if_neg supported, if_pos (above.trans_lt (not_le.mp supported))]
      exact ⟨level, List.mem_cons_self, rfl⟩

/-- Every level that decides does so at its own threshold. -/
theorem decisive_efficiency (level : McsLevel) (rest : List McsLevel)
    (sorted : Sorted (level :: rest)) (decider : McsLevel)
    (listed : decider ∈ decisive (level :: rest)) :
    efficiencyFrom level.bitsPerSymbol rest decider.minLinkQuality = decider.bitsPerSymbol := by
  induction rest generalizing level with
  | nil =>
    obtain rfl := List.mem_singleton.mp listed
    rfl
  | cons next rest inductionHypothesis =>
    obtain ⟨_, tail⟩ := List.pairwise_cons.mp sorted
    have later (listed : decider ∈ decisive (next :: rest)) :
        efficiencyFrom level.bitsPerSymbol (next :: rest) decider.minLinkQuality =
          decider.bitsPerSymbol := by
      have reached : next.minLinkQuality ≤ decider.minLinkQuality := by
        rcases List.mem_cons.mp ((decisive_sublist _).subset listed) with rfl | member
        · exact le_refl _
        · exact (List.pairwise_cons.mp tail).1 decider member
      rw [efficiencyFrom_cons _ next rest tail, if_pos reached]
      exact inductionHypothesis next tail listed
    rw [decisive] at listed
    split at listed
    · rename_i apart
      rcases List.mem_cons.mp listed with rfl | member
      · rw [efficiencyFrom_cons _ next rest tail, if_neg (not_le.mpr apart)]
      · exact later member
    · exact later listed

/-- Where the deciding efficiencies rise, the lookup rises from the first threshold on. -/
theorem efficiencyFrom_rising (level : McsLevel) (rest : List McsLevel)
    (sorted : Sorted (level :: rest))
    (rising : (decisive (level :: rest)).Pairwise
      (fun lower higher => lower.bitsPerSymbol ≤ higher.bitsPerSymbol))
    {low high : ℚ} (above : level.minLinkQuality ≤ low) (ordered : low ≤ high) :
    efficiencyFrom level.bitsPerSymbol rest low ≤ efficiencyFrom level.bitsPerSymbol rest high := by
  induction rest generalizing level with
  | nil => exact le_refl level.bitsPerSymbol
  | cons next rest inductionHypothesis =>
    have tail := (List.pairwise_cons.mp sorted).2
    rw [efficiencyFrom_cons _ next rest tail, efficiencyFrom_cons _ next rest tail]
    rw [decisive] at rising
    by_cases supported : next.minLinkQuality ≤ low
    · have later : (decisive (next :: rest)).Pairwise
          (fun lower higher => lower.bitsPerSymbol ≤ higher.bitsPerSymbol) := by
        split at rising
        · exact (List.pairwise_cons.mp rising).2
        · exact rising
      rw [if_pos supported, if_pos (supported.trans ordered)]
      exact inductionHypothesis next tail later supported
    · rw [if_neg supported]
      split
      · rename_i reached
        obtain ⟨decider, listed, same⟩ := efficiency_decisive next rest tail high reached
        rw [if_pos (above.trans_lt (not_le.mp supported))] at rising
        rw [same]
        exact (List.pairwise_cons.mp rising).1 decider listed
      · exact le_refl level.bitsPerSymbol

/-- A link below the first threshold keeps the first efficiency. -/
theorem efficiencyFrom_unsupported (level : McsLevel) (rest : List McsLevel)
    (sorted : Sorted (level :: rest)) (linkQuality : ℚ)
    (unsupported : ¬ level.minLinkQuality ≤ linkQuality) :
    efficiencyFrom level.bitsPerSymbol rest linkQuality = level.bitsPerSymbol := by
  apply efficiencyFrom_below
  intro other member
  exact (not_le.mp unsupported).trans_le ((List.pairwise_cons.mp sorted).1 other member)

/-- The lookup starts from the first level whether or not the link supports it. -/
theorem spectralEfficiency_eq (level : McsLevel) (rest : List McsLevel) (linkQuality : ℚ) :
    spectralEfficiency (level :: rest) (List.cons_ne_nil level rest) linkQuality =
      efficiencyFrom level.bitsPerSymbol rest linkQuality := by
  rw [spectralEfficiency, efficiencyFrom, List.foldl_cons]
  simp only [List.head_cons, ite_self]

/-- The lookup does not fall along the links exactly on the graded ladders. Links are compared
over the whole unit interval. -/
theorem spectralEfficiency_rising (ladder : List McsLevel) (nonempty : ladder ≠ [])
    (sorted : Sorted ladder) :
    (∀ low high, 0 ≤ low → low ≤ high → high ≤ 1 →
        spectralEfficiency ladder nonempty low ≤ spectralEfficiency ladder nonempty high) ↔
      Graded ladder nonempty := by
  obtain ⟨level, rest, rfl⟩ := List.exists_cons_of_ne_nil nonempty
  simp only [spectralEfficiency_eq]
  constructor
  · intro rises
    have decides := decisive_efficiency level rest sorted
    have ordered : (decisive (level :: rest)).Pairwise
        (fun lower higher => lower.minLinkQuality ≤ higher.minLinkQuality) :=
      List.Pairwise.sublist (decisive_sublist _) sorted
    refine ⟨?_, ?_⟩
    · refine ordered.imp_of_mem ?_
      intro lower higher lowerListed higherListed below
      rw [← decides lower lowerListed, ← decides higher higherListed]
      exact rises _ _ lower.minLinkRange.1 below higher.minLinkRange.2
    · intro unsupported decider listed
      have held := efficiencyFrom_unsupported level rest sorted 0 (not_le.mpr unsupported)
      rw [List.head_cons, ← held, ← decides decider listed]
      exact rises _ _ (le_refl 0) decider.minLinkRange.1 decider.minLinkRange.2
  · rintro ⟨rising, fallback⟩ low high nonneg ordered _
    by_cases above : level.minLinkQuality ≤ low
    · exact efficiencyFrom_rising level rest sorted rising above ordered
    · have positive : 0 < level.minLinkQuality := nonneg.trans_lt (not_le.mp above)
      rw [efficiencyFrom_unsupported level rest sorted low above]
      by_cases reached : level.minLinkQuality ≤ high
      · obtain ⟨decider, listed, same⟩ := efficiency_decisive level rest sorted high reached
        rw [same]
        exact fallback positive decider listed
      · exact (efficiencyFrom_unsupported level rest sorted high reached).ge

/-- Every efficiency the lookup gives is that of a level, so it is positive. -/
theorem spectralEfficiency_pos (ladder : List McsLevel) (nonempty : ladder ≠ [])
    (linkQuality : ℚ) : 0 < spectralEfficiency ladder nonempty linkQuality := by
  rw [spectralEfficiency]
  refine List.foldlRecOn ladder _ (ladder.head nonempty).bitsPositive ?_
  intro efficiency positive level _
  split
  · exact level.bitsPositive
  · exact positive

/-- The blocks at one efficiency. -/
def blocksAt (config : MacConfig) (sizeBytes : ℤ) (efficiency : ℚ) : ℤ :=
  max 1 ⌈(sizeBytes * 8 : ℚ) / (config.symbolsPerRb * efficiency)⌉

/-- The need, as the blocks at the efficiency that the link supports. -/
theorem rbsNeeded_eq (config : MacConfig) (request : ServiceRequest) :
    rbsNeeded config request = blocksAt config request.sizeBytes
      (spectralEfficiency (sortedMcs config) (sortedMcs_ne_nil config) request.linkQuality) := by
  have symbols : (0 : ℚ) < config.symbolsPerRb := by exact_mod_cast config.symbolsPositive
  have efficient := spectralEfficiency_pos (sortedMcs config) (sortedMcs_ne_nil config)
    request.linkQuality
  exact if_neg (not_le.mpr (mul_pos symbols efficient))

/-- One efficiency asks for no more blocks than another, whatever the payload, exactly when it
is no lower. Single payloads can hide a difference in the rounding. -/
theorem blocksAt_antitone (config : MacConfig) {less more : ℚ} (lessPositive : 0 < less)
    (morePositive : 0 < more) :
    (∀ sizeBytes, blocksAt config sizeBytes more ≤ blocksAt config sizeBytes less) ↔
      less ≤ more := by
  have symbols : (0 : ℚ) < config.symbolsPerRb := by exact_mod_cast config.symbolsPositive
  constructor
  · intro fewer
    by_contra falls
    have falls : more < less := not_le.mp falls
    -- A payload large enough for the two needs to differ by a whole block.
    have gap : 0 < 8 / (config.symbolsPerRb * more) - 8 / (config.symbolsPerRb * less) := by
      have scaled := mul_lt_mul_of_pos_left falls symbols
      exact sub_pos.mpr (div_lt_div_of_pos_left (by norm_num) (mul_pos symbols morePositive) scaled)
    obtain ⟨size, large⟩ := exists_nat_gt (1 / (8 / (config.symbolsPerRb * more) -
      8 / (config.symbolsPerRb * less)))
    have apart := (div_lt_iff₀ gap).mp large
    have positive : (0 : ℚ) < size := (one_div_pos.mpr gap).trans large
    have carried : 0 < (size : ℚ) * 8 / (config.symbolsPerRb * less) :=
      div_pos (mul_pos positive (by norm_num)) (mul_pos symbols lessPositive)
    have whole : (size : ℚ) * 8 / (config.symbolsPerRb * less) + 1 ≤
        size * 8 / (config.symbolsPerRb * more) := by
      rw [mul_sub, ← mul_div_assoc, ← mul_div_assoc] at apart
      linarith
    have raised := Int.ceil_mono whole
    rw [Int.ceil_add_one] at raised
    have some := Int.ceil_pos.mpr carried
    have blocks := fewer size
    simp only [blocksAt, Int.cast_natCast] at blocks
    omega
  · intro rises sizeBytes
    by_cases payload : 0 ≤ (sizeBytes * 8 : ℚ)
    · have scaled := mul_le_mul_of_nonneg_left rises symbols.le
      have fewer := div_le_div_of_nonneg_left payload (mul_pos symbols lessPositive) scaled
      exact max_le_max_left 1 (Int.ceil_mono fewer)
    · have vacant := div_nonpos_of_nonpos_of_nonneg (not_le.mp payload).le
        (mul_pos symbols morePositive).le
      have none : ⌈(sizeBytes * 8 : ℚ) / (config.symbolsPerRb * more)⌉ ≤ 1 :=
        (Int.ceil_mono vacant).trans (by norm_num)
      exact (max_le (le_refl 1) none).trans (le_max_left 1 _)

/-- A better link costs no more blocks, for every payload, exactly on the configurations
whose sorted ladder is graded. -/
theorem better_link_fewer_blocks (config : MacConfig) :
    (∀ request : ServiceRequest, ∀ low high, 0 ≤ low → low ≤ high → high ≤ 1 →
        rbsNeeded config { request with linkQuality := high } ≤
          rbsNeeded config { request with linkQuality := low }) ↔
      Graded (sortedMcs config) (sortedMcs_ne_nil config) := by
  rw [← spectralEfficiency_rising _ _ (sortedMcs_sorted config)]
  have efficient := spectralEfficiency_pos (sortedMcs config) (sortedMcs_ne_nil config)
  simp only [rbsNeeded_eq]
  constructor
  · intro fewer low high nonneg ordered bounded
    apply (blocksAt_antitone config (efficient low) (efficient high)).mp
    intro sizeBytes
    exact fewer { requestId := "", trafficClass := .photo, region := .na, sizeBytes := sizeBytes,
                  linkQuality := 0, urgency := 0, arrivalStep := 0, deadlineStep := 0 }
      low high nonneg ordered bounded
  · intro rises request low high nonneg ordered bounded
    exact (blocksAt_antitone config (efficient low) (efficient high)).mpr
      (rises low high nonneg ordered bounded) request.sizeBytes

/-- A ladder that passes validation with the steeper level below: from the link 0 to the link
1/2 a payload of 2048 bytes comes to cost eight blocks where it cost four. -/
theorem better_link_more_blocks :
    ∃ config : MacConfig,
      config.mcsTable.map (fun level => (level.minLinkQuality, level.bitsPerSymbol)) =
        [(0, 2), (1 / 2, 1)] ∧
      ∃ request : ServiceRequest,
        rbsNeeded config { request with linkQuality := 0 } = 4 ∧
        rbsNeeded config { request with linkQuality := 1 / 2 } = 8 ∧
        ¬ rbsNeeded config { request with linkQuality := 1 / 2 } ≤
          rbsNeeded config { request with linkQuality := 0 } :=
  ⟨{ mcsTable := [{ minLinkQuality := 0, bitsPerSymbol := 2 },
                  { minLinkQuality := 1 / 2, bitsPerSymbol := 1 }] }, rfl,
    { requestId := "r", trafficClass := .photo, region := .na, sizeBytes := 2048, linkQuality := 0,
      urgency := 0, arrivalStep := 0, deadlineStep := 5 },
    by decide +kernel, by decide +kernel, by decide +kernel⟩

end Satsim
