import Satsim.Scheduling.Contract

/-!
# Resource-block grids

A beam is a grid of resource blocks, each worth an equal part of its capacity. Link
adaptation says how many blocks a payload needs; an airtime cap becomes the number of
whole blocks it covers. Granted and random access share these conversions.

Every conversion rounds towards the grid: a need is rounded up, a cap is rounded down. A
whole grid is worth the capacity it stands for, so nothing is lost in the split itself.
-/

namespace Satsim

/-- The ladder in ascending order of its thresholds. Levels of one threshold keep their
order. -/
def sortedMcs (config : MacConfig) : List McsLevel :=
  config.mcsTable.insertionSort (fun left right => left.minLinkQuality ≤ right.minLinkQuality)

/-- Sorting leaves a level. -/
theorem sortedMcs_ne_nil (config : MacConfig) : sortedMcs config ≠ [] := by
  intro vacant
  have same := (List.perm_insertionSort
    (fun left right : McsLevel => left.minLinkQuality ≤ right.minLinkQuality)
    config.mcsTable).length_eq
  rw [← sortedMcs, vacant] at same
  exact config.mcsTable_ne_nil (List.length_eq_zero_iff.mp same.symm)

/-- Bits per symbol of the last level the link supports, or of the lowest one. Only the
thresholds are compared. -/
def spectralEfficiency (mcs : List McsLevel) (nonempty : mcs ≠ []) (linkQuality : ℚ) : ℚ :=
  mcs.foldl
    (fun efficiency level =>
      if level.minLinkQuality ≤ linkQuality then level.bitsPerSymbol else efficiency)
    (mcs.head nonempty).bitsPerSymbol

/-- Blocks to carry a payload at the level its link supports; at least one. The quotient is
rounded up. -/
def rbsNeeded (config : MacConfig) (request : ServiceRequest) : ℤ :=
  let bits : ℚ := request.sizeBytes * 8
  let bitsPerRb : ℚ := config.symbolsPerRb *
    spectralEfficiency (sortedMcs config) (sortedMcs_ne_nil config) request.linkQuality
  if bitsPerRb ≤ 0 then 1 else max 1 ⌈bits / bitsPerRb⌉

/-- The per-request cap, or the need itself when the configuration has none. -/
def rbsCap (config : MacConfig) (needed : ℤ) : ℤ := config.maxRbsPerRequest.getD needed

/-- The fewest blocks a degradable request of this need accepts. It is a fraction of the need
under the per-request cap. -/
def degradeFloor (config : MacConfig) (needed : ℤ) : ℤ :=
  ⌈config.degradeMinFraction * (min needed (rbsCap config needed) : ℤ)⌉

/-- The floor under its own name, where the source writes the expression out. -/
theorem ceil_eq_degradeFloor (config : MacConfig) (needed : ℤ) :
    ⌈config.degradeMinFraction * (min needed (rbsCap config needed) : ℤ)⌉ =
      degradeFloor config needed := rfl

/-- A larger need has no smaller cap. -/
theorem rbsCap_mono (config : MacConfig) {less more : ℤ} (below : less ≤ more) :
    rbsCap config less ≤ rbsCap config more := by
  unfold rbsCap
  cases config.maxRbsPerRequest with
  | none => exact below
  | some cap => exact le_refl cap

/-- A lower need has a lower floor. -/
theorem degradeFloor_mono (config : MacConfig) {less more : ℤ} (below : less ≤ more) :
    degradeFloor config less ≤ degradeFloor config more := by
  have smaller := min_le_min below (rbsCap_mono config below)
  refine Int.ceil_mono (mul_le_mul_of_nonneg_left ?_ config.degradeRange.1.le)
  exact_mod_cast smaller

/-- Whole blocks an airtime cap covers. Worthless blocks are never granted, so a beam without
capacity offers none. -/
def regulatoryCapRbs (maxAirtimeUnits : Option ℚ) (rbUnits : ℚ) (unlimited : ℤ) : ℤ :=
  if rbUnits ≤ 0 then 0
  else
    match maxAirtimeUnits with
    | none => unlimited
    | some cap => max 0 ⌊cap / rbUnits⌋

/-- More blocks are covered where more are free. -/
theorem regulatoryCapRbs_mono (maxAirtimeUnits : Option ℚ) (worth : ℚ) {less more : ℤ}
    (below : less ≤ more) :
    regulatoryCapRbs maxAirtimeUnits worth less ≤ regulatoryCapRbs maxAirtimeUnits worth more := by
  unfold regulatoryCapRbs
  cases maxAirtimeUnits <;> split <;> first | exact below | exact le_refl _

/-- The capacity one block carries. The grid is never empty. -/
def rbUnits (config : MacConfig) (capacityUnits : ℚ) : ℚ :=
  capacityUnits / config.resourceBlocksPerBeam

/-- A beam is worth its blocks, exactly. -/
theorem rbUnits_total (config : MacConfig) (capacityUnits : ℚ) :
    config.resourceBlocksPerBeam * rbUnits config capacityUnits = capacityUnits := by
  have blocks : (0 : ℚ) < config.resourceBlocksPerBeam := by
    exact_mod_cast config.resourceBlocksPerBeam_pos
  exact mul_div_cancel₀ capacityUnits blocks.ne'

/-- A block of a beam with capacity is worth something or nothing, not less. -/
theorem rbUnits_nonneg (config : MacConfig) (capacityUnits : ℚ) (capacity : 0 ≤ capacityUnits) :
    0 ≤ rbUnits config capacityUnits := by
  have blocks : (0 : ℚ) < config.resourceBlocksPerBeam := by
    exact_mod_cast config.resourceBlocksPerBeam_pos
  exact div_nonneg capacity blocks.le

/-- Every payload needs a block. -/
theorem rbsNeeded_pos (config : MacConfig) (request : ServiceRequest) :
    1 ≤ rbsNeeded config request := by
  unfold rbsNeeded
  dsimp only
  split
  · exact le_refl 1
  · exact le_max_left _ _

/-- A positive number of blocks within a regulatory cap is worth a positive amount a
block and stays within the airtime cap. -/
theorem regulatoryCap_worth (maxAirtimeUnits : Option ℚ) (worth : ℚ) (unlimited rbs : ℤ)
    (positive : 0 < rbs) (within : rbs ≤ regulatoryCapRbs maxAirtimeUnits worth unlimited) :
    0 < worth ∧ ∀ cap ∈ maxAirtimeUnits, rbs * worth ≤ cap := by
  unfold regulatoryCapRbs at within
  split at within
  · omega
  rename_i valuable
  have valuable : 0 < worth := not_le.mp valuable
  refine ⟨valuable, ?_⟩
  rintro cap (rfl : maxAirtimeUnits = some cap)
  have covered : rbs ≤ ⌊cap / worth⌋ := by
    cases le_max_iff.mp within with
    | inl none =>
      omega
    | inr whole =>
      exact whole
  exact (le_div_iff₀ valuable).mp (Int.le_floor.mp covered)

end Satsim
