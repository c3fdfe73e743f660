import Satsim.Library.Rank
import Satsim.Runtime.Telemetry

/-!
# Latency percentiles

The waits of every served request of a run are sorted, and a percentile is the wait of the
nearest rank: its share of the count, rounded up and at least one. The two counts around
a percentile pin the rank down, so neither the order of the waits nor their split over the
steps matters.

The source sorts floating-point numbers that stand for whole steps, and here they are
rationals. The rank is computed exactly, so a share that falls on a boundary takes the
rank that the formula gives.
-/

namespace Satsim

open Library.Rank

/-- `_percentile`, on values already sorted. A rank beyond the last is an index error, which is
shown not to happen for the percentiles that are asked for. -/
def percentile (sortedValues : List ℚ) (pct : ℚ) : Option ℚ :=
  if sortedValues = [] then some 0
  else
    let rank : ℤ := max 1 ⌈pct / 100 * sortedValues.length⌉
    sortedValues[(rank - 1).toNat]?

/-- The waits of every served request, step by step. A request waits from its arrival, through
all its retries. -/
def servedWaits (steps : List StepCounters) : List ℚ :=
  steps.flatMap (fun counters => counters.servedWaitSteps.map (fun wait => (wait : ℚ)))

/-- The same, sorted. -/
def sortedWaits (steps : List StepCounters) : List ℚ :=
  (servedWaits steps).insertionSort (· ≤ ·)

/-- The figures of the summary, by the source's keys. -/
structure LatencyPercentiles where
  p50 : ℚ
  p95 : ℚ
  p99 : ℚ
  max : ℚ
  count : ℚ
  deriving DecidableEq

/-- `latency_percentiles`. Without a wait every figure is zero. -/
def latencyPercentiles (steps : List StepCounters) : Option LatencyPercentiles := do
  let waits := sortedWaits steps
  let p50 ← percentile waits 50
  let p95 ← percentile waits 95
  let p99 ← percentile waits 99
  pure { p50, p95, p99, max := waits.getLast?.getD 0, count := waits.length }

section Percentile

variable (values : List ℚ)

/-- The rank of a percentile lies in the list, at its share of the count or just above. All
later facts about percentiles are read off this position. -/
theorem rank_bounds (pct : ℚ) (inhabited : values ≠ []) (positive : 0 < pct)
    (within : pct ≤ 100) :
    ∃ position : ℕ, position < values.length ∧ percentile values pct = values[position]? ∧
      (position : ℚ) < pct / 100 * values.length ∧
      pct / 100 * values.length ≤ (position : ℚ) + 1 := by
  have length : (0 : ℚ) < values.length := by
    exact_mod_cast List.length_pos_iff.mpr inhabited
  have share : 0 < pct / 100 * values.length := by positivity
  have whole : pct / 100 * values.length ≤ values.length :=
    mul_le_of_le_one_left length.le (by linarith)
  have rank : 0 < ⌈pct / 100 * values.length⌉ := Int.ceil_pos.mpr share
  have most : ⌈pct / 100 * values.length⌉ ≤ (values.length : ℤ) :=
    Int.ceil_le.mpr (by exact_mod_cast whole)
  have above := Int.le_ceil (pct / 100 * values.length)
  have below := Int.ceil_lt_add_one (pct / 100 * values.length)
  obtain ⟨position, placed⟩ : ∃ position : ℕ, ⌈pct / 100 * values.length⌉ = position + 1 :=
    ⟨(⌈pct / 100 * values.length⌉ - 1).toNat, by omega⟩
  rw [placed] at above below most
  push_cast at above below
  refine ⟨position, by omega, ?_, by linarith, above⟩
  have index : (max 1 ((position : ℤ) + 1) - 1).toNat = position := by omega
  simp only [percentile, if_neg inhabited, placed, index]

variable (sorted : values.SortedLE)
include sorted

/-- A percentile is one of the values. Its share of them lies at or below it, and less than
its share strictly below. -/
theorem percentile_spec (pct : ℚ) (inhabited : values ≠ []) (positive : 0 < pct)
    (within : pct ≤ 100) :
    ∃ value ∈ values, percentile values pct = some value ∧
      pct / 100 * values.length ≤ values.countP (fun other => decide (other ≤ value)) ∧
      (values.countP (fun other => decide (other < value)) : ℚ) < pct / 100 * values.length := by
  obtain ⟨position, inside, found, above, below⟩ :=
    rank_bounds values pct inhabited positive within
  have covered : ((position + 1 : ℕ) : ℚ) ≤
      values.countP (fun other => decide (other ≤ values[position])) := by
    exact_mod_cast rank_le_countP values sorted position inside
  have earlier : (values.countP (fun other => decide (other < values[position])) : ℚ) ≤
      position := by
    exact_mod_cast countP_lt_rank values sorted position inside
  refine ⟨values[position], List.getElem_mem inside, ?_, ?_, earlier.trans_lt above⟩
  · rw [found, List.getElem?_eq_getElem inside]
  · push_cast at covered
    exact below.trans covered

/-- A percentile rises with its share, since ranks do and the values are sorted. -/
theorem percentile_mono (low high lower upper : ℚ) (inhabited : values ≠ []) (positive : 0 < low)
    (ordered : low ≤ high) (within : high ≤ 100) (lowFound : percentile values low = some lower)
    (highFound : percentile values high = some upper) : lower ≤ upper := by
  obtain ⟨position, inside, found, above, _⟩ :=
    rank_bounds values low inhabited positive (ordered.trans within)
  obtain ⟨other, otherInside, otherFound, _, below⟩ :=
    rank_bounds values high inhabited (positive.trans_le ordered) within
  rw [found, List.getElem?_eq_getElem inside, Option.some.injEq] at lowFound
  rw [otherFound, List.getElem?_eq_getElem otherInside, Option.some.injEq] at highFound
  have shares : low / 100 * values.length ≤ high / 100 * values.length := by gcongr
  have ranks : position < other + 1 := by
    have : (position : ℚ) < (other : ℚ) + 1 := by linarith
    exact_mod_cast this
  rw [← lowFound, ← highFound]
  exact sorted.getElem_le_getElem_of_le (Nat.lt_succ_iff.mp ranks)

/-- A percentile is at most the last value. -/
theorem percentile_le_last (pct value : ℚ) (inhabited : values ≠ []) (positive : 0 < pct)
    (within : pct ≤ 100) (found : percentile values pct = some value) :
    value ≤ values.getLast inhabited := by
  obtain ⟨other, member, same, _⟩ := percentile_spec values sorted pct inhabited positive within
  obtain rfl := Option.some.inj (same.symm.trans found)
  exact sorted_le_getLast values sorted inhabited other member

end Percentile

section Steps

variable (steps : List StepCounters)

/-- Sorting only rearranges the waits. -/
theorem sortedWaits_perm : (sortedWaits steps).Perm (servedWaits steps) :=
  List.perm_insertionSort _ _

/-- They are in order. -/
theorem sortedWaits_sorted : (sortedWaits steps).SortedLE := List.sortedLE_insertionSort

/-- And there is one, if a request was served. -/
theorem sortedWaits_ne_nil (served : servedWaits steps ≠ []) : sortedWaits steps ≠ [] := by
  intro vacant
  have rearranged := sortedWaits_perm steps
  rw [vacant] at rearranged
  exact served rearranged.nil_eq.symm

/-- The sorted waits depend on which waits there are, not on their order or their steps. -/
theorem sortedWaits_congr (others : List StepCounters)
    (same : (servedWaits others).Perm (servedWaits steps)) :
    sortedWaits others = sortedWaits steps :=
  ((sortedWaits_perm others).trans (same.trans (sortedWaits_perm steps).symm)).eq_of_pairwise
    (fun _ _ _ _ before after => le_antisymm before after)
    (sortedWaits_sorted others).pairwise (sortedWaits_sorted steps).pairwise

/-- Without a wait to report, every figure is zero. -/
theorem latencyPercentiles_vacant (vacant : servedWaits steps = []) :
    latencyPercentiles steps = some ⟨0, 0, 0, 0, 0⟩ := by
  simp [latencyPercentiles, sortedWaits, vacant, percentile]

/-- With a wait to report, the summary has its percentiles in order below the longest wait,
which is one of the waits. -/
theorem latencyPercentiles_ordered (served : servedWaits steps ≠ []) :
    ∃ summary, latencyPercentiles steps = some summary ∧
      summary.p50 ≤ summary.p95 ∧ summary.p95 ≤ summary.p99 ∧ summary.p99 ≤ summary.max ∧
      summary.max ∈ servedWaits steps ∧ (∀ wait ∈ servedWaits steps, wait ≤ summary.max) ∧
      summary.count = (servedWaits steps).length := by
  have sorted := sortedWaits_sorted steps
  have rearranged := sortedWaits_perm steps
  have inhabited := sortedWaits_ne_nil steps served
  obtain ⟨p50, _, median, _⟩ :=
    percentile_spec _ sorted 50 inhabited (by norm_num) (by norm_num)
  obtain ⟨p95, _, high, _⟩ := percentile_spec _ sorted 95 inhabited (by norm_num) (by norm_num)
  obtain ⟨p99, _, tail, _⟩ := percentile_spec _ sorted 99 inhabited (by norm_num) (by norm_num)
  have longest : (sortedWaits steps).getLast?.getD 0 = (sortedWaits steps).getLast inhabited := by
    rw [List.getLast?_eq_getLast_of_ne_nil inhabited, Option.getD_some]
  refine ⟨⟨p50, p95, p99, (sortedWaits steps).getLast inhabited, (sortedWaits steps).length⟩,
    ?_, ?_, ?_, ?_, ?_, ?_, ?_⟩
  · simp [latencyPercentiles, median, high, tail, longest]
  · exact percentile_mono _ sorted 50 95 _ _ inhabited (by norm_num) (by norm_num) (by norm_num)
      median high
  · exact percentile_mono _ sorted 95 99 _ _ inhabited (by norm_num) (by norm_num) (by norm_num)
      high tail
  · exact percentile_le_last _ sorted 99 _ inhabited (by norm_num) (by norm_num) tail
  · exact rearranged.mem_iff.mp (List.getLast_mem inhabited)
  · intro wait member
    exact sorted_le_getLast _ sorted inhabited wait (rearranged.mem_iff.mpr member)
  · exact congrArg Nat.cast rearranged.length_eq

/-- The summary of a run is never an index error, whatever was served. -/
theorem latencyPercentiles_isSome : (latencyPercentiles steps).isSome := by
  by_cases vacant : servedWaits steps = []
  · rw [latencyPercentiles_vacant steps vacant, Option.isSome_some]
  · obtain ⟨summary, found, _⟩ := latencyPercentiles_ordered steps vacant
    rw [found, Option.isSome_some]

/-- Percentiles of the served waits are of nearest rank. Whatever the steps, as long as some
request was served, every percentile is defined and is a wait, with its share of the waits at
or below it and less than its share strictly below; it rises with the share; the reported
percentiles are in order; and only the waits themselves matter. -/
theorem latency_nearest_rank (served : servedWaits steps ≠ []) :
    (∀ pct, 0 < pct → pct ≤ 100 →
      ∃ value ∈ servedWaits steps, percentile (sortedWaits steps) pct = some value ∧
        pct / 100 * (servedWaits steps).length ≤
          (servedWaits steps).countP (fun wait => decide (wait ≤ value)) ∧
        ((servedWaits steps).countP (fun wait => decide (wait < value)) : ℚ) <
          pct / 100 * (servedWaits steps).length) ∧
      (∀ low high, 0 < low → low ≤ high → high ≤ 100 →
        ∃ lower upper, percentile (sortedWaits steps) low = some lower ∧
          percentile (sortedWaits steps) high = some upper ∧ lower ≤ upper) ∧
      (∃ summary, latencyPercentiles steps = some summary ∧
        summary.p50 ≤ summary.p95 ∧ summary.p95 ≤ summary.p99 ∧ summary.p99 ≤ summary.max ∧
        summary.max ∈ servedWaits steps ∧ (∀ wait ∈ servedWaits steps, wait ≤ summary.max) ∧
        summary.count = (servedWaits steps).length) ∧
      ∀ others : List StepCounters, (servedWaits others).Perm (servedWaits steps) →
        (∀ pct, percentile (sortedWaits others) pct = percentile (sortedWaits steps) pct) ∧
          latencyPercentiles others = latencyPercentiles steps := by
  have sorted := sortedWaits_sorted steps
  have rearranged := sortedWaits_perm steps
  have inhabited := sortedWaits_ne_nil steps served
  refine ⟨?_, ?_, latencyPercentiles_ordered steps served, ?_⟩
  · intro pct positive within
    obtain ⟨value, member, found, covered, below⟩ :=
      percentile_spec _ sorted pct inhabited positive within
    rw [rearranged.countP_eq, rearranged.length_eq] at covered below
    exact ⟨value, rearranged.mem_iff.mp member, found, covered, below⟩
  · intro low high positive ordered within
    obtain ⟨lower, _, lowFound, _⟩ :=
      percentile_spec _ sorted low inhabited positive (ordered.trans within)
    obtain ⟨upper, _, highFound, _⟩ :=
      percentile_spec _ sorted high inhabited (positive.trans_le ordered) within
    exact ⟨lower, upper, lowFound, highFound,
      percentile_mono _ sorted low high _ _ inhabited positive ordered within lowFound highFound⟩
  · intro others same
    have waits := sortedWaits_congr steps others same
    exact ⟨fun pct => by rw [waits], by rw [latencyPercentiles, waits, latencyPercentiles]⟩

/-- Three waits over two steps, the longest of them twice. -/
theorem latency_nearest_rank_three :
    ∃ summary, latencyPercentiles [{ step := 0, servedWaitSteps := [3, 1] },
        { step := 1, servedWaitSteps := [3] }] = some summary ∧
      summary.p99 ≤ summary.max ∧ summary.count = 3 := by
  obtain ⟨_, _, ⟨summary, found, _, _, below, _, _, counted⟩, _⟩ := latency_nearest_rank
    [{ step := 0, servedWaitSteps := [3, 1] }, { step := 1, servedWaitSteps := [3] }]
    (by simp [servedWaits])
  exact ⟨summary, found, below, by simpa [servedWaits] using counted⟩

end Steps

namespace ControlLoop

variable {σ π φ ο : Type} (loop : ControlLoop σ π φ ο)

/-- A step records one wait for each request it serves. -/
theorem Stepped.waits_length {t : ℤ} {state next : LoopState σ π φ ο} {trace : StepTrace}
    (stepped : loop.Stepped t state next trace) :
    trace.counters.servedWaitSteps.length = trace.counters.served := by
  rw [stepped.counters]
  simp [buildCounters]

/-- The latency summary of a run counts exactly the requests that the run served. -/
theorem run_latency_count (start : ℤ) (count : ℕ) (initial final : LoopState σ π φ ο)
    (traces : List StepTrace)
    (completed : loop.run start count initial = some (final, traces)) :
    (servedWaits (traces.map StepTrace.counters)).length =
      (traces.map (fun trace => trace.counters.served)).sum := by
  rw [servedWaits, List.length_flatMap, List.map_map]
  congr 1
  apply List.map_congr_left
  intro trace member
  obtain ⟨_, _, stepped⟩ := run_stepped loop start count initial final traces completed trace member
  simpa using stepped.waits_length

end ControlLoop

end Satsim
