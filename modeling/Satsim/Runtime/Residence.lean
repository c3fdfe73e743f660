import Satsim.Runtime.Conservation
import Satsim.Runtime.Retry

/-!
# How long a request stays, and how often it returns

Retrying has an end. A request that is polled is served, dropped or rejected within the
rounds of its class's budget, counted from the step that polled it: the queue cannot hold
it longer, and what the queue does not hold has been settled. A request enters at most
one step more than its budget, so the work the retries add to a run is bounded by what
was polled, whatever the schedulers defer.

Both bounds are computed from the configuration and hold of each request by itself. They
are not tight when the queue is full, since a request that finds no room is dropped at
once.
-/

namespace Satsim

open Library

/-- The requests a step is done with: served, dropped or rejected. None of them comes back. -/
def StepTrace.settled (trace : StepTrace) : List ServiceRequest :=
  trace.served ++ trace.dropped.map RejectedRequest.request ++
    trace.rejected.map RejectedRequest.request

/-- A lineage starts with a polled request, whose identity and class it keeps. So the budget of
a retried request is the one it was polled with. -/
theorem Lineage.origin {traces : List StepTrace} {original request : ServiceRequest} {s : ℤ}
    {k : ℕ} (lineage : Lineage traces original s k request) :
    (∃ trace ∈ traces, trace.step = s ∧ original ∈ trace.polled) ∧
      request.identity = original.identity ∧ request.trafficClass = original.trafficClass := by
  induction lineage with
  | polled trace member step arrived => exact ⟨⟨trace, member, step, arrived⟩, rfl, rfl⟩
  | again _ _ _ _ _ _ _ _ _ counted inductionHypothesis =>
    obtain ⟨polled, sameIdentity, sameClass⟩ := inductionHypothesis
    rw [counted]
    exact ⟨polled, sameIdentity, sameClass⟩

/-- When no id is polled twice, an id tells the request and the step that polled it. So a queue
entry can be traced to one origin. -/
theorem polled_once (traces : List StepTrace)
    (distinct : ((traces.flatMap StepTrace.polled).map ServiceRequest.requestId).Nodup)
    (first second : StepTrace) (firstMember : first ∈ traces) (secondMember : second ∈ traces)
    (request other : ServiceRequest) (polled : request ∈ first.polled)
    (otherPolled : other ∈ second.polled) (same : request.requestId = other.requestId) :
    first = second ∧ request = other := by
  have equal : request = other := List.inj_on_of_nodup_map distinct
    (List.mem_flatMap.mpr ⟨first, firstMember, polled⟩)
    (List.mem_flatMap.mpr ⟨second, secondMember, otherPolled⟩) same
  refine ⟨?_, equal⟩
  by_contra different
  have apart := (List.nodup_flatMap.mp distinct.of_map).2
  have symmetric : Std.Symm (fun left right : StepTrace => left.polled.Disjoint right.polled) :=
    ⟨fun _ _ disjoint => disjoint.symm⟩
  exact apart.forall firstMember secondMember different polled (equal ▸ otherPolled)

/-- More rounds take longer. -/
theorem lifetimeBound_mono (overload : OverloadConfig) {fewer more : ℕ} (below : fewer ≤ more) :
    lifetimeBound overload fewer ≤ lifetimeBound overload more := by
  apply Finset.sum_le_sum_of_subset_of_nonneg
  · exact Finset.range_mono below
  · intro round _ _
    exact le_trans (by norm_num) (le_max_left 1 _)

namespace ControlLoop

variable {σ π φ ο : Type} (loop : ControlLoop σ π φ ο)

/-- The longest a request of a class stays: the rounds of its whole budget. It is computed from
the configuration. -/
def residenceBound (trafficClass : TrafficClass) : ℤ :=
  lifetimeBound loop.config.overload (loop.retryBudget trafficClass).toNat

/-- A budget is not negative, since the validators ask this of a profile and a class outside the
mix has none. -/
theorem retryBudget_nonneg (trafficClass : TrafficClass) : 0 ≤ loop.retryBudget trafficClass := by
  unfold retryBudget
  cases loop.config.profile? trafficClass with
  | none => exact le_refl 0
  | some profile => exact profile.budgetNonneg

section Run

variable (deferring : loop.Deferring) (start : ℤ) (count : ℕ) (initial final : LoopState σ π φ ο)
  (vacant : initial.retryQueue = []) (traces : List StepTrace)
  (completed : loop.run start count initial = some (final, traces))
  (enters : ∀ request ∈ traces.flatMap StepTrace.polled, request.retryCount = 0)
include deferring vacant completed enters

/-- Over a run every queue entry is disciplined, at the step the run has reached. -/
theorem run_disciplined : ∀ entry ∈ final.retryQueue, ∃ original s k,
    loop.Disciplined traces (start + count) entry original s k := by
  refine loop.run_invariant start (fun count traces state =>
    (∀ request ∈ traces.flatMap StepTrace.polled, request.retryCount = 0) →
      ∀ entry ∈ state.retryQueue, ∃ original s k,
        loop.Disciplined traces (start + count) entry original s k)
    initial (by simp [vacant]) ?_ count final traces completed enters
  intro count traces state next trace earlier stepped enters
  rw [List.flatMap_append] at enters
  have before := earlier (fun request polled => enters request (List.mem_append_left _ polled))
  have after := stepped.disciplined loop deferring traces
    (fun request polled => enters request (List.mem_append_right _ (by simpa using polled))) before
  simpa only [Nat.cast_add, Nat.cast_one, ← add_assoc] using after

variable (distinct : ((traces.flatMap StepTrace.polled).map ServiceRequest.requestId).Nodup)
include distinct

/-- The queue does not hold a request beyond the rounds of its class's budget: an entry that old
would have a longer lineage than its budget allows. -/
theorem run_departed (trace : StepTrace) (member : trace ∈ traces) (request : ServiceRequest)
    (polled : request ∈ trace.polled)
    (outlived : trace.step + loop.residenceBound request.trafficClass < start + count) :
    ∀ entry ∈ final.retryQueue, entry.request.identity ≠ request.identity := by
  intro entry queued same
  obtain ⟨original, s, k, kept⟩ := loop.run_disciplined deferring start count initial final vacant
    traces completed enters entry queued
  obtain ⟨⟨source, listed, atStep, entered⟩, sameIdentity, sameClass⟩ := kept.lineage.origin
  have named : request.requestId = original.requestId :=
    congrArg Identity.requestId (same.symm.trans sameIdentity)
  obtain ⟨rfl, rfl⟩ := polled_once traces distinct trace source member listed request original
    polled entered named
  have budget := kept.budget
  have counted := kept.counted
  have lived := kept.lived
  rw [sameClass] at budget
  have bounded : lifetimeBound loop.config.overload k ≤ loop.residenceBound request.trafficClass :=
    lifetimeBound_mono _ (by omega)
  have now := le_max_right entry.eligibleStep (start + count)
  omega

end Run

/-- What was polled and is no longer queued has been settled by some step, by the balance of the
ledger. -/
theorem run_settled (contracted : loop.Contracted) (start : ℤ) (count : ℕ)
    (initial final : LoopState σ π φ ο) (vacant : initial.retryQueue = []) (traces : List StepTrace)
    (completed : loop.run start count initial = some (final, traces))
    (distinct : ((traces.flatMap StepTrace.polled).map ServiceRequest.requestId).Nodup)
    (request : ServiceRequest) (polled : request ∈ traces.flatMap StepTrace.polled)
    (departed : ∀ entry ∈ final.retryQueue, entry.request.identity ≠ request.identity) :
    ∃ trace ∈ traces, request.identity ∈ trace.settled.map ServiceRequest.identity := by
  have balanced := loop.run_balanced contracted start count initial final vacant traces completed
    distinct
  have arrived : request.identity ∈ (ledger traces final.retryQueue).arrived :=
    Multiset.mem_coe.mpr (List.mem_map_of_mem polled)
  have unqueued : request.identity ∉ queuedIdentities final.retryQueue := by
    intro held
    obtain ⟨item, listed, same⟩ := List.mem_map.mp (Multiset.mem_coe.mp held)
    obtain ⟨entry, queued, rfl⟩ := List.mem_map.mp listed
    exact departed entry queued same
  rw [balanced] at arrived
  simp only [ledger, Multiset.mem_add, unqueued, or_false, identities, rejectedIdentities,
    Multiset.mem_coe, List.map_map, List.map_flatMap, List.mem_flatMap] at arrived
  rcases arrived with (⟨trace, member, settled⟩ | ⟨trace, member, settled⟩) |
    ⟨trace, member, settled⟩ <;>
  exact ⟨trace, member, by simp only [StepTrace.settled, List.map_append, List.map_map,
    List.mem_append, settled, true_or, or_true]⟩

/-- How often a request id entered these steps from the queue. A release is a retry. -/
def timesReleased (traces : List StepTrace) (requestId : String) : ℕ :=
  ((traces.flatMap StepTrace.released).map ServiceRequest.requestId).count requestId

/-- How often a request id entered these steps, as a new arrival or from the queue. -/
def timesEntered (traces : List StepTrace) (requestId : String) : ℕ :=
  ((traces.flatMap StepTrace.arrivals).map ServiceRequest.requestId).count requestId

/-- An id enters when it is polled and when it is released, and in no other way. -/
theorem timesEntered_split (traces : List StepTrace) (requestId : String) :
    timesEntered traces requestId =
      ((traces.flatMap StepTrace.polled).map ServiceRequest.requestId).count requestId +
        timesReleased traces requestId := by
  induction traces with
  | nil => rfl
  | cons trace rest inductionHypothesis =>
    simp only [timesEntered, timesReleased, List.flatMap_cons, List.map_append, List.count_append,
      StepTrace.arrivals] at inductionHypothesis ⊢
    omega

section Amplification

variable {t : ℤ} {state next : LoopState σ π φ ο} {trace : StepTrace}

/-- What a step releases or holds was queued, and each entry does one of the two. -/
theorem Stepped.released_held (stepped : loop.Stepped t state next trace) (requestId : String) :
    (trace.released.map ServiceRequest.requestId).count requestId +
        (trace.held.map (fun entry => entry.request.requestId)).count requestId =
      (state.retryQueue.map (fun entry => entry.request.requestId)).count requestId := by
  have parts := ((List.filter_append_perm (due t) state.retryQueue).map
    (fun entry => entry.request.requestId)).count_eq requestId
  rw [List.map_append, List.count_append] at parts
  rw [stepped.released, stepped.held, List.map_map]
  exact parts

variable (deferring : loop.Deferring) (start : ℤ) (count : ℕ) (initial final : LoopState σ π φ ο)
  (vacant : initial.retryQueue = []) (traces : List StepTrace)
  (completed : loop.run start count initial = some (final, traces))
include vacant completed

/-- What was put back has been released or is queued. It counts one id through the queue, over
the whole run. -/
theorem run_released (requestId : String) :
    timesReleased traces requestId +
        (final.retryQueue.map (fun entry => entry.request.requestId)).count requestId =
      timesRequeued traces requestId := by
  refine loop.run_invariant start (fun _ traces state => timesReleased traces requestId +
      (state.retryQueue.map (fun entry => entry.request.requestId)).count requestId =
        timesRequeued traces requestId) initial ?_ ?_ count final traces completed
  · simp [vacant, timesReleased, timesRequeued]
  · intro count traces state next trace balanced stepped
    have moved := stepped.released_held loop requestId
    have released : timesReleased (traces ++ [trace]) requestId = timesReleased traces requestId +
        (trace.released.map ServiceRequest.requestId).count requestId := by
      simp [timesReleased]
    rw [released, timesRequeued_append, stepped.queue, List.map_append, List.count_append]
    omega

variable (enters : ∀ request ∈ traces.flatMap StepTrace.polled, request.retryCount = 0)
  (distinct : ((traces.flatMap StepTrace.polled).map ServiceRequest.requestId).Nodup)
include deferring enters distinct

/-- No request is put back more often than its class's budget. The retry count is the number of
times, and the budget is asked before each. -/
theorem run_within_budget (request : ServiceRequest)
    (polled : request ∈ traces.flatMap StepTrace.polled) :
    (timesRequeued traces request.requestId : ℤ) ≤ loop.retryBudget request.trafficClass := by
  refine loop.run_reached start (fun _ traces _ =>
    (∀ request ∈ traces.flatMap StepTrace.polled, request.retryCount = 0) →
      ((traces.flatMap StepTrace.polled).map ServiceRequest.requestId).Nodup →
        ∀ request ∈ traces.flatMap StepTrace.polled,
          (timesRequeued traces request.requestId : ℤ) ≤ loop.retryBudget request.trafficClass)
    initial (by simp) ?_ count final traces completed enters distinct request polled
  intro count traces state next trace reached earlier stepped enters distinct request polled
  have sooner : (traces.flatMap StepTrace.polled) ⊆
      (traces ++ [trace]).flatMap StepTrace.polled := by
    rw [List.flatMap_append]
    exact List.subset_append_left _ _
  have before := polled_distinct_before traces trace distinct
  have fresh := fun request member => enters request (sooner member)
  have tallied := loop.run_tallied deferring start count initial state vacant traces reached fresh
    before
  have requeuedDistinct := subperm_nodup _ _ (stepped.requeued_subperm loop deferring)
    (List.nodup_append'.mp (stepped.ids_distinct loop traces tallied distinct)).2.1
  rw [timesRequeued_append]
  by_cases back : request.requestId ∈ trace.requeued.map (fun entry => entry.request.requestId)
  · -- The request is put back in this step, so it arrived within its budget.
    obtain ⟨entry, listed, named⟩ := List.mem_map.mp back
    obtain ⟨arrival, arrived, _, within, _, rfl⟩ :=
      stepped.requeued_arrived loop deferring entry listed
    have counted := stepped.arrival_counted loop traces
      (fun request member => enters request (by simp [member])) tallied distinct arrival arrived
    obtain ⟨original, s, k, aged⟩ := stepped.arrival_aged loop traces
      (fun request member => enters request (by simp [member]))
      (loop.run_disciplined deferring start count initial state vacant traces reached fresh) arrival
      arrived
    obtain ⟨⟨source, member, _, entered⟩, sameIdentity, sameClass⟩ := aged.lineage.origin
    have same : arrival.requestId = original.requestId := congrArg Identity.requestId sameIdentity
    obtain rfl : original = request := List.inj_on_of_nodup_map distinct
      (List.mem_flatMap.mpr ⟨source, member, entered⟩) polled (same.symm.trans named)
    rw [List.count_eq_one_of_mem requeuedDistinct back, ← sameClass, ← same]
    push_cast
    omega
  · rw [List.count_eq_zero_of_not_mem back, Nat.add_zero]
    rw [List.flatMap_append, List.mem_append] at polled
    rcases polled with old | new
    · exact earlier fresh before request old
    · have unseen : request.requestId ∉
          (traces.flatMap StepTrace.polled).map ServiceRequest.requestId := by
        rw [List.flatMap_append, List.map_append] at distinct
        exact fun seen => List.disjoint_of_nodup_append distinct seen (List.mem_map_of_mem new)
      rw [tallied.fresh _ unseen]
      exact loop.retryBudget_nonneg _

/-- A request enters at most one step more than its class's budget. -/
theorem run_entered (request : ServiceRequest)
    (polled : request ∈ traces.flatMap StepTrace.polled) :
    timesEntered traces request.requestId ≤ 1 + (loop.retryBudget request.trafficClass).toNat := by
  have budget := loop.run_within_budget deferring start count initial final vacant traces completed
    enters distinct request polled
  have released := loop.run_released start count initial final vacant traces completed
    request.requestId
  have once := List.count_eq_one_of_mem distinct (List.mem_map_of_mem polled)
  have split := timesEntered_split traces request.requestId
  omega

end Amplification

/-- What a step settles has been polled, in that step or before: nothing is served, dropped or
rejected that never came in. -/
theorem run_settled_polled (contracted : loop.Contracted) (start : ℤ) (count : ℕ)
    (initial final : LoopState σ π φ ο) (vacant : initial.retryQueue = []) (traces : List StepTrace)
    (completed : loop.run start count initial = some (final, traces))
    (distinct : ((traces.flatMap StepTrace.polled).map ServiceRequest.requestId).Nodup)
    (settling : StepTrace) (member : settling ∈ traces) (identity : Identity)
    (settled : identity ∈ settling.settled.map ServiceRequest.identity) :
    ∃ request ∈ traces.flatMap StepTrace.polled, request.identity = identity := by
  have balanced := loop.run_balanced contracted start count initial final vacant traces completed
    distinct
  have arrived : identity ∈ (ledger traces final.retryQueue).arrived := by
    rw [balanced]
    simp only [StepTrace.settled, List.map_append, List.mem_append] at settled
    simp only [ledger, Multiset.mem_add, identities, rejectedIdentities, Multiset.mem_coe,
      List.map_map, List.map_flatMap, List.mem_flatMap] at settled ⊢
    rcases settled with (served | dropped) | rejected
    · exact Or.inl (Or.inl (Or.inl ⟨settling, member, served⟩))
    · exact Or.inl (Or.inl (Or.inr ⟨settling, member, dropped⟩))
    · exact Or.inl (Or.inr ⟨settling, member, rejected⟩)
  exact List.mem_map.mp (Multiset.mem_coe.mp arrived)

section Departure

variable (contracted : loop.Contracted) (start : ℤ) (count : ℕ)
  (initial final : LoopState σ π φ ο) (vacant : initial.retryQueue = []) (traces : List StepTrace)
  (completed : loop.run start count initial = some (final, traces))
  (distinct : ((traces.flatMap StepTrace.polled).map ServiceRequest.requestId).Nodup)
  (index : ℕ) (trace : StepTrace) (found : traces[index]? = some trace) (request : ServiceRequest)
  (polled : request ∈ trace.polled)
include contracted vacant completed distinct found polled

/-- No step settles a request before it is polled, so the bound below is one from above only. -/
theorem run_settles_after (later : ℕ) (settling : StepTrace)
    (position : traces[later]? = some settling)
    (settled : request.identity ∈ settling.settled.map ServiceRequest.identity) :
    index ≤ later := by
  by_contra! early
  obtain ⟨counted, numbered⟩ := loop.run_numbered start count initial final traces completed
  have inside := (List.getElem?_eq_some_iff.mp found).1
  obtain ⟨before, reached⟩ := loop.run_prefix start count initial final traces completed index
    (by omega)
  have past : ((traces.take index).flatMap StepTrace.polled).Sublist
      (traces.flatMap StepTrace.polled) := (List.take_sublist _ _).flatMap _
  obtain ⟨other, known, same⟩ := loop.run_settled_polled contracted start index initial before
    vacant _ reached (distinct.sublist (past.map _)) settling
    ((mem_take_iff_getElem? _ _ _).mpr ⟨later, early, position⟩) _ settled
  obtain ⟨source, listed, otherPolled⟩ := List.mem_flatMap.mp known
  obtain ⟨equal, _⟩ := polled_once traces distinct source trace (List.mem_of_mem_take listed)
    (List.mem_of_getElem? found) other request otherPolled polled
    (congrArg Identity.requestId same)
  obtain ⟨place, sooner, placed⟩ := (mem_take_iff_getElem? _ _ _).mp listed
  have steps := numbered place source placed
  rw [equal, numbered index trace found] at steps
  omega

/-- A polled request is settled within the rounds of its class's budget. The run is cut after
the bound, where the queue no longer holds the request. -/
theorem run_settles_within
    (enters : ∀ request ∈ traces.flatMap StepTrace.polled, request.retryCount = 0)
    (ahead : index + loop.residenceBound request.trafficClass < count) :
    ∃ (later : ℕ) (settling : StepTrace), traces[later]? = some settling ∧ index ≤ later ∧
      later ≤ index + loop.residenceBound request.trafficClass ∧
        request.identity ∈ settling.settled.map ServiceRequest.identity := by
  have nonneg : 0 ≤ loop.residenceBound request.trafficClass :=
    lifetimeBound_mono loop.config.overload (Nat.zero_le _)
  obtain ⟨bound, bounded⟩ := Int.eq_ofNat_of_zero_le nonneg
  have numbered :=
    (loop.run_numbered start count initial final traces completed).2 index trace found
  rw [bounded] at ahead ⊢
  -- Only the steps up to the bound matter: they are a run of their own.
  obtain ⟨middle, reached⟩ := loop.run_prefix start count initial final traces completed
    (index + bound + 1) (by omega)
  have part : ((traces.take (index + bound + 1)).flatMap StepTrace.polled).Sublist
      (traces.flatMap StepTrace.polled) := (List.take_sublist _ _).flatMap _
  have fewer := distinct.sublist (part.map ServiceRequest.requestId)
  have member : trace ∈ traces.take (index + bound + 1) :=
    (mem_take_iff_getElem? _ _ _).mpr ⟨index, by omega, found⟩
  have departed := loop.run_departed contracted.deferring start _ initial middle vacant _ reached
    (fun other listed => enters other (part.subset listed)) fewer trace member request polled (by
      rw [numbered, bounded]
      push_cast
      omega)
  obtain ⟨settling, listed, settled⟩ := loop.run_settled contracted start _ initial middle vacant _
    reached fewer request (List.mem_flatMap.mpr ⟨trace, member, polled⟩) departed
  obtain ⟨later, inside, position⟩ := (mem_take_iff_getElem? _ _ _).mp listed
  exact ⟨later, settling, position,
    loop.run_settles_after contracted start count initial final vacant traces completed distinct
      index trace found request polled later settling position settled,
    by omega, settled⟩

end Departure

/-- Requests depart. In every run over fresh requests with distinct ids, with any in-repo
schedulers and any faults, a polled request is served, dropped or rejected within the rounds
of its class's budget after the step that polled it, if the run goes on that long; it enters
at most one step more than its budget, and the entries of a run are bounded by what it
polled. -/
theorem requests_depart (loop : ControlLoop σ Rng Rng ο) (primary fallback : InRepoScheduler)
    (primaryFaults fallbackFaults : ℤ → Option Rng) (start : ℤ) (count : ℕ) (source : σ)
    (optimizer : ο) (schedulerRng fallbackRng admissionRng rng : Rng)
    (final : LoopState σ Rng Rng ο) (traces : List StepTrace)
    (completed : (loop.equipped primary fallback primaryFaults fallbackFaults).run start count
      ((loop.equipped primary fallback primaryFaults fallbackFaults).initial source schedulerRng
        fallbackRng optimizer admissionRng rng) = some (final, traces))
    (enters : ∀ request ∈ traces.flatMap StepTrace.polled, request.retryCount = 0)
    (distinct : ((traces.flatMap StepTrace.polled).map ServiceRequest.requestId).Nodup) :
    (∀ (index : ℕ) trace request, traces[index]? = some trace → request ∈ trace.polled →
      index + loop.residenceBound request.trafficClass < count →
        ∃ (later : ℕ) (settling : StepTrace), traces[later]? = some settling ∧ index ≤ later ∧
          later ≤ index + loop.residenceBound request.trafficClass ∧
            request.identity ∈ settling.settled.map ServiceRequest.identity) ∧
      (∀ request ∈ traces.flatMap StepTrace.polled, timesEntered traces request.requestId ≤
        1 + (loop.retryBudget request.trafficClass).toNat) ∧
      (traces.flatMap StepTrace.arrivals).length ≤ ((traces.flatMap StepTrace.polled).map
        (fun request => 1 + (loop.retryBudget request.trafficClass).toNat)).sum := by
  have contracted := loop.equipped_contracted primary fallback primaryFaults fallbackFaults
  have entered := run_entered _ contracted.deferring start count _ final rfl traces completed enters
    distinct
  refine ⟨?_, entered, ?_⟩
  · intro index trace request found polled ahead
    exact run_settles_within _ contracted start count _ final rfl traces completed distinct index
      trace found request polled enters ahead
  · have known : ∀ requestId ∈ (traces.flatMap StepTrace.arrivals).map ServiceRequest.requestId,
        requestId ∈ (traces.flatMap StepTrace.polled).map ServiceRequest.requestId := by
      intro requestId listed
      obtain ⟨request, arrived, rfl⟩ := List.mem_map.mp listed
      obtain ⟨trace, member, arrived⟩ := List.mem_flatMap.mp arrived
      obtain ⟨polled, source, same⟩ := (run_arrivals _ contracted.deferring
        (fun identity => ∃ polled ∈ traces.flatMap StepTrace.polled, polled.identity = identity)
        start count _ final rfl traces completed
        (fun request polled => ⟨request, polled, rfl⟩)).1 trace member request arrived
      exact List.mem_map.mpr ⟨polled, source, congrArg Identity.requestId same⟩
    have counted := length_eq_sum_count _ _ distinct known
    rw [List.length_map, List.map_map] at counted
    rw [counted]
    exact List.sum_le_sum entered

/-- In the faulty run two requests enter three times: one is served at once, the other after
it was put back. -/
theorem requests_depart_faulty :
    (faultyRun.2.flatMap StepTrace.arrivals).length = 3 ∧
      (faultyRun.2.flatMap StepTrace.arrivals).length ≤ ((faultyRun.2.flatMap StepTrace.polled).map
        (fun request => 1 + (smallLoop.retryBudget request.trafficClass).toNat)).sum :=
  ⟨by decide +kernel, (requests_depart smallLoop (.heuristic (1 / 4)) (.heuristic (1 / 4))
    firstStepFault firstStepFault 0 3 _ () evenRng evenRng evenRng evenRng faultyRun.1 faultyRun.2
    (Option.some_get faultyRun_returns).symm (by decide +kernel) (by decide +kernel)).2.2⟩

end ControlLoop

end Satsim
