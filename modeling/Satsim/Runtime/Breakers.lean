import Satsim.Resilience
import Satsim.Runtime.Step

/-!
# The breaker as a summary of its history

A breaker keeps one counter and one optional step. Under the loop's protocol these are
determined by the history of the fleet it protects: how many attempts have failed since
the last one that succeeded, and when the last one failed. Closed, open and half-open are
read from these two alone, however many steps were skipped while it was open.

The steps of a consultation may be any integers; no order between them is used. Clients
of one fleet share a breaker, so a step of the loop may consult it more than once.

The history is the specification and the breaker the implementation. Nothing is said of
clients here: any pattern of successes and failures is a schedule, and the loop supplies
one for each fleet.
-/

namespace Satsim

open Library

/-- What came of consulting a breaker: no attempt, or an attempt and its outcome, with
the report made of a failure. -/
inductive Verdict where
  | skipped
  | succeeded
  | failed (reported : Bool)
  deriving DecidableEq, Repr

/-- One consultation: the step it was made in, and what came of it. -/
structure Consultation where
  step : ℤ
  verdict : Verdict
  deriving DecidableEq, Repr

namespace Consultation

/-- An attempt that went well. A skipped consultation is neither this nor a failure. -/
def succeeded (consultation : Consultation) : Bool := decide (consultation.verdict = .succeeded)

/-- An attempt that went wrong, reported or not. -/
def failed (consultation : Consultation) : Bool :=
  match consultation.verdict with
  | .failed _ => true
  | _ => false

/-- A consultation that led to an attempt. -/
def attempted (consultation : Consultation) : Bool :=
  consultation.succeeded || consultation.failed

/-- A failure that was reported as having newly tripped the breaker. Trials that fail while it
is open are not reported again. -/
def tripped (consultation : Consultation) : Bool :=
  decide (consultation.verdict = .failed true)

end Consultation

/-- The failed attempts since the last success, or since the start. Skipped consultations lie
among them and do not count. -/
def failuresSince (history : List Consultation) : ℕ :=
  (history.reverse.takeWhile (fun consultation => !consultation.succeeded)).countP
    Consultation.failed

/-- The step of the last failed attempt, if there was one. A later success does not erase it. -/
def lastFailed (history : List Consultation) : Option ℤ :=
  (history.reverse.find? Consultation.failed).map Consultation.step

namespace CircuitBreaker

/-- The loop's protocol: call `allow`; if it is true attempt once, and record how the
attempt went. `succeeds` is how an attempt would go. -/
def consult (breaker : CircuitBreaker) (step : ℤ) (succeeds : Bool) : Verdict × CircuitBreaker :=
  if breaker.allow step = false then (.skipped, breaker)
  else if succeeds then (.succeeded, breaker.recordSuccess)
  else
    let (reported, breaker) := breaker.recordFailure step
    (.failed reported, breaker)

/-- Follow the protocol over a list of steps, each with how an attempt at it would go. It
returns the history that was made and the breaker that is left. -/
def follow (breaker : CircuitBreaker) (schedule : List (ℤ × Bool)) :
    List Consultation × CircuitBreaker :=
  schedule.foldl (fun (history, breaker) (step, succeeds) =>
    let (verdict, breaker) := breaker.consult step succeeds
    (history ++ [⟨step, verdict⟩], breaker)) ([], breaker)

/-- A closed breaker as the loop builds it, without failures. -/
def fresh (failureThreshold cooldownSteps : ℤ) : CircuitBreaker :=
  { failureThreshold := failureThreshold, cooldownSteps := cooldownSteps }

/-- No schedule, no history. -/
@[simp] theorem follow_nil (breaker : CircuitBreaker) : breaker.follow [] = ([], breaker) := rfl

/-- The last step of a schedule consults the breaker that the others have left. -/
theorem follow_snoc (breaker : CircuitBreaker) (schedule : List (ℤ × Bool)) (step : ℤ)
    (succeeds : Bool) :
    breaker.follow (schedule ++ [(step, succeeds)]) =
      ((breaker.follow schedule).1 ++
          [⟨step, ((breaker.follow schedule).2.consult step succeeds).1⟩],
        ((breaker.follow schedule).2.consult step succeeds).2) := by
  simp [follow, List.foldl_append]

/-- Following a schedule and then another is following the second from where the first ends. -/
theorem follow_append (breaker : CircuitBreaker) (earlier later : List (ℤ × Bool)) :
    breaker.follow (earlier ++ later) =
      ((breaker.follow earlier).1 ++ ((breaker.follow earlier).2.follow later).1,
        ((breaker.follow earlier).2.follow later).2) := by
  induction later using List.reverseRecOn with
  | nil => simp
  | append_singleton later last inductionHypothesis =>
    rw [← List.append_assoc, follow_snoc, inductionHypothesis, follow_snoc, List.append_assoc]

end CircuitBreaker

/-- A skipped consultation adds nothing to the count. -/
@[simp] theorem failuresSince_skipped (history : List Consultation) (step : ℤ) :
    failuresSince (history ++ [⟨step, .skipped⟩]) = failuresSince history := by
  simp [failuresSince, Consultation.succeeded, Consultation.failed]

/-- A success starts the count again. -/
@[simp] theorem failuresSince_succeeded (history : List Consultation) (step : ℤ) :
    failuresSince (history ++ [⟨step, .succeeded⟩]) = 0 := by
  simp [failuresSince, Consultation.succeeded]

/-- A failure adds one, whether or not it is reported. -/
@[simp] theorem failuresSince_failed (history : List Consultation) (step : ℤ) (reported : Bool) :
    failuresSince (history ++ [⟨step, .failed reported⟩]) = failuresSince history + 1 := by
  simp [failuresSince, Consultation.succeeded, List.countP_cons, Consultation.failed]

/-- A skipped consultation is not a failure. -/
@[simp] theorem lastFailed_skipped (history : List Consultation) (step : ℤ) :
    lastFailed (history ++ [⟨step, .skipped⟩]) = lastFailed history := by
  simp [lastFailed, Consultation.failed]

/-- Nor is a success. -/
@[simp] theorem lastFailed_succeeded (history : List Consultation) (step : ℤ) :
    lastFailed (history ++ [⟨step, .succeeded⟩]) = lastFailed history := by
  simp [lastFailed, Consultation.failed]

/-- A failure is the last one. -/
@[simp] theorem lastFailed_failed (history : List Consultation) (step : ℤ) (reported : Bool) :
    lastFailed (history ++ [⟨step, .failed reported⟩]) = some step := by
  simp [lastFailed, Consultation.failed]

/-- Consultations without a success only add their failures to the count. -/
theorem failuresSince_append (history later : List Consultation)
    (unbroken : ∀ consultation ∈ later, consultation.succeeded = false) :
    failuresSince (history ++ later) =
      failuresSince history + later.countP Consultation.failed := by
  have kept : ∀ consultation ∈ later.reverse, (!consultation.succeeded) = true := by
    intro consultation member
    simp [unbroken consultation (List.mem_reverse.mp member)]
  rw [failuresSince, List.reverse_append, List.takeWhile_append_of_pos kept, List.countP_append,
    List.countP_reverse, add_comm]
  rfl

namespace CircuitBreaker

/-- The breaker's fields, computed from its history. The history is the abstract state; the two
fields that change, the count and the open-until step, are a summary of it. -/
structure Refines (failureThreshold cooldownSteps : ℤ) (history : List Consultation)
    (breaker : CircuitBreaker) : Prop where
  threshold : breaker.failureThreshold = failureThreshold
  cooldown : breaker.cooldownSteps = cooldownSteps
  failures : breaker.failures = failuresSince history
  witnessed : 0 < failuresSince history → (lastFailed history).isSome
  openUntil : breaker.openUntil = if failureThreshold ≤ failuresSince history then
    (lastFailed history).map (· + cooldownSteps) else none

variable {failureThreshold cooldownSteps : ℤ} {history : List Consultation}
  {breaker : CircuitBreaker}

/-- A refined breaker is open exactly when enough attempts have failed. A threshold below one is
excluded, since then a breaker could be full from the start and still have no step to be open
until. -/
theorem Refines.isOpen_iff (refines : Refines failureThreshold cooldownSteps history breaker)
    (positive : 1 ≤ failureThreshold) :
    breaker.isOpen = true ↔ failureThreshold ≤ failuresSince history := by
  rw [isOpen, refines.openUntil]
  by_cases reached : failureThreshold ≤ failuresSince history
  · simpa [reached] using refines.witnessed (by omega)
  · simp [reached]

/-- A refined breaker holds a step back exactly when it is open and the cooldown of the
last failure has not passed. -/
theorem Refines.allow_iff (refines : Refines failureThreshold cooldownSteps history breaker)
    (step : ℤ) :
    breaker.allow step = false ↔ failureThreshold ≤ failuresSince history ∧
      ∃ failed, lastFailed history = some failed ∧ step < failed + cooldownSteps := by
  rw [allow, refines.openUntil]
  by_cases reached : failureThreshold ≤ failuresSince history
  · cases known : lastFailed history with
    | none => simp
    | some failed => simp [reached]
  · simp [reached]

/-- A refined breaker reports exactly the failure that reaches the threshold; neither those
before nor those after are trips. -/
theorem Refines.recordFailure_iff
    (refines : Refines failureThreshold cooldownSteps history breaker)
    (positive : 1 ≤ failureThreshold) (step : ℤ) :
    (breaker.recordFailure step).1 = true ↔ (failuresSince history : ℤ) + 1 = failureThreshold := by
  have state := refines.openUntil
  by_cases reached : failureThreshold ≤ failuresSince history
  · obtain ⟨failed, known⟩ := Option.isSome_iff_exists.mp (refines.witnessed (by omega))
    rw [if_pos reached, known, Option.map_some] at state
    simp only [recordFailure, state, Bool.false_eq_true, false_iff]
    omega
  · rw [if_neg reached] at state
    simp only [recordFailure, state, refines.failures, refines.threshold]
    split <;> simp <;> omega

/-- A fresh breaker refines the empty history. -/
theorem fresh_refines (positive : 1 ≤ failureThreshold) :
    Refines failureThreshold cooldownSteps [] (fresh failureThreshold cooldownSteps) where
  threshold := rfl
  cooldown := rfl
  failures := rfl
  witnessed := by simp [failuresSince]
  openUntil := by
    have unreached : ¬ failureThreshold ≤ ((failuresSince [] : ℕ) : ℤ) := by
      simp [failuresSince]
      omega
    rw [if_neg unreached]
    rfl

/-- A recorded success closes the breaker and starts a new count. It forgets the step until
which the breaker was open. -/
theorem Refines.recordSuccess (refines : Refines failureThreshold cooldownSteps history breaker)
    (positive : 1 ≤ failureThreshold) (step : ℤ) :
    Refines failureThreshold cooldownSteps (history ++ [⟨step, .succeeded⟩])
      breaker.recordSuccess where
  threshold := refines.threshold
  cooldown := refines.cooldown
  failures := by simp [CircuitBreaker.recordSuccess]
  witnessed := by simp
  openUntil := by
    rw [failuresSince_succeeded, if_neg (by push_cast; omega)]
    rfl

/-- What a recorded failure leaves: one more failure, and a cooldown from its step when the
breaker was open or the failure reaches the threshold. -/
theorem recordFailure_spec (breaker : CircuitBreaker) (step : ℤ) :
    (breaker.recordFailure step).2.failureThreshold = breaker.failureThreshold ∧
      (breaker.recordFailure step).2.cooldownSteps = breaker.cooldownSteps ∧
      (breaker.recordFailure step).2.failures = breaker.failures + 1 ∧
      (breaker.recordFailure step).2.openUntil =
        if breaker.isOpen = true ∨ breaker.failureThreshold ≤ breaker.failures + 1 then
          some (step + breaker.cooldownSteps) else none := by
  cases known : breaker.openUntil with
  | some openUntil => simp [CircuitBreaker.recordFailure, known, isOpen]
  | none =>
    simp only [CircuitBreaker.recordFailure, known, isOpen]
    split
    · rename_i reached
      simp [reached]
    · rename_i unreached
      simp [unreached]

/-- A recorded failure adds one to the count; from the threshold on, it opens the breaker
or extends its cooldown from the failed step. -/
theorem Refines.recordFailure (refines : Refines failureThreshold cooldownSteps history breaker)
    (positive : 1 ≤ failureThreshold) (step : ℤ) (reported : Bool) :
    Refines failureThreshold cooldownSteps (history ++ [⟨step, .failed reported⟩])
      (breaker.recordFailure step).2 := by
  obtain ⟨threshold, cooldown, failures, openUntil⟩ := breaker.recordFailure_spec step
  constructor
  · exact threshold.trans refines.threshold
  · exact cooldown.trans refines.cooldown
  · rw [failures, refines.failures, failuresSince_failed]
    push_cast
    rfl
  · simp
  · -- an open breaker has reached the threshold already, so the count alone decides
    have decides : (breaker.isOpen = true ∨ breaker.failureThreshold ≤ breaker.failures + 1) ↔
        failureThreshold ≤ ((failuresSince (history ++ [⟨step, .failed reported⟩]) : ℕ) : ℤ) := by
      rw [refines.isOpen_iff positive, refines.threshold, refines.failures, failuresSince_failed]
      push_cast
      omega
    rw [openUntil, lastFailed_failed, Option.map_some, refines.cooldown]
    exact if_congr decides rfl rfl

/-- One consultation keeps the refinement, whichever way it goes. This is the step lemma of the
simulation. -/
theorem Refines.consult (refines : Refines failureThreshold cooldownSteps history breaker)
    (positive : 1 ≤ failureThreshold) (step : ℤ) (succeeds : Bool) :
    Refines failureThreshold cooldownSteps
      (history ++ [⟨step, (breaker.consult step succeeds).1⟩])
      (breaker.consult step succeeds).2 := by
  unfold CircuitBreaker.consult
  split
  · constructor
    · exact refines.threshold
    · exact refines.cooldown
    · simpa using refines.failures
    · simpa using refines.witnessed
    · simpa using refines.openUntil
  · cases succeeds with
    | true => exact refines.recordSuccess positive step
    | false => exact refines.recordFailure positive step _

/-- However long the protocol is followed, the breaker refines its history, by induction from
the end of the schedule. -/
theorem follow_refines (failureThreshold cooldownSteps : ℤ) (positive : 1 ≤ failureThreshold)
    (schedule : List (ℤ × Bool)) :
    Refines failureThreshold cooldownSteps
      ((fresh failureThreshold cooldownSteps).follow schedule).1
      ((fresh failureThreshold cooldownSteps).follow schedule).2 := by
  induction schedule using List.reverseRecOn with
  | nil => exact fresh_refines positive
  | append_singleton earlier last inductionHypothesis =>
    rw [follow_snoc]
    exact inductionHypothesis.consult positive last.1 last.2

/-- Every consultation in a history was made by the breaker that the consultations before it
left. So a fact about one position is a fact about one call. -/
theorem follow_split (breaker : CircuitBreaker) (schedule : List (ℤ × Bool))
    (before after : List Consultation) (consultation : Consultation)
    (split : (breaker.follow schedule).1 = before ++ consultation :: after) :
    ∃ earlier step succeeds, (breaker.follow earlier).1 = before ∧
      consultation = ⟨step, ((breaker.follow earlier).2.consult step succeeds).1⟩ := by
  induction schedule using List.reverseRecOn generalizing after with
  | nil => simp at split
  | append_singleton earlier last inductionHypothesis =>
    rw [follow_snoc] at split
    rcases List.eq_nil_or_concat after with rfl | ⟨middle, final, rfl⟩
    · obtain ⟨same, appended⟩ := List.append_inj' split rfl
      obtain rfl := List.singleton_inj.mp appended
      exact ⟨earlier, last.1, last.2, same, rfl⟩
    · apply inductionHypothesis middle
      rw [List.concat_eq_append, ← List.cons_append, ← List.append_assoc] at split
      exact (List.append_inj' split rfl).1

variable {schedule : List (ℤ × Bool)} {before between after : List Consultation}
  {first second : Consultation}

/-- A report stands on exactly the failures that make the count equal to the threshold. -/
theorem tripped_iff (positive : 1 ≤ failureThreshold)
    (split : ((fresh failureThreshold cooldownSteps).follow schedule).1 =
      before ++ first :: after) :
    first.tripped = true ↔ first.failed = true ∧
      (failuresSince (before ++ [first]) : ℤ) = failureThreshold := by
  obtain ⟨earlier, step, succeeds, rfl, rfl⟩ := follow_split _ schedule before after first split
  have refines := follow_refines failureThreshold cooldownSteps positive earlier
  have reports := refines.recordFailure_iff positive step
  unfold CircuitBreaker.consult
  split
  · simp [Consultation.tripped, Consultation.failed]
  · cases succeeds with
    | true => simp [Consultation.tripped, Consultation.failed]
    | false => simpa [Consultation.tripped, Consultation.failed] using reports

/-- Between two reported trips there is a success: without one the count only grows. -/
theorem success_between_trips (positive : 1 ≤ failureThreshold)
    (split : ((fresh failureThreshold cooldownSteps).follow schedule).1 =
      before ++ first :: (between ++ second :: after))
    (firstTripped : first.tripped = true) (secondTripped : second.tripped = true) :
    ∃ consultation ∈ between, consultation.succeeded = true := by
  by_contra none
  have regrouped : ((fresh failureThreshold cooldownSteps).follow schedule).1 =
      (before ++ first :: between) ++ second :: after := by simpa using split
  obtain ⟨_, reached⟩ := (tripped_iff positive split).mp firstTripped
  obtain ⟨failed, again⟩ := (tripped_iff positive regrouped).mp secondTripped
  have unbroken : ∀ consultation ∈ between ++ [second], consultation.succeeded = false := by
    intro consultation member
    cases List.mem_append.mp member with
    | inl inside =>
      exact Bool.eq_false_iff.mpr (fun succeeded => none ⟨consultation, inside, succeeded⟩)
    | inr last =>
      obtain rfl := List.mem_singleton.mp last
      have verdict := of_decide_eq_true secondTripped
      simp [Consultation.succeeded, verdict]
  have grown := failuresSince_append (before ++ [first]) (between ++ [second]) unbroken
  have counted : 0 < (between ++ [second]).countP Consultation.failed :=
    List.countP_pos_iff.mpr ⟨second, by simp, failed⟩
  have listed : before ++ first :: between ++ [second] =
      (before ++ [first]) ++ (between ++ [second]) := by
    simp
  rw [listed] at again
  omega

/-- Skipped consultations leave the count and the last failed step as they were. -/
theorem skipped_append (history skipped : List Consultation)
    (idle : ∀ consultation ∈ skipped, consultation.attempted = false) :
    failuresSince (history ++ skipped) = failuresSince history ∧
      lastFailed (history ++ skipped) = lastFailed history := by
  induction skipped using List.reverseRecOn with
  | nil => simp
  | append_singleton earlier last inductionHypothesis =>
    obtain ⟨counted, known⟩ := inductionHypothesis
      (fun consultation member => idle consultation (List.mem_append_left _ member))
    obtain ⟨step, verdict⟩ := last
    have quiet := idle ⟨step, verdict⟩ (by simp)
    cases verdict with
    | skipped => simp [← List.append_assoc, counted, known]
    | succeeded => simp [Consultation.attempted, Consultation.succeeded] at quiet
    | failed reported => simp [Consultation.attempted, Consultation.failed] at quiet

/-- After an attempt that leaves the breaker open, the next attempt is a cooldown later. -/
theorem attempts_apart (positive : 1 ≤ failureThreshold)
    (split : ((fresh failureThreshold cooldownSteps).follow schedule).1 =
      before ++ first :: (between ++ second :: after))
    (firstAttempted : first.attempted = true) (secondAttempted : second.attempted = true)
    (idle : ∀ consultation ∈ between, consultation.attempted = false)
    (opened : failureThreshold ≤ failuresSince (before ++ [first])) :
    first.step + cooldownSteps ≤ second.step := by
  have regrouped : ((fresh failureThreshold cooldownSteps).follow schedule).1 =
      ((before ++ [first]) ++ between) ++ second :: after := by simpa using split
  obtain ⟨earlier, step, succeeds, same, rfl⟩ := follow_split _ schedule _ after second regrouped
  have refines := follow_refines failureThreshold cooldownSteps positive earlier
  obtain ⟨counted, known⟩ := skipped_append (before ++ [first]) between idle
  rw [same] at refines
  have last : lastFailed (before ++ [first]) = some first.step := by
    obtain ⟨step, said⟩ := first
    cases said with
    | skipped =>
      simp [Consultation.attempted, Consultation.succeeded, Consultation.failed] at firstAttempted
    | succeeded =>
      rw [failuresSince_succeeded] at opened
      omega
    | failed reported => simp
  by_contra early
  have held : ((fresh failureThreshold cooldownSteps).follow earlier).2.allow step = false :=
    (refines.allow_iff step).mpr
      ⟨by rw [counted]; exact opened, first.step, known.trans last, not_le.mp early⟩
  simp [Consultation.attempted, Consultation.succeeded, Consultation.failed, consult, held]
    at secondAttempted

/-- The breaker refines its history. Whenever the protocol has been followed, the number of
failed attempts since the last success and the step of the last failed attempt decide
whether the breaker is open, which steps it holds back and whether a failure is reported;
trips are separated by successes, and attempts on an open breaker by its cooldown. -/
theorem breaker_refines_history (failureThreshold cooldownSteps : ℤ)
    (positive : 1 ≤ failureThreshold) (schedule : List (ℤ × Bool)) :
    let (history, breaker) := (fresh failureThreshold cooldownSteps).follow schedule
    (breaker.isOpen = true ↔ failureThreshold ≤ failuresSince history) ∧
      (∀ step, breaker.allow step = false ↔ failureThreshold ≤ failuresSince history ∧
        ∃ failed, lastFailed history = some failed ∧ step < failed + cooldownSteps) ∧
      (∀ step, (breaker.recordFailure step).1 = true ↔
        (failuresSince history : ℤ) + 1 = failureThreshold) ∧
      (∀ before consultation after, history = before ++ consultation :: after →
        (consultation.tripped = true ↔ consultation.failed = true ∧
          (failuresSince (before ++ [consultation]) : ℤ) = failureThreshold)) ∧
      (∀ before first between second after,
        history = before ++ first :: (between ++ second :: after) →
        first.tripped = true → second.tripped = true →
          ∃ consultation ∈ between, consultation.succeeded = true) ∧
      ∀ before first between second after,
        history = before ++ first :: (between ++ second :: after) →
        first.attempted = true → second.attempted = true →
        (∀ consultation ∈ between, consultation.attempted = false) →
        failureThreshold ≤ failuresSince (before ++ [first]) →
          first.step + cooldownSteps ≤ second.step := by
  have refines := follow_refines failureThreshold cooldownSteps positive schedule
  refine ⟨refines.isOpen_iff positive, refines.allow_iff, refines.recordFailure_iff positive,
    ?_, ?_, ?_⟩
  · intro before consultation after split
    exact tripped_iff positive split
  · intro before first between second after split
    exact success_between_trips positive split
  · intro before first between second after split
    exact attempts_apart positive split

/-- Two failures open a breaker, a step is held back, a trial fails and the next succeeds:
the trip is reported once, and the attempts of the outage are five steps apart. -/
theorem breaker_refines_history_outage :
    let (history, breaker) :=
      (fresh 2 5).follow [(0, false), (1, false), (3, true), (6, false), (11, true)]
    history.map Consultation.verdict =
        [.failed false, .failed true, .skipped, .failed false, .succeeded] ∧
      (breaker.isOpen = true ↔ (2 : ℤ) ≤ failuresSince history) ∧
      ∀ step, breaker.allow step = false ↔ (2 : ℤ) ≤ failuresSince history ∧
        ∃ failed, lastFailed history = some failed ∧ step < failed + 5 :=
  have refined := breaker_refines_history 2 5 (by decide)
    [(0, false), (1, false), (3, true), (6, false), (11, true)]
  ⟨by decide, refined.1, refined.2.1⟩

end CircuitBreaker

/-- A lookup as a consultation of its fleet's breaker. -/
def Lookup.consultation (step : ℤ) (lookup : Lookup) : Consultation :=
  ⟨step, match lookup.outcome with
    | .heldOpen => .skipped
    | .answered _ => .succeeded
    | .raised tripped => .failed tripped⟩

namespace ControlLoop

variable {σ π φ ο : Type} (loop : ControlLoop σ π φ ο)

/-- The consultations of one fleet's breaker among the lookups of a step. There may be several
if the fleet has several clients. -/
def consultations (fleet : FleetId) (step : ℤ) (lookups : List Lookup) : List Consultation :=
  (lookups.filter (fun lookup => decide (lookup.client.fleetId = fleet))).map
    (Lookup.consultation step)

/-- The breaker a loop keeps for a fleet, which is a fresh one until the fleet is first
consulted. -/
def breakerOf (breakers : Dict FleetId CircuitBreaker) (fleet : FleetId) : CircuitBreaker :=
  breakers.getD fleet loop.freshBreaker

/-- Looking up the first client consults its fleet's breaker, and no other. The attempt goes
well exactly when the client shows something. -/
theorem gather_consults (t : ℤ) (client : ConstellationClient) (rest : List ConstellationClient)
    (breakers : Dict FleetId CircuitBreaker) :
    ∃ outcome after succeeds,
      loop.gather t (client :: rest) breakers =
          (⟨client, outcome⟩ :: (loop.gather t rest after).1, (loop.gather t rest after).2) ∧
        ((Lookup.consultation t ⟨client, outcome⟩).verdict, loop.breakerOf after client.fleetId) =
          (loop.breakerOf breakers client.fleetId).consult t succeeds ∧
        ∀ fleet, fleet ≠ client.fleetId →
          loop.breakerOf after fleet = loop.breakerOf breakers fleet := by
  simp only [gather]
  split
  · rename_i held
    refine ⟨.heldOpen, breakers, true, rfl, ?_, fun _ _ => rfl⟩
    rw [CircuitBreaker.consult, if_pos (by exact held)]
    rfl
  · rename_i allowed
    have attempts : ¬ (loop.breakerOf breakers client.fleetId).allow t = false := allowed
    split
    · rename_i snapshot seen
      refine ⟨.answered snapshot, _, true, rfl, ?_, ?_⟩
      · rw [CircuitBreaker.consult, if_neg attempts]
        simp [Lookup.consultation, breakerOf, Dict.getD]
      · intro fleet other
        simp [breakerOf, Dict.getD, other]
    · refine ⟨.raised _, _, false, rfl, ?_, ?_⟩
      · rw [CircuitBreaker.consult, if_neg attempts]
        simp [Lookup.consultation, breakerOf, Dict.getD]
      · intro fleet other
        simp [breakerOf, Dict.getD, other]

/-- What one step does to a fleet's breaker follows the protocol at that step. -/
theorem gather_follows (fleet : FleetId) (t : ℤ) (clients : List ConstellationClient)
    (breakers : Dict FleetId CircuitBreaker) :
    ∃ schedule : List (ℤ × Bool), (∀ consulted ∈ schedule, consulted.1 = t) ∧
      (loop.breakerOf breakers fleet).follow schedule =
        (consultations fleet t (loop.gather t clients breakers).1,
          loop.breakerOf (loop.gather t clients breakers).2 fleet) := by
  induction clients generalizing breakers with
  | nil => exact ⟨[], by simp, rfl⟩
  | cons client rest inductionHypothesis =>
    obtain ⟨outcome, after, succeeds, gathered, consulted, others⟩ :=
      loop.gather_consults t client rest breakers
    obtain ⟨schedule, current, followed⟩ := inductionHypothesis after
    rw [gathered]
    by_cases own : client.fleetId = fleet
    · subst own
      refine ⟨(t, succeeds) :: schedule, by simpa using current, ?_⟩
      have first :=
        CircuitBreaker.follow_snoc (loop.breakerOf breakers client.fleetId) [] t succeeds
      rw [← List.singleton_append, CircuitBreaker.follow_append]
      rw [List.nil_append] at first
      rw [first, CircuitBreaker.follow_nil, ← consulted, followed]
      simp [consultations, Lookup.consultation]
    · refine ⟨schedule, current, ?_⟩
      rw [← others fleet (fun same => own same.symm), followed]
      simp [consultations, own]

/-- The consultations of a fleet's breaker over the steps of a run. -/
def history (fleet : FleetId) (traces : List StepTrace) : List Consultation :=
  traces.flatMap (fun trace => consultations fleet trace.step trace.lookups)

/-- After any run from the initial state, the breaker of each fleet is where the protocol
leads a fresh one, with the fleet's lookups as its history. -/
theorem run_follows (start : ℤ) (count : ℕ) (source : σ) (scheduler : π) (fallback : φ)
    (optimizer : ο) (admissionRng rng : Rng) (final : LoopState σ π φ ο) (traces : List StepTrace)
    (completed : loop.run start count
      (loop.initial source scheduler fallback optimizer admissionRng rng) = some (final, traces))
    (fleet : FleetId) :
    ∃ schedule, loop.freshBreaker.follow schedule =
      (history fleet traces, loop.breakerOf final.breakers fleet) := by
  refine Runs.run_invariant _ (fun _ traces (state : LoopState σ π φ ο) => ∃ schedule,
    loop.freshBreaker.follow schedule =
      (history fleet traces, loop.breakerOf state.breakers fleet)) _ ?_ ?_ count final traces
        completed
  · refine ⟨[], ?_⟩
    have unused : loop.breakerOf loop.initialBreakers fleet = loop.freshBreaker := by
      rw [breakerOf, Dict.getD]
      cases found : loop.initialBreakers.get? fleet with
      | none => rfl
      | some breaker =>
        obtain ⟨client, _, same⟩ := List.mem_map.mp (Dict.ofPairs_mem _ _ _ found)
        exact (Prod.mk.inj same).2.symm
    rw [CircuitBreaker.follow_nil]
    exact congrArg _ unused.symm
  · rintro count traces state next trace ⟨earlier, followed⟩ stepped
    have step := loop.step_inv _ state next trace stepped
    have remembered := loop.step_remembered _ state next trace stepped
    obtain ⟨later, _, consulted⟩ :=
      loop.gather_follows fleet (start + count) loop.constellations state.breakers
    refine ⟨earlier ++ later, ?_⟩
    rw [CircuitBreaker.follow_append, followed, consulted, remembered.breakers]
    simp [history, step.lookups, step.step]

/-- In a run of the loop, the breaker of each fleet summarises the fleet's lookups: how many
failed since one was answered, and when the last failed. -/
theorem run_refines (start : ℤ) (count : ℕ) (source : σ) (scheduler : π) (fallback : φ)
    (optimizer : ο) (admissionRng rng : Rng) (final : LoopState σ π φ ο) (traces : List StepTrace)
    (completed : loop.run start count
      (loop.initial source scheduler fallback optimizer admissionRng rng) = some (final, traces))
    (fleet : FleetId) :
    CircuitBreaker.Refines loop.config.overload.breakerFailureThreshold
      loop.config.overload.breakerCooldownSteps (history fleet traces)
      (loop.breakerOf final.breakers fleet) := by
  obtain ⟨schedule, followed⟩ := loop.run_follows start count source scheduler fallback optimizer
    admissionRng rng final traces completed fleet
  have refines := CircuitBreaker.follow_refines loop.config.overload.breakerFailureThreshold
    loop.config.overload.breakerCooldownSteps
    loop.config.overload.thresholdPositive schedule
  have same : CircuitBreaker.fresh loop.config.overload.breakerFailureThreshold
      loop.config.overload.breakerCooldownSteps = loop.freshBreaker := rfl
  rwa [same, followed] at refines

end ControlLoop

end Satsim
