import Satsim.Ingest.Bus

/-!
# The bus is first in, first out

Over any calls, in any order, what was published is what was drained and what is pending;
pending entries stand in publish order; and a drain takes the available entries from the
front of that order, so no entry is overtaken by one published after it.

The specification is a log of entries, not a second implementation. It records what was
published and what each drain returned, and the properties compare the two lists with
what is still pending.
-/

namespace Satsim

open Library

/-- A call on the bus. -/
inductive BusCall where
  | publish (request : ServiceRequest) (availableAtStep : ℤ)
  | drain (step maxBatch : ℤ)
  deriving DecidableEq

/-- What a call publishes, and from which step on. -/
def BusCall.publication : BusCall → Option (ServiceRequest × ℤ)
  | .publish request availableAtStep => some (request, availableAtStep)
  | .drain _ _ => none

namespace InMemoryBus

variable (bus : InMemoryBus) (step maxBatch : ℤ)

/-- Whether a drain at a step may return an entry. -/
def available (entry : BusEntry) : Bool := decide (entry.availableAtStep ≤ step)

/-- The entries whose requests a drain returns. -/
def returned : List BusEntry := (Queue.drain (available step) maxBatch bus.pending).1

/-- A drain returns the requests of its entries and leaves the others pending, also when the
batch is not positive. -/
theorem drain_eq : bus.drain step maxBatch = ((bus.returned step maxBatch).map BusEntry.request,
    { bus with pending := (Queue.drain (available step) maxBatch bus.pending).2 }) := by
  unfold drain returned
  split
  · rename_i closed
    rw [Queue.drain_closed _ _ _ closed]
    rfl
  · rfl

end InMemoryBus

/-- A bus with the entries that were published on it and those that each drain returned. Only
the bus is state of the program; the rest is history. -/
structure BusLog where
  bus : InMemoryBus := {}
  published : List BusEntry := []
  drained : List (List BusEntry) := []
  deriving DecidableEq

namespace BusLog

/-- Carry out a call and record it. -/
def perform (log : BusLog) : BusCall → BusLog
  | .publish request availableAtStep =>
      { log with bus := log.bus.publish request availableAtStep
                 published := log.published ++ [⟨availableAtStep, log.bus.seq, request⟩] }
  | .drain step maxBatch =>
      { log with bus := (log.bus.drain step maxBatch).2
                 drained := log.drained ++ [log.bus.returned step maxBatch] }

/-- The log of some calls on a fresh bus. -/
def after (calls : List BusCall) : BusLog := calls.foldl perform {}

/-- The log of one call more. -/
theorem after_append_singleton (calls : List BusCall) (call : BusCall) :
    after (calls ++ [call]) = (after calls).perform call := by
  simp [after]

/-- The first of two entries was published before the second. -/
def Earlier (first second : BusEntry) : Prop := first.seq < second.seq

/-- What holds of the log of any calls: nothing is lost, pending entries stand in publish order,
and numbers count up. -/
structure Ordered (log : BusLog) : Prop where
  conserved : (log.drained.flatten ++ log.bus.pending).Perm log.published
  queued : log.bus.pending.Sublist log.published
  numbered : log.published.Pairwise Earlier
  fresh : ∀ entry ∈ log.published, entry.seq < log.bus.seq

/-- Publishing adds an entry at the end of both lists. -/
theorem Ordered.publish {log : BusLog} (ordered : log.Ordered) (request : ServiceRequest)
    (availableAtStep : ℤ) : (log.perform (.publish request availableAtStep)).Ordered where
  conserved := by
    simp only [perform, InMemoryBus.publish, ← List.append_assoc]
    exact ordered.conserved.append_right _
  queued := ordered.queued.append_right _
  numbered := by
    apply List.pairwise_append.mpr
    refine ⟨ordered.numbered, List.pairwise_singleton _ _, ?_⟩
    intro entry member last same
    obtain rfl := List.mem_singleton.mp same
    exact ordered.fresh entry member
  fresh := by
    intro entry member
    cases List.mem_append.mp member with
    | inl earlier =>
      exact (ordered.fresh entry earlier).trans (Nat.lt_succ_self _)
    | inr last =>
      obtain rfl := List.mem_singleton.mp last
      exact Nat.lt_succ_self _

/-- Draining moves entries from what is pending to what was returned. -/
theorem Ordered.drain {log : BusLog} (ordered : log.Ordered) (step maxBatch : ℤ) :
    (log.perform (.drain step maxBatch)).Ordered := by
  have parts := Queue.drain_perm (InMemoryBus.available step) maxBatch log.bus.pending
  have left := Queue.drain_left (InMemoryBus.available step) maxBatch log.bus.pending
  simp only [perform, InMemoryBus.drain_eq]
  constructor
  · simp only [List.flatten_append, List.flatten_cons, List.flatten_nil, List.append_nil,
      List.append_assoc]
    exact (parts.append_left _).trans ordered.conserved
  · exact left.trans ordered.queued
  · exact ordered.numbered
  · exact ordered.fresh

/-- The log of any calls is in order. -/
theorem after_ordered (calls : List BusCall) : (after calls).Ordered := by
  induction calls using List.reverseRecOn with
  | nil => exact ⟨List.Perm.refl _, List.Sublist.refl _, List.Pairwise.nil, by simp [after]⟩
  | append_singleton calls call inductionHypothesis =>
    rw [after_append_singleton]
    cases call with
    | publish request availableAtStep =>
      exact inductionHypothesis.publish request availableAtStep
    | drain step maxBatch =>
      exact inductionHypothesis.drain step maxBatch

/-- The published entries are those of the publishing calls. -/
theorem after_published (calls : List BusCall) :
    (after calls).published.map (fun entry => (entry.request, entry.availableAtStep)) =
      calls.filterMap BusCall.publication := by
  induction calls using List.reverseRecOn with
  | nil => rfl
  | append_singleton calls call inductionHypothesis =>
    rw [after_append_singleton, List.filterMap_append, ← inductionHypothesis]
    cases call <;> simp [perform, BusCall.publication]

/-- The bus is first in, first out. After any calls the published entries are those drained and
those pending, which stand in publish order; and the next drain, whatever its step and batch,
returns as many of the available entries as the batch has room for, in publish order, and with
every entry each available one that was published before it and not drained before. -/
theorem fifo (calls : List BusCall) :
    let log := after calls
    log.published.map (fun entry => (entry.request, entry.availableAtStep)) =
        calls.filterMap BusCall.publication ∧
      (log.drained.flatten ++ log.bus.pending).Perm log.published ∧
      log.bus.pending.Sublist log.published ∧
      ∀ step maxBatch,
        let returned := log.bus.returned step maxBatch
        (log.bus.drain step maxBatch).1 = returned.map BusEntry.request ∧
          (returned.length : ℤ) = min (max maxBatch 0)
            ((log.bus.pending.filter (InMemoryBus.available step)).length : ℤ) ∧
          returned.Sublist log.published ∧
          ∀ first second, [first, second].Sublist log.published →
            first.availableAtStep ≤ step → second ∈ returned →
            first ∈ log.drained.flatten ∨ [first, second].Sublist returned := by
  intro log
  have ordered := after_ordered calls
  refine ⟨after_published calls, ordered.conserved, ordered.queued, ?_⟩
  intro step maxBatch returned
  refine ⟨?_, ?_, ?_, ?_⟩
  · rw [InMemoryBus.drain_eq]
  · exact Queue.drain_count _ maxBatch log.bus.pending
  · exact (Queue.drain_taken_sublist _ maxBatch log.bus.pending).trans ordered.queued
  · intro first second published ready taken
    have earlier : Earlier first second :=
      List.pairwise_pair.mp (ordered.numbered.sublist published)
    have listed := ordered.conserved.mem_iff.mpr (published.subset List.mem_cons_self)
    cases List.mem_append.mp listed with
    | inl drained =>
      exact Or.inl drained
    | inr waiting =>
      apply Or.inr
      exact Queue.drain_in_turn _ Earlier (fun _ _ => lt_asymm) maxBatch log.bus.pending
        (ordered.numbered.sublist ordered.queued) first second waiting (decide_eq_true ready) taken
        earlier

end BusLog

end Satsim
