import Satsim.Domain.Models
import Satsim.Library.Queue

/-!
# The request bus

A topic with one partition: requests are published with the step they become available
in, and drained in the order they were published.

The list of pending entries stands for the heap of the source, whose order is publish
order. Entries for later steps may stand before entries for earlier ones; a drain passes
over them and leaves them in place.
-/

namespace Satsim

open Library

/-- A published request, the step from which it may be drained, and its number in publish
order. -/
structure BusEntry where
  availableAtStep : ℤ
  seq : ℕ
  request : ServiceRequest
  deriving DecidableEq, Repr

/-- The entries that wait, and the next number. -/
structure InMemoryBus where
  pending : List BusEntry := []
  seq : ℕ := 0
  deriving DecidableEq, Repr

namespace InMemoryBus

/-- Put a request at the end under the next number. -/
def publish (bus : InMemoryBus) (request : ServiceRequest) (availableAtStep : ℤ) : InMemoryBus :=
  { pending := bus.pending ++ [⟨availableAtStep, bus.seq, request⟩], seq := bus.seq + 1 }

/-- Up to a batch of the requests available by a step; a batch that is not positive drains
nothing. What is not drained keeps its place. -/
def drain (bus : InMemoryBus) (step maxBatch : ℤ) : List ServiceRequest × InMemoryBus :=
  if maxBatch ≤ 0 then ([], bus)
  else
    let (drained, remaining) :=
      Queue.drain (fun entry => decide (entry.availableAtStep ≤ step)) maxBatch bus.pending
    (drained.map BusEntry.request, { bus with pending := remaining })

/-- How many entries wait, available or not. The loop reads it as consumer lag. -/
def length (bus : InMemoryBus) : ℤ := bus.pending.length

/-- The requests that are published and not drained. -/
def backlog (bus : InMemoryBus) : List ServiceRequest := bus.pending.map BusEntry.request

/-- Every entry becomes available in the step its request arrives in. -/
def Gated (bus : InMemoryBus) : Prop :=
  ∀ entry ∈ bus.pending, entry.availableAtStep = entry.request.arrivalStep

/-- A published request joins the backlog at its end. -/
@[simp] theorem backlog_publish (bus : InMemoryBus) (request : ServiceRequest) (step : ℤ) :
    (bus.publish request step).backlog = bus.backlog ++ [request] := by
  simp [publish, backlog]

/-- A request that is published for its own arrival keeps the bus gated. -/
theorem publish_gated (bus : InMemoryBus) (request : ServiceRequest) (gated : bus.Gated) :
    (bus.publish request request.arrivalStep).Gated := by
  intro entry member
  cases List.mem_append.mp member with
  | inl earlier =>
    exact gated entry earlier
  | inr last =>
    rw [List.mem_singleton.mp last]

/-- A drain moves requests out of the backlog and loses none. Which it moves is the subject of
the next results. -/
theorem drain_backlog (bus : InMemoryBus) (step maxBatch : ℤ) :
    ((bus.drain step maxBatch).1 ++ (bus.drain step maxBatch).2.backlog).Perm bus.backlog := by
  unfold drain
  split
  · exact List.Perm.refl _
  · simp only [backlog, ← List.map_append]
    exact (Queue.drain_perm _ maxBatch bus.pending).map BusEntry.request

/-- From a gated bus no request is drained before the step it arrives in, and the bus
stays gated. -/
theorem drain_gated (bus : InMemoryBus) (step maxBatch : ℤ) (gated : bus.Gated) :
    (∀ request ∈ (bus.drain step maxBatch).1, request.arrivalStep ≤ step) ∧
      (bus.drain step maxBatch).2.Gated := by
  unfold drain
  split
  · exact ⟨by simp, gated⟩
  · have parts := Queue.drain_perm (fun entry : BusEntry =>
      decide (entry.availableAtStep ≤ step)) maxBatch bus.pending
    refine ⟨?_, fun entry left => gated entry (parts.subset (List.mem_append_right _ left))⟩
    intro request member
    obtain ⟨entry, taken, rfl⟩ := List.mem_map.mp member
    have available := of_decide_eq_true (Queue.drain_ready _ _ _ entry taken)
    rwa [gated entry (parts.subset (List.mem_append_left _ taken))] at available

end InMemoryBus

end Satsim
