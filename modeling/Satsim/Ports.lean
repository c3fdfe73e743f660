import Satsim.Domain.Planning

/-!
# Ports

The interfaces the control loop is written against. An adapter that keeps memory
between calls exposes it as a state that the call returns updated, so any adapter
behaviour is some value of these types. A call that may raise returns no result or
a reply that says so; `none` from a source or a scheduler is a call that does not
return to the loop at all.

Purity is the point of this shape. A port holds nothing: what an adapter remembers is
passed in and returned, so two runs that start from the same states and ask the same
questions get the same answers.
-/

namespace Satsim

/-- Spectrum law: the options of a request, and the verdict on one triple. The two answers are
separate fields; that they agree is a property of a particular policy. -/
structure RegulatoryPolicy where
  allowedOptions : ServiceRequest → List CandidateOption
  evaluate : Region → FleetId → Band → RegulatoryDecision

/-- One fleet's lookup; `none` is a raised `ConstellationError`. -/
structure ConstellationClient where
  fleetId : FleetId
  visibleResources : ℤ → Option ConstellationSnapshot

/-- A client shows beams of its own fleet only. The loop relies on it to attribute a beam to the
client that was looked up. -/
def ConstellationClient.ShowsOwnFleet (client : ConstellationClient) : Prop :=
  ∀ step snapshot, client.visibleResources step = some snapshot →
    ∀ beam ∈ snapshot.beams, beam.fleet = client.fleetId

/-- Ingestion: `poll step maxBatch` and the consumer lag an adapter may expose. -/
structure RequestSource (σ : Type) where
  poll : σ → ℤ → ℤ → Option (List ServiceRequest × σ)
  backlog : σ → ℤ

/-- What a scheduler call gives back to its caller. A raise carries nothing but the state left
behind, which the port returns beside it. -/
inductive SchedulerReply where
  | returned (result : SchedulingResult)
  | raised
  deriving DecidableEq

/-- A scheduler: candidates and a snapshot to a reply. The state is the adapter's memory, such
as the stream of a contention scheduler, and survives a raise. -/
structure ResourceScheduler (σ : Type) where
  schedule : σ → List ScheduleCandidate → ConstellationSnapshot → ℤ →
    Option (SchedulerReply × σ)

namespace ResourceScheduler

variable {σ : Type}

/-- The same scheduler, made to raise in the steps a fault plan names. The plan says which state
such a call leaves behind, so a fault may or may not consume draws. -/
def withFaults (faults : ℤ → Option σ) (scheduler : ResourceScheduler σ) :
    ResourceScheduler σ where
  schedule state candidates snapshot step :=
    match faults step with
    | some left => some (.raised, left)
    | none => scheduler.schedule state candidates snapshot step

end ResourceScheduler

/-- The Tier-3 planner. It always answers with a plan; a planner that can fail falls back
inside. -/
structure Optimizer (σ : Type) where
  plan : σ → PlanningWindow → ResourcePlan × σ

end Satsim
