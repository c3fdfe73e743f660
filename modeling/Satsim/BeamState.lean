import Satsim.Domain.Models
import Satsim.Library.Greedy

/-!
# Beams with the capacity still free

The lane's pool and the fluid schedulers keep, for each beam, the units still free
in the current step, and charge one beam for each grant. A grant may exceed what is
free by the comparison slack, so the balance of a beam never falls below `-slack`;
`run_unitsOn` turns this into a bound on everything granted on one beam identifier.

What is left after a pass is not assumed but accounted for. `run_remaining` says that on
beams with distinct identifiers each residual is the starting capacity less the units
granted there, so a statement about residuals is a statement about the grants.
-/

namespace Satsim

open Library

/-- A beam and the units still free on it, which a charge may overdraw by the slack. -/
structure BeamState where
  beam : Beam
  remaining : ℚ
  deriving DecidableEq, Repr

namespace BeamState

/-- The identifier of the beam, under which grants are booked. Two states may share one. -/
def beamId (state : BeamState) : String := state.beam.beamId

/-- Take units off what is free. Nothing here keeps the balance above zero; `charge_pays` says
when it stays above `-slack`. -/
def charge (units : ℚ) (state : BeamState) : BeamState :=
  { state with remaining := state.remaining - units }

/-- A charge does not touch the beam itself, so legality and region read the same before and
after. -/
@[simp] theorem beam_charge (units : ℚ) (state : BeamState) :
    (state.charge units).beam = state.beam := rfl

/-- Nor does it move the state to another identifier. -/
@[simp] theorem beamId_charge (units : ℚ) (state : BeamState) :
    (state.charge units).beamId = state.beamId := rfl

/-- The balance falls by exactly the units charged. -/
@[simp] theorem remaining_charge (units : ℚ) (state : BeamState) :
    (state.charge units).remaining = state.remaining - units := rfl

/-- Charging changes no beam and keeps the order of the states, so positions found in one list
are valid in the other. -/
theorem beams_modify (units : ℚ) (slot : ℕ) (states : List BeamState) :
    (states.modify slot (charge units)).map beam = states.map beam := by
  apply List.ext_getElem
  · simp
  · intro index left right
    simp only [List.getElem_map, List.getElem_modify]
    split <;> rfl

/-- A charge that leaves at least `-slack` is a payment of the charged beam. This is the form in
which the accounting rules of the library take a grant. -/
theorem charge_pays (units : ℚ) (slot : ℕ) (states : List BeamState)
    (bound : slot < states.length) (covered : units ≤ states[slot].remaining + slack) :
    Greedy.Pays beamId remaining (-slack) states (states.modify slot (charge units))
      states[slot].beamId units := by
  refine ⟨slot, bound, charge units, rfl, rfl, rfl, ?_, ?_⟩
  · simp
  · simp only [remaining_charge]
    linarith

end BeamState

/-- What makes a grant lawful for a request: it names the request, and takes from a
beam of the request's region at most a cap that is legal for the beam's fleet and
band. What is legal is a parameter, since the lane and the schedulers ask differently. -/
structure Fits (beams : List Beam) (legal : FleetId → Band → Option ℚ → Prop)
    (request : ServiceRequest) (allocation : Allocation) : Prop where
  named : allocation.requestId = request.requestId
  taken : ∃ beam ∈ beams, ∃ cap, allocation.beamId = beam.beamId ∧
    allocation.fleet = beam.fleet ∧ allocation.band = beam.band ∧
      beam.region = request.region ∧ legal beam.fleet beam.band cap ∧
        ∀ limit ∈ cap, allocation.allocatedUnits ≤ limit + slack

/-- An amount within a capped quantity, up to the slack, is within the cap. The quantity that
was capped no longer matters. -/
theorem within_cap (units value : ℚ) (cap : Option ℚ) (within : units ≤ capped value cap + slack)
    (limit : ℚ) (limited : limit ∈ cap) : units ≤ limit + slack := by
  obtain rfl : cap = some limit := limited
  linarith [capped_le_cap value limit]

/-- The units on a beam are what its identifier holds of the allocations. This identifies the
program's sum with the balance the library accounts for. -/
theorem unitsOn_eq_held (beamId : String) (allocations : List Allocation) :
    unitsOn beamId allocations =
      Greedy.held Allocation.beamId Allocation.allocatedUnits beamId allocations := rfl

/-- No allocations, no units. -/
theorem unitsOn_nil (beamId : String) : unitsOn beamId [] = 0 := rfl

/-- The units on a beam, one allocation at a time. -/
theorem unitsOn_cons (beamId : String) (allocation : Allocation) (rest : List Allocation) :
    unitsOn beamId (allocation :: rest) =
      (if allocation.beamId = beamId then allocation.allocatedUnits else 0) +
        unitsOn beamId rest :=
  Greedy.held_cons _ _ beamId allocation rest

/-- Both tiers book under the same identifiers, so their units on a beam add up. -/
theorem unitsOn_append (beamId : String) (left right : List Allocation) :
    unitsOn beamId (left ++ right) = unitsOn beamId left + unitsOn beamId right := by
  simp [unitsOn]

/-- Nothing is taken from an identifier that no allocation names. A beam that a pass never
charges needs no bound of its own. -/
theorem unitsOn_absent (beamId : String) (allocations : List Allocation)
    (absent : ∀ allocation ∈ allocations, allocation.beamId ≠ beamId) :
    unitsOn beamId allocations = 0 := by
  rw [unitsOn_eq_held]
  apply Greedy.held_absent
  intro named
  obtain ⟨allocation, member, same⟩ := List.mem_map.mp named
  exact absent allocation member same

/-- A pass whose placements all pay from beam states with distinct identifiers grants on each
identifier at most what its beam had, up to the slack. With repeated identifiers the bound can
fail, since both beams' grants are booked under one name. -/
theorem run_unitsOn {σ α : Type} (refuse : α → Bool) (place : σ → α → Option (Allocation × σ))
    (states : σ → List BeamState)
    (pays : ∀ resource item allocation charged, place resource item = some (allocation, charged) →
      Greedy.Pays BeamState.beamId BeamState.remaining (-slack) (states resource) (states charged)
        allocation.beamId allocation.allocatedUnits)
    (items : List α) (resource : σ)
    (solvent : ∀ state ∈ states resource, 0 ≤ state.remaining)
    (distinct : ((states resource).map BeamState.beamId).Nodup) (state : BeamState)
    (member : state ∈ states resource) :
    unitsOn state.beamId ((Greedy.run refuse place items resource).1.placed.map Prod.snd) ≤
      state.remaining + slack := by
  have spent := Greedy.run_spent refuse place states Allocation.beamId Allocation.allocatedUnits
    pays items resource (fun state member => (neg_nonpos.mpr slack_pos.le).trans
      (solvent state member)) distinct state member
  rw [unitsOn_eq_held]
  linarith

/-- What a pass whose placements all pay from beam states with distinct identifiers leaves of a
beam is what it had, less the units granted on it. Both directions of the account are in the
equation: nothing is granted without being charged, and nothing is charged without being
granted. -/
theorem run_remaining {σ α : Type} (refuse : α → Bool)
    (place : σ → α → Option (Allocation × σ)) (states : σ → List BeamState)
    (pays : ∀ resource item allocation charged, place resource item = some (allocation, charged) →
      Greedy.Pays BeamState.beamId BeamState.remaining (-slack) (states resource) (states charged)
        allocation.beamId allocation.allocatedUnits)
    (items : List α) (resource : σ)
    (distinct : ((states resource).map BeamState.beamId).Nodup) (old left : BeamState)
    (stood : old ∈ states resource)
    (final : left ∈ states (Greedy.run refuse place items resource).2)
    (same : left.beam = old.beam) :
    unitsOn left.beamId ((Greedy.run refuse place items resource).1.placed.map Prod.snd) +
      left.remaining = old.remaining :=
  Greedy.run_left refuse place states Allocation.beamId Allocation.allocatedUnits pays items
    resource distinct old stood left final (congrArg Beam.beamId same)

end Satsim
