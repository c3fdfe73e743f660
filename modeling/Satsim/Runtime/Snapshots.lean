import Satsim.BeamState
import Satsim.Library.Dict

/-!
# Merging snapshots and withholding reservations

The loop merges what each fleet shows and subtracts the lane's reservations, keyed by
beam identifier, before a scheduler sees the capacity. Subtraction changes capacities
only; it is exact for identifiers that name one beam each.

When two beams share an identifier, each of them is charged with all that was reserved
under it. This is what the source does, and the results that need more ask for distinct
identifiers.
-/

namespace Satsim

open Library

/-- `merge_snapshots`: the satellites of all fleets, one fleet after the other. -/
def mergeSnapshots (step : ℤ) (snapshots : List ConstellationSnapshot) : ConstellationSnapshot :=
  { step := step, satellites := snapshots.flatMap ConstellationSnapshot.satellites }

/-- The units reserved on each beam identifier. -/
def reservedUnits (reservations : List Allocation) : Dict String ℚ :=
  Dict.tally (reservations.map (fun allocation => (allocation.beamId, allocation.allocatedUnits)))

/-- A beam with what is used taken out of its capacity, and never less than nothing. -/
def netBeam (used : Dict String ℚ) (beam : Beam) : Beam :=
  { beam with capacityUnits := max 0 (beam.capacityUnits - used.getD beam.beamId 0) }

/-- `subtract_reservations`. Without reservations the snapshot is returned as it is; with them
every beam is taken through the clamp, those without a reservation as well. -/
def subtractReservations (snapshot : ConstellationSnapshot) (reservations : List Allocation) :
    ConstellationSnapshot :=
  let used := reservedUnits reservations
  if used.entries = [] then snapshot
  else
    { step := snapshot.step
      satellites := snapshot.satellites.map (fun satellite =>
        { satellite with beams := satellite.beams.map (netBeam used) }) }

/-- The beams of the merged snapshot are those of the parts. -/
theorem merge_beams (step : ℤ) (snapshots : List ConstellationSnapshot) :
    (mergeSnapshots step snapshots).beams = snapshots.flatMap ConstellationSnapshot.beams := by
  simp only [mergeSnapshots, ConstellationSnapshot.beams, List.flatMap_assoc]
  rfl

/-- The dictionary of the source holds the sum of what is reserved on each identifier. -/
theorem reservedUnits_getD (reservations : List Allocation) (beamId : String) :
    (reservedUnits reservations).getD beamId 0 = unitsOn beamId reservations := by
  rw [reservedUnits, Dict.getD_tally]
  induction reservations with
  | nil => rfl
  | cons allocation rest inductionHypothesis =>
    simp only [List.map_cons, Dict.sumUnder_cons, unitsOn_cons, inductionHypothesis]

/-- The beams after subtraction: each one as it was, or with its own net capacity. -/
theorem subtract_beams (snapshot : ConstellationSnapshot) (reservations : List Allocation) :
    (reservations = [] ∧ (subtractReservations snapshot reservations).beams = snapshot.beams) ∨
      (subtractReservations snapshot reservations).beams =
        snapshot.beams.map (netBeam (reservedUnits reservations)) := by
  by_cases vacant : (reservedUnits reservations).entries = []
  · exact Or.inl ⟨List.map_eq_nil_iff.mp ((Dict.tally_vacant _).mp vacant),
      by simp only [subtractReservations, vacant, ↓reduceIte]⟩
  · right
    simp only [subtractReservations, vacant, ↓reduceIte, ConstellationSnapshot.beams,
      List.flatMap_map, List.map_flatMap]

/-- Any view of a beam other than its capacity is unchanged by subtraction, beam by beam. -/
theorem subtract_view {β : Type} (view : Beam → β)
    (blind : ∀ used beam, view (netBeam used beam) = view beam)
    (snapshot : ConstellationSnapshot) (reservations : List Allocation) :
    (subtractReservations snapshot reservations).beams.map view = snapshot.beams.map view := by
  rcases subtract_beams snapshot reservations with ⟨_, same⟩ | netted
  · rw [same]
  · rw [netted, List.map_map]
    exact List.map_congr_left (fun beam _ => blind _ beam)

/-- A beam after subtraction comes from a beam of the snapshot with the same identifier,
fleet, satellite, region and band. -/
theorem subtract_source (snapshot : ConstellationSnapshot) (reservations : List Allocation)
    (beam : Beam) (shown : beam ∈ (subtractReservations snapshot reservations).beams) :
    ∃ source ∈ snapshot.beams, beam = { source with capacityUnits := beam.capacityUnits } := by
  rcases subtract_beams snapshot reservations with ⟨_, same⟩ | netted
  · exact ⟨beam, same ▸ shown, rfl⟩
  · rw [netted] at shown
    obtain ⟨source, member, rfl⟩ := List.mem_map.mp shown
    exact ⟨source, member, rfl⟩

/-- On nonnegative capacities every beam is left with what its identifier's reservations
leave of it, and never less than zero. -/
theorem subtract_beams_nonneg (snapshot : ConstellationSnapshot) (reservations : List Allocation)
    (capacities : ∀ beam ∈ snapshot.beams, 0 ≤ beam.capacityUnits) :
    (subtractReservations snapshot reservations).beams =
      snapshot.beams.map (fun beam => { beam with
        capacityUnits := max 0 (beam.capacityUnits - unitsOn beam.beamId reservations) }) := by
  rcases subtract_beams snapshot reservations with ⟨rfl, same⟩ | netted
  · rw [same]
    conv_lhs => rw [← List.map_id snapshot.beams]
    apply List.map_congr_left
    intro beam shown
    simp only [id, unitsOn_nil, sub_zero, max_eq_right (capacities beam shown)]
  · rw [netted]
    exact List.map_congr_left (fun beam _ => by simp only [netBeam, reservedUnits_getD])

/-- Each beam of the snapshot is left in the net one, with the rest of its capacity. -/
theorem mem_subtract (snapshot : ConstellationSnapshot) (reservations : List Allocation)
    (capacities : ∀ beam ∈ snapshot.beams, 0 ≤ beam.capacityUnits) (beam : Beam)
    (shown : beam ∈ snapshot.beams) :
    { beam with capacityUnits := max 0 (beam.capacityUnits - unitsOn beam.beamId reservations) } ∈
      (subtractReservations snapshot reservations).beams := by
  rw [subtract_beams_nonneg snapshot reservations capacities]
  exact List.mem_map.mpr ⟨beam, shown, rfl⟩

/-- So no capacity is negative afterwards. -/
theorem subtract_capacity (snapshot : ConstellationSnapshot) (reservations : List Allocation)
    (capacities : ∀ beam ∈ snapshot.beams, 0 ≤ beam.capacityUnits) :
    ∀ beam ∈ (subtractReservations snapshot reservations).beams, 0 ≤ beam.capacityUnits := by
  rw [subtract_beams_nonneg snapshot reservations capacities]
  intro beam shown
  obtain ⟨source, _, rfl⟩ := List.mem_map.mp shown
  exact le_max_left _ _

end Satsim
