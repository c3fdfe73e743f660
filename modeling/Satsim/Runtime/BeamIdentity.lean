import Satsim.Library.Naming
import Satsim.Network.Constellation
import Satsim.Runtime.Snapshots

/-!
# Beam identity

Reservations are withheld by beam identifier, so they are withheld exactly when each
identifier names one beam. An identifier is built from the fleet, the satellite and the
beam, and determines all three. The validators do not compare the configured fleets with
each other, so two of them may be of one fleet and show the same identifiers.

The capacity results elsewhere ask for distinct identifiers and take them from here.
Withholding is compared with the law it should obey beam by beam, for arbitrary
reservations within the capacities and not only for those of the lane.
-/

namespace Satsim

open Library

namespace FakeConstellation

/-- An identifier determines its fleet, satellite and beam: the separators and the decimals can
be read back. -/
theorem beamId_injective (fleet other : FleetId) (i j k l : ℕ)
    (same : beamId fleet i j = beamId other k l) : fleet = other ∧ i = k ∧ j = l := by
  have named : fleet = other := by
    have spelled := congrArg String.toList same
    cases fleet <;> cases other <;>
      simp [beamId, satelliteId, FleetId.value] at spelled ⊢
  subst named
  exact ⟨rfl, Naming.pair_injective (fleet.value ++ "-s") "-b" '-' (by decide) ['b'] rfl (by decide)
    i j k l same⟩

/-- The identifiers of all beams of a client, satellite by satellite. Coverage decides the
regions of the beams and not their number. -/
def beamIds (client : FakeConstellation) : List String :=
  (List.range client.numSatellites.toNat).flatMap fun i =>
    (List.range client.beamsPerSatellite.toNat).map (beamId client.fleet i)

/-- Whether a client shows any beam in a step: it has not failed, it is online, it covers
something and it has a beam at all. -/
def lit (client : FakeConstellation) (step : ℤ) : Bool :=
  !client.failed step && decide (client.onlineAtStep ≤ step) && decide (client.coverage ≠ []) &&
    decide (0 < client.numSatellites) && decide (0 < client.beamsPerSatellite)

/-- A client never repeats an identifier. -/
theorem beamIds_nodup (client : FakeConstellation) : client.beamIds.Nodup := by
  rw [beamIds, List.nodup_flatMap]
  refine ⟨fun i _ => List.Nodup.map ?_ List.nodup_range, ?_⟩
  · intro j l same
    exact (beamId_injective _ _ _ _ _ _ same).2.2
  · apply List.nodup_range.imp
    intro i k apart name first second
    obtain ⟨j, _, rfl⟩ := List.mem_map.mp first
    obtain ⟨l, _, same⟩ := List.mem_map.mp second
    exact apart (beamId_injective _ _ _ _ _ _ same).2.1.symm

/-- Its identifiers are those of its satellites and beams by index. -/
theorem mem_beamIds (client : FakeConstellation) (name : String) :
    name ∈ client.beamIds ↔ ∃ i < client.numSatellites.toNat,
      ∃ j < client.beamsPerSatellite.toNat, beamId client.fleet i j = name := by
  simp [beamIds]

/-- Clients that both have a beam share an identifier only if they are of one fleet. Then they
share at least that of the first beam of the first satellite. -/
theorem beamIds_disjoint_iff (client other : FakeConstellation) (step : ℤ)
    (shown : client.lit step = true) (shown' : other.lit step = true) :
    client.beamIds.Disjoint other.beamIds ↔ client.fleet ≠ other.fleet := by
  have first (tested : FakeConstellation) (lit : tested.lit step = true) :
      beamId tested.fleet 0 0 ∈ tested.beamIds := by
    simp only [FakeConstellation.lit, Bool.and_eq_true, decide_eq_true_eq] at lit
    exact (tested.mem_beamIds _).mpr ⟨0, by omega, 0, by omega, rfl⟩
  constructor
  · intro apart same
    exact apart (first client shown) (same ▸ first other shown')
  · intro apart name here there
    obtain ⟨i, _, j, _, rfl⟩ := (client.mem_beamIds _).mp here
    obtain ⟨k, _, l, _, same⟩ := (other.mem_beamIds _).mp there
    exact apart (beamId_injective _ _ _ _ _ _ same).1.symm

/-- What a client shows, by identifier: everything when it is lit, and else nothing. An outage
takes all beams of a fleet at once. -/
theorem visible_beamIds (client : FakeConstellation) (step : ℤ) :
    (((client.visibleResources step).elim [] ConstellationSnapshot.beams).map Beam.beamId) =
      if client.lit step then client.beamIds else [] := by
  unfold visibleResources
  split
  · rename_i failed
    simp [lit, failed]
  rename_i operating
  split
  · rename_i covered
    have unlit : client.lit step = false := by
      cases covered with
      | inl offline =>
        simp [lit, not_le.mpr offline]
      | inr uncovered =>
        simp [lit, uncovered]
    simp [unlit, ConstellationSnapshot.beams]
  · rename_i covered
    obtain ⟨online, coverage⟩ := not_or.mp covered
    have shown : ((List.range client.numSatellites.toNat).map (client.satellite coverage)).flatMap
        Satellite.beams = (List.range client.numSatellites.toNat).flatMap (fun i =>
          (List.range client.beamsPerSatellite.toNat).map (client.beam coverage i)) := by
      rw [List.flatMap_map]
      rfl
    have named : (((List.range client.numSatellites.toNat).map (client.satellite coverage)).flatMap
        Satellite.beams).map Beam.beamId = client.beamIds := by
      rw [shown, List.map_flatMap]
      simp only [List.map_map, beamIds]
      rfl
    split
    · exact named
    · rename_i dark
      have vacant : client.numSatellites.toNat = 0 ∨ client.beamsPerSatellite.toNat = 0 := by
        simp only [lit, Bool.and_eq_true, decide_eq_true_eq, not_lt.mp online,
          Bool.eq_false_of_not_eq_true operating, coverage, ne_eq, not_false_eq_true,
          Bool.not_false, true_and] at dark
        omega
      refine named.trans (List.eq_nil_iff_forall_not_mem.mpr fun name member => ?_)
      obtain ⟨i, _, j, _, _⟩ := (client.mem_beamIds name).mp member
      omega

end FakeConstellation

/-- The merged snapshot of all configured fleets in a step; a failed fleet shows nothing.
Breakers are not asked here, so this is the most that a step may see. -/
def visibleSnapshot (config : SimulationConfig) (step : ℤ) : ConstellationSnapshot :=
  mergeSnapshots step ((buildFakeConstellations config).filterMap
    (fun client => client.visibleResources step))

/-- The configured fleets that show a beam in a step, in configuration order and with
repetitions. -/
def litFleets (config : SimulationConfig) (step : ℤ) : List FleetId :=
  ((buildFakeConstellations config).filter (fun client => client.lit step)).map
    FakeConstellation.fleet

/-- The identifiers of the merged snapshot are those of the lit clients. -/
theorem visibleSnapshot_beamIds (config : SimulationConfig) (step : ℤ) :
    (visibleSnapshot config step).beams.map Beam.beamId =
      ((buildFakeConstellations config).filter (fun client => client.lit step)).flatMap
        FakeConstellation.beamIds := by
  rw [visibleSnapshot, merge_beams]
  induction buildFakeConstellations config with
  | nil => rfl
  | cons client rest inductionHypothesis =>
    have head := client.visible_beamIds step
    rw [List.filter_cons]
    cases seen : client.visibleResources step with
    | none =>
      simp only [seen, Option.elim_none, List.map_nil] at head
      split at head
      · rename_i lit
        simp [seen, inductionHypothesis, lit, ← head]
      · rename_i dark
        simp [seen, inductionHypothesis, dark]
    | some snapshot =>
      simp only [seen, Option.elim_some] at head
      simp only [List.filterMap_cons, seen, List.flatMap_cons, List.map_append, head,
        inductionHypothesis]
      split <;> simp

/-- The identifiers of a step are distinct exactly when the fleets shown are. Each client alone
has distinct ones, so the matter lies between clients. -/
theorem visibleSnapshot_distinct (config : SimulationConfig) (step : ℤ) :
    ((visibleSnapshot config step).beams.map Beam.beamId).Nodup ↔
      (litFleets config step).Nodup := by
  rw [visibleSnapshot_beamIds, List.nodup_flatMap, litFleets, List.nodup_iff_pairwise_ne,
    List.pairwise_map]
  constructor
  · rintro ⟨_, apart⟩
    exact apart.imp_of_mem (fun first second disjoint =>
      (FakeConstellation.beamIds_disjoint_iff _ _ step (List.mem_filter.mp first).2
        (List.mem_filter.mp second).2).mp disjoint)
  · intro apart
    refine ⟨fun client _ => client.beamIds_nodup, ?_⟩
    exact apart.imp_of_mem (fun first second different =>
      (FakeConstellation.beamIds_disjoint_iff _ _ step (List.mem_filter.mp first).2
        (List.mem_filter.mp second).2).mpr different)

/-- Fleets that are configured once each show distinct identifiers in every step. This is the
condition the results on fleets take from a configuration. -/
theorem fleets_distinct (config : SimulationConfig) (step : ℤ)
    (once : (config.fleets.map FleetConfig.fleet).Nodup) :
    ((visibleSnapshot config step).beams.map Beam.beamId).Nodup := by
  apply (visibleSnapshot_distinct config step).mpr
  have fleets : (buildFakeConstellations config).map FakeConstellation.fleet =
      config.fleets.map FleetConfig.fleet := by
    rw [buildFakeConstellations, List.map_map]
    rfl
  exact (fleets ▸ once).sublist (List.filter_sublist.map _)

/-- Subtraction takes exactly the reserved units from the total, leaves each beam without
a reservation as it was, and changes no field other than capacities. -/
structure WithholdsExactly (snapshot : ConstellationSnapshot) (reservations : List Allocation) :
    Prop where
  total : (subtractReservations snapshot reservations).totalCapacity =
    snapshot.totalCapacity - (reservations.map Allocation.allocatedUnits).sum
  step : (subtractReservations snapshot reservations).step = snapshot.step
  satellites : List.Forall₂ (fun before after : Satellite =>
      after.satelliteId = before.satelliteId ∧ after.fleet = before.fleet ∧
        List.Forall₂ (fun before after : Beam =>
          after = { before with capacityUnits := after.capacityUnits } ∧
            ((∀ reservation ∈ reservations, reservation.beamId ≠ before.beamId) → after = before))
          before.beams after.beams)
    snapshot.satellites (subtractReservations snapshot reservations).satellites

/-- Reservations on distinct beams, within their capacities, are withheld exactly. -/
theorem withholds_exactly (snapshot : ConstellationSnapshot) (reservations : List Allocation)
    (distinct : (snapshot.beams.map Beam.beamId).Nodup)
    (capacities : ∀ beam ∈ snapshot.beams, 0 ≤ beam.capacityUnits)
    (named : ∀ reservation ∈ reservations, reservation.beamId ∈ snapshot.beams.map Beam.beamId)
    (within : ∀ beam ∈ snapshot.beams, unitsOn beam.beamId reservations ≤ beam.capacityUnits) :
    WithholdsExactly snapshot reservations where
  total := by
    have reserved := Greedy.held_total Beam.beamId snapshot.beams distinct Allocation.beamId
      Allocation.allocatedUnits reservations named
    rw [ConstellationSnapshot.totalCapacity, subtract_beams_nonneg snapshot reservations capacities,
      List.map_map, reserved, ConstellationSnapshot.totalCapacity, eq_sub_iff_add_eq,
      ← List.sum_map_add]
    refine congrArg List.sum (List.map_congr_left fun beam shown => ?_)
    have left : max 0 (beam.capacityUnits - unitsOn beam.beamId reservations) =
        beam.capacityUnits - unitsOn beam.beamId reservations :=
      max_eq_right (sub_nonneg.mpr (within beam shown))
    exact (congrArg (· + unitsOn beam.beamId reservations) left).trans (sub_add_cancel _ _)
  step := by
    unfold subtractReservations
    dsimp only
    split <;> rfl
  satellites := by
    unfold subtractReservations
    dsimp only
    split
    · rw [List.forall₂_same]
      exact fun satellite _ => ⟨rfl, rfl, List.forall₂_same.mpr (fun beam _ => ⟨rfl, fun _ => rfl⟩)⟩
    · rw [List.forall₂_map_right_iff, List.forall₂_same]
      intro satellite inView
      refine ⟨rfl, rfl, ?_⟩
      rw [List.forall₂_map_right_iff, List.forall₂_same]
      intro beam carried
      refine ⟨rfl, fun unreserved => ?_⟩
      have shown : beam ∈ snapshot.beams := List.mem_flatMap.mpr ⟨satellite, inView, carried⟩
      simp only [netBeam, reservedUnits_getD, unitsOn_absent beam.beamId reservations unreserved,
        sub_zero, max_eq_right (capacities beam shown)]

/-- No configured fleet has beams of negative capacity. -/
theorem visibleSnapshot_nonneg (config : SimulationConfig) (step : ℤ) (beam : Beam)
    (shown : beam ∈ (visibleSnapshot config step).beams) : 0 ≤ beam.capacityUnits := by
  rw [visibleSnapshot, merge_beams] at shown
  obtain ⟨snapshot, seen, shown⟩ := List.mem_flatMap.mp shown
  obtain ⟨client, built, seen⟩ := List.mem_filterMap.mp seen
  obtain ⟨fleetConfig, _, rfl⟩ := List.mem_map.mp built
  obtain ⟨_, _, _, rfl⟩ := FakeConstellation.visible_beam _ step snapshot seen beam shown
  exact fleetConfig.capacityNonneg

/-- What the validators check of the fleets, and what they do not: the merged snapshot of
a step has one beam for each identifier, and reservations within its capacities are
withheld exactly, if and only if no two configured fleets that show a beam in the step
are of one fleet. -/
theorem beam_identity_iff (config : SimulationConfig) (step : ℤ) :
    (((visibleSnapshot config step).beams.map Beam.beamId).Nodup ∧
      ∀ reservations : List Allocation,
        (∀ reservation ∈ reservations, reservation.beamId ∈
          (visibleSnapshot config step).beams.map Beam.beamId) →
        (∀ beam ∈ (visibleSnapshot config step).beams,
          unitsOn beam.beamId reservations ≤ beam.capacityUnits) →
        WithholdsExactly (visibleSnapshot config step) reservations) ↔
      (litFleets config step).Nodup := by
  rw [← visibleSnapshot_distinct]
  refine ⟨And.left, fun distinct => ⟨distinct, fun reservations named within => ?_⟩⟩
  exact withholds_exactly _ reservations distinct (visibleSnapshot_nonneg config step) named within

/-- Two entries of one fleet, which the validators accept. -/
def twinFields : SimulationFields :=
  { smallFields with fleets := smallFields.fleets ++ smallFields.fleets }

/-- The configuration they give. -/
def twinConfig : SimulationConfig := { twinFields with accepted := by decide +kernel }

/-- A reservation of four units on the beam that both entries show. -/
def twinReservation : Allocation where
  requestId := "a"
  fleet := .legacyLeo
  beamId := "legacy_leo-s0-b0"
  band := .ku
  allocatedUnits := 4
  deliveryProbability := 1

/-- The two entries show one identifier twice, and a reservation on it is withheld from
both of its beams. -/
theorem twin_identity : ¬((visibleSnapshot twinConfig 0).beams.map Beam.beamId).Nodup ∧
    ∃ reservations : List Allocation,
      (∀ reservation ∈ reservations, reservation.beamId ∈
        (visibleSnapshot twinConfig 0).beams.map Beam.beamId) ∧
      (∀ beam ∈ (visibleSnapshot twinConfig 0).beams,
        unitsOn beam.beamId reservations ≤ beam.capacityUnits) ∧
      ¬WithholdsExactly (visibleSnapshot twinConfig 0) reservations := by
  refine ⟨by decide +kernel, [twinReservation], by decide +kernel, by decide +kernel, ?_⟩
  intro exactly
  have total : (subtractReservations (visibleSnapshot twinConfig 0)
      [twinReservation]).totalCapacity ≠ (visibleSnapshot twinConfig 0).totalCapacity -
        ([twinReservation].map Allocation.allocatedUnits).sum := by decide +kernel
  exact total exactly.total

end Satsim
