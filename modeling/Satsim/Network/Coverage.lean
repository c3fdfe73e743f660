import Satsim.Library.RoundRobin
import Satsim.Network.Constellation

/-!
# Balanced coverage

The beams of a constellation take the positions of its coverage list round robin, across
satellites and not for each satellite anew. Every position has the floor or the ceiling
of its share of the beams, so nothing licensed is dark while there are beams enough.

Balance is about positions of the list and not about regions. A region that is licensed
in two bands has two positions, and so twice the beams.
-/

namespace Satsim

open Library.RoundRobin

namespace FakeConstellation

variable (client : FakeConstellation)

/-- How many beams the client has, online or not. -/
def beamCount : ℕ := client.numSatellites.toNat * client.beamsPerSatellite.toNat

/-- The coverage positions of the beams, satellite by satellite, as the general dealing of cells
to places has them. -/
def positions : List ℕ :=
  places client.numSatellites.toNat client.beamsPerSatellite.toNat client.coverage.length

/-- How many beams illuminate a position of the coverage list. -/
def illuminated (position : ℕ) : ℕ := client.positions.count position

/-- A beam shows the pair at its position. -/
theorem beam_pair (nonempty : client.coverage ≠ []) (i j : ℕ) :
    some ((client.beam nonempty i j).region, (client.beam nonempty i j).band) =
      client.coverage[(i * client.beamsPerSatellite.toNat + j) % client.coverage.length]? := by
  have inside : (i * client.beamsPerSatellite.toNat + j) % client.coverage.length <
      client.coverage.length := Nat.mod_lt _ (List.length_pos_iff.mpr nonempty)
  rw [List.getElem?_eq_getElem inside]
  rfl

section Shown

variable {client} {step : ℤ} (healthy : client.failed step = false)
  (online : client.onlineAtStep ≤ step) (nonempty : client.coverage ≠ [])
include healthy online

/-- Online and healthy, the client shows all its satellites. -/
theorem visible_online :
    client.visibleResources step =
      some { step := step
             satellites := (List.range client.numSatellites.toNat).map
               (client.satellite nonempty) } := by
  have covered : ¬ (step < client.onlineAtStep ∨ client.coverage = []) :=
    not_or.mpr ⟨not_lt.mpr online, nonempty⟩
  rw [visibleResources, healthy, if_neg Bool.false_ne_true, dif_neg covered]

include nonempty

/-- The beams shown carry the pairs of their positions, in order. -/
theorem visible_pairs (snapshot : ConstellationSnapshot)
    (seen : client.visibleResources step = some snapshot) :
    snapshot.beams.map (fun beam => some (beam.region, beam.band)) =
      client.positions.map (fun position => client.coverage[position]?) := by
  rw [visible_online healthy online nonempty, Option.some.injEq] at seen
  simp only [← seen, ConstellationSnapshot.beams, positions, places, List.flatMap_map,
    List.map_flatMap, satellite, List.map_map, Function.comp_def, beam_pair]

/-- The client shows as many beams as it has. -/
theorem visible_length (snapshot : ConstellationSnapshot)
    (seen : client.visibleResources step = some snapshot) :
    snapshot.beams.length = client.beamCount := by
  have pairs := congrArg List.length (visible_pairs healthy online nonempty snapshot seen)
  simpa [positions, beamCount] using pairs

/-- With as many beams as positions, every pair of the coverage list has a beam. With fewer, the
pairs at the end of the list are dark. -/
theorem visible_covers (snapshot : ConstellationSnapshot)
    (seen : client.visibleResources step = some snapshot)
    (enough : client.coverage.length ≤ client.beamCount) (pair : Region × Band)
    (licensed : pair ∈ client.coverage) :
    ∃ beam ∈ snapshot.beams, (beam.region, beam.band) = pair := by
  obtain ⟨position, inside, here⟩ := List.mem_iff_getElem.mp licensed
  have lit : position ∈ client.positions := mem_places _ _ _ enough position inside
  have shown : some pair ∈ snapshot.beams.map (fun beam => some (beam.region, beam.band)) := by
    rw [visible_pairs healthy online nonempty snapshot seen]
    exact List.mem_map.mpr ⟨position, lit, by rw [List.getElem?_eq_getElem inside, here]⟩
  obtain ⟨beam, member, same⟩ := List.mem_map.mp shown
  exact ⟨beam, member, Option.some.inj same⟩

/-- Round-robin coverage is balanced. An online, healthy client shows as many beams as its
satellites have together, each at the next position of the coverage list; every position has
the floor or the ceiling of its share, no two differ by more than one, and no pair is dark when
the beams are at least as many as the positions. -/
theorem coverage_balanced :
    ∃ snapshot, client.visibleResources step = some snapshot ∧
      snapshot.beams.length = client.numSatellites.toNat * client.beamsPerSatellite.toNat ∧
      snapshot.beams.map (fun beam => some (beam.region, beam.band)) =
        client.positions.map (fun position => client.coverage[position]?) ∧
      (∀ position < client.coverage.length,
        client.illuminated position = client.beamCount / client.coverage.length ∨
          client.illuminated position = client.beamCount ⌈/⌉ client.coverage.length) ∧
      (∀ left < client.coverage.length, ∀ right < client.coverage.length,
        client.illuminated left ≤ client.illuminated right + 1) ∧
      (client.coverage.length ≤ client.beamCount → ∀ pair ∈ client.coverage,
        ∃ beam ∈ snapshot.beams, (beam.region, beam.band) = pair) := by
  have positive : 0 < client.coverage.length := List.length_pos_iff.mpr nonempty
  have seen := visible_online healthy online nonempty
  refine ⟨_, seen, visible_length healthy online nonempty _ seen,
    visible_pairs healthy online nonempty _ seen, ?_, ?_, ?_⟩
  · intro position inside
    exact count_floor_or_ceil _ _ positive position inside
  · intro left leftInside right rightInside
    exact count_near _ _ positive left right leftInside rightInside
  · intro enough pair licensed
    exact visible_covers healthy online nonempty _ seen enough pair licensed

end Shown

/-- Two satellites of two beams over three pairs: one pair has two beams, the others one. -/
theorem coverage_balanced_three :
    ∃ snapshot, (FakeConstellation.mk .legacyLeo 2 2 10
        [(.na, .ku), (.na, .ka), (.eu, .ku)] 0 none).visibleResources 0 = some snapshot ∧
      snapshot.beams.length = 2 * 2 := by
  obtain ⟨snapshot, seen, length, _⟩ := @coverage_balanced (FakeConstellation.mk .legacyLeo 2 2 10
    [(.na, .ku), (.na, .ka), (.eu, .ku)] 0 none) 0 rfl (le_refl 0) (by simp)
  exact ⟨snapshot, seen, length⟩

end FakeConstellation

section Licensed

variable (config : SimulationConfig)

/-- A fleet covers the bands of the rules that allow it, and no others. -/
theorem mem_coverageForFleet (fleet : FleetId) (region : Region) (band : Band) :
    (region, band) ∈ coverageForFleet config fleet ↔
      ∃ rule ∈ config.regionRules, fleet ∈ rule.allowedFleets ∧ rule.region = region ∧
        band ∈ rule.allowedBands := by
  simp only [coverageForFleet, List.mem_flatMap]
  refine exists_congr fun rule => and_congr_right fun _ => ?_
  split
  · rename_i allowed
    simp [allowed, and_comm]
  · rename_i refused
    simp [refused]

/-- A configured fleet that is online and healthy, with as many beams as it has licensed
pairs, leaves no pair dark that the rules license it for. -/
theorem licensed_shown (fleetConfig : FleetConfig) (step : ℤ)
    (healthy : (fakeConstellation config fleetConfig).failed step = false)
    (online : fleetConfig.onlineAtStep ≤ step)
    (enough : (coverageForFleet config fleetConfig.fleet).length ≤
      (fakeConstellation config fleetConfig).beamCount)
    (snapshot : ConstellationSnapshot)
    (seen : (fakeConstellation config fleetConfig).visibleResources step = some snapshot)
    (rule : RegionRule) (listed : rule ∈ config.regionRules)
    (allowed : fleetConfig.fleet ∈ rule.allowedFleets) (band : Band)
    (licensed : band ∈ rule.allowedBands) :
    ∃ beam ∈ snapshot.beams, beam.region = rule.region ∧ beam.band = band := by
  have pair : (rule.region, band) ∈ (fakeConstellation config fleetConfig).coverage :=
    (mem_coverageForFleet config fleetConfig.fleet rule.region band).mpr
      ⟨rule, listed, allowed, rfl, licensed⟩
  obtain ⟨beam, member, same⟩ := FakeConstellation.visible_covers healthy online
    (List.ne_nil_of_mem pair) snapshot seen enough _ pair
  exact ⟨beam, member, congrArg Prod.fst same, congrArg Prod.snd same⟩

end Licensed

end Satsim
