import Satsim.Config
import Satsim.Ports

/-!
# Fake constellations

One client for each configured fleet. Its beams cycle through the region and band
pairs the fleet is licensed for; it shows nothing before it is online and raises
from its failure step on.

The clients are pure: what a client shows depends on its configuration and the step, not
on earlier calls. Outages are therefore a timetable, and it is the breaker in the loop
that gives them a history.
-/

namespace Satsim

/-- One simulated fleet: its shape, what it covers, when it comes online and from when on it
fails. -/
structure FakeConstellation where
  fleet : FleetId
  numSatellites : ℤ
  beamsPerSatellite : ℤ
  capacityPerBeam : ℚ
  coverage : List (Region × Band)
  onlineAtStep : ℤ := 0
  failFromStep : Option ℤ := none
  deriving DecidableEq

namespace FakeConstellation

/-- The identifier of a satellite, from its fleet and its number. -/
def satelliteId (fleet : FleetId) (i : ℕ) : String := fleet.value ++ "-s" ++ toString i

/-- The identifier of a beam, from its satellite and its number there. -/
def beamId (fleet : FleetId) (i j : ℕ) : String := satelliteId fleet i ++ "-b" ++ toString j

variable (client : FakeConstellation)

/-- Beam `j` of satellite `i`; its position in the coverage list wraps around. The position
counts beams across satellites. -/
def beam (nonempty : client.coverage ≠ []) (i j : ℕ) : Beam :=
  let index := (i * client.beamsPerSatellite.toNat + j) % client.coverage.length
  let pair := client.coverage.get ⟨index, Nat.mod_lt _ (List.length_pos_iff.mpr nonempty)⟩
  { beamId := beamId client.fleet i j
    fleet := client.fleet
    satelliteId := satelliteId client.fleet i
    region := pair.1
    band := pair.2
    capacityUnits := client.capacityPerBeam }

/-- Satellite `i` with its beams. -/
def satellite (nonempty : client.coverage ≠ []) (i : ℕ) : Satellite :=
  { satelliteId := satelliteId client.fleet i
    fleet := client.fleet
    beams := (List.range client.beamsPerSatellite.toNat).map (client.beam nonempty i) }

/-- The client is past its failure step and raises. -/
def failed (step : ℤ) : Bool :=
  match client.failFromStep with
  | none => false
  | some failFrom => decide (failFrom ≤ step)

/-- What the client shows in a step: an error once it has failed, nothing before it is online or
without coverage, all its satellites otherwise. -/
def visibleResources (step : ℤ) : Option ConstellationSnapshot :=
  if client.failed step then none
  else if covered : step < client.onlineAtStep ∨ client.coverage = [] then some { step := step }
  else
    some { step := step
           satellites := (List.range client.numSatellites.toNat).map
             (client.satellite (not_or.mp covered).2) }

/-- The fleet behind the port. -/
def toClient : ConstellationClient where
  fleetId := client.fleet
  visibleResources := client.visibleResources

/-- Every beam shown is one of the client's beams. -/
theorem visible_beam (step : ℤ) (snapshot : ConstellationSnapshot)
    (seen : client.visibleResources step = some snapshot) (shown : Beam)
    (member : shown ∈ snapshot.beams) :
    ∃ nonempty i j, shown = client.beam nonempty i j := by
  unfold visibleResources at seen
  split at seen
  · simp at seen
  split at seen
  · simp only [Option.some.injEq] at seen
    simp [← seen, ConstellationSnapshot.beams] at member
  · rename_i covered
    simp only [Option.some.injEq] at seen
    subst seen
    obtain ⟨satellite, inView, member⟩ := List.mem_flatMap.mp member
    obtain ⟨i, _, rfl⟩ := List.mem_map.mp inView
    obtain ⟨j, _, rfl⟩ := List.mem_map.mp member
    exact ⟨(not_or.mp covered).2, i, j, rfl⟩

/-- Its beams carry its own fleet. -/
theorem showsOwnFleet : client.toClient.ShowsOwnFleet := by
  intro step snapshot seen shown member
  obtain ⟨nonempty, i, j, rfl⟩ := client.visible_beam step snapshot seen shown member
  rfl

end FakeConstellation

/-- Region and band pairs where the fleet is licensed, in table order. A band listed twice gives
a pair twice. -/
def coverageForFleet (config : SimulationConfig) (fleet : FleetId) : List (Region × Band) :=
  config.regionRules.flatMap fun rule =>
    if fleet ∈ rule.allowedFleets then rule.allowedBands.map (fun band => (rule.region, band))
    else []

/-- The client of a configured fleet. -/
def fakeConstellation (config : SimulationConfig) (fleetConfig : FleetConfig) :
    FakeConstellation where
  fleet := fleetConfig.fleet
  numSatellites := fleetConfig.numSatellites
  beamsPerSatellite := fleetConfig.beamsPerSatellite
  capacityPerBeam := fleetConfig.capacityPerBeam
  coverage := coverageForFleet config fleetConfig.fleet
  onlineAtStep := fleetConfig.onlineAtStep
  failFromStep := fleetConfig.failFromStep

/-- One client for each configured fleet, in configuration order. A fleet configured twice has
two clients. -/
def buildFakeConstellations (config : SimulationConfig) : List FakeConstellation :=
  config.fleets.map (fakeConstellation config)

end Satsim
