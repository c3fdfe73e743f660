import Mathlib

/-!
# Enumerations shared across the simulation

Traffic classes carry their priority as an integer, the other enumerations the
text the source gives them where an identifier is built from it.

A text is kept only where something is computed from it. The order of the constructors
is that of the source, and the enumerations are finite, so statements about all of them
are decided by cases.
-/

namespace Satsim

/-- Service classes; a larger value is more urgent. -/
inductive TrafficClass where
  | thirdPartyApi
  | photo
  | mapsTiles
  | findMy
  | messaging
  | roadside
  | emergencySos
  deriving DecidableEq, Repr

/-- The integer of a class, as the source's `IntEnum` has it. Scores divide it by the
largest. -/
def TrafficClass.value : TrafficClass → ℕ
  | .thirdPartyApi => 0
  | .photo => 1
  | .mapsTiles => 2
  | .findMy => 3
  | .messaging => 4
  | .roadside => 5
  | .emergencySos => 6

/-- Classes whose requests may enter the Tier-2 emergency lane. -/
def urgentClasses : List TrafficClass := [.emergencySos, .roadside]

/-- The constellations of the simulation. -/
inductive FleetId where
  | legacyLeo
  | nextGen
  deriving DecidableEq, Repr

/-- The text of a fleet, from which its beam and satellite identifiers are built. -/
def FleetId.value : FleetId → String
  | .legacyLeo => "legacy_leo"
  | .nextGen => "next_gen"

/-- Frequency bands. -/
inductive Band where
  | l
  | s
  | ku
  | ka
  deriving DecidableEq, Repr

/-- The text of a band. -/
def Band.value : Band → String
  | .l => "L"
  | .s => "S"
  | .ku => "Ku"
  | .ka => "Ka"

/-- Regulatory regions. -/
inductive Region where
  | na
  | eu
  | apac
  | latam
  | ocean
  deriving DecidableEq, Repr

/-- The text of a region. -/
def Region.value : Region → String
  | .na => "na"
  | .eu => "eu"
  | .apac => "apac"
  | .latam => "latam"
  | .ocean => "ocean"

/-- Why a request was rejected, shed or dropped. Breakdowns of the step counters are keyed by
it. -/
inductive RejectReason where
  | admissionShed
  | emergencyLaneFull
  | noLegalOption
  | noCapacity
  | deadlineMissed
  | retryBudgetExhausted
  deriving DecidableEq, Repr

/-- Operating mode of the control loop in one step. -/
inductive DegradeMode where
  | normal
  | fallback
  | safe
  deriving DecidableEq, Repr

/-- Which Tier-3 planner a configuration selects. -/
inductive OptimizerBackend where
  | solver
  | heuristic
  | adaptive
  deriving DecidableEq, Repr

/-- Which primary scheduler a configuration selects. -/
inductive SchedulerKind where
  | heuristic
  | priorityFair
  | slotMac
  | contentionMac
  deriving DecidableEq, Repr

end Satsim
