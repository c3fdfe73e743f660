import Satsim.Library.Batches
import Satsim.Library.Dict
import Satsim.Library.Greedy
import Satsim.Library.Jain
import Satsim.Library.Linear
import Satsim.Library.Naming
import Satsim.Library.Queue
import Satsim.Library.Rank
import Satsim.Library.RoundRobin
import Satsim.Library.Runs
import Satsim.Library.Shards
import Satsim.Library.Sharing
import Satsim.Domain.Enums
import Satsim.Domain.Models
import Satsim.Domain.Planning
import Satsim.Domain.Curves
import Satsim.Config
import Satsim.Rng
import Satsim.Ports
import Satsim.Scoring
import Satsim.Resilience
import Satsim.BeamState
import Satsim.Ingest.Bus
import Satsim.Ingest.Fifo
import Satsim.Ingest.Demand
import Satsim.Ingest.RequestSource
import Satsim.Ingest.Delivery
import Satsim.Ingest.Sampled
import Satsim.Ingest.Totality
import Satsim.Ingest.ClassMix
import Satsim.Network.Constellation
import Satsim.Network.Coverage
import Satsim.Network.Regulatory
import Satsim.Network.SpectrumLaw
import Satsim.Admission.Controller
import Satsim.Admission.Monotone
import Satsim.Admission.ScoreOrder
import Satsim.Admission.EmergencyLane
import Satsim.Admission.LaneFairness
import Satsim.Scheduling.Contract
import Satsim.Scheduling.Fluid
import Satsim.Mac.Grid
import Satsim.Mac.LinkAdaptation
import Satsim.Mac.Slot
import Satsim.Mac.Contention
import Satsim.Mac.Collision
import Satsim.Mac.Agreement
import Satsim.Mac.Sampling
import Satsim.Scheduling.Priority
import Satsim.Scheduling.Degradation
import Satsim.Scheduling.ArrivalOrder
import Satsim.Scheduling.Selection
import Satsim.Scheduling.FairnessIndex
import Satsim.Scheduling.Sharding
import Satsim.Optimization.Heuristic
import Satsim.Optimization.WorsePast
import Satsim.Optimization.Fairness
import Satsim.Optimization.Adaptive
import Satsim.Optimization.Direction
import Satsim.Optimization.Solver
import Satsim.Optimization.Feasible
import Satsim.Optimization.Coupling
import Satsim.Optimization.Switching
import Satsim.Runtime.Snapshots
import Satsim.Runtime.BeamIdentity
import Satsim.Runtime.Loop
import Satsim.Runtime.Step
import Satsim.Runtime.Breakers
import Satsim.Runtime.Wiring
import Satsim.Runtime.Feedback
import Satsim.Runtime.Conservation
import Satsim.Runtime.Telemetry
import Satsim.Runtime.Capacity
import Satsim.Runtime.GridReservation
import Satsim.Runtime.Lawful
import Satsim.Runtime.Retry
import Satsim.Runtime.Expiry
import Satsim.Runtime.Experiment
import Satsim.Runtime.Latency
import Satsim.Runtime.Simulation
import Satsim.Runtime.Residence
import Satsim.Runtime.Completion
import Satsim.Runtime.Advisory
import Satsim.Runtime.Outages
import Satsim.Runtime.Scenarios
import Satsim.Runtime.Ingestion
import Satsim.Runtime.Denial
import Satsim.Runtime.Throughput
import Satsim.Runtime.Indicators
import Satsim.Runtime.Horizon
import Satsim.Runtime.Reports
