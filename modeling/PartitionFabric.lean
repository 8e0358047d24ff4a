import PartitionFabric.Foundation.Procedure
import PartitionFabric.Foundation.Wire
import PartitionFabric.Foundation.KeyedMap
import PartitionFabric.Foundation.Selection
import PartitionFabric.Foundation.System
import PartitionFabric.Foundation.Errors
import PartitionFabric.Foundation.Chunked
import PartitionFabric.Core.Basic
import PartitionFabric.Core.Resource
import PartitionFabric.Core.Accounting
import PartitionFabric.Core.Lifecycle
import PartitionFabric.Model.Device
import PartitionFabric.Model.Records
import PartitionFabric.Model.Planning
import PartitionFabric.Codec.Writer
import PartitionFabric.Codec.Frame
import PartitionFabric.Codec.Stream
import PartitionFabric.Model.State
import PartitionFabric.Codec.Records
import PartitionFabric.Codec.RoundTrip
import PartitionFabric.Fabric.Transition
import PartitionFabric.Fabric.Registration
import PartitionFabric.Fabric.Planner
import PartitionFabric.Fabric.Plans
import PartitionFabric.Fabric.Reservation
import PartitionFabric.Fabric.Instance
import PartitionFabric.Fabric.Mutation
import PartitionFabric.Fabric.Apply
import PartitionFabric.Fabric.Dispatch
import PartitionFabric.Fabric.Occupancy
import PartitionFabric.Fabric.Reconcile
import PartitionFabric.Fabric.Durable
import PartitionFabric.Codec.Container
import PartitionFabric.Codec.Durability
import PartitionFabric.Codec.Messages
import PartitionFabric.Codec.Payload
import PartitionFabric.Codec.Packing
import PartitionFabric.Fabric.Step
import PartitionFabric.Invariants.Planning
import PartitionFabric.Invariants.Evolution
import PartitionFabric.Invariants.Operations
import PartitionFabric.Invariants.Mutations
import PartitionFabric.Invariants.Reconciliation
import PartitionFabric.Invariants.Lifecycle
import PartitionFabric.Invariants.Selection
import PartitionFabric.Invariants.PlanLimits
import PartitionFabric.Invariants.Passes
import PartitionFabric.Invariants.Closure
import PartitionFabric.Invariants.Restart
import PartitionFabric.Invariants.ImportAtomicity
import PartitionFabric.Invariants.PlanUse
import PartitionFabric.Invariants.Publication
import PartitionFabric.Invariants.Legality
import PartitionFabric.Invariants.DrainGate
import PartitionFabric.Invariants.Conservation
import PartitionFabric.Invariants.Evidence
import PartitionFabric.Invariants.Validity
import PartitionFabric.Invariants.RecordValidity
import PartitionFabric.Invariants.MutationValidity
import PartitionFabric.Invariants.OccupancyValidity
import PartitionFabric.Invariants.ReconcileValidity
import PartitionFabric.Invariants.RecordRuns
import PartitionFabric.Invariants.Fencing
import PartitionFabric.Invariants.Generations
import PartitionFabric.Invariants.Absorbing
import PartitionFabric.Invariants.Authority
import PartitionFabric.Invariants.Binding
import PartitionFabric.Invariants.Assignments
import PartitionFabric.Invariants.Retention
import PartitionFabric.Invariants.Identities
import PartitionFabric.Invariants.Shutdown
import PartitionFabric.Invariants.Granting
import PartitionFabric.Invariants.Contexts
import PartitionFabric.Invariants.Reserving
import PartitionFabric.Invariants.Feasibility
import PartitionFabric.Invariants.Undoing
import PartitionFabric.Invariants.Standing
import PartitionFabric.Invariants.Reconfiguring
import PartitionFabric.Invariants.Refusing
import PartitionFabric.Invariants.PlanCache
import PartitionFabric.Invariants.Releasability
import PartitionFabric.Invariants.Dispatching
import PartitionFabric.Coordinator.Session
import PartitionFabric.Coordinator.Events
import PartitionFabric.Coordinator.Handlers
import PartitionFabric.Coordinator.Queries
import PartitionFabric.Coordinator.Results
import PartitionFabric.Coordinator.Connections
import PartitionFabric.Invariants.Classification
import PartitionFabric.Coordinator.Worker
import PartitionFabric.Invariants.Agreement
import PartitionFabric.Invariants.Stability
import PartitionFabric.Invariants.Repetition
import PartitionFabric.Invariants.Atomicity
import PartitionFabric.Foundation.Matching
import PartitionFabric.Invariants.LayoutMatching
import PartitionFabric.Invariants.Freeing
import PartitionFabric.Invariants.ProbeAgreement
import PartitionFabric.Invariants.CapabilityContent
import PartitionFabric.Invariants.AttemptAtomicity
import PartitionFabric.Invariants.DeviceAtomicity
import PartitionFabric.Invariants.ClosingCapacity
import PartitionFabric.Invariants.Commitment
import PartitionFabric.Invariants.LayoutReplacement
import PartitionFabric.Invariants.AssignmentGrowth
import PartitionFabric.Foundation.Framing
import PartitionFabric.Codec.PrefixFree
import PartitionFabric.Invariants.ValidityWindows
import PartitionFabric.Invariants.ProfileExclusions
import PartitionFabric.Invariants.IdleRecords
import PartitionFabric.Coordinator.Dispatching
import PartitionFabric.Coordinator.InFlight
import PartitionFabric.Invariants.TargetOrder
import PartitionFabric.Invariants.DrainFrames
import PartitionFabric.Invariants.DrainCounters
import PartitionFabric.Invariants.Scores
import PartitionFabric.Invariants.ScoreRange
import PartitionFabric.Invariants.VectorAtomicity
import PartitionFabric.Codec.Utf8
import PartitionFabric.Invariants.ExplanationOrder
import PartitionFabric.Foundation.Sticky
import PartitionFabric.Codec.Reader
import PartitionFabric.Synthetic.Backend
import PartitionFabric.Synthetic.Mutation
import PartitionFabric.Synthetic.Checkpoint
import PartitionFabric.Synthetic.Calls
import PartitionFabric.Synthetic.Tokens
import PartitionFabric.Synthetic.Capacity
import PartitionFabric.Synthetic.Restoring
import PartitionFabric.Foundation.Tickets
import PartitionFabric.Coordinator.Agent
import PartitionFabric.Coordinator.Incarnation
import PartitionFabric.Coordinator.Cluster
import PartitionFabric.Foundation.Mortal
import PartitionFabric.Foundation.Simulation
import PartitionFabric.Persistence.Files
import PartitionFabric.Persistence.Store
import PartitionFabric.Persistence.Host
import PartitionFabric.Persistence.Plant
import PartitionFabric.Transport.Channel
