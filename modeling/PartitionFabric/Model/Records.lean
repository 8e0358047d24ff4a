import PartitionFabric.Core.Lifecycle
import PartitionFabric.Model.Device

/-!
The records of the registry and the messages exchanged with a backend, each with the check it
passes before it becomes authoritative.
-/

namespace PartitionFabric

structure DeviceIdentifiers where
  vendor : Text := []
  model : Text := []
  uuid : Text := []
  pciBusId : Text := []
  hardwareId : Text := []
  firmwareVersion : Text := []
  driverVersion : Text := []
  serial : Text := []
  computeCapability : Text := []
deriving DecidableEq, Repr

structure LocalityDomain where
  name : Text := []
  numaNode : Int32 := -1
deriving DecidableEq

/-- The physical accelerator, separate from its logical partitions. -/
structure AcceleratorRecord where
  id : AcceleratorId := 0
  generation : AcceleratorGeneration := 0
  bootId : AcceleratorBootId := 0
  backend : Text := []
  identifiers : DeviceIdentifiers := {}
  physicalTotals : ResourceVector := {}
  capability : PartitionCapability := {}
  topologyGeneration : TopologyGeneration := 0
  locality : LocalityDomain := {}
  health : HealthEvidence := {}
  evidence : EvidenceStamp := {}
  provenance : EvidenceProvenance := .unknown
  unsupportedReason : Text := []
  registeredAtMs : UInt64 := 0
  updatedAtMs : UInt64 := 0
deriving DecidableEq

namespace AcceleratorRecord

def validate (record : AcceleratorRecord) (limits : Limits) : Status := do
  let tooLong (text : Text) : Bool := text.length > limits.maxMetadataBytes
  if !valid record.id then failure .invalidArgument "accelerator identity is not set"
  else if !known record.generation then
    failure .invalidArgument "accelerator generation is not set"
  else if record.backend.isEmpty then
    failure .invalidArgument "accelerator does not name a backend"
  else if tooLong record.backend then
    failure .limitExceeded "backend name is too long" record.backend
  else if record.physicalTotals.empty then
    failure .invalidArgument "accelerator does not publish physical capacity"
      (decimal record.id.toNat)
  else if [record.identifiers.vendor, record.identifiers.model, record.identifiers.uuid,
      record.identifiers.pciBusId, record.identifiers.hardwareId,
      record.identifiers.firmwareVersion, record.identifiers.driverVersion,
      record.identifiers.serial, record.identifiers.computeCapability,
      record.locality.name].any tooLong then
    failure .limitExceeded "accelerator metadata string is too long" (decimal record.id.toNat)
  else if tooLong record.unsupportedReason then
    failure .limitExceeded "unsupported reason is too long" (decimal record.id.toNat)
  else if valid record.capability.accelerator && record.capability.accelerator ≠ record.id then
    failure .invalidArgument "capability refers to a different accelerator than the record"
      (decimal record.id.toNat)
  else if known record.capability.generation then do
    record.capability.validate limits
    if record.capability.deviceGeneration ≠ record.generation then
      failure .staleGeneration "capability was published against a different device generation"
        (decimal record.id.toNat)
    else success
  else success

/-- Whether the device may be planned against at the given instant. -/
def isGovernableAt (record : AcceleratorRecord) (nowMs : UInt64) (requireFresh : Bool) : Bool :=
  if !valid record.id || !known record.generation || record.physicalTotals.empty then false
  else if !record.evidence.isObserved then false
  else if requireFresh && !record.evidence.isFreshAt nowMs then false
  else !(record.health.stamp.isObserved && record.health.usableAt nowMs &&
    record.health.state = .unhealthy)

end AcceleratorRecord

/-- Backend-native identity of a physical partition. -/
structure PartitionNativeIdentity where
  backend : Text := []
  nativeId : Text := []
  parentNativeId : Text := []
  instanceUuid : Text := []
deriving DecidableEq, Repr

def PartitionNativeIdentity.empty (identity : PartitionNativeIdentity) : Bool :=
  identity.nativeId.isEmpty

inductive AssignmentState where
  | unassigned | reserved | assigned | releasing
deriving DecidableEq, Repr

inductive DrainState where
  | notDraining | draining | drainComplete | drainBlocked
deriving DecidableEq, Repr

structure DrainProgress where
  state : DrainState := .notDraining
  outstandingAssignments : UInt32 := 0
  totalAssignments : UInt32 := 0
  startedAtMs : UInt64 := 0
  completedAtMs : UInt64 := 0
  blockedReason : Text := []
  blocker : Text := []
deriving DecidableEq, Repr

/-- Destructive mutation is safe once drain completed and nothing outstanding remains. -/
def DrainProgress.destructiveSafe (drain : DrainProgress) : Bool :=
  drain.state = .drainComplete && drain.outstandingAssignments = 0

/-- A logical partition identity with exactly one current generation. -/
structure PartitionRecord where
  id : PartitionId := 0
  generation : PartitionGeneration := 0
  profile : PartitionProfileId := 0
  profileGeneration : PartitionProfileGeneration := 0
  mechanism : PartitionMechanism := .none
  accelerator : AcceleratorId := 0
  acceleratorGeneration : AcceleratorGeneration := 0
  acceleratorBoot : AcceleratorBootId := 0
  resources : ResourceVector := {}
  state : PartitionState := .discovered
  nativeIdentity : PartitionNativeIdentity := {}
  isolation : IsolationDomain := {}
  heldBucket : Option CapacityBucket := none
  assignmentState : AssignmentState := .unassigned
  drain : DrainProgress := {}
  reservation : PartitionReservationId := 0
  lastAttempt : PartitionAttemptId := 0
  supersededGenerations : List PartitionGeneration := []
  evidence : EvidenceStamp := {}
  provenance : EvidenceProvenance := .unknown
  createdAtMs : UInt64 := 0
  lastTransitionAtMs : UInt64 := 0
  lastTransitionReason : Text := []
  externallyObserved : Bool := false
deriving DecidableEq

namespace PartitionRecord

/-- The superseded generations are known, older than the current one and distinct. -/
def checkSuperseded (record : PartitionRecord) : Status :=
  record.supersededGenerations.forM (fun previous ↦
    if !known previous then
      failure .corruptState "superseded generation is invalid" (decimal record.id.toNat)
    else if previous ≥ record.generation then
      failure .corruptState "a superseded generation is not older than the current generation"
        (decimal record.id.toNat)
    else success) >>= fun _ ↦
  if record.supersededGenerations.Nodup then success
  else failure .corruptState "duplicate superseded generation" (decimal record.id.toNat)

/-- The named bucket agrees with the lifecycle state. -/
def checkBucket (record : PartitionRecord) : Status :=
  match record.heldBucket with
  | some bucket =>
    if bucket = .unavailable || bucket = .free then
      failure .corruptState "partition names an impossible capacity bucket"
        (decimal record.id.toNat)
    else if !holdsCapacity record.state then
      failure .corruptState "partition holds capacity in a state that cannot own it"
        (decimal record.id.toNat)
    else success
  | none =>
    if holdsCapacity record.state && record.state ≠ .revalidationRequired then
      failure .corruptState "partition is in a capacity-holding state without naming its bucket"
        (decimal record.id.toNat)
    else success

/-- The recorded drain progress agrees with the lifecycle state. -/
def checkDrain (record : PartitionRecord) : Status :=
  if record.drain.state = .draining && record.state ≠ .draining then
    failure .corruptState "drain is in progress while the partition is not draining"
      (decimal record.id.toNat)
  else if record.drain.state = .drainComplete && record.drain.completedAtMs = 0 then
    failure .corruptState "drain completed without recording when it completed"
      (decimal record.id.toNat)
  else if record.drain.outstandingAssignments > record.drain.totalAssignments then
    failure .corruptState "drain outstanding assignments exceed the total"
      (decimal record.id.toNat)
  else if record.drain.state = .drainComplete && record.drain.outstandingAssignments ≠ 0 then
    failure .corruptState "drain is complete while assignments remain outstanding"
      (decimal record.id.toNat)
  else if record.drain.outstandingAssignments > 0 && record.state ≠ .draining &&
      !allowsNewAssignment record.state then
    failure .corruptState "outstanding drain work is recorded on a partition that cannot drain"
      (decimal record.id.toNat)
  else success

def validate (record : PartitionRecord) : Status := do
  if !valid record.id then failure .invalidArgument "partition identity is not set"
  else if !known record.generation then
    failure .invalidArgument "partition generation is not set"
  else if !valid record.accelerator then
    failure .invalidArgument "partition does not name an accelerator" (decimal record.id.toNat)
  else if !known record.acceleratorGeneration then
    failure .invalidArgument "partition does not bind an accelerator generation"
      (decimal record.id.toNat)
  else if !valid record.profile then
    failure .invalidArgument "partition does not name a profile" (decimal record.id.toNat)
  else if record.resources.empty then
    failure .invalidArgument "partition owns no resource" (decimal record.id.toNat)
  else do
    record.checkSuperseded
    record.checkBucket
    record.checkDrain

end PartitionRecord

/-- Authority for a workload to occupy a partition. -/
structure PartitionAssignment where
  id : PartitionAssignmentId := 0
  partition : PartitionId := 0
  partitionGeneration : PartitionGeneration := 0
  accelerator : AcceleratorId := 0
  acceleratorGeneration : AcceleratorGeneration := 0
  workloadId : Text := []
  tenantId : Text := []
  isolation : IsolationRequirement := {}
  policyGeneration : PolicyGeneration := 0
  coordinatorEpoch : CoordinatorEpoch := 0
  evidenceGeneration : EvidenceGeneration := 0
  exclusive : Bool := false
  boundAtMs : UInt64 := 0
  lastValidatedAtMs : UInt64 := 0
deriving DecidableEq, Repr

def PartitionAssignment.validate (assignment : PartitionAssignment) : Status :=
  if !valid assignment.id then failure .invalidArgument "assignment identity is not set"
  else if !valid assignment.partition || !known assignment.partitionGeneration then
    failure .invalidArgument "assignment does not bind a partition generation"
  else if !valid assignment.accelerator || !known assignment.acceleratorGeneration then
    failure .invalidArgument "assignment does not bind an accelerator generation"
  else if assignment.workloadId.isEmpty then
    failure .invalidArgument "assignment does not name a workload"
  else success

inductive ReservationLifecycle where
  | pending | active | committed | released | rolledBack | expired | fenced | failed
deriving DecidableEq, Repr

def reservationHoldsCapacity (value : ReservationLifecycle) : Bool :=
  value = .pending || value = .active

def reservationIsTerminal : ReservationLifecycle → Bool
  | .committed | .released | .rolledBack | .expired | .fenced | .failed => true
  | _ => false

/-- A reservation binds every piece of authority it was derived from. -/
structure PartitionReservation where
  id : PartitionReservationId := 0
  plan : PartitionPlanId := 0
  planGeneration : PartitionPlanGeneration := 0
  accelerator : AcceleratorId := 0
  acceleratorGeneration : AcceleratorGeneration := 0
  acceleratorBoot : AcceleratorBootId := 0
  capabilityGeneration : CapabilityGeneration := 0
  topologyGeneration : TopologyGeneration := 0
  policyGeneration : PolicyGeneration := 0
  coordinatorEpoch : CoordinatorEpoch := 0
  worker : WorkerId := 0
  workerBoot : WorkerBootId := 0
  lifecycle : ReservationLifecycle := .pending
  partitions : List PartitionId := []
  partitionGenerations : List PartitionGeneration := []
  resources : ResourceVector := {}
  attempt : PartitionAttemptId := 0
  plannedMutations : UInt32 := 0
  destructive : Bool := false
  createdAtMs : UInt64 := 0
  updatedAtMs : UInt64 := 0
  expiresAtMs : UInt64 := 0
  rollbackCount : UInt32 := 0
  reason : Text := []
deriving DecidableEq

def PartitionReservation.holdsCapacity (r : PartitionReservation) : Bool :=
  reservationHoldsCapacity r.lifecycle

def PartitionReservation.validate (r : PartitionReservation) : Status :=
  if !valid r.id then failure .invalidArgument "reservation identity is not set"
  else if !valid r.plan || !known r.planGeneration then
    failure .invalidArgument "reservation does not bind a plan generation"
  else if !valid r.accelerator || !known r.acceleratorGeneration then
    failure .invalidArgument "reservation does not bind an accelerator generation"
  else if !known r.capabilityGeneration then
    failure .invalidArgument "reservation does not bind a capability generation"
  else if !known r.policyGeneration then
    failure .invalidArgument "reservation does not bind a policy generation"
  else if r.partitions.length ≠ r.partitionGenerations.length then
    failure .corruptState "reservation partition identities and generations disagree"
  -- a destructive reservation may need no additional capacity at all
  else if r.resources.empty && reservationHoldsCapacity r.lifecycle && !r.destructive then
    failure .invalidArgument "reservation holds no resource"
  else success

inductive AttemptKind where
  | createPartition | destroyPartition | reconfigureLayout
deriving DecidableEq, Repr

def AttemptKind.toText : AttemptKind → Text
  | .createPartition => "CREATE_PARTITION"
  | .destroyPartition => "DESTROY_PARTITION"
  | .reconfigureLayout => "RECONFIGURE_LAYOUT"

inductive AttemptState where
  | registered | dispatched | succeeded | failed | outcomeUnknown | reconciled
deriving DecidableEq, Repr

def AttemptState.toText : AttemptState → Text
  | .registered => "REGISTERED"
  | .dispatched => "DISPATCHED"
  | .succeeded => "SUCCEEDED"
  | .failed => "FAILED"
  | .outcomeUnknown => "OUTCOME_UNKNOWN"
  | .reconciled => "RECONCILED"

def attemptSettled : AttemptState → Bool
  | .succeeded | .failed | .reconciled => true
  | _ => false

/-- One partition a plan intends to own. -/
structure PlannedPartition where
  profile : PartitionProfileId := 0
  profileGeneration : PartitionProfileGeneration := 0
  resources : ResourceVector := {}
  ordinal : UInt32 := 0
  vendorNativeProfile : Text := []
deriving DecidableEq

/-- A physical mutation attempt, registered before dispatch. -/
structure PartitionAttempt where
  id : PartitionAttemptId := 0
  kind : AttemptKind := .createPartition
  reservation : PartitionReservationId := 0
  accelerator : AcceleratorId := 0
  acceleratorGeneration : AcceleratorGeneration := 0
  acceleratorBoot : AcceleratorBootId := 0
  capabilityGeneration : CapabilityGeneration := 0
  coordinatorEpoch : CoordinatorEpoch := 0
  worker : WorkerId := 0
  workerBoot : WorkerBootId := 0
  partitions : List PartitionId := []
  desired : List PlannedPartition := []
  state : AttemptState := .registered
  token : UInt64 := 0
  registeredAtMs : UInt64 := 0
  dispatchedAtMs : UInt64 := 0
  settledAtMs : UInt64 := 0
  detail : Text := []
  observedNativeLayoutDigest : Text := []
deriving DecidableEq

def PartitionAttempt.validate (attempt : PartitionAttempt) : Status :=
  if !valid attempt.id then failure .invalidArgument "attempt identity is not set"
  else if !valid attempt.reservation then
    failure .invalidArgument "attempt does not bind a reservation"
  else if attempt.state = .dispatched && attempt.dispatchedAtMs = 0 then
    failure .corruptState "attempt is dispatched but carries no dispatch time"
  else if attemptSettled attempt.state && attempt.settledAtMs = 0 then
    failure .corruptState "attempt is settled but carries no settle time"
  else success

end PartitionFabric
