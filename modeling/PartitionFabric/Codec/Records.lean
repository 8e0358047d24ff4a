import PartitionFabric.Codec.Stream
import PartitionFabric.Model.State

/-!
The encoders and decoders of the registry's records, field by field in the order of the source.
-/

namespace PartitionFabric

def EvidenceProvenance.all : List EvidenceProvenance := [.unknown, .real, .synthetic, .unsupported]

def HealthState.all : List HealthState :=
  [.unknown, .healthy, .degraded, .unhealthy, .recovering]

def PartitionMechanism.all : List PartitionMechanism :=
  [.none, .mig, .srIov, .mediatedDevice, .vendorSlice, .synthetic]

def EngineGrouping.all : List EngineGrouping := [.none, .shared, .dedicated]

def PartitionSupportState.all : List PartitionSupportState :=
  [.unknown, .supported, .unsupported, .unavailable]

def PartitionState.all : List PartitionState :=
  [.discovered, .unpartitioned, .planPending, .reserved, .creating, .active, .draining,
    .reconfigurationRequired, .destroying, .revalidationRequired, .degraded, .offline, .retired,
    .failed]

def AssignmentState.all : List AssignmentState := [.unassigned, .reserved, .assigned, .releasing]

def DrainState.all : List DrainState := [.notDraining, .draining, .drainComplete, .drainBlocked]

def ReservationLifecycle.all : List ReservationLifecycle :=
  [.pending, .active, .committed, .released, .rolledBack, .expired, .fenced, .failed]

def AttemptKind.all : List AttemptKind := [.createPartition, .destroyPartition, .reconfigureLayout]

def AttemptState.all : List AttemptState :=
  [.registered, .dispatched, .succeeded, .failed, .outcomeUnknown, .reconciled]

namespace Write

/-- A text field of the common bound. -/
def small (value : Text) : Script := text value ByteWriter.small

end Write

namespace Read

def small : ReadM Text := text ByteWriter.small

end Read

def ResourceVector.encode (value : ResourceVector) : Script :=
  List.flatten
    [Write.u32 value.mask, ResourceDimension.all.flatMap fun d ↦ Write.u64 (value.values d)]

/-- The vector with given raw entries. -/
def ResourceVector.ofRaw (mask : UInt32) (raw : List UInt64) : ResourceVector where
  values d := raw.getD d.index 0
  mask := mask

def decodeResources : ReadM ResourceVector := do
  let mask ← Read.u32
  let raw ← Wire.readTimes Read.u64 8
  Procedure.lift (ResourceVector.ofRaw mask raw).validateDimensions
  pure (ResourceVector.ofRaw mask raw)

def EvidenceStamp.encode (value : EvidenceStamp) : Script :=
  List.flatten
    [Write.u64 value.generation,
      Write.enum EvidenceProvenance.all value.provenance,
      Write.u64 value.observedAtMs,
      Write.u64 value.ttlMs,
      Write.small value.source,
      Write.boolean value.observed]

def decodeEvidence : ReadM EvidenceStamp := do
  let generation ← Read.u64
  let provenance ← Read.enum EvidenceProvenance.all "evidence provenance"
  let observedAtMs ← Read.u64
  let ttlMs ← Read.u64
  let source ← Read.small
  let observed ← Read.boolean
  pure { generation, provenance, observedAtMs, ttlMs, source, observed }

def IsolationSet.encode (value : IsolationSet) : Script := Write.u32 value.mask

def decodeIsolation : ReadM IsolationSet := do
  let mask ← Read.u32
  Procedure.require (mask >>> 8 == 0)
    (makeError .protocolViolation "isolation mask carries undefined properties")
  pure { mask }

def ProfileAlignment.encode (value : ProfileAlignment) : Script :=
  List.flatten
    [Write.u32 value.computeSliceMultiple,
      Write.u32 value.memorySliceMultiple,
      Write.boolean value.requiresContiguousSlices,
      Write.boolean value.requiresAtomicSlice]

def decodeProfileAlignment : ReadM ProfileAlignment := do
  let computeSliceMultiple ← Read.u32
  let memorySliceMultiple ← Read.u32
  let requiresContiguousSlices ← Read.boolean
  let requiresAtomicSlice ← Read.boolean
  pure { computeSliceMultiple, memorySliceMultiple, requiresContiguousSlices, requiresAtomicSlice }

def PartitionProfile.encode (value : PartitionProfile) : Script :=
  List.flatten
    [Write.u64 value.id,
      Write.u64 value.generation,
      Write.small value.name,
      Write.small value.vendorNative,
      Write.small value.backend,
      Write.enum PartitionMechanism.all value.mechanism,
      value.resources.encode,
      Write.u32 value.computeSliceCount,
      Write.u32 value.memorySliceCount,
      Write.enum EngineGrouping.all value.engineGrouping,
      Write.u32 value.maxMultiplicity,
      value.alignment.encode,
      Write.list Write.u64 value.mutuallyExclusiveWith,
      Write.boolean value.requiresFullDeviceReconfiguration,
      Write.boolean value.liveRepartitioningSupported,
      Write.list Write.small value.backendRequirements,
      Write.small value.description]

def decodeProfile : ReadM PartitionProfile := do
  let id ← Read.u64
  let generation ← Read.u64
  let name ← Read.small
  let vendorNative ← Read.small
  let backend ← Read.small
  let mechanism ← Read.enum PartitionMechanism.all "partition mechanism"
  let resources ← decodeResources
  let computeSliceCount ← Read.u32
  let memorySliceCount ← Read.u32
  let engineGrouping ← Read.enum EngineGrouping.all "engine grouping"
  let maxMultiplicity ← Read.u32
  let alignment ← decodeProfileAlignment
  let mutuallyExclusiveWith ← Read.list 64 8 Read.u64
  let requiresFullDeviceReconfiguration ← Read.boolean
  let liveRepartitioningSupported ← Read.boolean
  let backendRequirements ← Read.list 64 4 Read.small
  let description ← Read.small
  pure {
    id, generation, name, vendorNative, backend, mechanism, resources, computeSliceCount,
    memorySliceCount, engineGrouping, maxMultiplicity, alignment, mutuallyExclusiveWith,
    requiresFullDeviceReconfiguration, liveRepartitioningSupported, backendRequirements,
    description }

def ProfileCombinationRule.encode (value : ProfileCombinationRule) : Script :=
  List.flatten
    [Write.u64 value.profile,
      Write.u32 value.maxInstances,
      Write.list Write.u64 value.incompatibleWith,
      Write.boolean value.requiresExclusiveDevice]

def decodeCombinationRule : ReadM ProfileCombinationRule := do
  let profile ← Read.u64
  let maxInstances ← Read.u32
  let incompatibleWith ← Read.list 64 8 Read.u64
  let requiresExclusiveDevice ← Read.boolean
  pure { profile, maxInstances, incompatibleWith, requiresExclusiveDevice }

def decodeDimension : ReadM ResourceDimension :=
  Read.enum ResourceDimension.all "resource dimension"

def PartitionCapability.encode (value : PartitionCapability) : Script :=
  List.flatten
    [Write.u64 value.accelerator,
      Write.u64 value.deviceGeneration,
      Write.u64 value.generation,
      Write.u64 value.topologyGeneration,
      Write.enum PartitionSupportState.all value.support,
      Write.enum PartitionMechanism.all value.mechanism,
      Write.small value.mechanismName,
      Write.list Write.u64 value.supportedProfiles,
      Write.list ProfileCombinationRule.encode value.combinationRules,
      Write.u32 value.maxPartitionCount,
      Write.boolean value.requiresResetForReconfiguration,
      Write.boolean value.liveReconfigurationSupported,
      value.isolation.encode,
      Write.list (Write.enum ResourceDimension.all) value.exposedDimensions,
      value.minimumAllocation.encode,
      Write.u32 value.sliceGranularity,
      Write.u32 value.totalComputeSlices,
      Write.u32 value.totalMemorySlices,
      Write.u64 value.drainEstimateMs,
      Write.u64 value.reconfigurationEstimateMs,
      Write.small value.backendName,
      Write.small value.backendVersion,
      Write.small value.driverVersion,
      Write.small value.toolingRequirement,
      value.evidence.encode,
      Write.small value.unsupportedReason]

def decodeCapability : ReadM PartitionCapability := do
  let accelerator ← Read.u64
  let deviceGeneration ← Read.u64
  let generation ← Read.u64
  let topologyGeneration ← Read.u64
  let support ← Read.enum PartitionSupportState.all "partition support state"
  let mechanism ← Read.enum PartitionMechanism.all "partition mechanism"
  let mechanismName ← Read.small
  let supportedProfiles ← Read.list 512 8 Read.u64
  let combinationRules ← Read.list 512 4 decodeCombinationRule
  let maxPartitionCount ← Read.u32
  let requiresResetForReconfiguration ← Read.boolean
  let liveReconfigurationSupported ← Read.boolean
  let isolation ← decodeIsolation
  let exposedDimensions ← Read.list 8 1 decodeDimension
  let minimumAllocation ← decodeResources
  let sliceGranularity ← Read.u32
  let totalComputeSlices ← Read.u32
  let totalMemorySlices ← Read.u32
  let drainEstimateMs ← Read.u64
  let reconfigurationEstimateMs ← Read.u64
  let backendName ← Read.small
  let backendVersion ← Read.small
  let driverVersion ← Read.small
  let toolingRequirement ← Read.small
  let evidence ← decodeEvidence
  let unsupportedReason ← Read.small
  pure {
    accelerator, deviceGeneration, generation, topologyGeneration, support, mechanism,
    mechanismName, supportedProfiles, combinationRules, maxPartitionCount,
    requiresResetForReconfiguration, liveReconfigurationSupported, isolation, exposedDimensions,
    minimumAllocation, sliceGranularity, totalComputeSlices, totalMemorySlices, drainEstimateMs,
    reconfigurationEstimateMs, backendName, backendVersion, driverVersion, toolingRequirement,
    evidence, unsupportedReason }

def DeviceIdentifiers.encode (value : DeviceIdentifiers) : Script :=
  List.flatten
    [Write.small value.vendor,
      Write.small value.model,
      Write.small value.uuid,
      Write.small value.pciBusId,
      Write.small value.hardwareId,
      Write.small value.firmwareVersion,
      Write.small value.driverVersion,
      Write.small value.serial,
      Write.small value.computeCapability]

def decodeIdentifiers : ReadM DeviceIdentifiers := do
  let vendor ← Read.small
  let model ← Read.small
  let uuid ← Read.small
  let pciBusId ← Read.small
  let hardwareId ← Read.small
  let firmwareVersion ← Read.small
  let driverVersion ← Read.small
  let serial ← Read.small
  let computeCapability ← Read.small
  pure {
    vendor, model, uuid, pciBusId, hardwareId, firmwareVersion, driverVersion, serial,
    computeCapability }

def LocalityDomain.encode (value : LocalityDomain) : Script :=
  List.flatten [Write.small value.name, Write.i64 value.numaNode.toInt]

def decodeLocality : ReadM LocalityDomain := do
  let name ← Read.small
  let numaNode ← Read.i64
  pure { name, numaNode := Int32.ofInt numaNode }

def HealthEvidence.encode (value : HealthEvidence) : Script :=
  List.flatten
    [Write.enum HealthState.all value.state, value.stamp.encode, Write.small value.source]

def decodeHealth : ReadM HealthEvidence := do
  let state ← Read.enum HealthState.all "health state"
  let stamp ← decodeEvidence
  let source ← Read.small
  pure { state, stamp, source }

def AcceleratorRecord.encode (value : AcceleratorRecord) : Script :=
  List.flatten
    [Write.u64 value.id,
      Write.u64 value.generation,
      Write.u64 value.bootId,
      Write.small value.backend,
      value.identifiers.encode,
      value.physicalTotals.encode,
      value.capability.encode,
      Write.u64 value.topologyGeneration,
      value.locality.encode,
      value.health.encode,
      value.evidence.encode,
      Write.enum EvidenceProvenance.all value.provenance,
      Write.small value.unsupportedReason,
      Write.u64 value.registeredAtMs,
      Write.u64 value.updatedAtMs]

def decodeAccelerator : ReadM AcceleratorRecord := do
  let id ← Read.u64
  let generation ← Read.u64
  let bootId ← Read.u64
  let backend ← Read.small
  let identifiers ← decodeIdentifiers
  let physicalTotals ← decodeResources
  let capability ← decodeCapability
  let topologyGeneration ← Read.u64
  let locality ← decodeLocality
  let health ← decodeHealth
  let evidence ← decodeEvidence
  let provenance ← Read.enum EvidenceProvenance.all "evidence provenance"
  let unsupportedReason ← Read.small
  let registeredAtMs ← Read.u64
  let updatedAtMs ← Read.u64
  pure {
    id, generation, bootId, backend, identifiers, physicalTotals, capability, topologyGeneration,
    locality, health, evidence, provenance, unsupportedReason, registeredAtMs, updatedAtMs }

def PartitionNativeIdentity.encode (value : PartitionNativeIdentity) : Script :=
  List.flatten
    [Write.small value.backend,
      Write.small value.nativeId,
      Write.small value.parentNativeId,
      Write.small value.instanceUuid]

def decodeNativeIdentity : ReadM PartitionNativeIdentity := do
  let backend ← Read.small
  let nativeId ← Read.small
  let parentNativeId ← Read.small
  let instanceUuid ← Read.small
  pure { backend, nativeId, parentNativeId, instanceUuid }

def IsolationDomain.encode (value : IsolationDomain) : Script :=
  List.flatten
    [Write.small value.name, value.guarantees.encode, Write.boolean value.backendDefined]

def decodeIsolationDomain : ReadM IsolationDomain := do
  let name ← Read.small
  let guarantees ← decodeIsolation
  let backendDefined ← Read.boolean
  pure { name, guarantees, backendDefined }

def DrainProgress.encode (value : DrainProgress) : Script :=
  List.flatten
    [Write.enum DrainState.all value.state,
      Write.u32 value.outstandingAssignments,
      Write.u32 value.totalAssignments,
      Write.u64 value.startedAtMs,
      Write.u64 value.completedAtMs,
      Write.small value.blockedReason,
      Write.small value.blocker]

def decodeDrain : ReadM DrainProgress := do
  let state ← Read.enum DrainState.all "drain state"
  let outstandingAssignments ← Read.u32
  let totalAssignments ← Read.u32
  let startedAtMs ← Read.u64
  let completedAtMs ← Read.u64
  let blockedReason ← Read.small
  let blocker ← Read.small
  pure {
    state, outstandingAssignments, totalAssignments, startedAtMs, completedAtMs, blockedReason,
    blocker }

/-- No bucket is written as a value that names none. -/
def encodeHeldBucket (value : Option CapacityBucket) : Script :=
  Write.u8 (match value with
    | some bucket => bucket.raw
    | none => 0xFF)

def decodeHeldBucket : ReadM (Option CapacityBucket) := do
  let raw ← Read.u8
  if raw = 0xFF then pure none
  else match CapacityBucket.ofRaw? raw with
    | some bucket => pure (some bucket)
    | none => Procedure.throw (makeError .protocolViolation "invalid capacity bucket value"
        (decimal raw.toNat))

def PartitionRecord.encode (value : PartitionRecord) : Script :=
  List.flatten
    [Write.u64 value.id,
      Write.u64 value.generation,
      Write.u64 value.profile,
      Write.u64 value.profileGeneration,
      Write.enum PartitionMechanism.all value.mechanism,
      Write.u64 value.accelerator,
      Write.u64 value.acceleratorGeneration,
      Write.u64 value.acceleratorBoot,
      value.resources.encode,
      Write.enum PartitionState.all value.state,
      value.nativeIdentity.encode,
      value.isolation.encode,
      encodeHeldBucket value.heldBucket,
      Write.enum AssignmentState.all value.assignmentState,
      value.drain.encode,
      Write.u64 value.reservation,
      Write.u64 value.lastAttempt,
      Write.list Write.u64 value.supersededGenerations,
      value.evidence.encode,
      Write.enum EvidenceProvenance.all value.provenance,
      Write.u64 value.createdAtMs,
      Write.u64 value.lastTransitionAtMs,
      Write.small value.lastTransitionReason,
      Write.boolean value.externallyObserved]

def decodePartition : ReadM PartitionRecord := do
  let id ← Read.u64
  let generation ← Read.u64
  let profile ← Read.u64
  let profileGeneration ← Read.u64
  let mechanism ← Read.enum PartitionMechanism.all "partition mechanism"
  let accelerator ← Read.u64
  let acceleratorGeneration ← Read.u64
  let acceleratorBoot ← Read.u64
  let resources ← decodeResources
  let state ← Read.enum PartitionState.all "partition state"
  let nativeIdentity ← decodeNativeIdentity
  let isolation ← decodeIsolationDomain
  let heldBucket ← decodeHeldBucket
  let assignmentState ← Read.enum AssignmentState.all "assignment state"
  let drain ← decodeDrain
  let reservation ← Read.u64
  let lastAttempt ← Read.u64
  let supersededGenerations ← Read.list 64 8 Read.u64
  let evidence ← decodeEvidence
  let provenance ← Read.enum EvidenceProvenance.all "evidence provenance"
  let createdAtMs ← Read.u64
  let lastTransitionAtMs ← Read.u64
  let lastTransitionReason ← Read.small
  let externallyObserved ← Read.boolean
  pure {
    id, generation, profile, profileGeneration, mechanism, accelerator, acceleratorGeneration,
    acceleratorBoot, resources, state, nativeIdentity, isolation, heldBucket, assignmentState,
    drain, reservation, lastAttempt, supersededGenerations, evidence, provenance, createdAtMs,
    lastTransitionAtMs, lastTransitionReason, externallyObserved }

def IsolationRequirement.encode (value : IsolationRequirement) : Script :=
  List.flatten
    [value.required.encode, Write.u64 value.policy, Write.u64 value.policyGeneration]

def decodeIsolationRequirement : ReadM IsolationRequirement := do
  let required ← decodeIsolation
  let policy ← Read.u64
  let policyGeneration ← Read.u64
  pure { required, policy, policyGeneration }

def PartitionAssignment.encode (value : PartitionAssignment) : Script :=
  List.flatten
    [Write.u64 value.id,
      Write.u64 value.partition,
      Write.u64 value.partitionGeneration,
      Write.u64 value.accelerator,
      Write.u64 value.acceleratorGeneration,
      Write.small value.workloadId,
      Write.small value.tenantId,
      value.isolation.encode,
      Write.u64 value.policyGeneration,
      Write.u64 value.coordinatorEpoch,
      Write.u64 value.evidenceGeneration,
      Write.boolean value.exclusive,
      Write.u64 value.boundAtMs,
      Write.u64 value.lastValidatedAtMs]

def decodeAssignment : ReadM PartitionAssignment := do
  let id ← Read.u64
  let partition ← Read.u64
  let partitionGeneration ← Read.u64
  let accelerator ← Read.u64
  let acceleratorGeneration ← Read.u64
  let workloadId ← Read.small
  let tenantId ← Read.small
  let isolation ← decodeIsolationRequirement
  let policyGeneration ← Read.u64
  let coordinatorEpoch ← Read.u64
  let evidenceGeneration ← Read.u64
  let exclusive ← Read.boolean
  let boundAtMs ← Read.u64
  let lastValidatedAtMs ← Read.u64
  pure {
    id, partition, partitionGeneration, accelerator, acceleratorGeneration, workloadId, tenantId,
    isolation, policyGeneration, coordinatorEpoch, evidenceGeneration, exclusive, boundAtMs,
    lastValidatedAtMs }

def CapacityLedger.encode (value : CapacityLedger) : Script :=
  List.flatten
    [value.total.encode, CapacityBucket.all.flatMap fun b ↦ (value.buckets b).encode]

/-- The ledger with freshly established totals and the given buckets, each of which was validated
when it was decoded. -/
def CapacityLedger.ofRaw (total : ResourceVector) (raw : List ResourceVector) :
    CapacityLedger :=
  let ledger := (CapacityLedger.initializeTotals total {}).1
  if h : ∀ b : CapacityBucket, (raw.getD b.raw.toNat {}).validateDimensions = success then
    { ledger with buckets := fun b ↦ raw.getD b.raw.toNat {}, validBuckets := h }
  else ledger

/-- The totals are established afresh before the encoded buckets are restored. -/
def decodeLedger : ReadM CapacityLedger := do
  let total ← decodeResources
  let raw ← Wire.readTimes decodeResources 6
  Procedure.lift (CapacityLedger.initializeTotals total {}).2
  Procedure.require (raw.all fun bucket ↦ bucket.mask == total.mask)
    (makeError .corruptState "ledger bucket does not carry the device dimension set")
  Procedure.lift (CapacityLedger.ofRaw total raw).validate
  pure (CapacityLedger.ofRaw total raw)

def PlanningWeights.encode (value : PlanningWeights) : Script :=
  List.flatten
    [Write.i64 value.fragmentation,
      Write.i64 value.capacityWaste,
      Write.i64 value.destructiveReconfiguration,
      Write.i64 value.drain,
      Write.i64 value.mutationCount,
      Write.i64 value.health,
      Write.i64 value.locality,
      Write.i64 value.futureOptionality,
      Write.i64 value.contiguityPreservation,
      Write.i64 value.reconfigurationCost,
      Write.i64 value.liveReconfigurationBonus]

def decodeWeights : ReadM PlanningWeights := do
  let fragmentation ← Read.i64
  let capacityWaste ← Read.i64
  let destructiveReconfiguration ← Read.i64
  let drain ← Read.i64
  let mutationCount ← Read.i64
  let health ← Read.i64
  let locality ← Read.i64
  let futureOptionality ← Read.i64
  let contiguityPreservation ← Read.i64
  let reconfigurationCost ← Read.i64
  let liveReconfigurationBonus ← Read.i64
  pure {
    fragmentation, capacityWaste, destructiveReconfiguration, drain, mutationCount, health,
    locality, futureOptionality, contiguityPreservation, reconfigurationCost,
    liveReconfigurationBonus }

def PlanningPolicy.encode (value : PlanningPolicy) : Script :=
  List.flatten
    [Write.u64 value.generation,
      Write.small value.name,
      value.weights.encode,
      Write.boolean value.allowDestructiveReconfiguration,
      Write.boolean value.allowDrain,
      Write.u64 value.maxReconfigurationDowntimeMs,
      Write.boolean value.requireFreshEvidence,
      Write.u64 value.maxEvidenceAgeMs,
      Write.boolean value.requireHealthyDevice,
      Write.boolean value.allowDegradedDevice,
      Write.boolean value.allowExternalAdoption,
      Write.boolean value.exclusiveByDefault,
      Write.u32 value.maxPartitionMutationsPerPlan,
      Write.boolean value.preferLiveReconfiguration,
      value.minimumIsolation.encode,
      Write.list (Write.enum ResourceDimension.all) value.protectedDimensions,
      Write.u32 value.maxInstancesPerProfile]

def decodePolicy : ReadM PlanningPolicy := do
  let generation ← Read.u64
  let name ← Read.small
  let weights ← decodeWeights
  let allowDestructiveReconfiguration ← Read.boolean
  let allowDrain ← Read.boolean
  let maxReconfigurationDowntimeMs ← Read.u64
  let requireFreshEvidence ← Read.boolean
  let maxEvidenceAgeMs ← Read.u64
  let requireHealthyDevice ← Read.boolean
  let allowDegradedDevice ← Read.boolean
  let allowExternalAdoption ← Read.boolean
  let exclusiveByDefault ← Read.boolean
  let maxPartitionMutationsPerPlan ← Read.u32
  let preferLiveReconfiguration ← Read.boolean
  let minimumIsolation ← decodeIsolationRequirement
  let protectedDimensions ← Read.list 8 1 decodeDimension
  let maxInstancesPerProfile ← Read.u32
  pure {
    generation, name, weights, allowDestructiveReconfiguration, allowDrain,
    maxReconfigurationDowntimeMs, requireFreshEvidence, maxEvidenceAgeMs, requireHealthyDevice,
    allowDegradedDevice, allowExternalAdoption, exclusiveByDefault, maxPartitionMutationsPerPlan,
    preferLiveReconfiguration, minimumIsolation, protectedDimensions, maxInstancesPerProfile }

def PartitionReservation.encode (value : PartitionReservation) : Script :=
  List.flatten
    [Write.u64 value.id,
      Write.u64 value.plan,
      Write.u64 value.planGeneration,
      Write.u64 value.accelerator,
      Write.u64 value.acceleratorGeneration,
      Write.u64 value.acceleratorBoot,
      Write.u64 value.capabilityGeneration,
      Write.u64 value.topologyGeneration,
      Write.u64 value.policyGeneration,
      Write.u64 value.coordinatorEpoch,
      Write.u64 value.worker,
      Write.u64 value.workerBoot,
      Write.enum ReservationLifecycle.all value.lifecycle,
      Write.list Write.u64 value.partitions,
      Write.list Write.u64 value.partitionGenerations,
      value.resources.encode,
      Write.u64 value.attempt,
      Write.u32 value.plannedMutations,
      Write.boolean value.destructive,
      Write.u64 value.createdAtMs,
      Write.u64 value.updatedAtMs,
      Write.u64 value.expiresAtMs,
      Write.u32 value.rollbackCount,
      Write.small value.reason]

def decodeReservation : ReadM PartitionReservation := do
  let id ← Read.u64
  let plan ← Read.u64
  let planGeneration ← Read.u64
  let accelerator ← Read.u64
  let acceleratorGeneration ← Read.u64
  let acceleratorBoot ← Read.u64
  let capabilityGeneration ← Read.u64
  let topologyGeneration ← Read.u64
  let policyGeneration ← Read.u64
  let coordinatorEpoch ← Read.u64
  let worker ← Read.u64
  let workerBoot ← Read.u64
  let lifecycle ← Read.enum ReservationLifecycle.all "reservation lifecycle"
  let partitions ← Read.list 256 8 Read.u64
  let partitionGenerations ← Read.list 256 8 Read.u64
  let resources ← decodeResources
  let attempt ← Read.u64
  let plannedMutations ← Read.u32
  let destructive ← Read.boolean
  let createdAtMs ← Read.u64
  let updatedAtMs ← Read.u64
  let expiresAtMs ← Read.u64
  let rollbackCount ← Read.u32
  let reason ← Read.small
  pure {
    id, plan, planGeneration, accelerator, acceleratorGeneration, acceleratorBoot,
    capabilityGeneration, topologyGeneration, policyGeneration, coordinatorEpoch, worker,
    workerBoot, lifecycle, partitions, partitionGenerations, resources, attempt, plannedMutations,
    destructive, createdAtMs, updatedAtMs, expiresAtMs, rollbackCount, reason }

def PlannedPartition.encode (value : PlannedPartition) : Script :=
  List.flatten
    [Write.u64 value.profile,
      Write.u64 value.profileGeneration,
      value.resources.encode,
      Write.u32 value.ordinal,
      Write.small value.vendorNativeProfile]

def decodePlannedPartition : ReadM PlannedPartition := do
  let profile ← Read.u64
  let profileGeneration ← Read.u64
  let resources ← decodeResources
  let ordinal ← Read.u32
  let vendorNativeProfile ← Read.small
  pure { profile, profileGeneration, resources, ordinal, vendorNativeProfile }

def PartitionAttempt.encode (value : PartitionAttempt) : Script :=
  List.flatten
    [Write.u64 value.id,
      Write.enum AttemptKind.all value.kind,
      Write.u64 value.reservation,
      Write.u64 value.accelerator,
      Write.u64 value.acceleratorGeneration,
      Write.u64 value.acceleratorBoot,
      Write.u64 value.capabilityGeneration,
      Write.u64 value.coordinatorEpoch,
      Write.u64 value.worker,
      Write.u64 value.workerBoot,
      Write.list Write.u64 value.partitions,
      Write.list PlannedPartition.encode value.desired,
      Write.enum AttemptState.all value.state,
      Write.u64 value.token,
      Write.u64 value.registeredAtMs,
      Write.u64 value.dispatchedAtMs,
      Write.u64 value.settledAtMs,
      Write.small value.detail,
      Write.small value.observedNativeLayoutDigest]

def decodeAttempt : ReadM PartitionAttempt := do
  let id ← Read.u64
  let kind ← Read.enum AttemptKind.all "attempt kind"
  let reservation ← Read.u64
  let accelerator ← Read.u64
  let acceleratorGeneration ← Read.u64
  let acceleratorBoot ← Read.u64
  let capabilityGeneration ← Read.u64
  let coordinatorEpoch ← Read.u64
  let worker ← Read.u64
  let workerBoot ← Read.u64
  let partitions ← Read.list 256 8 Read.u64
  let desired ← Read.list 256 4 decodePlannedPartition
  let state ← Read.enum AttemptState.all "attempt state"
  let token ← Read.u64
  let registeredAtMs ← Read.u64
  let dispatchedAtMs ← Read.u64
  let settledAtMs ← Read.u64
  let detail ← Read.small
  let observedNativeLayoutDigest ← Read.small
  pure {
    id, kind, reservation, accelerator, acceleratorGeneration, acceleratorBoot,
    capabilityGeneration, coordinatorEpoch, worker, workerBoot, partitions, desired, state, token,
    registeredAtMs, dispatchedAtMs, settledAtMs, detail, observedNativeLayoutDigest }

def WorkerRecord.encode (value : WorkerRecord) : Script :=
  List.flatten
    [Write.u64 value.id,
      Write.u64 value.boot,
      Write.small value.endpoint,
      Write.small value.backend,
      Write.boolean value.alive,
      Write.boolean value.fenced,
      Write.u32 value.deviceCount,
      Write.u64 value.registeredAtMs,
      Write.u64 value.lastSeenMs,
      Write.u64 value.fencedAtMs,
      Write.small value.fenceReason,
      Write.u64 value.coordinatorEpoch]

def decodeWorker : ReadM WorkerRecord := do
  let id ← Read.u64
  let boot ← Read.u64
  let endpoint ← Read.small
  let backend ← Read.small
  let alive ← Read.boolean
  let fenced ← Read.boolean
  let deviceCount ← Read.u32
  let registeredAtMs ← Read.u64
  let lastSeenMs ← Read.u64
  let fencedAtMs ← Read.u64
  let fenceReason ← Read.small
  let coordinatorEpoch ← Read.u64
  pure {
    id, boot, endpoint, backend, alive, fenced, deviceCount, registeredAtMs, lastSeenMs,
    fencedAtMs, fenceReason, coordinatorEpoch }

section Writing

namespace ByteWriter

lemma run_u8 (w : ByteWriter) (value : UInt8) : w.run (Write.u8 value) = w.u8 value := rfl

lemma run_u32 (w : ByteWriter) (value : UInt32) : w.run (Write.u32 value) = w.u32 value := by
  rw [u32, littleEndian_eq]
  rfl

lemma run_u64 (w : ByteWriter) (value : UInt64) : w.run (Write.u64 value) = w.u64 value := by
  rw [u64, littleEndian_eq]
  rfl

lemma run_boolean (w : ByteWriter) (value : Bool) :
    w.run (Write.boolean value) = w.boolean value := rfl

lemma run_text (w : ByteWriter) (value : Text) (maxLen : ℕ) :
    w.run (Write.text value maxLen) = w.text value maxLen := by
  unfold Write.text text
  cases hok : w.ok with
  | false => rw [run_of_not_ok hok, Bool.not_false, if_pos rfl]
  | true =>
      rw [Bool.not_true, if_neg Bool.false_ne_true]
      split
      · rfl
      · split
        · rfl
        · rw [u32, littleEndian_count]
          rfl

lemma run_list {α : Type} {enc : α → Script} {each : ByteWriter → α → ByteWriter}
    (heach : ∀ w a, w.run (enc a) = each w a) (w : ByteWriter) (l : List α) :
    w.run (Write.list enc l) = w.list l each := by
  have hfold : ∀ w : ByteWriter, w.run (l.flatMap enc) = l.foldl each w := by
    induction l with
    | nil => exact fun _ ↦ rfl
    | cons a l ih =>
        intro w
        rw [List.flatMap_cons, run_append, heach, ih, List.foldl_cons]
  exact hfold _

lemma run_enum {α : Type} [DecidableEq α] {all : List α} {value : α} {raw : UInt8}
    (hraw : (all.idxOf value).toUInt8 = raw) (w : ByteWriter) :
    w.run (Write.enum all value) = w.u8 raw := by
  rw [← hraw]
  rfl

lemma run_resources (w : ByteWriter) (value : ResourceVector) :
    w.run value.encode = w.resources value := by
  have hfold : ∀ (l : List ResourceDimension) (w : ByteWriter),
      w.run (l.flatMap fun d ↦ Write.u64 (value.values d)) =
        l.foldl (fun w d ↦ w.u64 (value.values d)) w := by
    intro l
    induction l with
    | nil => exact fun _ ↦ rfl
    | cons d l ih =>
        intro w
        rw [List.flatMap_cons, run_append, run_u64, ih, List.foldl_cons]
  simp only [ResourceVector.encode, List.flatten_cons, List.flatten_nil, List.append_nil,
    run_append, run_u32, hfold]
  rfl

lemma run_evidence (w : ByteWriter) (value : EvidenceStamp) :
    w.run value.encode = w.evidence value := by
  have hprovenance : (EvidenceProvenance.all.idxOf value.provenance).toUInt8 =
      value.provenance.raw := by
    cases value.provenance <;> decide
  simp only [EvidenceStamp.encode, Write.small, List.flatten_cons, List.flatten_nil,
    List.append_nil, run_append, run_u64, run_enum hprovenance, run_text, run_boolean]
  rfl

lemma run_combinationRule (w : ByteWriter) (value : ProfileCombinationRule) :
    w.run value.encode = w.combinationRule value := by
  simp only [ProfileCombinationRule.encode, List.flatten_cons, List.flatten_nil, List.append_nil,
    run_append, run_u64, run_u32, run_list run_u64, run_boolean]
  rfl

/-- The digest is taken over the bytes that durable state and messages carry. -/
theorem run_capability (w : ByteWriter) (value : PartitionCapability) :
    w.run value.encode = w.capability value := by
  have hsupport : (PartitionSupportState.all.idxOf value.support).toUInt8 = value.support.raw := by
    cases value.support <;> decide
  have hmechanism : (PartitionMechanism.all.idxOf value.mechanism).toUInt8 =
      value.mechanism.raw := by
    cases value.mechanism <;> decide
  have hdimension : ∀ (w : ByteWriter) (d : ResourceDimension),
      w.run (Write.enum ResourceDimension.all d) = w.u8 d.index.toUInt8 :=
    fun w d ↦ run_enum (by cases d <;> decide) w
  simp only [PartitionCapability.encode, Write.small, IsolationSet.encode, List.flatten_cons,
    List.flatten_nil, List.append_nil, run_append, run_u64, run_u32, run_enum hsupport,
    run_enum hmechanism, run_text, run_list run_u64, run_list run_combinationRule,
    run_list hdimension, run_boolean, run_resources, run_evidence]
  rfl

end ByteWriter

/-- A capability whose encoding does not fit has the digest of one that was never written. -/
theorem capabilityDigest_eq (capability : PartitionCapability) :
    capabilityDigest capability =
      if capability.encode.Fits 1048576 then mixBytes fnvBasis capability.encode.content else 0 := by
  have hhealthy : ByteWriter.Healthy {} := ⟨rfl, Nat.zero_le _⟩
  have hrun := ByteWriter.wrote_run hhealthy capability.encode
  rw [ByteWriter.run_capability] at hrun
  unfold capabilityDigest
  by_cases hfits : capability.encode.Fits 1048576
  · obtain ⟨hwritten, -, hbuffer⟩ := hrun.accepts hfits
    rw [if_pos hwritten.ok, if_pos hfits, hbuffer]
    rfl
  · obtain ⟨hfailed, -⟩ := hrun.refuses hfits
    rw [if_neg (Bool.eq_false_iff.mp hfailed), if_neg hfits]

end Writing

end PartitionFabric
