import PartitionFabric.Codec.Frame
import PartitionFabric.Codec.Records
import PartitionFabric.Fabric.Mutation

/-!
The payloads of the protocol's messages and their encoders and decoders, field by field in the
order of the source.
-/

namespace PartitionFabric

section Enumerations

inductive QueryKind where
  | accelerators | layout | snapshot | attempt | partitions | workers
deriving DecidableEq, Repr

def QueryKind.all : List QueryKind :=
  [.accelerators, .layout, .snapshot, .attempt, .partitions, .workers]

inductive AdminAction where
  | drainPartition | drainAccelerator | completeDrain | cancelDrain | destroyPartition
  | releaseReservation | fenceWorker | reconcileAccelerator | advanceEpoch | saveState | shutdown
deriving DecidableEq, Repr

def AdminAction.all : List AdminAction :=
  [.drainPartition, .drainAccelerator, .completeDrain, .cancelDrain, .destroyPartition,
    .releaseReservation, .fenceWorker, .reconcileAccelerator, .advanceEpoch, .saveState, .shutdown]

/-- The commands by number; a decoder also accepts the five numbers that name none. -/
inductive CommandKind where
  | inspectSnapshot | inspectAccelerators | inspectWorkers | inspectPartitions | queryLayout
  | unnamed5 | unnamed6 | unnamed7 | unnamed8 | unnamed9
  | publishEvidence | plan | planReconfiguration | reserve | create | destroy | drain
  | completeDrain | cancelDrain | releaseReservation | reconcile | fenceWorker | advanceEpoch
  | persistState | shutdownCoordinator
deriving DecidableEq, Repr

def CommandKind.all : List CommandKind :=
  [.inspectSnapshot, .inspectAccelerators, .inspectWorkers, .inspectPartitions, .queryLayout,
    .unnamed5, .unnamed6, .unnamed7, .unnamed8, .unnamed9, .publishEvidence, .plan,
    .planReconfiguration, .reserve, .create, .destroy, .drain, .completeDrain, .cancelDrain,
    .releaseReservation, .reconcile, .fenceWorker, .advanceEpoch, .persistState,
    .shutdownCoordinator]

def PlanStepKind.all : List PlanStepKind :=
  [.reserveCapacity, .beginDrain, .awaitDrainComplete, .reconfigureLayout, .createPartition,
    .destroyPartition, .verifyPhysicalState, .commitAuthority, .rollbackReservation]

def PlanOutcome.all : List PlanOutcome :=
  [.feasibleNow, .feasibleAfterDrain, .feasibleAfterReconfiguration, .physicallyImpossible,
    .capabilityUnsupported, .capabilityUnknown, .insufficientCapacity, .fragmented,
    .policyRejected, .staleEvidence, .revalidationRequired, .noEligibleAccelerator,
    .maxPartitionCountReached, .isolationUnsatisfied, .invalidRequest, .limitExceeded,
    .duplicateRequest]

def ErrorCode.all : List ErrorCode :=
  [.ok, .invalidRequest, .invalidArgument, .notFound, .alreadyExists, .unsupportedCapability,
    .unknownCapability, .staleGeneration, .stalePlan, .staleReservation, .staleWorker,
    .staleCoordinatorEpoch, .staleEvidence, .stalePartitionGeneration, .invalidTransition,
    .insufficientCapacity, .fragmented, .isolationMismatch, .reconfigurationRequired,
    .drainRequired, .policyRejected, .reservationConflict, .deviceUnavailable, .backendFailure,
    .persistenceCorruption, .protocolViolation, .ambiguousCompletion, .reconciliationRequired,
    .revalidationRequired, .overflow, .underflow, .limitExceeded, .closed, .busy, .cancelled,
    .capabilityChanged, .policyChanged, .generationRegression, .corruptState, .fenced, .internal]

/-- Machine-readable reasons for material decisions. -/
inductive ExplanationCode where
  | none | candidateEligible | candidateChosen | candidateRejected | rejectedDeviceUnknown
  | rejectedStaleEvidence | rejectedCapabilityUnknown | rejectedCapabilityUnsupported
  | rejectedBackendMismatch | rejectedDeviceFamily | rejectedLocality | rejectedHealth
  | rejectedAcceleratorGeneration | rejectedInsufficientFreeCapacity | rejectedFragmentedGeometry
  | rejectedMaxPartitionCount | rejectedIncompatibleProfileCombination | rejectedIsolation
  | rejectedPolicy | rejectedDrainRequired | rejectedDestructiveReconfiguration
  | rejectedDowntimeExceeded | rejectedDeviceBusy | rejectedDeviceOffline
  | rejectedRevalidationRequired | rejectedDuplicateRequest | rejectedLimit | rankingFactor
  | tieBreak | planFeasibleNow | planFeasibleAfterDrain | planFeasibleAfterReconfiguration
  | planPhysicallyImpossible | planCapabilityUnsupported | planInsufficientCapacity | planFragmented
  | planPolicyRejected | planStaleEvidence | planRevalidationRequired | planNoEligibleAccelerator
  | reserveAccepted | reserveRejected | commitAccepted | commitRejected | releaseAccepted
  | releaseRejected | drainStarted | drainProgressed | drainCompleted | drainBlocked
  | reconfigurationPlanned | reconfigurationStale | reconfigurationExecuted
  | reconfigurationVerified | attemptRegistered | physicalVerificationPassed
  | physicalVerificationFailed | outcomeUnknown | reconciliationRequired | revalidationRequired
  | reconciledMatch | reconciledMissing | reconciledUnexpected | reconciledProfileChanged
  | reconciledDeviceReset | reconciledCapabilityChanged | reconciledDeviceGone
  | reconciledDeviceNotPartitionCapable | reconciledGenerationUncorrelatable
  | reconciledAssignmentOrphaned | externalAdoption | workerFenced | staleWorkerRejected
  | staleEpochRejected | stalePlanRejected | staleReservationRejected
  | stalePartitionGenerationRejected | capabilityGenerationChanged | policyGenerationChanged
  | reservationRolledBack | reservationExpired | accountingClosed | accountingViolation
  | persistenceRejected | protocolRejected | cancelled | shutdown
deriving DecidableEq, Repr

def ExplanationCode.all : List ExplanationCode :=
  [.none, .candidateEligible, .candidateChosen, .candidateRejected, .rejectedDeviceUnknown,
    .rejectedStaleEvidence, .rejectedCapabilityUnknown, .rejectedCapabilityUnsupported,
    .rejectedBackendMismatch, .rejectedDeviceFamily, .rejectedLocality, .rejectedHealth,
    .rejectedAcceleratorGeneration, .rejectedInsufficientFreeCapacity,
    .rejectedFragmentedGeometry, .rejectedMaxPartitionCount,
    .rejectedIncompatibleProfileCombination, .rejectedIsolation, .rejectedPolicy,
    .rejectedDrainRequired, .rejectedDestructiveReconfiguration, .rejectedDowntimeExceeded,
    .rejectedDeviceBusy, .rejectedDeviceOffline, .rejectedRevalidationRequired,
    .rejectedDuplicateRequest, .rejectedLimit, .rankingFactor, .tieBreak, .planFeasibleNow,
    .planFeasibleAfterDrain, .planFeasibleAfterReconfiguration, .planPhysicallyImpossible,
    .planCapabilityUnsupported, .planInsufficientCapacity, .planFragmented, .planPolicyRejected,
    .planStaleEvidence, .planRevalidationRequired, .planNoEligibleAccelerator, .reserveAccepted,
    .reserveRejected, .commitAccepted, .commitRejected, .releaseAccepted, .releaseRejected,
    .drainStarted, .drainProgressed, .drainCompleted, .drainBlocked, .reconfigurationPlanned,
    .reconfigurationStale, .reconfigurationExecuted, .reconfigurationVerified, .attemptRegistered,
    .physicalVerificationPassed, .physicalVerificationFailed, .outcomeUnknown,
    .reconciliationRequired, .revalidationRequired, .reconciledMatch, .reconciledMissing,
    .reconciledUnexpected, .reconciledProfileChanged, .reconciledDeviceReset,
    .reconciledCapabilityChanged, .reconciledDeviceGone, .reconciledDeviceNotPartitionCapable,
    .reconciledGenerationUncorrelatable, .reconciledAssignmentOrphaned, .externalAdoption,
    .workerFenced, .staleWorkerRejected, .staleEpochRejected, .stalePlanRejected,
    .staleReservationRejected, .stalePartitionGenerationRejected, .capabilityGenerationChanged,
    .policyGenerationChanged, .reservationRolledBack, .reservationExpired, .accountingClosed,
    .accountingViolation, .persistenceRejected, .protocolRejected, .cancelled, .shutdown]

end Enumerations

/-- An error code is the only enumerator that takes two bytes. -/
def encodeErrorCode (value : ErrorCode) : Script :=
  Write.u16 (ErrorCode.all.idxOf value).toUInt16

def decodeErrorCode : ReadM ErrorCode := do
  let raw ← Read.u16
  match ErrorCode.all[raw.toNat]? with
  | some value => pure value
  | none => Procedure.throw (makeError .protocolViolation "invalid error code on the wire"
      (decimal raw.toNat))

/-- Sizes are written as 64-bit numbers. -/
def Write.size (value : ℕ) : Script := Write.u64 value.toUInt64

def Read.size : ReadM ℕ := do
  let value ← Read.u64
  pure value.toNat

def Limits.encode (value : Limits) : Script :=
  List.flatten
    [Write.size value.maxAccelerators,
      Write.size value.maxProfiles,
      Write.size value.maxPartitionsPerAccelerator,
      Write.size value.maxPartitions,
      Write.size value.maxAssignments,
      Write.size value.maxReservations,
      Write.size value.maxActiveReservations,
      Write.size value.maxPendingPlans,
      Write.size value.maxPlanSteps,
      Write.size value.maxPendingAttempts,
      Write.size value.maxAttemptHistory,
      Write.size value.maxSnapshotRetention,
      Write.size value.maxEvents,
      Write.size value.maxExplanations,
      Write.size value.maxReconciliationFindings,
      Write.size value.maxMetadataBytes,
      Write.size value.maxNativeIdBytes,
      Write.size value.maxNameBytes,
      Write.size value.maxWorkers,
      Write.size value.maxFrameBytes,
      Write.size value.maxMessageQueue,
      Write.size value.maxSyntheticDevices,
      Write.size value.maxSyntheticPartitions,
      Write.size value.maxPersistedRecords,
      Write.size value.maxProfileExclusions,
      Write.size value.maxRetryState]

def decodeLimits : ReadM Limits := do
  let maxAccelerators ← Read.size
  let maxProfiles ← Read.size
  let maxPartitionsPerAccelerator ← Read.size
  let maxPartitions ← Read.size
  let maxAssignments ← Read.size
  let maxReservations ← Read.size
  let maxActiveReservations ← Read.size
  let maxPendingPlans ← Read.size
  let maxPlanSteps ← Read.size
  let maxPendingAttempts ← Read.size
  let maxAttemptHistory ← Read.size
  let maxSnapshotRetention ← Read.size
  let maxEvents ← Read.size
  let maxExplanations ← Read.size
  let maxReconciliationFindings ← Read.size
  let maxMetadataBytes ← Read.size
  let maxNativeIdBytes ← Read.size
  let maxNameBytes ← Read.size
  let maxWorkers ← Read.size
  let maxFrameBytes ← Read.size
  let maxMessageQueue ← Read.size
  let maxSyntheticDevices ← Read.size
  let maxSyntheticPartitions ← Read.size
  let maxPersistedRecords ← Read.size
  let maxProfileExclusions ← Read.size
  let maxRetryState ← Read.size
  let limits : Limits := {
    maxAccelerators, maxProfiles, maxPartitionsPerAccelerator, maxPartitions, maxAssignments,
    maxReservations, maxActiveReservations, maxPendingPlans, maxPlanSteps, maxPendingAttempts,
    maxAttemptHistory, maxSnapshotRetention, maxEvents, maxExplanations,
    maxReconciliationFindings, maxMetadataBytes, maxNativeIdBytes, maxNameBytes, maxWorkers,
    maxFrameBytes, maxMessageQueue, maxSyntheticDevices, maxSyntheticPartitions,
    maxPersistedRecords, maxProfileExclusions, maxRetryState }
  Procedure.lift limits.validate
  pure limits

def DeviceSelector.encode (value : DeviceSelector) : Script :=
  List.flatten
    [Write.small value.backend,
      Write.small value.vendor,
      Write.small value.deviceFamily,
      Write.small value.localityDomain,
      Write.list Write.u64 value.allowed,
      Write.list Write.u64 value.excluded]

def decodeDeviceSelector : ReadM DeviceSelector := do
  let backend ← Read.small
  let vendor ← Read.small
  let deviceFamily ← Read.small
  let localityDomain ← Read.small
  let allowed ← Read.list 64 8 Read.u64
  let excluded ← Read.list 64 8 Read.u64
  pure { backend, vendor, deviceFamily, localityDomain, allowed, excluded }

def PartitionRequest.encode (value : PartitionRequest) : Script :=
  List.flatten
    [Write.u64 value.profile,
      Write.u32 value.count,
      value.minimumResources.encode,
      value.isolation.encode,
      Write.boolean value.exclusive,
      Write.boolean value.allowDrain,
      Write.boolean value.allowDestructiveReconfiguration,
      Write.boolean value.allowDegradedDevice,
      Write.boolean value.allowSharedDevice,
      value.selector.encode,
      Write.small value.policyClass,
      Write.u64 value.maxEvidenceAgeMs,
      Write.small value.requester,
      Write.boolean value.allOrNothing,
      Write.small value.requestTag]

def decodeRequest : ReadM PartitionRequest := do
  let profile ← Read.u64
  let count ← Read.u32
  let minimumResources ← decodeResources
  let isolation ← decodeIsolationRequirement
  let exclusive ← Read.boolean
  let allowDrain ← Read.boolean
  let allowDestructiveReconfiguration ← Read.boolean
  let allowDegradedDevice ← Read.boolean
  let allowSharedDevice ← Read.boolean
  let selector ← decodeDeviceSelector
  let policyClass ← Read.small
  let maxEvidenceAgeMs ← Read.u64
  let requester ← Read.small
  let allOrNothing ← Read.boolean
  let requestTag ← Read.small
  pure {
    profile, count, minimumResources, isolation, exclusive, allowDrain,
    allowDestructiveReconfiguration, allowDegradedDevice, allowSharedDevice, selector,
    policyClass, maxEvidenceAgeMs, requester, allOrNothing, requestTag }

def PlanStep.encode (value : PlanStep) : Script :=
  List.flatten
    [Write.u32 value.index,
      Write.enum PlanStepKind.all value.kind,
      Write.u64 value.accelerator,
      Write.u64 value.acceleratorGeneration,
      Write.u64 value.acceleratorBoot,
      Write.u64 value.partition,
      Write.u64 value.profile,
      Write.u32 value.plannedIndex,
      Write.boolean value.destructive,
      Write.boolean value.requiresReset,
      Write.u64 value.estimatedDurationMs,
      Write.small value.detail]

def decodePlanStep : ReadM PlanStep := do
  let index ← Read.u32
  let kind ← Read.enum PlanStepKind.all "plan step kind"
  let accelerator ← Read.u64
  let acceleratorGeneration ← Read.u64
  let acceleratorBoot ← Read.u64
  let partition ← Read.u64
  let profile ← Read.u64
  let plannedIndex ← Read.u32
  let destructive ← Read.boolean
  let requiresReset ← Read.boolean
  let estimatedDurationMs ← Read.u64
  let detail ← Read.small
  pure {
    index, kind, accelerator, acceleratorGeneration, acceleratorBoot, partition, profile,
    plannedIndex, destructive, requiresReset, estimatedDurationMs, detail }

/-- One decisive factor of an explanation. -/
structure ExplanationFactor where
  code : ExplanationCode := .none
  subject : Text := []
  detail : Text := []
  magnitude : ℤ := 0
  sequence : UInt32 := 0
deriving DecidableEq

structure Explanation where
  factors : List ExplanationFactor := []
  summary : Text := []
deriving DecidableEq

/-- Adding a factor numbers it by its position. -/
def Explanation.add (explanation : Explanation) (factor : ExplanationFactor) : Explanation :=
  { explanation with
    factors := explanation.factors ++
      [{ factor with sequence := explanation.factors.length.toUInt32 }] }

/-- A ranking term as a message reports it. -/
structure ScoreTermReport extends PlanScoreTerm where
  code : ExplanationCode := .rankingFactor

/-- A candidate as a message reports it: its evaluation with everything that explains it. -/
structure CandidateReport where
  accelerator : AcceleratorId := 0
  acceleratorGeneration : AcceleratorGeneration := 0
  eligible : Bool := false
  outcome : PlanOutcome := .noEligibleAccelerator
  fragmentation : FragmentationReport := {}
  fragmentationExplanation : Explanation := {}
  total : ℤ := 0
  terms : List ScoreTermReport := []
  explanation : Explanation := {}

def ScoreTermReport.encode (value : ScoreTermReport) : Script :=
  List.flatten
    [Write.enum ExplanationCode.all value.code,
      Write.small value.subject,
      Write.i64 value.weight,
      Write.i64 value.raw,
      Write.i64 value.contribution]

def decodePlanScoreTerm : ReadM ScoreTermReport := do
  let code ← Read.enum ExplanationCode.all "explanation code"
  let subject ← Read.small
  let weight ← Read.i64
  let raw ← Read.i64
  let contribution ← Read.i64
  pure { code, subject, weight, raw, contribution }

/-- The bound of a factor's detail. -/
def largeText : ℕ := 2048

def ExplanationFactor.encode (value : ExplanationFactor) : Script :=
  List.flatten
    [Write.enum ExplanationCode.all value.code,
      Write.small value.subject,
      Write.text value.detail largeText,
      Write.i64 value.magnitude]

def decodeFactor : ReadM ExplanationFactor := do
  let code ← Read.enum ExplanationCode.all "explanation code"
  let subject ← Read.small
  let detail ← Read.text largeText
  let magnitude ← Read.i64
  pure { code, subject, detail, magnitude }

/-- Neither the fragmentation report nor the summary of the explanation is written. -/
def CandidateReport.encode (value : CandidateReport) : Script :=
  List.flatten
    [Write.u64 value.accelerator,
      Write.u64 value.acceleratorGeneration,
      Write.boolean value.eligible,
      Write.enum PlanOutcome.all value.outcome,
      Write.i64 value.total,
      Write.list ScoreTermReport.encode value.terms,
      Write.list ExplanationFactor.encode value.explanation.factors]

def decodeFactorsOf (declared : ℕ) : ReadM (List ExplanationFactor) := do
  Procedure.require (declared ≤ 128)
    (makeError .limitExceeded "explanation factor count exceeds the bound")
  Wire.readTimes decodeFactor declared

def decodeFactors : ReadM (List ExplanationFactor) := do
  let declared ← Wire.readNumber Read.truncated 4
  decodeFactorsOf declared

def decodeCandidate : ReadM CandidateReport := do
  let accelerator ← Read.u64
  let acceleratorGeneration ← Read.u64
  let eligible ← Read.boolean
  let outcome ← Read.enum PlanOutcome.all "plan outcome"
  let total ← Read.i64
  let terms ← Read.list 64 8 decodePlanScoreTerm
  let factors ← decodeFactors
  pure {
    accelerator, acceleratorGeneration, eligible, outcome, total, terms,
    explanation := factors.foldl Explanation.add {} }

def BackendNativePartition.encode (value : BackendNativePartition) : Script :=
  List.flatten
    [Write.small value.nativeId,
      Write.small value.instanceUuid,
      Write.small value.vendorNativeProfile,
      Write.u64 value.profile,
      value.resources.encode,
      Write.small value.isolationDomain,
      value.isolation.encode,
      Write.boolean value.live]

def decodeNativePartition : ReadM BackendNativePartition := do
  let nativeId ← Read.small
  let instanceUuid ← Read.small
  let vendorNativeProfile ← Read.small
  let profile ← Read.u64
  let resources ← decodeResources
  let isolationDomain ← Read.small
  let isolation ← decodeIsolation
  let live ← Read.boolean
  pure {
    nativeId, instanceUuid, vendorNativeProfile, profile, resources, isolationDomain, isolation,
    live }

def BackendLayout.encode (value : BackendLayout) : Script :=
  List.flatten
    [Write.small value.stableKey,
      Write.boolean value.devicePresent,
      Write.u64 value.bootId,
      value.physicalTotals.encode,
      Write.list BackendNativePartition.encode value.partitions,
      value.evidence.encode,
      Write.small value.detail]

def decodeLayout : ReadM BackendLayout := do
  let stableKey ← Read.small
  let devicePresent ← Read.boolean
  let bootId ← Read.u64
  let physicalTotals ← decodeResources
  let partitions ← Read.list 512 4 decodeNativePartition
  let evidence ← decodeEvidence
  let detail ← Read.small
  pure { stableKey, devicePresent, bootId, physicalTotals, partitions, evidence, detail }

def BackendAccelerator.encode (value : BackendAccelerator) : Script :=
  List.flatten
    [Write.small value.stableKey,
      Write.small value.backend,
      value.identifiers.encode,
      value.physicalTotals.encode,
      value.capability.encode,
      Write.list PartitionProfile.encode value.profiles,
      Write.u64 value.bootId,
      value.locality.encode,
      value.evidence.encode,
      Write.enum EvidenceProvenance.all value.provenance,
      Write.small value.unsupportedReason]

def decodeBackendAccelerator : ReadM BackendAccelerator := do
  let stableKey ← Read.small
  let backend ← Read.small
  let identifiers ← decodeIdentifiers
  let physicalTotals ← decodeResources
  let capability ← decodeCapability
  let profiles ← Read.list 512 8 decodeProfile
  let bootId ← Read.u64
  let locality ← decodeLocality
  let evidence ← decodeEvidence
  let provenance ← Read.enum EvidenceProvenance.all "evidence provenance"
  let unsupportedReason ← Read.small
  pure {
    stableKey, backend, identifiers, physicalTotals, capability, profiles, bootId, locality,
    evidence, provenance, unsupportedReason }

def NativePartitionSpec.encode (value : NativePartitionSpec) : Script :=
  List.flatten
    [Write.small value.vendorNativeProfile,
      Write.u64 value.profile,
      value.resources.encode,
      Write.small value.existingNativeId,
      Write.u64 value.logicalPartition]

def decodeNativeSpec : ReadM NativePartitionSpec := do
  let vendorNativeProfile ← Read.small
  let profile ← Read.u64
  let resources ← decodeResources
  let existingNativeId ← Read.small
  let logicalPartition ← Read.u64
  pure { vendorNativeProfile, profile, resources, existingNativeId, logicalPartition }

def PartitionMutationRequest.encode (value : PartitionMutationRequest) : Script :=
  List.flatten
    [Write.small value.stableKey,
      Write.u64 value.expectedBoot,
      Write.u64 value.expectedAcceleratorGeneration,
      Write.u64 value.expectedCapabilityGeneration,
      Write.u64 value.coordinatorEpoch,
      Write.u64 value.worker,
      Write.u64 value.workerBoot,
      Write.u64 value.attempt,
      Write.u64 value.idempotencyToken,
      Write.boolean value.destructive,
      Write.boolean value.fullDeviceReconfiguration,
      Write.list NativePartitionSpec.encode value.desired,
      Write.list Write.small value.removeNativeIds]

def decodeMutationRequest : ReadM PartitionMutationRequest := do
  let stableKey ← Read.small
  let expectedBoot ← Read.u64
  let expectedAcceleratorGeneration ← Read.u64
  let expectedCapabilityGeneration ← Read.u64
  let coordinatorEpoch ← Read.u64
  let worker ← Read.u64
  let workerBoot ← Read.u64
  let attempt ← Read.u64
  let idempotencyToken ← Read.u64
  let destructive ← Read.boolean
  let fullDeviceReconfiguration ← Read.boolean
  let desired ← Read.list 256 4 decodeNativeSpec
  let removeNativeIds ← Read.list 256 4 Read.small
  pure {
    stableKey, expectedBoot, expectedAcceleratorGeneration, expectedCapabilityGeneration,
    coordinatorEpoch, worker, workerBoot, attempt, idempotencyToken, destructive,
    fullDeviceReconfiguration, desired, removeNativeIds }

def BackendMutationResult.encode (value : BackendMutationResult) : Script :=
  List.flatten
    [Write.boolean value.accepted,
      Write.boolean value.ambiguous,
      Write.list Write.small value.createdNativeIds,
      Write.small value.detail,
      value.observedLayout.encode]

def decodeMutationResult : ReadM BackendMutationResult := do
  let accepted ← Read.boolean
  let ambiguous ← Read.boolean
  let createdNativeIds ← Read.list 256 4 Read.small
  let detail ← Read.small
  let observedLayout ← decodeLayout
  pure { accepted, ambiguous, createdNativeIds, detail, observedLayout }

structure HelloMessage where
  protocolVersion : UInt16 := protocolVersion
  knownEpoch : CoordinatorEpoch := 0
  worker : WorkerId := 0
  workerBoot : WorkerBootId := 0
  backend : Text := []
  agentVersion : Text := []
  instanceName : Text := []
deriving DecidableEq

def HelloMessage.encodePayload (limits : Limits) (message : HelloMessage) : Script :=
  List.flatten
    [Write.u16 message.protocolVersion,
      Write.u64 message.knownEpoch,
      Write.u64 message.worker,
      Write.u64 message.workerBoot,
      Write.text message.backend limits.maxMetadataBytes,
      Write.text message.agentVersion limits.maxMetadataBytes,
      Write.text message.instanceName limits.maxMetadataBytes]

def decodeHello : ReadM HelloMessage := do
  let protocolVersion ← Read.u16
  let knownEpoch ← Read.u64
  let worker ← Read.u64
  let workerBoot ← Read.u64
  let backend ← Read.text 256
  let agentVersion ← Read.text 64
  let instanceName ← Read.text 256
  pure { protocolVersion, knownEpoch, worker, workerBoot, backend, agentVersion, instanceName }

structure HelloAckMessage where
  accepted : Bool := false
  epoch : CoordinatorEpoch := 0
  assignedWorker : WorkerId := 0
  sessionNonce : UInt64 := 0
  limits : Limits := {}
  reason : Text := []
deriving DecidableEq

def HelloAckMessage.encodePayload (limits : Limits) (message : HelloAckMessage) : Script :=
  List.flatten
    [Write.boolean message.accepted,
      Write.u64 message.epoch,
      Write.u64 message.assignedWorker,
      Write.u64 message.sessionNonce,
      message.limits.encode,
      Write.text message.reason limits.maxMetadataBytes]

def decodeHelloAck : ReadM HelloAckMessage := do
  let accepted ← Read.boolean
  let epoch ← Read.u64
  let assignedWorker ← Read.u64
  let sessionNonce ← Read.u64
  let limits ← decodeLimits
  let reason ← Read.text 256
  pure { accepted, epoch, assignedWorker, sessionNonce, limits, reason }

structure RegisterWorkerMessage where
  worker : WorkerRecord := {}
  devices : List BackendAccelerator := []
  startedAtMs : UInt64 := 0

def RegisterWorkerMessage.encodePayload (_ : Limits) (message : RegisterWorkerMessage) : Script :=
  List.flatten
    [message.worker.encode,
      Write.list BackendAccelerator.encode message.devices,
      Write.u64 message.startedAtMs]

def decodeRegisterWorker : ReadM RegisterWorkerMessage := do
  let worker ← decodeWorker
  let devices ← Read.list 64 8 decodeBackendAccelerator
  let startedAtMs ← Read.u64
  pure { worker, devices, startedAtMs }

structure RegisterAckMessage where
  accepted : Bool := false
  epoch : CoordinatorEpoch := 0
  registeredAccelerators : List AcceleratorId := []
  rejectedDevices : List Text := []
  reason : Text := []
deriving DecidableEq

def RegisterAckMessage.encodePayload (limits : Limits) (message : RegisterAckMessage) : Script :=
  List.flatten
    [Write.boolean message.accepted,
      Write.u64 message.epoch,
      Write.list Write.u64 message.registeredAccelerators,
      Write.list (Write.text · limits.maxMetadataBytes) message.rejectedDevices,
      Write.text message.reason limits.maxMetadataBytes]

def decodeRegisterAck : ReadM RegisterAckMessage := do
  let accepted ← Read.boolean
  let epoch ← Read.u64
  let registeredAccelerators ← Read.list 64 8 Read.u64
  let rejectedDevices ← Read.list 64 4 Read.small
  let reason ← Read.text 256
  pure { accepted, epoch, registeredAccelerators, rejectedDevices, reason }

structure EvidencePublishMessage where
  devices : List BackendAccelerator := []
  layouts : List BackendLayout := []
  publishedAtMs : UInt64 := 0
  revalidate : Bool := false

def EvidencePublishMessage.encodePayload (_ : Limits) (message : EvidencePublishMessage) : Script :=
  List.flatten
    [Write.list BackendAccelerator.encode message.devices,
      Write.list BackendLayout.encode message.layouts,
      Write.u64 message.publishedAtMs,
      Write.boolean message.revalidate]

def decodeEvidencePublish : ReadM EvidencePublishMessage := do
  let devices ← Read.list 64 8 decodeBackendAccelerator
  let layouts ← Read.list 64 8 decodeLayout
  let publishedAtMs ← Read.u64
  let revalidate ← Read.boolean
  pure { devices, layouts, publishedAtMs, revalidate }

structure EvidenceAckMessage where
  accepted : Bool := false
  accelerators : List AcceleratorId := []
  revalidatedPartitions : List PartitionId := []
  reason : Text := []
deriving DecidableEq

def EvidenceAckMessage.encodePayload (limits : Limits) (message : EvidenceAckMessage) : Script :=
  List.flatten
    [Write.boolean message.accepted,
      Write.list Write.u64 message.accelerators,
      Write.list Write.u64 message.revalidatedPartitions,
      Write.text message.reason limits.maxMetadataBytes]

def decodeEvidenceAck : ReadM EvidenceAckMessage := do
  let accepted ← Read.boolean
  let accelerators ← Read.list 64 8 Read.u64
  let revalidatedPartitions ← Read.list 256 8 Read.u64
  let reason ← Read.text 256
  pure { accepted, accelerators, revalidatedPartitions, reason }

structure MutationRequestMessage where
  attempt : PartitionAttemptId := 0
  reservation : PartitionReservationId := 0
  kind : AttemptKind := .createPartition
  request : PartitionMutationRequest := {}

def MutationRequestMessage.encodePayload (_ : Limits) (message : MutationRequestMessage) : Script :=
  List.flatten
    [Write.u64 message.attempt,
      Write.u64 message.reservation,
      Write.enum AttemptKind.all message.kind,
      message.request.encode]

def decodeMutationRequestMessage : ReadM MutationRequestMessage := do
  let attempt ← Read.u64
  let reservation ← Read.u64
  let kind ← Read.enum AttemptKind.all "attempt kind"
  let request ← decodeMutationRequest
  pure { attempt, reservation, kind, request }

structure MutationResultMessage where
  attempt : PartitionAttemptId := 0
  idempotencyToken : UInt64 := 0
  result : BackendMutationResult := {}

def MutationResultMessage.encodePayload (_ : Limits) (message : MutationResultMessage) : Script :=
  List.flatten
    [Write.u64 message.attempt,
      Write.u64 message.idempotencyToken,
      message.result.encode]

def decodeMutationResultMessage : ReadM MutationResultMessage := do
  let attempt ← Read.u64
  let idempotencyToken ← Read.u64
  let result ← decodeMutationResult
  pure { attempt, idempotencyToken, result }

structure QueryRequestMessage where
  kind : QueryKind := .accelerators
  key : Text := []
  attempt : PartitionAttemptId := 0
  partition : PartitionId := 0
  includeSnapshot : Bool := false
deriving DecidableEq

def QueryRequestMessage.encodePayload (limits : Limits) (message : QueryRequestMessage) : Script :=
  List.flatten
    [Write.enum QueryKind.all message.kind,
      Write.text message.key limits.maxMetadataBytes,
      Write.u64 message.attempt,
      Write.u64 message.partition,
      Write.boolean message.includeSnapshot]

def decodeQueryRequest : ReadM QueryRequestMessage := do
  let kind ← Read.enum QueryKind.all "query kind"
  let key ← Read.text 256
  let attempt ← Read.u64
  let partition ← Read.u64
  let includeSnapshot ← Read.boolean
  pure { kind, key, attempt, partition, includeSnapshot }

structure QueryResponseMessage where
  kind : QueryKind := .accelerators
  found : Bool := false
  detail : Text := []
  devices : List BackendAccelerator := []
  layout : BackendLayout := {}
  attempt : PartitionAttempt := {}
  partitions : List PartitionRecord := []
  workers : List WorkerRecord := []
  snapshotText : Text := []

def QueryResponseMessage.encodePayload (limits : Limits) (message : QueryResponseMessage) :
    Script :=
  List.flatten
    [Write.enum QueryKind.all message.kind,
      Write.boolean message.found,
      Write.text message.detail limits.maxMetadataBytes,
      Write.list BackendAccelerator.encode message.devices,
      message.layout.encode,
      message.attempt.encode,
      Write.list PartitionRecord.encode message.partitions,
      Write.list WorkerRecord.encode message.workers,
      Write.text message.snapshotText 262144]

def decodeQueryResponse : ReadM QueryResponseMessage := do
  let kind ← Read.enum QueryKind.all "query kind"
  let found ← Read.boolean
  let detail ← Read.text 512
  let devices ← Read.list 64 8 decodeBackendAccelerator
  let layout ← decodeLayout
  let attempt ← decodeAttempt
  let partitions ← Read.list 256 8 decodePartition
  let workers ← Read.list 64 8 decodeWorker
  let snapshotText ← Read.text 262144
  pure { kind, found, detail, devices, layout, attempt, partitions, workers, snapshotText }

structure FenceMessage where
  worker : WorkerId := 0
  workerBoot : WorkerBootId := 0
  epoch : CoordinatorEpoch := 0
  reason : Text := []
deriving DecidableEq

def FenceMessage.encodePayload (limits : Limits) (message : FenceMessage) : Script :=
  List.flatten
    [Write.u64 message.worker,
      Write.u64 message.workerBoot,
      Write.u64 message.epoch,
      Write.text message.reason limits.maxMetadataBytes]

def decodeFence : ReadM FenceMessage := do
  let worker ← Read.u64
  let workerBoot ← Read.u64
  let epoch ← Read.u64
  let reason ← Read.text 256
  pure { worker, workerBoot, epoch, reason }

structure FenceAckMessage where
  acknowledged : Bool := false
  reason : Text := []
deriving DecidableEq

def FenceAckMessage.encodePayload (limits : Limits) (message : FenceAckMessage) : Script :=
  List.flatten
    [Write.boolean message.acknowledged,
      Write.text message.reason limits.maxMetadataBytes]

def decodeFenceAck : ReadM FenceAckMessage := do
  let acknowledged ← Read.boolean
  let reason ← Read.text 256
  pure { acknowledged, reason }

structure HeartbeatMessage where
  sentAtMs : UInt64 := 0
  appliedAttempts : UInt64 := 0
deriving DecidableEq

def HeartbeatMessage.encodePayload (_ : Limits) (message : HeartbeatMessage) : Script :=
  List.flatten
    [Write.u64 message.sentAtMs,
      Write.u64 message.appliedAttempts]

def decodeHeartbeat : ReadM HeartbeatMessage := do
  let sentAtMs ← Read.u64
  let appliedAttempts ← Read.u64
  pure { sentAtMs, appliedAttempts }

structure HeartbeatAckMessage where
  epoch : CoordinatorEpoch := 0
  receivedAtMs : UInt64 := 0
  allowedAttempts : UInt64 := 0
deriving DecidableEq

def HeartbeatAckMessage.encodePayload (_ : Limits) (message : HeartbeatAckMessage) : Script :=
  List.flatten
    [Write.u64 message.epoch,
      Write.u64 message.receivedAtMs,
      Write.u64 message.allowedAttempts]

def decodeHeartbeatAck : ReadM HeartbeatAckMessage := do
  let epoch ← Read.u64
  let receivedAtMs ← Read.u64
  let allowedAttempts ← Read.u64
  pure { epoch, receivedAtMs, allowedAttempts }

structure ShutdownMessage where
  reason : Text := []
  fence : Bool := false
deriving DecidableEq

def ShutdownMessage.encodePayload (limits : Limits) (message : ShutdownMessage) : Script :=
  List.flatten
    [Write.text message.reason limits.maxMetadataBytes,
      Write.boolean message.fence]

def decodeShutdown : ReadM ShutdownMessage := do
  let reason ← Read.text 256
  let fence ← Read.boolean
  pure { reason, fence }

structure ErrorResponseMessage where
  code : ErrorCode := .internal
  message : Text := []
  detail : Text := []
  sequence : UInt64 := 0
deriving DecidableEq

def ErrorResponseMessage.encodePayload (limits : Limits) (message : ErrorResponseMessage) :
    Script :=
  List.flatten
    [encodeErrorCode message.code,
      Write.text message.message limits.maxMetadataBytes,
      Write.text message.detail limits.maxMetadataBytes,
      Write.u64 message.sequence]

def decodeErrorResponse : ReadM ErrorResponseMessage := do
  let code ← decodeErrorCode
  let message ← Read.text 256
  let detail ← Read.text 512
  let sequence ← Read.u64
  pure { code, message, detail, sequence }

structure ReconcileRequestMessage where
  stableKey : Text := []
  allowAdoption : Bool := false
deriving DecidableEq

def ReconcileRequestMessage.encodePayload (limits : Limits) (message : ReconcileRequestMessage) :
    Script :=
  List.flatten
    [Write.text message.stableKey limits.maxMetadataBytes,
      Write.boolean message.allowAdoption]

def decodeReconcileRequest : ReadM ReconcileRequestMessage := do
  let stableKey ← Read.text 256
  let allowAdoption ← Read.boolean
  pure { stableKey, allowAdoption }

structure ReconcileResponseMessage where
  accepted : Bool := false
  summary : Text := []
  matched : UInt32 := 0
  missing : UInt32 := 0
  unexpected : UInt32 := 0
  adopted : UInt32 := 0
  revalidationRequired : Bool := false
  reason : Text := []
deriving DecidableEq

def ReconcileResponseMessage.encodePayload (limits : Limits) (message : ReconcileResponseMessage) :
    Script :=
  List.flatten
    [Write.boolean message.accepted,
      Write.text message.summary 2048,
      Write.u32 message.matched,
      Write.u32 message.missing,
      Write.u32 message.unexpected,
      Write.u32 message.adopted,
      Write.boolean message.revalidationRequired,
      Write.text message.reason limits.maxMetadataBytes]

def decodeReconcileResponse : ReadM ReconcileResponseMessage := do
  let accepted ← Read.boolean
  let summary ← Read.text 2048
  let matched ← Read.u32
  let missing ← Read.u32
  let unexpected ← Read.u32
  let adopted ← Read.u32
  let revalidationRequired ← Read.boolean
  let reason ← Read.text 256
  pure { accepted, summary, matched, missing, unexpected, adopted, revalidationRequired, reason }

structure AdminRequestMessage where
  action : AdminAction := .drainPartition
  partition : PartitionId := 0
  accelerator : AcceleratorId := 0
  reservation : PartitionReservationId := 0
  worker : WorkerId := 0
  workerBoot : WorkerBootId := 0
  reason : Text := []
  confirmed : Bool := false
deriving DecidableEq

def AdminRequestMessage.encodePayload (limits : Limits) (message : AdminRequestMessage) : Script :=
  List.flatten
    [Write.enum AdminAction.all message.action,
      Write.u64 message.partition,
      Write.u64 message.accelerator,
      Write.u64 message.reservation,
      Write.u64 message.worker,
      Write.u64 message.workerBoot,
      Write.text message.reason limits.maxMetadataBytes,
      Write.boolean message.confirmed]

def decodeAdminRequest : ReadM AdminRequestMessage := do
  let action ← Read.enum AdminAction.all "admin action"
  let partition ← Read.u64
  let accelerator ← Read.u64
  let reservation ← Read.u64
  let worker ← Read.u64
  let workerBoot ← Read.u64
  let reason ← Read.text 256
  let confirmed ← Read.boolean
  pure { action, partition, accelerator, reservation, worker, workerBoot, reason, confirmed }

structure AdminResponseMessage where
  accepted : Bool := false
  code : ErrorCode := .ok
  message : Text := []
  detail : Text := []
deriving DecidableEq

def AdminResponseMessage.encodePayload (limits : Limits) (message : AdminResponseMessage) :
    Script :=
  List.flatten
    [Write.boolean message.accepted,
      encodeErrorCode message.code,
      Write.text message.message limits.maxMetadataBytes,
      Write.text message.detail limits.maxMetadataBytes]

def decodeAdminResponse : ReadM AdminResponseMessage := do
  let accepted ← Read.boolean
  let code ← decodeErrorCode
  let message ← Read.text 256
  let detail ← Read.text 512
  pure { accepted, code, message, detail }

structure CommandRequestMessage where
  kind : CommandKind := .inspectSnapshot
  request : PartitionRequest := {}
  reservation : PartitionReservationId := 0
  partition : PartitionId := 0
  accelerator : AcceleratorId := 0
  plan : PartitionPlanId := 0
  worker : WorkerId := 0
  workerBoot : WorkerBootId := 0
  stableKey : Text := []
  reason : Text := []
  confirmed : Bool := false
deriving DecidableEq

def CommandRequestMessage.encodePayload (limits : Limits) (message : CommandRequestMessage) :
    Script :=
  List.flatten
    [Write.enum CommandKind.all message.kind,
      message.request.encode,
      Write.u64 message.reservation,
      Write.u64 message.partition,
      Write.u64 message.accelerator,
      Write.u64 message.plan,
      Write.u64 message.worker,
      Write.u64 message.workerBoot,
      Write.text message.stableKey limits.maxMetadataBytes,
      Write.text message.reason limits.maxMetadataBytes,
      Write.boolean message.confirmed]

def decodeCommandRequest : ReadM CommandRequestMessage := do
  let kind ← Read.enum CommandKind.all "command kind"
  let request ← decodeRequest
  let reservation ← Read.u64
  let partition ← Read.u64
  let accelerator ← Read.u64
  let plan ← Read.u64
  let worker ← Read.u64
  let workerBoot ← Read.u64
  let stableKey ← Read.text 256
  let reason ← Read.text 512
  let confirmed ← Read.boolean
  pure {
    kind, request, reservation, partition, accelerator, plan, worker, workerBoot, stableKey,
    reason, confirmed }

structure CommandResponseMessage where
  accepted : Bool := false
  code : ErrorCode := .ok
  message : Text := []
  detail : Text := []
  plan : PartitionPlanId := 0
  planGeneration : PartitionPlanGeneration := 0
  planOutcome : PlanOutcome := .invalidRequest
  planSteps : List PlanStep := []
  plannedPartitions : List PlannedPartition := []
  candidates : List CandidateReport := []
  reservation : PartitionReservationId := 0
  reservationLifecycle : ReservationLifecycle := .released
  attempt : PartitionAttemptId := 0
  attemptState : AttemptState := .registered
  outcomeUnknown : Bool := false
  verifiedPhysically : Bool := false
  partitions : List PartitionId := []
  generations : List PartitionGeneration := []
  matched : UInt32 := 0
  missing : UInt32 := 0
  unexpected : UInt32 := 0
  adopted : UInt32 := 0
  revalidationRequired : Bool := false
  accelerator : AcceleratorId := 0
  coordinatorEpoch : CoordinatorEpoch := 0
  layout : BackendLayout := {}
  devices : List BackendAccelerator := []
  workers : List WorkerRecord := []
  partitionRecords : List PartitionRecord := []
  snapshotText : Text := []

def CommandResponseMessage.encodePayload (limits : Limits) (message : CommandResponseMessage) :
    Script :=
  List.flatten
    [Write.boolean message.accepted,
      encodeErrorCode message.code,
      Write.text message.message limits.maxMetadataBytes,
      Write.text message.detail 4096,
      Write.u64 message.plan,
      Write.u64 message.planGeneration,
      Write.enum PlanOutcome.all message.planOutcome,
      Write.list PlanStep.encode message.planSteps,
      Write.list PlannedPartition.encode message.plannedPartitions,
      Write.list CandidateReport.encode message.candidates,
      Write.u64 message.reservation,
      Write.enum ReservationLifecycle.all message.reservationLifecycle,
      Write.u64 message.attempt,
      Write.enum AttemptState.all message.attemptState,
      Write.boolean message.outcomeUnknown,
      Write.boolean message.verifiedPhysically,
      Write.list Write.u64 message.partitions,
      Write.list Write.u64 message.generations,
      Write.u32 message.matched,
      Write.u32 message.missing,
      Write.u32 message.unexpected,
      Write.u32 message.adopted,
      Write.boolean message.revalidationRequired,
      Write.u64 message.accelerator,
      Write.u64 message.coordinatorEpoch,
      message.layout.encode,
      Write.list BackendAccelerator.encode message.devices,
      Write.list WorkerRecord.encode message.workers,
      Write.list PartitionRecord.encode message.partitionRecords,
      Write.text message.snapshotText 262144]

def decodeCommandResponse : ReadM CommandResponseMessage := do
  let accepted ← Read.boolean
  let code ← decodeErrorCode
  let message ← Read.text 256
  let detail ← Read.text 4096
  let plan ← Read.u64
  let planGeneration ← Read.u64
  let planOutcome ← Read.enum PlanOutcome.all "plan outcome"
  let planSteps ← Read.list 512 8 decodePlanStep
  let plannedPartitions ← Read.list 512 8 decodePlannedPartition
  let candidates ← Read.list 64 8 decodeCandidate
  let reservation ← Read.u64
  let reservationLifecycle ← Read.enum ReservationLifecycle.all "reservation lifecycle"
  let attempt ← Read.u64
  let attemptState ← Read.enum AttemptState.all "attempt state"
  let outcomeUnknown ← Read.boolean
  let verifiedPhysically ← Read.boolean
  let partitions ← Read.list 512 8 Read.u64
  let generations ← Read.list 512 8 Read.u64
  let matched ← Read.u32
  let missing ← Read.u32
  let unexpected ← Read.u32
  let adopted ← Read.u32
  let revalidationRequired ← Read.boolean
  let accelerator ← Read.u64
  let coordinatorEpoch ← Read.u64
  let layout ← decodeLayout
  let devices ← Read.list 64 8 decodeBackendAccelerator
  let workers ← Read.list 64 8 decodeWorker
  let partitionRecords ← Read.list 512 8 decodePartition
  let snapshotText ← Read.text 262144
  pure {
    accepted, code, message, detail, plan, planGeneration, planOutcome, planSteps,
    plannedPartitions, candidates, reservation, reservationLifecycle, attempt, attemptState,
    outcomeUnknown, verifiedPhysically, partitions, generations, matched, missing, unexpected,
    adopted, revalidationRequired, accelerator, coordinatorEpoch, layout, devices, workers,
    partitionRecords, snapshotText }

end PartitionFabric
