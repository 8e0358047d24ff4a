import PartitionFabric.Model.Records

/-!
Requests, policies and plans: what a caller may ask for, what governance allows, and the
binding that ties a plan to the state it was derived from.
-/

namespace PartitionFabric

/-- Hard target selection for a planning request. -/
structure DeviceSelector where
  backend : Text := []
  vendor : Text := []
  deviceFamily : Text := []
  localityDomain : Text := []
  allowed : List AcceleratorId := []
  excluded : List AcceleratorId := []
deriving DecidableEq, Repr

def DeviceSelector.admits (selector : DeviceSelector) (id : AcceleratorId) : Bool :=
  (selector.allowed.isEmpty || selector.allowed.contains id) && !selector.excluded.contains id

/-- A request to allocate partitions. -/
structure PartitionRequest where
  profile : PartitionProfileId := 0
  count : UInt32 := 1
  minimumResources : ResourceVector := {}
  isolation : IsolationRequirement := {}
  exclusive : Bool := false
  allowDrain : Bool := true
  allowDestructiveReconfiguration : Bool := false
  allowDegradedDevice : Bool := false
  allowSharedDevice : Bool := true
  selector : DeviceSelector := {}
  policyClass : Text := []
  maxEvidenceAgeMs : UInt64 := 0
  requester : Text := []
  allOrNothing : Bool := true
  requestTag : Text := []
deriving DecidableEq

def PartitionRequest.validate (request : PartitionRequest) (limits : Limits) : Status := do
  if !valid request.profile then
    failure .invalidRequest "partition request does not name a profile"
  else if request.count = 0 then
    failure .invalidRequest "partition request asks for zero partitions"
  else if request.count.toNat > limits.maxPartitionsPerAccelerator then
    failure .limitExceeded "partition request exceeds the per-accelerator partition bound"
      (decimal request.count.toNat)
  else if request.count.toNat > limits.maxPartitions then
    failure .limitExceeded "partition request exceeds the global partition bound"
  else do
    checkText request.requester limits.maxNameBytes "requester string"
    checkText request.requestTag limits.maxMetadataBytes "request tag"
    checkText request.policyClass limits.maxNameBytes "policy class"
    if request.requestTag.length > limits.maxMetadataBytes then
      failure .limitExceeded "request tag is too long"
    else if request.policyClass.length > limits.maxNameBytes then
      failure .limitExceeded "policy class string is too long"
    else if [request.selector.backend, request.selector.vendor, request.selector.deviceFamily,
        request.selector.localityDomain].any
          (fun text ↦ text.length > limits.maxMetadataBytes) then
      failure .limitExceeded "device selector string is too long"
    else if request.exclusive && !request.allOrNothing then
      failure .invalidRequest "an exclusive request must be all-or-nothing"
    else success

/-- A workload's partition requirements. -/
structure WorkloadRequirement where
  workloadId : Text := []
  tenantId : Text := []
  requiredProfile : PartitionProfileId := 0
  minimumResources : ResourceVector := {}
  isolation : IsolationRequirement := {}
  exclusive : Bool := false
  allowReconfiguration : Bool := false
  allowDrain : Bool := false
  backend : Text := []
  deviceFamily : Text := []
  localityDomain : Text := []
  requiredFreshnessMs : UInt64 := 0
  policyClass : Text := []
  requestedPartitionCount : UInt32 := 1
deriving DecidableEq

def WorkloadRequirement.validate (requirement : WorkloadRequirement) (limits : Limits) :
    Status := do
  if requirement.workloadId.isEmpty then
    failure .invalidRequest "workload requirement does not name a workload"
  else do
    checkText requirement.workloadId limits.maxNameBytes "workload identity"
    checkText requirement.tenantId limits.maxNameBytes "tenant identity"
    if requirement.requestedPartitionCount = 0 then
      failure .invalidRequest "workload requires zero partitions"
    else if requirement.minimumResources.empty && !valid requirement.requiredProfile then
      failure .invalidRequest
        "workload requirement names neither a profile nor a resource minimum"
    else success

inductive AdmissionOutcome where
  | admitted | rejectedNoCandidatePartition | rejectedInsufficientResources | rejectedIsolation
  | rejectedStaleAuthority | rejectedPolicy | rejectedProfile | rejectedDraining
  | rejectedCapability | rejectedExclusiveConflict | rejectedRevalidationRequired
  | rejectedDeviceUnavailable | rejectedLimit | rejectedInvalidRequest
deriving DecidableEq, Repr

/-- Integer weights of the ranking stage. -/
structure PlanningWeights where
  fragmentation : ℤ := 100
  capacityWaste : ℤ := 10
  destructiveReconfiguration : ℤ := 1000
  drain : ℤ := 200
  mutationCount : ℤ := 50
  health : ℤ := 500
  locality : ℤ := 25
  futureOptionality : ℤ := 75
  contiguityPreservation : ℤ := 40
  reconfigurationCost : ℤ := 100
  liveReconfigurationBonus : ℤ := -50
deriving DecidableEq, Repr

/-- Governance policy. -/
structure PlanningPolicy where
  generation : PolicyGeneration := 0
  name : Text := "default"
  weights : PlanningWeights := {}
  allowDestructiveReconfiguration : Bool := false
  allowDrain : Bool := true
  maxReconfigurationDowntimeMs : UInt64 := 0
  requireFreshEvidence : Bool := true
  maxEvidenceAgeMs : UInt64 := 30000
  requireHealthyDevice : Bool := false
  allowDegradedDevice : Bool := false
  allowExternalAdoption : Bool := false
  exclusiveByDefault : Bool := false
  maxPartitionMutationsPerPlan : UInt32 := 4
  preferLiveReconfiguration : Bool := true
  minimumIsolation : IsolationRequirement := {}
  protectedDimensions : List ResourceDimension := []
  maxInstancesPerProfile : UInt32 := 0
deriving DecidableEq, Repr

def PlanningPolicy.validate (policy : PlanningPolicy) : Status :=
  if policy.name.isEmpty then failure .invalidArgument "policy must be named"
  else if policy.maxPartitionMutationsPerPlan = 0 then
    failure .invalidArgument "policy must allow at least one partition mutation per plan"
  else if policy.requireFreshEvidence && policy.maxEvidenceAgeMs = 0 then
    failure .invalidArgument "policy requires fresh evidence but sets no freshness window"
  else if policy.weights.destructiveReconfiguration < 0 then
    failure .invalidArgument "destructive reconfiguration weight must not be negative"
  else if policy.weights.fragmentation < 0 || policy.weights.capacityWaste < 0 ||
      policy.weights.mutationCount < 0 || policy.weights.health < 0 ||
      policy.weights.futureOptionality < 0 then
    failure .invalidArgument "policy weights must not be negative"
  else if policy.protectedDimensions.length > ResourceDimension.all.length then
    failure .limitExceeded "policy protects too many resource dimensions"
  else if !decide policy.protectedDimensions.Nodup then
    failure .alreadyExists "policy lists a protected dimension more than once"
  else if policy.allowDegradedDevice && policy.requireHealthyDevice then
    failure .invalidArgument "policy both requires a healthy device and allows a degraded one"
  else success

/-- The shipped default policy. -/
def makeDefaultPolicy (generation : PolicyGeneration) : PlanningPolicy :=
  { generation := generation }

inductive PlanOutcome where
  | feasibleNow | feasibleAfterDrain | feasibleAfterReconfiguration | physicallyImpossible
  | capabilityUnsupported | capabilityUnknown | insufficientCapacity | fragmented | policyRejected
  | staleEvidence | revalidationRequired | noEligibleAccelerator | maxPartitionCountReached
  | isolationUnsatisfied | invalidRequest | limitExceeded | duplicateRequest
deriving DecidableEq, Repr

def PlanOutcome.toText : PlanOutcome → Text
  | .feasibleNow => "FEASIBLE_NOW"
  | .feasibleAfterDrain => "FEASIBLE_AFTER_DRAIN"
  | .feasibleAfterReconfiguration => "FEASIBLE_AFTER_RECONFIGURATION"
  | .physicallyImpossible => "PHYSICALLY_IMPOSSIBLE"
  | .capabilityUnsupported => "CAPABILITY_UNSUPPORTED"
  | .capabilityUnknown => "CAPABILITY_UNKNOWN"
  | .insufficientCapacity => "INSUFFICIENT_CAPACITY"
  | .fragmented => "FRAGMENTED"
  | .policyRejected => "POLICY_REJECTED"
  | .staleEvidence => "STALE_EVIDENCE"
  | .revalidationRequired => "REVALIDATION_REQUIRED"
  | .noEligibleAccelerator => "NO_ELIGIBLE_ACCELERATOR"
  | .maxPartitionCountReached => "MAX_PARTITION_COUNT_REACHED"
  | .isolationUnsatisfied => "ISOLATION_UNSATISFIED"
  | .invalidRequest => "INVALID_REQUEST"
  | .limitExceeded => "LIMIT_EXCEEDED"
  | .duplicateRequest => "DUPLICATE_REQUEST"

def planOutcomeFeasible : PlanOutcome → Bool
  | .feasibleNow | .feasibleAfterDrain | .feasibleAfterReconfiguration => true
  | _ => false

inductive PlanStepKind where
  | reserveCapacity | beginDrain | awaitDrainComplete | reconfigureLayout | createPartition
  | destroyPartition | verifyPhysicalState | commitAuthority | rollbackReservation
deriving DecidableEq, Repr

structure PlanStep where
  index : UInt32 := 0
  kind : PlanStepKind := .verifyPhysicalState
  accelerator : AcceleratorId := 0
  acceleratorGeneration : AcceleratorGeneration := 0
  acceleratorBoot : AcceleratorBootId := 0
  partition : PartitionId := 0
  profile : PartitionProfileId := 0
  plannedIndex : UInt32 := 0
  destructive : Bool := false
  requiresReset : Bool := false
  estimatedDurationMs : UInt64 := 0
  detail : Text := []
deriving DecidableEq, Repr

/-- The exact state a plan was derived from. -/
structure PlanBinding where
  accelerator : AcceleratorId := 0
  acceleratorGeneration : AcceleratorGeneration := 0
  acceleratorBoot : AcceleratorBootId := 0
  capabilityGeneration : CapabilityGeneration := 0
  topologyGeneration : TopologyGeneration := 0
  policyGeneration : PolicyGeneration := 0
  coordinatorEpoch : CoordinatorEpoch := 0
  stateGeneration : StateGeneration := 0
  evidenceGeneration : EvidenceGeneration := 0
  plannedAtMs : UInt64 := 0
  validUntilMs : UInt64 := 0
  layout : List (PartitionId × PartitionGeneration) := []
deriving DecidableEq, Repr

def PlanBinding.expiredAt (binding : PlanBinding) (nowMs : UInt64) : Bool :=
  binding.validUntilMs != 0 && nowMs > binding.validUntilMs

inductive FragmentationClass where
  | none | profileShape | sliceNotContiguous | engineGroup | memorySegment | maxPartitionCount
  | incompatibleCombination | strandedCapacity | trappedBehindActive | reconfigurationRequired
  | exceedsDeviceCapacity
deriving DecidableEq, Repr

/-- Fragmentation analysis of one accelerator for one request. -/
structure FragmentationReport where
  accelerator : AcceleratorId := 0
  acceleratorGeneration : AcceleratorGeneration := 0
  capabilityGeneration : CapabilityGeneration := 0
  profile : PartitionProfileId := 0
  requestedCount : UInt32 := 1
  classification : FragmentationClass := .none
  aggregateCapacitySufficient : Bool := false
  profileSupported : Bool := false
  feasibleNow : Bool := false
  feasibleAfterDrain : Bool := false
  feasibleAfterReconfiguration : Bool := false
  maxInstancesNow : UInt32 := 0
  maxInstancesAfterDrain : UInt32 := 0
  partitionSlotsFree : UInt32 := 0
  freeCapacity : ResourceVector := {}
  strandedCapacity : ResourceVector := {}
  capacityTrappedBehindActive : ResourceVector := {}
  capacityRecoverableByReconfiguration : ResourceVector := {}
  blockingActivePartitions : UInt32 := 0
  reconfigurationRequired : Bool := false
  reconfigurationCanHelp : Bool := false
  destructiveReconfigurationRequired : Bool := false
  estimatedDrainMs : UInt64 := 0
  estimatedReconfigurationDowntimeMs : UInt64 := 0
  estimatedPartitionMutations : UInt32 := 0
  partitionsToDrain : List PartitionId := []
  blockers : List Text := []

structure PlanScoreTerm where
  subject : Text := []
  weight : ℤ := 0
  raw : ℤ := 0
  contribution : ℤ := 0

structure PlanScore where
  total : ℤ := 0
  terms : List PlanScoreTerm := []

/-- Per-candidate evaluation. -/
structure CandidateEvaluation where
  accelerator : AcceleratorId := 0
  acceleratorGeneration : AcceleratorGeneration := 0
  eligible : Bool := false
  outcome : PlanOutcome := .noEligibleAccelerator
  fragmentation : FragmentationReport := {}
  score : PlanScore := {}

structure PartitionPlan where
  id : PartitionPlanId := 0
  generation : PartitionPlanGeneration := 0
  request : PartitionRequest := {}
  outcome : PlanOutcome := .noEligibleAccelerator
  binding : PlanBinding := {}
  plannedPartitions : List PlannedPartition := []
  steps : List PlanStep := []
  candidates : List CandidateEvaluation := []
  createdAtMs : UInt64 := 0
  requestDigest : UInt64 := 0
  terminal : Bool := false

def PartitionPlan.feasible (plan : PartitionPlan) : Bool := planOutcomeFeasible plan.outcome

/-- The first eligible candidate with the outcome of the plan, or the first eligible one. -/
def PartitionPlan.chosen (plan : PartitionPlan) : Option CandidateEvaluation :=
  match plan.candidates.find? fun candidate ↦
      candidate.eligible && candidate.outcome = plan.outcome with
  | some candidate => some candidate
  | none => plan.candidates.find? CandidateEvaluation.eligible

end PartitionFabric
