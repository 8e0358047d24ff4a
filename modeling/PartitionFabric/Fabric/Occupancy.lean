import PartitionFabric.Fabric.Dispatch

/-!
Occupancy of partitions: admission of workloads, their assignments, and the drain gate.
-/

namespace PartitionFabric

def AdmissionOutcome.toText : AdmissionOutcome → Text
  | admitted => "ADMITTED"
  | rejectedNoCandidatePartition => "REJECTED_NO_CANDIDATE_PARTITION"
  | rejectedInsufficientResources => "REJECTED_INSUFFICIENT_RESOURCES"
  | rejectedIsolation => "REJECTED_ISOLATION"
  | rejectedStaleAuthority => "REJECTED_STALE_AUTHORITY"
  | rejectedPolicy => "REJECTED_POLICY"
  | rejectedProfile => "REJECTED_PROFILE"
  | rejectedDraining => "REJECTED_DRAINING"
  | rejectedCapability => "REJECTED_CAPABILITY"
  | rejectedExclusiveConflict => "REJECTED_EXCLUSIVE_CONFLICT"
  | rejectedRevalidationRequired => "REJECTED_REVALIDATION_REQUIRED"
  | rejectedDeviceUnavailable => "REJECTED_DEVICE_UNAVAILABLE"
  | rejectedLimit => "REJECTED_LIMIT"
  | rejectedInvalidRequest => "REJECTED_INVALID_REQUEST"

/-- What the admission engine would decide, without binding authority. -/
structure AdmissionProbe where
  outcome : AdmissionOutcome := .rejectedNoCandidatePartition
  partition : PartitionId := 0
  profile : PartitionProfileId := 0
  resources : ResourceVector := {}
  candidatesConsidered : UInt32 := 0

structure AdmissionDecision where
  outcome : AdmissionOutcome := .rejectedNoCandidatePartition
  partition : PartitionId := 0
  partitionGeneration : PartitionGeneration := 0
  assignment : PartitionAssignmentId := 0
  accelerator : AcceleratorId := 0
  acceleratorGeneration : AcceleratorGeneration := 0
  candidatesConsidered : UInt32 := 0
  stateGeneration : StateGeneration := 0
  coordinatorEpoch : CoordinatorEpoch := 0
  policyGeneration : PolicyGeneration := 0
  message : Text := []
deriving DecidableEq

/-- The number of assignments that occupy a partition. -/
def FabricState.occupants (s : FabricState) (p : PartitionId) : ℕ :=
  s.assignments.values.countP fun a ↦ a.partition = p

/-- Why a record is no candidate at all; a record that is merely not active gives no reason. -/
def notCandidate (s : FabricState) (record : PartitionRecord) :
    Except (Option AdmissionOutcome) AcceleratorRecord :=
  match s.findAccelerator record.accelerator with
  | none => .error (some .rejectedDeviceUnavailable)
  | some accelerator =>
    if record.state = .draining || record.drain.state = .draining then
      .error (some .rejectedDraining)
    else if record.state = .revalidationRequired || record.state = .offline ||
        record.state = .degraded then
      .error (some .rejectedRevalidationRequired)
    else if record.state ≠ .active then .error none
    else .ok accelerator

/-- Why an active candidate does not satisfy a requirement. -/
def candidateObstacle (s : FabricState) (requirement : WorkloadRequirement) (now : UInt64)
    (record : PartitionRecord) (accelerator : AcceleratorRecord) : Option AdmissionOutcome :=
  let window := if requirement.requiredFreshnessMs ≠ 0 then requirement.requiredFreshnessMs
    else s.policy.maxEvidenceAgeMs
  let fresh := now ≤ record.evidence.observedAtMs ||
    now - record.evidence.observedAtMs ≤ (if window = 0 then record.evidence.ttlMs else window)
  if !requirement.backend.isEmpty && requirement.backend ≠ accelerator.backend then
    some .rejectedCapability
  else if !requirement.deviceFamily.isEmpty &&
      requirement.deviceFamily ≠ accelerator.identifiers.model then
    some .rejectedCapability
  else if !requirement.localityDomain.isEmpty &&
      requirement.localityDomain ≠ accelerator.locality.name then
    some .rejectedCapability
  else if valid requirement.requiredProfile && record.profile ≠ requirement.requiredProfile then
    some .rejectedProfile
  else if !requirement.minimumResources.empty &&
      !requirement.minimumResources.isSubsetOf record.resources then
    some .rejectedInsufficientResources
  else if !requirement.isolation.required.isSubsetOf record.isolation.guarantees then
    some .rejectedIsolation
  else if !accelerator.capability.declaresSupported then some .rejectedCapability
  else if requirement.exclusive && s.occupants record.id > 0 then some .rejectedExclusiveConflict
  else if !record.evidence.isObserved || !fresh then some .rejectedStaleAuthority
  else none

/-- The order in which reasons for a rejection are reported. -/
def rejectionOrder : List AdmissionOutcome :=
  [.rejectedDraining, .rejectedRevalidationRequired, .rejectedStaleAuthority, .rejectedIsolation,
    .rejectedInsufficientResources, .rejectedExclusiveConflict, .rejectedProfile,
    .rejectedCapability, .rejectedDeviceUnavailable]

/-- Searches the records in order for one that satisfies a requirement. -/
def searchCandidates (s : FabricState) (requirement : WorkloadRequirement) (now : UInt64) :
    List PartitionRecord → UInt32 → List AdmissionOutcome → AdmissionProbe
  | [], considered, seen =>
    { outcome := (rejectionOrder.find? seen.contains).getD .rejectedNoCandidatePartition
      candidatesConsidered := considered }
  | record :: rest, considered, seen =>
    match notCandidate s record with
    | .error reason => searchCandidates s requirement now rest considered (reason.toList ++ seen)
    | .ok accelerator =>
      match candidateObstacle s requirement now record accelerator with
      | some reason => searchCandidates s requirement now rest (considered + 1) (reason :: seen)
      | none =>
        { outcome := .admitted
          partition := record.id
          profile := record.profile
          resources := record.resources
          candidatesConsidered := considered + 1 }

def evaluateAdmission (s : FabricState) (requirement : WorkloadRequirement) (now : UInt64) :
    AdmissionProbe :=
  match requirement.validate s.limits with
  | .error _ => { outcome := .rejectedInvalidRequest }
  | .ok _ => searchCandidates s requirement now s.partitions.values 0 []

/-- Why a probed partition cannot be bound after all. -/
def commitObstacle (s : FabricState) (requirement : WorkloadRequirement)
    (record : PartitionRecord) (accelerator : AcceleratorRecord) :
    Option (AdmissionOutcome × Text) :=
  if !accelerator.capability.supportsProfile record.profile then
    some (.rejectedCapability, "device capability no longer publishes the partition profile")
  else if !requirement.isolation.required.isSubsetOf record.isolation.guarantees then
    some (.rejectedIsolation, "partition isolation guarantees changed")
  else if !requirement.minimumResources.empty &&
      !requirement.minimumResources.isSubsetOf record.resources then
    some (.rejectedInsufficientResources, "partition resources no longer satisfy the requirement")
  else if s.assignments.size ≥ s.limits.maxAssignments then
    some (.rejectedLimit, "assignment registry is full")
  else if s.occupants record.id > 0 && (requirement.exclusive || s.policy.exclusiveByDefault) then
    some (.rejectedExclusiveConflict, "partition already hosts an authoritative assignment")
  else none

def assignmentFor (s : FabricState) (requirement : WorkloadRequirement)
    (record : PartitionRecord) (accelerator : AcceleratorRecord) (id : PartitionAssignmentId)
    (now : UInt64) : PartitionAssignment :=
  { id := id
    partition := record.id
    partitionGeneration := record.generation
    accelerator := record.accelerator
    acceleratorGeneration := accelerator.generation
    workloadId := requirement.workloadId
    tenantId := requirement.tenantId
    isolation := requirement.isolation
    policyGeneration := s.policyGeneration
    coordinatorEpoch := s.coordinatorEpoch
    evidenceGeneration := record.evidence.generation
    exclusive := requirement.exclusive || s.policy.exclusiveByDefault
    boundAtMs := now
    lastValidatedAtMs := now }

/-- Marks a partition as assigned and keeps the count of a drain that is recorded. -/
def PartitionRecord.occupy (record : PartitionRecord) : PartitionRecord :=
  { record with
    assignmentState := .assigned
    drain :=
      if record.drain.state = .drainComplete || record.drain.state = .draining then
        { record.drain with outstandingAssignments := record.drain.outstandingAssignments + 1 }
      else record.drain }

/-- Binds a workload to a probed partition. -/
def admitTo (requirement : WorkloadRequirement) (p : PartitionId) (record : PartitionRecord)
    (accelerator : AcceleratorRecord) (now : UInt64) (decision : AdmissionDecision) :
    FabricM AdmissionDecision := do
  match ← Procedure.attempt allocateId with
  | .error e => pure { decision with outcome := .rejectedLimit, message := e.toText }
  | .ok id => do
    let s ← Procedure.get
    let assignment := assignmentFor s requirement record accelerator id now
    match assignment.validate with
    | .error e => pure { decision with outcome := .rejectedInvalidRequest, message := e.toText }
    | .ok _ => do
      Procedure.modify fun s ↦ { s with assignments := s.assignments.insert id assignment }
      Procedure.modify fun s ↦ s.modifyPartition p PartitionRecord.occupy
      Procedure.modify FabricState.bumpStateGeneration
      pure { decision with
        outcome := .admitted
        partition := record.id
        partitionGeneration := record.generation
        assignment := id
        accelerator := record.accelerator
        acceleratorGeneration := accelerator.generation
        message := ("workload admitted to partition " : Text) ++ decimal record.id.toNat }

/-- Revalidates a probed partition immediately before authority is bound. -/
def admitProbed (requirement : WorkloadRequirement) (p : PartitionId) (now : UInt64)
    (decision : AdmissionDecision) : FabricM AdmissionDecision := do
  let s ← Procedure.get
  match (s.findPartition p).filter fun record ↦ record.state = .active with
  | none =>
    pure { decision with
      outcome := .rejectedStaleAuthority
      message := "partition authority changed between evaluation and commit" }
  | some record =>
    match s.findAccelerator record.accelerator with
    | none =>
      pure { decision with
        outcome := .rejectedDeviceUnavailable
        message := "partition accelerator is no longer registered" }
    | some accelerator =>
      match commitObstacle s requirement record accelerator with
      | some (outcome, message) => pure { decision with outcome := outcome, message := message }
      | none => admitTo requirement p record accelerator now decision

/-- Admits a workload to the first partition that satisfies it. -/
def admitWorkload (requirement : WorkloadRequirement) (now : UInt64) : FabricM AdmissionDecision := do
  let s ← Procedure.get
  let decision : AdmissionDecision :=
    { stateGeneration := s.stateGeneration
      coordinatorEpoch := s.coordinatorEpoch
      policyGeneration := s.policyGeneration }
  match ← Procedure.attempt checkOpen with
  | .error e => pure { decision with outcome := .rejectedPolicy, message := e.toText }
  | .ok _ =>
    let probe := evaluateAdmission s requirement now
    let decision := { decision with candidatesConsidered := probe.candidatesConsidered }
    if probe.outcome ≠ .admitted then
      pure { decision with outcome := probe.outcome, message := probe.outcome.toText }
    else admitProbed requirement probe.partition now decision

/-- The identity under which an assignment is stored. -/
def identifyAssignment (assignment : PartitionAssignment) : FabricM PartitionAssignmentId :=
  if valid assignment.id then pure assignment.id else allocateId

/-- Binds an assignment that was decided elsewhere. -/
def bindAssignment (assignment : PartitionAssignment) : FabricM Unit := do
  Procedure.lift assignment.validate
  let s ← Procedure.get
  match s.findPartition assignment.partition with
  | none =>
    Procedure.throw (makeError .notFound "partition is not known"
      (decimal assignment.partition.toNat))
  | some record => do
    Procedure.require (record.generation = assignment.partitionGeneration)
      (makeError .stalePartitionGeneration "assignment targets a superseded partition generation"
        (decimal assignment.partition.toNat))
    Procedure.require (record.state = .active)
      (makeError .revalidationRequired "assignment targets a partition that is not authoritative"
        record.state.toText)
    Procedure.require (s.assignments.size < s.limits.maxAssignments)
      (makeError .limitExceeded "assignment registry is full")
    let id ← identifyAssignment assignment
    Procedure.modify fun s ↦
      { s with assignments := s.assignments.insert id { assignment with id := id } }
    Procedure.modify fun s ↦ s.modifyPartition assignment.partition fun r ↦
      { r with assignmentState := .assigned }
    Procedure.modify FabricState.bumpStateGeneration

/-- Updates a partition that one of its assignments left. -/
def PartitionRecord.vacate (record : PartitionRecord) (remaining : ℕ) (now : UInt64) :
    PartitionRecord :=
  { record with
    assignmentState := if remaining = 0 then .unassigned else .assigned
    drain :=
      if record.drain.state = .draining then
        if remaining = 0 then
          { record.drain with
            outstandingAssignments := 0
            state := .drainComplete
            completedAtMs := now }
        else { record.drain with outstandingAssignments := remaining.toUInt32 }
      else record.drain }

def unbindAssignment (id : PartitionAssignmentId) (now : UInt64) : FabricM Unit := do
  let s ← Procedure.get
  match s.assignments.find? id with
  | none => Procedure.throw (makeError .notFound "assignment is not known" (decimal id.toNat))
  | some assignment => do
    Procedure.modify fun s ↦ { s with assignments := s.assignments.erase id }
    Procedure.modify fun s ↦ s.modifyPartition assignment.partition fun record ↦
      record.vacate (s.occupants assignment.partition) now
    Procedure.modify FabricState.bumpStateGeneration

/-- The progress of a drain that starts over a number of assignments. -/
def DrainProgress.begun (drain : DrainProgress) (outstanding : UInt32) (now : UInt64) :
    DrainProgress :=
  { drain with
    state := if outstanding = 0 then .drainComplete else .draining
    outstandingAssignments := outstanding
    totalAssignments := outstanding
    startedAtMs := now
    completedAtMs := if outstanding = 0 then now else 0 }

/-- Starts the drain of one partition. -/
def beginDrain (p : PartitionId) (reason : Text) (now : UInt64) : FabricM Unit := do
  let s ← Procedure.get
  match s.findPartition p with
  | none => Procedure.throw (makeError .notFound "partition is not known" (decimal p.toNat))
  | some record => do
    Procedure.require (record.state = .active || record.state = .degraded)
      (makeError .invalidTransition "only an active partition can be drained"
        (decimal p.toNat ++ (" is " : Text) ++ record.state.toText))
    transitionPartition now p .draining (if reason.isEmpty then "drain requested" else reason)
    Procedure.modify fun s ↦ s.modifyPartition p fun r ↦
      { r with
        drain := { r.drain.begun (s.occupants p).toUInt32 now with
          blockedReason := [], blocker := [] } }
    Procedure.modify FabricState.bumpStateGeneration

/-- Starts the drain of one partition of a device that drains. -/
def beginDeviceDrain (reason : Text) (now : UInt64) (p : PartitionId) : FabricM Unit := do
  transitionPartition now p .draining
    (if reason.isEmpty then "device drain requested" else reason)
  Procedure.modify fun s ↦ s.modifyPartition p fun r ↦
    { r with drain := r.drain.begun (s.occupants p).toUInt32 now }

def beginDrainAccelerator (id : AcceleratorId) (reason : Text) (now : UInt64) :
    FabricM Unit := do
  let s ← Procedure.get
  let targets := (s.partitionsOf id).filter fun record ↦
    record.state = .active || record.state = .degraded
  Procedure.require (!targets.isEmpty)
    (makeError .notFound "accelerator has no drainable partition" (decimal id.toNat))
  targets.forM fun record ↦ beginDeviceDrain reason now record.id
  Procedure.modify FabricState.bumpStateGeneration

/-- Completes a drain, or records what blocks it. -/
def completeDrain (p : PartitionId) (now : UInt64) : FabricM Unit := do
  let s ← Procedure.get
  match s.findPartition p with
  | none => Procedure.throw (makeError .notFound "partition is not known" (decimal p.toNat))
  | some record => do
    Procedure.require (record.state = .draining)
      (makeError .invalidTransition "partition is not draining" record.state.toText)
    let outstanding := (s.occupants p).toUInt32
    if outstanding ≠ 0 then do
      Procedure.modify fun s ↦ s.modifyPartition p fun r ↦
        { r with
          drain := { r.drain with
            outstandingAssignments := outstanding
            state := .drainBlocked
            blocker := "outstanding-authoritative-assignments"
            blockedReason :=
              "this runtime owns the partition-side drain gate, not workload migration" } }
      Procedure.throw (makeError .drainRequired
        "drain cannot complete while assignments remain outstanding" (decimal outstanding.toNat))
    else do
      Procedure.modify fun s ↦ s.modifyPartition p fun r ↦
        { r with
          drain := { r.drain with
            outstandingAssignments := outstanding
            state := .drainComplete
            completedAtMs := now
            blocker := []
            blockedReason := [] } }
      Procedure.modify FabricState.bumpStateGeneration

def cancelDrain (p : PartitionId) (now : UInt64) : FabricM Unit := do
  let s ← Procedure.get
  match s.findPartition p with
  | none => Procedure.throw (makeError .notFound "partition is not known" (decimal p.toNat))
  | some record => do
    Procedure.require (record.state = .draining)
      (makeError .invalidTransition "partition is not draining" record.state.toText)
    Procedure.require (destructionSafe s record || record.drain.outstandingAssignments = 0)
      (makeError .drainRequired
        "drain cannot be cancelled while work still occupies the partition")
    transitionPartition now p .active "drain cancelled"
    Procedure.modify fun s ↦ s.modifyPartition p fun r ↦
      { r with
        drain := { r.drain with
          state := .notDraining
          startedAtMs := 0
          completedAtMs := 0
          blocker := []
          blockedReason := [] } }
    Procedure.modify FabricState.bumpStateGeneration

end PartitionFabric
