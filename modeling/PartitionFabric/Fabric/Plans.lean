import PartitionFabric.Fabric.Planner
import PartitionFabric.Fabric.Transition

/-!
The plan registry: the validity of a plan's binding, reconfiguration plans, and the operations
that create and discard plans.
-/

namespace PartitionFabric

/-- A record that takes part in the layout of its device. -/
def inLayout (record : PartitionRecord) : Bool :=
  !isTerminalState record.state && record.state ≠ .unpartitioned

/-- The first record of the live layout that the plan did not bind. -/
def unboundRecord (s : FabricState) (binding : PlanBinding) : Option PartitionRecord :=
  (s.partitionsOf binding.accelerator).find? fun record ↦
    inLayout record && !binding.layout.contains (record.id, record.generation)

/-- Whether a plan's binding still matches the live state and has not expired. -/
def validatePlanBinding (s : FabricState) (plan : PartitionPlan) (now : UInt64)
    (requireFreshEvidence : Bool) : Status :=
  if plan.binding.policyGeneration ≠ s.policyGeneration then
    failure .policyChanged "policy generation changed after the plan was built"
  else if plan.terminal then
    failure .stalePlan "plan has already been discarded or consumed"
  else if plan.binding.expiredAt now then
    failure .stalePlan "plan validity window has expired"
      (decimal plan.binding.validUntilMs.toNat)
  else if !valid plan.binding.accelerator then
    failure .stalePlan "plan does not bind an accelerator"
  else
    match s.findAccelerator plan.binding.accelerator with
    | none => failure .stalePlan "planned accelerator is no longer registered"
    | some accelerator =>
      if accelerator.generation ≠ plan.binding.acceleratorGeneration then
        failure .staleGeneration "device generation changed after the plan was built"
      else if accelerator.bootId ≠ plan.binding.acceleratorBoot then
        failure .staleGeneration "device incarnation changed after the plan was built"
      else if accelerator.capability.generation ≠ plan.binding.capabilityGeneration then
        failure .capabilityChanged "capability generation changed after the plan was built"
      else if requireFreshEvidence && !accelerator.evidence.isFreshAt now then
        failure .staleEvidence "device evidence is no longer fresh"
      else
        match unboundRecord s plan.binding with
        | some record =>
          failure .stalePlan "device layout contains a partition the plan did not bind"
            (decimal record.id.toNat ++ (" generation=" : Text) ++
              decimal record.generation.toNat)
        | none =>
          let seen := (s.partitionsOf plan.binding.accelerator).countP inLayout
          if seen ≠ plan.binding.layout.length then
            -- the difference is printed as an unsigned size
            failure .stalePlan "a partition the plan bound is no longer present on the device"
              (decimal (plan.binding.layout.length.toUInt64 - seen.toUInt64).toNat ++
                (" missing" : Text))
          else success

/-- The summed resources of a target layout; the first one sets the dimensions. -/
def accumulate (desired : List PlannedPartition) : Result ResourceVector :=
  desired.foldlM (fun out planned ↦
    if out.empty then .ok planned.resources
    else match ResourceVector.addAssign planned.resources out with
      | (sum, .ok _) => .ok sum
      | (_, .error e) => .error e) {}

/-- Whether a target layout combines mutually exclusive profiles. -/
def desiredConflicts (s : FabricState) : List PlannedPartition → Bool
  | [] => false
  | planned :: rest =>
    (match s.findProfile planned.profile with
      | none => false
      | some left => rest.any fun other ↦ (s.findProfile other.profile).any left.conflictsWith) ||
      desiredConflicts s rest

/-- Checks the profiles of a target layout and sums their slices. -/
def checkTarget (s : FabricState) (accelerator : AcceleratorRecord) :
    List PlannedPartition → UInt32 → UInt32 → Except PlanOutcome (UInt32 × UInt32)
  | [], compute, memory => .ok (compute, memory)
  | planned :: rest, compute, memory =>
    match s.findProfile planned.profile with
    | none => .error .capabilityUnknown
    | some profile =>
      if !accelerator.capability.supportsProfile profile.id then .error .capabilityUnsupported
      else if !profile.backend.isEmpty && profile.backend ≠ accelerator.backend then
        .error .policyRejected
      else if compute > uint32Max - profile.computeSliceCount ||
          memory > uint32Max - profile.memorySliceCount then
        .error .limitExceeded
      else checkTarget s accelerator rest (compute + profile.computeSliceCount)
        (memory + profile.memorySliceCount)

/-- Whether a device can take the target layout in place of its current one. -/
def checkReconfiguration (s : FabricState) (accelerator : AcceleratorRecord)
    (ledger : CapacityLedger) (desired : List PlannedPartition) (context : PartitionRequest) :
    Except PlanOutcome Unit := do
  if desired.isEmpty then .error .invalidRequest
  else if desired.length > s.limits.maxPartitionsPerAccelerator then .error .limitExceeded
  else if !accelerator.capability.declaresSupported then .error .capabilityUnsupported
  else if accelerator.capability.maxPartitionCount > 0 &&
      desired.length > accelerator.capability.maxPartitionCount.toNat then
    .error .maxPartitionCountReached
  else if !s.policy.allowDestructiveReconfiguration ||
      !context.allowDestructiveReconfiguration then
    .error .policyRejected
  else do
    let (compute, memory) ← checkTarget s accelerator desired 0 0
    if desiredConflicts s desired then .error .fragmented
    else if accelerator.capability.totalComputeSlices > 0 &&
        compute > accelerator.capability.totalComputeSlices then
      .error .physicallyImpossible
    else if accelerator.capability.totalMemorySlices > 0 &&
        memory > accelerator.capability.totalMemorySlices then
      .error .physicallyImpossible
    else
      match accumulate desired with
      | .error _ => .error .limitExceeded
      | .ok target =>
        match ResourceVector.subAssign (ledger.bucket .unavailable) ledger.total with
        | (_, .error _) => .error .revalidationRequired
        | (usable, .ok _) =>
          if target.isSubsetOf usable then .ok () else .error .insufficientCapacity

/-- What the change from the current layout of a device to a desired one schedules. -/
def reconfigurationSteps (s : FabricState) (existing : List PartitionId)
    (desired : List PlannedPartition) (capability : PartitionCapability) : List PlanStep :=
  [{ kind := .reserveCapacity, detail := "hold the target layout capacity" }] ++
  (existing.flatMap fun partition ↦
    let needsDrain := (s.findPartition partition).any fun record ↦ !record.drain.destructiveSafe
    [{ kind := .beginDrain
       estimatedDurationMs := capability.drainEstimateMs
       detail := if needsDrain then "drain before destructive reconfiguration"
         else "drain already complete"
       partition := partition }] ++
    (if needsDrain then
      [{ kind := .awaitDrainComplete
         estimatedDurationMs := capability.drainEstimateMs
         detail := "destructive mutation is unsafe until outstanding work reaches zero"
         partition := partition }]
    else []) ++
    [{ kind := .destroyPartition
       destructive := true
       detail := "destroy the superseded physical partition"
       partition := partition }]) ++
  [{ kind := .reconfigureLayout
     destructive := true
     requiresReset := capability.requiresResetForReconfiguration
     estimatedDurationMs := capability.reconfigurationEstimateMs
     detail := "rebuild the physical layout under a registered attempt" }] ++
  ((List.range desired.length).map fun ordinal ↦
    { kind := .createPartition
      destructive := true
      requiresReset := capability.requiresResetForReconfiguration
      estimatedDurationMs := capability.reconfigurationEstimateMs
      detail := "create physical partition"
      plannedIndex := ordinal.toUInt32 }) ++
  [{ kind := .verifyPhysicalState
     detail := "rediscover the device and verify the new geometry" },
   { kind := .commitAuthority
     detail := "publish new partition generations and fence the old ones" }]

/-- Plans the change from the current layout of a device to a desired one. -/
def buildReconfigurationPlan (s : FabricState) (id : AcceleratorId)
    (desired : List PlannedPartition) (context : PartitionRequest) (now : UInt64) :
    PartitionPlan :=
  let request := { context with count := desired.length.toUInt32 }
  let binding : PlanBinding :=
    { accelerator := id
      policyGeneration := s.policyGeneration
      coordinatorEpoch := s.coordinatorEpoch
      stateGeneration := s.stateGeneration
      plannedAtMs := now }
  let plan : PartitionPlan :=
    { request := request
      requestDigest := requestDigest request
      createdAtMs := now
      binding := binding
      plannedPartitions := desired
      outcome := .feasibleAfterReconfiguration }
  match s.findAccelerator id with
  | none => { plan with outcome := .noEligibleAccelerator }
  | some accelerator =>
    match s.findLedger id with
    | none => { plan with outcome := .revalidationRequired }
    | some ledger =>
      let window := if context.maxEvidenceAgeMs ≠ 0 then context.maxEvidenceAgeMs
        else s.policy.maxEvidenceAgeMs
      let binding := { binding with
        acceleratorGeneration := accelerator.generation
        acceleratorBoot := accelerator.bootId
        capabilityGeneration := accelerator.capability.generation
        topologyGeneration := accelerator.topologyGeneration
        evidenceGeneration := accelerator.evidence.generation
        validUntilMs := if window = 0 then 0 else now + window }
      match checkReconfiguration s accelerator ledger desired context with
      | .error outcome => { plan with binding := binding, outcome := outcome }
      | .ok _ =>
        let existing := (s.partitionsOf id).filter inLayout
        { plan with
          binding := { binding with layout := existing.map fun r ↦ (r.id, r.generation) }
          steps := pushSteps s binding ((desired.head?.map PlannedPartition.profile).getD 0)
            (reconfigurationSteps s ((existing.map PartitionRecord.id).insertionSort (· ≤ ·))
              desired accelerator.capability) }

/-- Makes room in the plan registry or reports that it is full. -/
def makePlanRoom : FabricM Unit := do
  let s ← Procedure.get
  Procedure.when (s.plans.size ≥ s.limits.maxPendingPlans) do
    Procedure.modify prunePlans
    let s ← Procedure.get
    Procedure.require (s.plans.size < s.limits.maxPendingPlans)
      (makeError .limitExceeded "pending plan registry is full")

/-- Gives a materialised plan its identity and registers it. -/
def registerPlan (plan : PartitionPlan) : FabricM PartitionPlan := do
  let id ← allocateId
  let plan := { plan with id := id, generation := 1 }
  Procedure.modify fun s ↦ { s with plans := s.plans.insert id plan }
  pure plan

/-- Plans a request, or returns the identical plan that is still current. -/
def plan (request : PartitionRequest) (now : UInt64) : FabricM PartitionPlan := do
  checkOpen
  let s ← Procedure.get
  let current := s.plans.values.find? fun existing ↦
    !existing.terminal && existing.requestDigest = requestDigest request &&
      existing.binding.policyGeneration = s.policyGeneration &&
      (validatePlanBinding s existing now false).isOk
  match current with
  | some existing => pure existing
  | none => do
    makePlanRoom
    let s ← Procedure.get
    registerPlan (buildPlan s request now)

/-- Plans a request on one accelerator. -/
def planOn (id : AcceleratorId) (request : PartitionRequest) (now : UInt64) :
    FabricM PartitionPlan := do
  let narrowed := { request with
    selector := { request.selector with allowed := [id], excluded := [] } }
  let planned ← plan narrowed now
  Procedure.require (!(!planned.feasible && planned.binding.accelerator ≠ id))
    (makeError .notFound "plan was not produced for the requested accelerator"
      (decimal id.toNat))
  pure planned

def planReconfiguration (id : AcceleratorId) (desired : List PlannedPartition)
    (context : PartitionRequest) (now : UInt64) : FabricM PartitionPlan := do
  checkOpen
  makePlanRoom
  let s ← Procedure.get
  registerPlan (buildReconfigurationPlan s id desired context now)

def discardPlan (id : PartitionPlanId) : FabricM Unit := do
  let s ← Procedure.get
  Procedure.require (s.plans.contains id) (makeError .notFound "plan is not known" (decimal id.toNat))
  Procedure.modify fun s ↦
    { s with plans := s.plans.modify id fun plan ↦ { plan with terminal := true } }
  Procedure.modify FabricState.bumpStateGeneration

end PartitionFabric
