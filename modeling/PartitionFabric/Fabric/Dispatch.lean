import PartitionFabric.Fabric.Apply

/-!
Dispatch of physical mutations: the checks made under the lock before a backend is called.
-/

namespace PartitionFabric

/-- The stable key of a device; looking it up creates an empty one where there is none. -/
def stableKeyOf (id : AcceleratorId) : FabricM Text := fun s ↦
  match s.stableKeys.find? id with
  | some key => (s, .ok key)
  | none => ({ s with stableKeys := s.stableKeys.insert id [] }, .ok [])

/-- The authority that a mutation request carries. -/
def requestFor (s : FabricState) (accelerator : AcceleratorRecord) (attempt : PartitionAttempt)
    (stableKey : Text) : PartitionMutationRequest :=
  { stableKey := stableKey
    expectedBoot := accelerator.bootId
    expectedAcceleratorGeneration := accelerator.generation
    expectedCapabilityGeneration := accelerator.capability.generation
    coordinatorEpoch := s.coordinatorEpoch
    worker := attempt.worker
    workerBoot := attempt.workerBoot
    attempt := attempt.id
    idempotencyToken := attempt.token }

/-- Ends with an error after the reservation lost its authority. -/
def fenceAndThrow {α : Type} (id : PartitionReservationId) (reason : Text) (now : UInt64)
    (e : Error) : FabricM α := do
  Procedure.ignore (fenceReservationLocked id reason now)
  Procedure.throw e

/-- Registers a creation whose authority is current and builds the request for the backend. -/
def dispatchCreation (id : PartitionReservationId) (reservation : PartitionReservation)
    (plan : PartitionPlan) (accelerator : AcceleratorRecord) (now : UInt64) :
    FabricM PartitionMutationRequest := do
  let attempt ← registerAttemptLocked id reservation .createPartition 0 0 now
  let stableKey ← stableKeyOf accelerator.id
  let s ← Procedure.get
  pure { requestFor s accelerator attempt stableKey with
    desired := (attempt.partitions.zip plan.plannedPartitions).map fun (p, planned) ↦
      { planned.spec with logicalPartition := p } }

/-- Rechecks a reservation against the live device, then registers its creation. -/
def executeBound (id : PartitionReservationId) (reservation : PartitionReservation)
    (plan : PartitionPlan) (now : UInt64) : FabricM PartitionMutationRequest := do
  let s ← Procedure.get
  match s.findAccelerator reservation.accelerator with
  | none => Procedure.throw (makeError .notFound "reserved accelerator is no longer registered")
  | some accelerator =>
    if accelerator.generation ≠ reservation.acceleratorGeneration ||
        accelerator.bootId ≠ reservation.acceleratorBoot then
      fenceAndThrow id "device generation changed before execution" now
        (makeError .staleGeneration
          "device generation changed before the mutation was dispatched")
    else if accelerator.capability.generation ≠ reservation.capabilityGeneration then
      fenceAndThrow id "capability generation changed before execution" now
        (makeError .capabilityChanged
          "capability generation changed before the mutation was dispatched")
    else if s.policyGeneration ≠ reservation.policyGeneration then
      fenceAndThrow id "policy generation changed before execution" now
        (makeError .policyChanged
          "policy generation changed before the mutation was dispatched")
    else if reservation.expiresAtMs ≠ 0 && now > reservation.expiresAtMs then do
      Procedure.ignore (releaseReservationLocked id "reservation expired before execution" now)
      Procedure.throw (makeError .staleReservation "reservation expired before execution")
    else do
      Procedure.require (accelerator.evidence.isFreshAt now || !s.policy.requireFreshEvidence)
        (makeError .staleEvidence
          "device evidence is not fresh enough to authorise a physical mutation")
      dispatchCreation id reservation plan accelerator now

/-- Dispatches the creation of a reservation's partitions. -/
def execute (id : PartitionReservationId) (now : UInt64) : FabricM PartitionMutationRequest := do
  checkOpen
  let s ← Procedure.get
  match s.findReservation id with
  | none => Procedure.throw (makeError .notFound "reservation is not known" (decimal id.toNat))
  | some reservation => do
    Procedure.require (reservation.lifecycle = .active)
      (makeError .staleReservation "reservation is not active"
        (decimal id.toNat ++ (" is " : Text) ++ reservation.lifecycle.toText))
    Procedure.require (!(s.requireWorkerForMutation && !valid reservation.worker))
      (makeError .staleWorker
        "this deployment requires a worker incarnation to own physical mutation"
        (decimal id.toNat))
    match s.plans.find? reservation.plan with
    | none =>
      Procedure.throw (makeError .stalePlan "the plan behind this reservation is gone")
    | some plan =>
      match validatePlanBinding s plan now s.policy.requireFreshEvidence with
      | .error e => do
        Procedure.modify fun s ↦
          { s with
            plans := s.plans.modify reservation.plan fun p ↦ { p with terminal := true } }
        fenceAndThrow id e.toText now e
      | .ok _ => executeBound id reservation plan now

/-- Nothing authoritative still occupies the partition. -/
def destructionSafe (s : FabricState) (record : PartitionRecord) : Bool :=
  if record.drain.destructiveSafe then true
  else if record.drain.state = .draining || record.drain.state = .drainBlocked then false
  else if s.assignments.values.any fun a ↦ a.partition = record.id then false
  else record.assignmentState ≠ .assigned

/-- The plan that stands for a destruction or a destructive reconfiguration. -/
def destructivePlan (s : FabricState) (accelerator : AcceleratorRecord)
    (affected : List PartitionRecord) (id : PartitionPlanId) (now : UInt64) : PartitionPlan :=
  { id := id
    generation := 1
    outcome := .feasibleAfterReconfiguration
    createdAtMs := now
    binding :=
      { accelerator := accelerator.id
        acceleratorGeneration := accelerator.generation
        acceleratorBoot := accelerator.bootId
        capabilityGeneration := accelerator.capability.generation
        topologyGeneration := accelerator.topologyGeneration
        policyGeneration := s.policyGeneration
        coordinatorEpoch := s.coordinatorEpoch
        stateGeneration := s.stateGeneration
        evidenceGeneration := accelerator.evidence.generation
        plannedAtMs := now
        validUntilMs :=
          if s.policy.maxEvidenceAgeMs = 0 then 0 else now + s.policy.maxEvidenceAgeMs
        layout := affected.map fun record ↦ (record.id, record.generation) }
    plannedPartitions := affected.zipIdx.map fun (record, index) ↦
      { profile := record.profile
        profileGeneration := record.profileGeneration
        resources := record.resources
        ordinal := (index + 1).toUInt32
        vendorNativeProfile :=
          ((s.findProfile record.profile).map PartitionProfile.vendorNative).getD [] } }

/-- The reservation over existing partitions that a destructive mutation runs under. -/
def destructiveReservation (s : FabricState) (accelerator : AcceleratorRecord)
    (affected : List PartitionRecord) (hold : ResourceVector) (plan : PartitionPlan)
    (id : PartitionReservationId) (now : UInt64) : PartitionReservation :=
  { id := id
    plan := plan.id
    planGeneration := plan.generation
    accelerator := accelerator.id
    acceleratorGeneration := accelerator.generation
    acceleratorBoot := accelerator.bootId
    capabilityGeneration := accelerator.capability.generation
    topologyGeneration := accelerator.topologyGeneration
    policyGeneration := s.policyGeneration
    coordinatorEpoch := s.coordinatorEpoch
    lifecycle := .active
    partitions := affected.map PartitionRecord.id
    partitionGenerations := affected.map PartitionRecord.generation
    resources := if hold.empty then {} else hold
    destructive := true
    createdAtMs := now
    updatedAtMs := now
    expiresAtMs := plan.binding.validUntilMs }

/-- Holds the additional capacity of a destructive mutation; a failure takes its plan back. -/
def holdCapacity (id : AcceleratorId) (hold : ResourceVector) (plan : PartitionPlanId) :
    FabricM Unit :=
  Procedure.when (!hold.empty) do
    match ← Procedure.attempt (onLedger id (CapacityLedger.reserve hold)) with
    | .ok _ => pure ()
    | .error e => do
      Procedure.modify fun s ↦ { s with plans := s.plans.erase plan }
      Procedure.throw e

/-- Allocates the plan and the reservation of a destructive mutation. -/
def createDestructiveReservationLocked (accelerator : AcceleratorRecord)
    (affected : List PartitionRecord) (hold : ResourceVector) (now : UInt64) :
    FabricM PartitionReservation := do
  let planId ← allocateId
  let id ← allocateId
  let s ← Procedure.get
  let plan := destructivePlan s accelerator affected planId now
  Procedure.modify fun s ↦ { s with plans := s.plans.insert planId plan }
  let reservation := destructiveReservation s accelerator affected hold plan id now
  Procedure.require (s.ledgers.contains accelerator.id)
    (makeError .corruptState "accelerator has no capacity ledger")
  holdCapacity accelerator.id hold planId
  Procedure.modify fun s ↦ { s with reservations := s.reservations.insert id reservation }
  Procedure.modify FabricState.bumpStateGeneration
  pure reservation

/-- Checks that a partition may be destroyed and reserves its destruction. -/
def reserveDestruction (p : PartitionId) (now : UInt64) (stale : Text) :
    FabricM (AcceleratorRecord × PartitionRecord × PartitionReservation) := do
  checkOpen
  let s ← Procedure.get
  match s.findPartition p with
  | none => Procedure.throw (makeError .notFound "partition is not known" (decimal p.toNat))
  | some record => do
    Procedure.require (!isTerminalState record.state)
      (makeError .stalePartitionGeneration "partition generation is already retired"
        (decimal p.toNat ++ (" is " : Text) ++ record.state.toText))
    Procedure.require (!record.nativeIdentity.nativeId.isEmpty)
      (makeError .revalidationRequired "partition has no verified physical identity to destroy"
        (decimal p.toNat))
    Procedure.require (destructionSafe s record)
      (makeError .drainRequired
        "destructive mutation is not safe while the partition is occupied" (decimal p.toNat))
    match s.findAccelerator record.accelerator with
    | none => Procedure.throw (makeError .notFound "partition accelerator is not registered")
    | some accelerator =>
      if accelerator.generation ≠ record.acceleratorGeneration then do
        Procedure.ignore (transitionPartition now p .revalidationRequired
          "device generation changed before destruction")
        Procedure.throw (makeError .staleGeneration stale)
      else do
        let reservation ← createDestructiveReservationLocked accelerator [record] {} now
        pure (accelerator, record, reservation)

/-- Dispatches the destruction of one partition. -/
def destroyPartition (p : PartitionId) (now : UInt64) : FabricM PartitionMutationRequest := do
  let (accelerator, record, reservation) ← reserveDestruction p now
    "device generation changed before destruction was dispatched"
  let attempt ← registerAttemptLocked reservation.id reservation .destroyPartition 0 0 now
  let stableKey ← stableKeyOf accelerator.id
  let s ← Procedure.get
  pure { requestFor s accelerator attempt stableKey with
    destructive := true
    removeNativeIds := [record.nativeIdentity.nativeId] }

/-- Reserves the destruction of one partition for a later attempt. -/
def createDestructionReservation (p : PartitionId) (now : UInt64) :
    FabricM PartitionReservation := do
  let (_, _, reservation) ← reserveDestruction p now
    "device generation changed before destruction was registered"
  pure reservation

/-- The partitions a reconfiguration replaces, or the first one that is still occupied. -/
def replacedBy (s : FabricState) (id : AcceleratorId) : Result (List PartitionRecord) :=
  let affected := (s.partitionsOf id).filter inLayout
  match affected.find? fun record ↦ !destructionSafe s record with
  | some record => failure .drainRequired
      "destructive reconfiguration is not safe while a partition is occupied"
      (decimal record.id.toNat)
  | none => .ok affected

/-- The capacity that live partitions hold in each dimension of the ledger. -/
def liveCapacity (ledger : CapacityLedger) : Result ResourceVector :=
  (ResourceDimension.all.filter ledger.total.has).foldlM (fun held d ↦
    held.set d ((ledger.buckets .active).get d + (ledger.buckets .draining).get d +
      (ledger.buckets .reconfigurationHeld).get d)) {}

/-- The capacity that a target layout needs beyond what live partitions hold. -/
def additionalCapacity (target held : ResourceVector) : Result ResourceVector :=
  (ResourceDimension.all.filter target.has).foldlM (fun hold d ↦
    hold.set d
      (if target.get d > held.get d then target.get d - held.get d else 0)) {}

/-- Reserves a reconfiguration under its own plan and registers its attempt. -/
def dispatchReconfiguration (planId : PartitionPlanId) (plan : PartitionPlan)
    (accelerator : AcceleratorRecord) (affected : List PartitionRecord) (hold : ResourceVector)
    (now : UInt64) : FabricM PartitionMutationRequest := do
  let reservation ← createDestructiveReservationLocked accelerator affected hold now
  let stored := { reservation with
    plan := plan.id
    planGeneration := plan.generation
    plannedMutations := (plan.plannedPartitions.length + affected.length).toUInt32 }
  Procedure.modify fun s ↦ s.modifyReservation reservation.id fun _ ↦ stored
  affected.forM fun record ↦ transitionPartition now record.id .reconfigurationRequired
    "device-wide reconfiguration attempt registered"
  let attempt ← registerAttemptLocked reservation.id stored .reconfigureLayout 0 0 now
  let stableKey ← stableKeyOf accelerator.id
  let s ← Procedure.get
  Procedure.modify fun s ↦
    { s with plans := s.plans.modify planId fun p ↦ { p with terminal := true } }
  pure { requestFor s accelerator attempt stableKey with
    destructive := true
    fullDeviceReconfiguration := true
    desired := plan.plannedPartitions.map PlannedPartition.spec
    removeNativeIds := affected.filterMap fun record ↦
      if record.nativeIdentity.nativeId.isEmpty then none else some record.nativeIdentity.nativeId }

/-- Dispatches a device-wide destructive reconfiguration. -/
def executeReconfiguration (planId : PartitionPlanId) (now : UInt64) :
    FabricM PartitionMutationRequest := do
  checkOpen
  let s ← Procedure.get
  match s.plans.find? planId with
  | none => Procedure.throw (makeError .stalePlan "plan is not known" (decimal planId.toNat))
  | some plan => do
    Procedure.require (plan.outcome = .feasibleAfterReconfiguration)
      (makeError .invalidRequest "plan is not a destructive reconfiguration plan"
        plan.outcome.toText)
    match validatePlanBinding s plan now s.policy.requireFreshEvidence with
    | .error e => do
      Procedure.modify fun s ↦
        { s with plans := s.plans.modify planId fun p ↦ { p with terminal := true } }
      Procedure.throw e
    | .ok _ =>
      match s.findAccelerator plan.binding.accelerator with
      | none => Procedure.throw (makeError .notFound "planned accelerator is no longer registered")
      | some accelerator => do
        Procedure.require (s.policy.allowDestructiveReconfiguration &&
            plan.request.allowDestructiveReconfiguration)
          (makeError .policyRejected "destructive reconfiguration is not permitted by policy")
        let affected ← Procedure.lift (replacedBy s accelerator.id)
        let target ← Procedure.lift (accumulate plan.plannedPartitions)
        let held ← Procedure.lift (liveCapacity ((s.findLedger accelerator.id).getD {}))
        let hold ← Procedure.lift (additionalCapacity target held)
        dispatchReconfiguration planId plan accelerator affected hold now

end PartitionFabric
