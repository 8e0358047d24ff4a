import PartitionFabric.Fabric.Durable
import PartitionFabric.Foundation.System

/-!
The fabric as a system: every operation that takes the lock is one step.

A mutation through a backend is two steps, the dispatch under the lock and the application of
its result, so that any other operation may run while the backend is called.
-/

namespace PartitionFabric

/-- The operations on a fabric, each with the clock reading it is served at. -/
inductive Op where
  | setPolicy (policy : PlanningPolicy)
  | registerProfile (profile : PartitionProfile)
  | registerBackendAccelerator (accelerator : BackendAccelerator) (now : UInt64)
  | registerAccelerator (record : AcceleratorRecord) (now : UInt64)
  | publishCapability (capability : PartitionCapability) (now : UInt64)
  | updateHealth (id : AcceleratorId) (health : HealthEvidence)
  | markEvidenceStale (id : AcceleratorId)
  | snapshot
  | allocateWorkerId
  | bindAcceleratorWorker (id : AcceleratorId) (worker : WorkerId) (boot : WorkerBootId)
  | plan (request : PartitionRequest) (now : UInt64)
  | planOn (id : AcceleratorId) (request : PartitionRequest) (now : UInt64)
  | planReconfiguration (id : AcceleratorId) (desired : List PlannedPartition)
      (context : PartitionRequest) (now : UInt64)
  | discardPlan (id : PartitionPlanId)
  | reserve (planId : PartitionPlanId) (now : UInt64)
  | bindReservation (id : PartitionReservationId) (worker : WorkerId) (boot : WorkerBootId)
      (epoch : CoordinatorEpoch) (now : UInt64)
  | releaseReservation (id : PartitionReservationId) (reason : Text) (now : UInt64)
  | fenceReservation (id : PartitionReservationId) (reason : Text) (now : UInt64)
  | registerAttempt (id : PartitionReservationId) (kind : AttemptKind) (worker : WorkerId)
      (boot : WorkerBootId) (now : UInt64)
  | execute (id : PartitionReservationId) (now : UInt64)
  | destroyPartition (p : PartitionId) (now : UInt64)
  | createDestructionReservation (p : PartitionId) (now : UInt64)
  | executeReconfiguration (planId : PartitionPlanId) (now : UInt64)
  | applyMutationResult (key : PartitionAttemptId) (mutation : Result BackendMutationResult)
      (observed : Option BackendLayout) (now : UInt64)
  | markAttemptOutcomeUnknown (key : PartitionAttemptId) (reason : Text) (now : UInt64)
  | beginDrain (p : PartitionId) (reason : Text) (now : UInt64)
  | beginDrainAccelerator (id : AcceleratorId) (reason : Text) (now : UInt64)
  | completeDrain (p : PartitionId) (now : UInt64)
  | cancelDrain (p : PartitionId) (now : UInt64)
  | admitWorkload (requirement : WorkloadRequirement) (now : UInt64)
  | bindAssignment (assignment : PartitionAssignment)
  | unbindAssignment (id : PartitionAssignmentId) (now : UInt64)
  | noteWorker (worker : WorkerRecord) (now : UInt64)
  | noteWorkerSeen (worker : WorkerId) (boot : WorkerBootId) (atMs : UInt64)
  | fenceWorker (worker : WorkerId) (boot : WorkerBootId) (reason : Text) (now : UInt64)
  | advanceCoordinatorEpoch (now : UInt64)
  | installCoordinatorEpoch (epoch : CoordinatorEpoch)
  | reconcile (id : AcceleratorId) (observed : BackendLayout) (now : UInt64)
  | importDurableState (durable : DurableState) (now : UInt64)
  | close (now : UInt64)
  | reopen (now : UInt64)

/-- The operation as a procedure; what it returns does not matter to later steps. -/
def Op.perform : Op → FabricM Unit
  | .setPolicy policy => PartitionFabric.setPolicy policy
  | .registerProfile profile => PartitionFabric.registerProfile profile
  | .registerBackendAccelerator accelerator now =>
    Procedure.ignore (PartitionFabric.registerBackendAccelerator accelerator now)
  | .registerAccelerator record now => PartitionFabric.registerAccelerator record now
  | .publishCapability capability now =>
    Procedure.ignore (PartitionFabric.publishCapability capability now)
  | .updateHealth id health => PartitionFabric.updateHealth id health
  | .markEvidenceStale id => PartitionFabric.markEvidenceStale id
  | .snapshot => PartitionFabric.snapshot
  | .allocateWorkerId => Procedure.ignore allocateId
  | .bindAcceleratorWorker id worker boot =>
    PartitionFabric.bindAcceleratorWorker id worker boot
  | .plan request now => Procedure.ignore (PartitionFabric.plan request now)
  | .planOn id request now => Procedure.ignore (PartitionFabric.planOn id request now)
  | .planReconfiguration id desired context now =>
    Procedure.ignore (PartitionFabric.planReconfiguration id desired context now)
  | .discardPlan id => PartitionFabric.discardPlan id
  | .reserve planId now => Procedure.ignore (PartitionFabric.reserve planId now)
  | .bindReservation id worker boot epoch now =>
    PartitionFabric.bindReservation id worker boot epoch now
  | .releaseReservation id reason now => PartitionFabric.releaseReservation id reason now
  | .fenceReservation id reason now => PartitionFabric.fenceReservation id reason now
  | .registerAttempt id kind worker boot now =>
    Procedure.ignore (PartitionFabric.registerAttempt id kind worker boot now)
  | .execute id now => Procedure.ignore (PartitionFabric.execute id now)
  | .destroyPartition p now => Procedure.ignore (PartitionFabric.destroyPartition p now)
  | .createDestructionReservation p now =>
    Procedure.ignore (PartitionFabric.createDestructionReservation p now)
  | .executeReconfiguration planId now =>
    Procedure.ignore (PartitionFabric.executeReconfiguration planId now)
  | .applyMutationResult key mutation observed now =>
    Procedure.ignore (applyMutationResultLocked key mutation observed now)
  | .markAttemptOutcomeUnknown key reason now =>
    PartitionFabric.markAttemptOutcomeUnknown key reason now
  | .beginDrain p reason now => PartitionFabric.beginDrain p reason now
  | .beginDrainAccelerator id reason now => PartitionFabric.beginDrainAccelerator id reason now
  | .completeDrain p now => PartitionFabric.completeDrain p now
  | .cancelDrain p now => PartitionFabric.cancelDrain p now
  | .admitWorkload requirement now => Procedure.ignore (PartitionFabric.admitWorkload requirement now)
  | .bindAssignment assignment => PartitionFabric.bindAssignment assignment
  | .unbindAssignment id now => PartitionFabric.unbindAssignment id now
  | .noteWorker worker now => PartitionFabric.noteWorker worker now
  | .noteWorkerSeen worker boot atMs => PartitionFabric.noteWorkerSeen worker boot atMs
  | .fenceWorker worker boot reason now => PartitionFabric.fenceWorker worker boot reason now
  | .advanceCoordinatorEpoch now => Procedure.ignore (PartitionFabric.advanceCoordinatorEpoch now)
  | .installCoordinatorEpoch epoch => PartitionFabric.installCoordinatorEpoch epoch
  | .reconcile id observed now => Procedure.ignore (PartitionFabric.reconcile id observed now)
  | .importDurableState durable now =>
    Procedure.ignore (PartitionFabric.importDurableState durable now)
  | .close now => PartitionFabric.close now
  | .reopen now => PartitionFabric.reopen now

/-- The state an operation leaves behind, whether it succeeds or fails. -/
def Op.step (op : Op) (s : FabricState) : FabricState := (op.perform s).1

structure FabricOptions where
  limits : Limits := {}
  coordinatorEpoch : CoordinatorEpoch := 0
  instanceId : Text := []
  requireWorkerForMutation : Bool := false

/-- A newly constructed instance. -/
def FabricState.opened (options : FabricOptions) (now : UInt64) : FabricState :=
  { limits := options.limits
    policy := makeDefaultPolicy 1
    policyGeneration := 1
    coordinatorEpoch := if known options.coordinatorEpoch then options.coordinatorEpoch else 1
    instanceId := if options.instanceId.isEmpty then "apf-instance" else options.instanceId
    openedAtMs := now
    requireWorkerForMutation := options.requireWorkerForMutation }

/-- The fabric as a system over its operations. -/
def fabric : System FabricState Op where
  initial s := ∃ options now, s = FabricState.opened options now
  step := Op.step

/-- An operation other than an import. -/
def Op.isImport : Op → Bool
  | .importDurableState _ _ => true
  | _ => false

end PartitionFabric
