import PartitionFabric.Fabric.Plans
import PartitionFabric.Fabric.Registration

/-!
Reservations: holding capacity against a plan, binding a worker, and giving the capacity back.
-/

namespace PartitionFabric

def ReservationLifecycle.toText : ReservationLifecycle → Text
  | .pending => "PENDING"
  | .active => "ACTIVE"
  | .committed => "COMMITTED"
  | .released => "RELEASED"
  | .rolledBack => "ROLLED_BACK"
  | .expired => "EXPIRED"
  | .fenced => "FENCED"
  | .failed => "FAILED"

/-- Drops terminal reservations while the registry is full. -/
def makeReservationRoom : FabricM Unit := do
  let s ← Procedure.get
  Procedure.when (s.reservations.size ≥ s.limits.maxReservations) do
    Procedure.modify fun s ↦
      { s with
        reservations := s.reservations.prune (fun r ↦ reservationIsTerminal r.lifecycle)
          (s.limits.maxReservations - 1) }
    let s ← Procedure.get
    Procedure.require (s.reservations.size < s.limits.maxReservations)
      (makeError .limitExceeded "reservation registry is full")

/-- The record of a partition reserved for a plan. -/
def reservedRecord (s : FabricState) (plan : PartitionPlan) (planned : PlannedPartition)
    (id : PartitionId) (now : UInt64) : PartitionRecord :=
  { id := id
    generation := 1
    profile := planned.profile
    profileGeneration := planned.profileGeneration
    mechanism := ((s.findProfile planned.profile).map PartitionProfile.mechanism).getD .none
    accelerator := plan.binding.accelerator
    acceleratorGeneration := plan.binding.acceleratorGeneration
    acceleratorBoot := plan.binding.acceleratorBoot
    resources := planned.resources
    state := .reserved
    heldBucket := some .reserved
    provenance := ((s.findAccelerator plan.binding.accelerator).getD {}).provenance
    createdAtMs := now
    lastTransitionAtMs := now
    lastTransitionReason := ("capacity reserved against plan " : Text) ++ decimal plan.id.toNat }

/-- Allocates and records the planned partitions until one of them fails. -/
def reservePartitions (plan : PartitionPlan) (now : UInt64) :
    List PlannedPartition → List PartitionId → FabricM (List PartitionId × Status)
  | [], ids => pure (ids, success)
  | planned :: rest, ids => do
    match ← Procedure.attempt allocateId with
    | .error e => pure (ids, .error e)
    | .ok id => do
      let s ← Procedure.get
      let record := reservedRecord s plan planned id now
      match record.validate with
      | .error e => pure (ids, .error e)
      | .ok _ => do
        Procedure.modify fun s ↦ { s with partitions := s.partitions.insert id record }
        reservePartitions plan now rest (ids ++ [id])

/-- Takes back the partitions and the capacity of a reservation that could not be completed. -/
def abandonReservation (id : AcceleratorId) (needed : ResourceVector)
    (partitions : List PartitionId) (e : Error) : FabricM PartitionReservation := do
  partitions.forM fun p ↦ Procedure.modify fun s ↦ { s with partitions := s.partitions.erase p }
  Procedure.ignore (onLedger id (CapacityLedger.releaseReserved needed))
  Procedure.throw e

/-- The reservation that a plan establishes over its recorded partitions. -/
def reservationFor (s : FabricState) (plan : PartitionPlan) (needed : ResourceVector)
    (id : PartitionReservationId) (partitions : List PartitionId) (now : UInt64) :
    PartitionReservation :=
  { id := id
    plan := plan.id
    planGeneration := plan.generation
    accelerator := plan.binding.accelerator
    acceleratorGeneration := plan.binding.acceleratorGeneration
    acceleratorBoot := plan.binding.acceleratorBoot
    capabilityGeneration := plan.binding.capabilityGeneration
    topologyGeneration := plan.binding.topologyGeneration
    policyGeneration := s.policyGeneration
    coordinatorEpoch := s.coordinatorEpoch
    lifecycle := .active
    partitions := partitions
    partitionGenerations := partitions.map fun _ ↦ 1
    resources := needed
    destructive := false
    createdAtMs := now
    updatedAtMs := now
    expiresAtMs := plan.binding.validUntilMs
    plannedMutations := plan.plannedPartitions.length.toUInt32 }

/-- Records the partitions and the reservation of a plan whose capacity is already held. -/
def completeReservation (planId : PartitionPlanId) (plan : PartitionPlan)
    (needed : ResourceVector) (id : PartitionReservationId) (now : UInt64) :
    FabricM PartitionReservation := do
  let accelerator := plan.binding.accelerator
  let (partitions, status) ← reservePartitions plan now plan.plannedPartitions []
  let s ← Procedure.get
  let reservation := reservationFor s plan needed id partitions now
  match status, reservation.validate with
  | .error e, _ => abandonReservation accelerator needed partitions e
  | .ok _, .error e => abandonReservation accelerator needed partitions e
  | .ok _, .ok _ => do
    Procedure.modify fun s ↦ { s with reservations := s.reservations.insert id reservation }
    -- the plan is rebound to the layout it now owns
    Procedure.modify fun s ↦
      { s with
        plans := s.plans.modify planId fun p ↦
          { p with binding := { p.binding with
              layout := p.binding.layout ++ partitions.map fun q ↦ (q, 1) } } }
    Procedure.modify FabricState.bumpStateGeneration
    pure reservation

/-- Holds the capacity of a plan and records its partitions, or leaves both as they were. -/
def reserve (planId : PartitionPlanId) (now : UInt64) : FabricM PartitionReservation := do
  checkOpen
  let s ← Procedure.get
  match s.plans.find? planId with
  | none => Procedure.throw (makeError .stalePlan "plan is not known" (decimal planId.toNat))
  | some plan => do
    Procedure.require plan.feasible
      (makeError .policyRejected "plan is not feasible and cannot be reserved"
        plan.outcome.toText)
    match validatePlanBinding s plan now s.policy.requireFreshEvidence with
    | .error e => do
      Procedure.modify fun s ↦
        { s with plans := s.plans.modify planId fun p ↦ { p with terminal := true } }
      Procedure.throw e
    | .ok _ => do
      Procedure.require (plan.outcome ≠ .feasibleAfterReconfiguration)
        (makeError .reconfigurationRequired
          "a destructive reconfiguration plan is committed by execute_reconfiguration"
          (decimal planId.toNat))
      Procedure.require (s.reservations.values.countP PartitionReservation.holdsCapacity <
          s.limits.maxActiveReservations)
        (makeError .limitExceeded "too many reservations hold capacity")
      makeReservationRoom
      let needed ← Procedure.lift (accumulate plan.plannedPartitions)
      let accelerator := plan.binding.accelerator
      Procedure.modify (touchLedger accelerator)
      onLedger accelerator (CapacityLedger.reserve needed)
      match ← Procedure.attempt allocateId with
      | .error e => do
        Procedure.ignore (onLedger accelerator (CapacityLedger.releaseReserved needed))
        Procedure.throw e
      | .ok id => completeReservation planId plan needed id now

/-- The authority check of a reservation for a worker, made before any capacity is held; the
reservation and its binding follow under locks of their own. -/
def checkWorkerAuthority (s : FabricState) (worker : WorkerId) (workerBoot : WorkerBootId)
    (epoch : CoordinatorEpoch) : Status :=
  match s.findWorker worker with
  | none =>
    failure .staleWorker "reservation cannot be bound to an unregistered worker"
      (decimal worker.toNat)
  | some record =>
    if record.boot ≠ workerBoot then
      failure .staleWorker "reservation cannot be bound to a superseded worker incarnation"
        (hex workerBoot)
    else if record.fenced then
      failure .fenced "reservation cannot be bound to a fenced worker incarnation"
        (hex workerBoot)
    else if epoch ≠ s.coordinatorEpoch then
      failure .staleCoordinatorEpoch
        "reservation cannot be bound under a superseded coordinator epoch"
    else success

/-- Binds a reservation to a worker incarnation. -/
def bindReservation (id : PartitionReservationId) (worker : WorkerId) (workerBoot : WorkerBootId)
    (epoch : CoordinatorEpoch) (now : UInt64) : FabricM Unit := do
  let s ← Procedure.get
  Procedure.require (s.reservations.contains id)
    (makeError .notFound "reservation disappeared while binding a worker")
  Procedure.modify fun s ↦ s.modifyReservation id fun r ↦
    { r with
      worker := worker
      workerBoot := workerBoot
      coordinatorEpoch := epoch
      updatedAtMs := now }
  Procedure.modify FabricState.bumpStateGeneration

/-- A partition that a reservation cannot give back: it may already exist physically. -/
def heldBeyondReserved (s : FabricState) (p : PartitionId) : Bool :=
  (s.findPartition p).any fun record ↦ record.heldBucket.isSome && record.state ≠ .reserved

/-- Retires a record and drops its claim on capacity. -/
def PartitionRecord.retire (record : PartitionRecord) (now : UInt64) (reason : Text) :
    PartitionRecord :=
  { record.supersede with
    heldBucket := none
    state := .retired
    lastTransitionAtMs := now
    lastTransitionReason := reason }

/-- Settles a reservation's lifecycle. -/
def settleReservation (id : PartitionReservationId) (lifecycle : ReservationLifecycle)
    (reason : Text) (now : UInt64) (s : FabricState) : FabricState :=
  s.modifyReservation id fun r ↦
    { r with lifecycle := lifecycle, reason := reason, updatedAtMs := now }

/-- Gives the capacity of a reservation back unless a physical attempt may be in flight. -/
def releaseReservationLocked (id : PartitionReservationId) (reason : Text) (now : UInt64) :
    FabricM Unit := do
  let s ← Procedure.get
  match s.findReservation id with
  | none => pure ()
  | some reservation => do
    Procedure.require (!reservationIsTerminal reservation.lifecycle)
      (makeError .staleReservation "reservation is already terminal"
        (decimal reservation.id.toNat ++ (" is " : Text) ++ reservation.lifecycle.toText))
    Procedure.require (s.ledgers.contains reservation.accelerator)
      (makeError .corruptState "reservation has no capacity ledger")
    match reservation.partitions.find? (heldBeyondReserved s) with
    | some p =>
      Procedure.throw (makeError .reconciliationRequired
        "reservation cannot be released while a physical attempt is in flight"
        (decimal p.toNat ++ (" is " : Text) ++
          (((s.findPartition p).map fun record ↦ record.state.toText).getD [])))
    | none => do
      onLedger reservation.accelerator (CapacityLedger.releaseReserved reservation.resources)
      reservation.partitions.forM fun p ↦ Procedure.modify fun s ↦ s.modifyPartition p fun record ↦
        if record.state = .reserved && record.heldBucket.isSome then
          record.retire now "reservation released before creation"
        else record
      Procedure.modify (settleReservation id .released reason now)
      Procedure.modify FabricState.bumpStateGeneration

/-- Takes the authority of a reservation away; capacity that may exist physically stays held. -/
def fenceReservationLocked (id : PartitionReservationId) (reason : Text) (now : UInt64) :
    FabricM Unit := do
  let s ← Procedure.get
  match s.findReservation id with
  | none => pure ()
  | some reservation => do
    Procedure.require (!reservationIsTerminal reservation.lifecycle)
      (makeError .staleReservation "reservation is already terminal"
        reservation.lifecycle.toText)
    Procedure.when (s.ledgers.contains reservation.accelerator &&
        !reservation.partitions.any (heldBeyondReserved s)) do
      onLedger reservation.accelerator (CapacityLedger.releaseReserved reservation.resources)
      reservation.partitions.forM fun p ↦ Procedure.modify fun s ↦ s.modifyPartition p fun record ↦
        record.retire now (("reservation fenced: " : Text) ++ reason)
    Procedure.modify (settleReservation id .fenced reason now)
    Procedure.modify FabricState.bumpStateGeneration

def releaseReservation (id : PartitionReservationId) (reason : Text) (now : UInt64) :
    FabricM Unit := do
  let s ← Procedure.get
  Procedure.require (s.reservations.contains id)
    (makeError .notFound "reservation is not known" (decimal id.toNat))
  releaseReservationLocked id reason now

def fenceReservation (id : PartitionReservationId) (reason : Text) (now : UInt64) :
    FabricM Unit := do
  let s ← Procedure.get
  Procedure.require (s.reservations.contains id)
    (makeError .notFound "reservation is not known" (decimal id.toNat))
  fenceReservationLocked id reason now

end PartitionFabric
