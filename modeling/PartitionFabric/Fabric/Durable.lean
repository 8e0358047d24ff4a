import PartitionFabric.Fabric.Instance
import PartitionFabric.Fabric.Reconcile

/-!
The durable form of a fabric's state, its structural validation and its import.
-/

namespace PartitionFabric

/-- The version of the durable container. -/
def persistenceFormatVersion : UInt32 := 1

structure DurableState where
  formatVersion : UInt32 := persistenceFormatVersion
  instanceId : Text := []
  stateGeneration : StateGeneration := 0
  coordinatorEpoch : CoordinatorEpoch := 0
  policyGeneration : PolicyGeneration := 0
  nextIdentity : UInt64 := 1
  savedAtMs : UInt64 := 0
  policy : PlanningPolicy := {}
  profiles : List PartitionProfile := []
  accelerators : List AcceleratorRecord := []
  acceleratorKeys : List (AcceleratorId × Text) := []
  ledgers : List (AcceleratorId × CapacityLedger) := []
  partitions : List PartitionRecord := []
  reservations : List PartitionReservation := []
  attempts : List PartitionAttempt := []
  assignments : List PartitionAssignment := []
  workers : List WorkerRecord := []

/-- Reports a failed check as corruption of the durable state. -/
def corruption (status : Status) (detail : Text := []) : Status :=
  match status with
  | .ok _ => success
  | .error e => failure .persistenceCorruption e.toText detail

/-- Checks records in order: a first check, a fresh identity, and a second check. -/
def checkDistinct {α : Type} (identity : α → UInt64) (first second : α → Status)
    (duplicate : Text) : List UInt64 → List α → Status
  | _, [] => success
  | seen, record :: rest => do
    first record
    if seen.contains (identity record) then
      failure .persistenceCorruption duplicate (decimal (identity record).toNat)
    else do
      second record
      checkDistinct identity first second duplicate (identity record :: seen) rest

namespace DurableState

def exceedsLimits (d : DurableState) (limits : Limits) : Bool :=
  d.profiles.length > limits.maxPersistedRecords ||
    d.accelerators.length > limits.maxAccelerators ||
    d.partitions.length > limits.maxPartitions ||
    d.reservations.length > limits.maxReservations ||
    d.attempts.length > limits.maxAttemptHistory ||
    d.assignments.length > limits.maxAssignments ||
    d.workers.length > limits.maxWorkers

def hasAccelerator (d : DurableState) (id : AcceleratorId) : Bool :=
  d.accelerators.any fun record ↦ record.id = id

def hasLedger (d : DurableState) (id : AcceleratorId) : Bool :=
  d.ledgers.any fun entry ↦ entry.1 = id

/-- A durable ledger belongs to a durable accelerator. -/
def checkLedgerOwner (d : DurableState) (entry : AcceleratorId × CapacityLedger) : Status :=
  if d.hasAccelerator entry.1 then success
  else failure .persistenceCorruption "durable ledger references an unknown accelerator"
    (decimal entry.1.toNat)

def checkHasLedger (d : DurableState) (record : AcceleratorRecord) : Status :=
  if d.hasLedger record.id then success
  else failure .persistenceCorruption "accelerator has no durable ledger"
    (decimal record.id.toNat)

/-- A durable partition belongs to an accelerator whose ledger accounts for its capacity. -/
def checkParent (d : DurableState) (record : PartitionRecord) : Status :=
  if !d.hasAccelerator record.accelerator then
    failure .persistenceCorruption "partition references an unknown accelerator"
      (decimal record.id.toNat)
  else match d.ledgers.find? fun entry ↦ entry.1 = record.accelerator with
    | none =>
      failure .persistenceCorruption "partition references an accelerator without a ledger"
        (decimal record.id.toNat)
    | some entry =>
      if (d.accelerators.find? fun a ↦ a.id = record.accelerator).any fun a ↦
          !entry.2.total.equal a.physicalTotals then
        failure .persistenceCorruption
          "durable ledger total disagrees with the accelerator capacity"
          (decimal record.id.toNat)
      else success

def checkOccupied (d : DurableState) (assignment : PartitionAssignment) : Status :=
  if d.partitions.any fun record ↦ record.id = assignment.partition then success
  else failure .persistenceCorruption "assignment references an unknown partition"
    (decimal assignment.id.toNat)

def checkWorker (worker : WorkerRecord) : Status :=
  if valid worker.id && valid worker.boot then success
  else failure .persistenceCorruption "durable worker identity is incomplete"

def unchecked {α : Type} (_ : α) : Status := success

/-- The records of a durable state are valid, distinct and refer to each other. -/
def checkRecords (d : DurableState) (limits : Limits) : Status := do
  checkDistinct PartitionProfile.id (fun p ↦ corruption (p.validate limits)) unchecked
    "duplicate profile identity" [] d.profiles
  checkDistinct AcceleratorRecord.id (fun a ↦ corruption (a.validate limits)) unchecked
    "duplicate accelerator identity" [] d.accelerators
  checkDistinct Prod.fst d.checkLedgerOwner
    (fun entry ↦ corruption entry.2.validate (decimal entry.1.toNat))
    "duplicate ledger for an accelerator" [] d.ledgers
  d.accelerators.forM d.checkHasLedger
  checkDistinct PartitionRecord.id (fun p ↦ corruption p.validate) d.checkParent
    "duplicate partition identity" [] d.partitions
  checkDistinct PartitionReservation.id (fun r ↦ corruption r.validate) unchecked
    "duplicate reservation identity" [] d.reservations
  checkDistinct PartitionAttempt.id (fun a ↦ corruption a.validate) unchecked
    "duplicate attempt identity" [] d.attempts
  checkDistinct PartitionAssignment.id (fun a ↦ corruption a.validate) d.checkOccupied
    "duplicate assignment identity" [] d.assignments
  checkDistinct WorkerRecord.id checkWorker unchecked "duplicate worker identity" [] d.workers

/-- The structural validation that a decoded container passes before it is returned. -/
def validateDecoded (d : DurableState) (limits : Limits) : Status :=
  if d.formatVersion ≠ persistenceFormatVersion then
    failure .persistenceCorruption "unsupported durable format version"
      (decimal d.formatVersion.toNat)
  else if d.exceedsLimits limits then
    failure .limitExceeded "durable state exceeds configured bounds"
  else do
    d.checkRecords limits
    corruption d.policy.validate
    if d.nextIdentity = 0 then
      failure .persistenceCorruption "durable identity counter is not usable"
    else success

/-- The checks that an import makes before it applies anything. -/
def validateImport (d : DurableState) (current : StateGeneration) : Status := do
  checkDistinct AcceleratorRecord.id
    (fun a ↦ if valid a.id then success
      else failure .persistenceCorruption "durable accelerator has no identity")
    unchecked "duplicate accelerator identity" [] d.accelerators
  checkDistinct PartitionRecord.id
    (fun p ↦ if valid p.id then success
      else failure .persistenceCorruption "durable partition has no identity")
    (fun p ↦ do
      if !d.hasAccelerator p.accelerator then
        failure .persistenceCorruption "durable partition references an unknown accelerator"
          (decimal p.id.toNat)
      else corruption p.validate (decimal p.id.toNat))
    "duplicate partition identity" [] d.partitions
  d.ledgers.forM fun entry ↦ do
    d.checkLedgerOwner entry
    corruption entry.2.validate (decimal entry.1.toNat)
  if d.stateGeneration < current then
    failure .generationRegression "durable state generation is behind the live instance"
      (decimal d.stateGeneration.toNat)
  else success

/-- Persisted dynamic evidence does not become current by surviving a restart. -/
def restoreAccelerator (record : AcceleratorRecord) : AcceleratorRecord :=
  { record with
    evidence := { record.evidence with observed := false, ttlMs := 0 }
    health := { record.health with stamp := { record.health.stamp with observed := false } }
    capability := { record.capability with
      evidence := { record.capability.evidence with observed := false, ttlMs := 0 } } }

/-- Replaces the registry by the durable one, without its dynamic authority. -/
def restoreRegistry (d : DurableState) (s : FabricState) : FabricState :=
  let generation := if known d.policyGeneration then d.policyGeneration else 1
  { s with
    policy := { d.policy with generation := generation }
    policyGeneration := generation
    profiles := d.profiles.foldl (fun m p ↦ m.insert p.id p) ∅
    accelerators := d.accelerators.foldl (fun m a ↦ m.insert a.id (restoreAccelerator a)) ∅
    stableKeys := d.acceleratorKeys.foldl (fun m entry ↦ m.insert entry.1 entry.2) ∅
    keyIndex := d.acceleratorKeys.foldl (fun m entry ↦ m.insert entry.2 entry.1) ∅
    ledgers := d.ledgers.foldl (fun m entry ↦ m.insert entry.1 entry.2) ∅
    partitions := ∅
    reservations := ∅
    attempts := ∅
    assignments := ∅
    workers := ∅ }

end DurableState

/-- A durable partition that had live authority must be revalidated. -/
def needsRevalidation (record : PartitionRecord) : Bool :=
  requiresRevalidationAfterRestart record.state && record.state ≠ .unpartitioned &&
    record.state ≠ .revalidationRequired

def restorePartition (now : UInt64) (report : ReconciliationReport) (record : PartitionRecord) :
    FabricM ReconciliationReport :=
  if needsRevalidation record then do
    let restored := { record with
      state := .revalidationRequired
      lastTransitionAtMs := now
      lastTransitionReason := "conservative revalidation after restart" }
    Procedure.modify fun s ↦ { s with partitions := s.partitions.insert restored.id restored }
    pure (({ report with revalidationRequired := true } : ReconciliationReport).addFinding
      { kind := .generationUncorrelatable
        severity := .attention
        accelerator := restored.accelerator
        partition := restored.id
        expectedGeneration := restored.generation
        resultingState := restored.state
        nativeId := restored.nativeIdentity.nativeId
        detail := "durable partition requires fresh physical evidence before it is authoritative" })
  else do
    Procedure.modify fun s ↦ { s with partitions := s.partitions.insert record.id record }
    pure report

/-- Retires a partition whose reservation a restart invalidated. -/
def retireRestored (now : UInt64) (p : PartitionId) (s : FabricState) : FabricState :=
  s.modifyPartition p fun record ↦
    if record.heldBucket.isSome then
      { record with
        heldBucket := none
        state := .retired
        lastTransitionAtMs := now
        lastTransitionReason := "reservation invalidated by restart" }
    else record

/-- Whether partitions of a reservation hold capacity beyond their reservation. -/
def partitionsHold (s : FabricState) (reservation : PartitionReservation) : Bool :=
  reservation.partitions.any fun p ↦ (s.findPartition p).any fun record ↦
    record.heldBucket.isSome && record.state ≠ .reserved && record.state ≠ .creating

/-- Gives back what a live durable reservation held. -/
def releaseRestored (now : UInt64) (reservation : PartitionReservation) : FabricM Unit := do
  let s ← Procedure.get
  Procedure.when (reservation.holdsCapacity && s.ledgers.contains reservation.accelerator &&
      !partitionsHold s reservation) do
    match ← Procedure.attempt (onLedger reservation.accelerator
        (CapacityLedger.releaseReserved reservation.resources)) with
    | .error e =>
      Procedure.throw (makeError .persistenceCorruption "durable reservation cannot release capacity"
        e.toText)
    | .ok _ => reservation.partitions.forM fun p ↦ Procedure.modify (retireRestored now p)

def restoreReservation (now : UInt64) (report : ReconciliationReport)
    (reservation : PartitionReservation) : FabricM ReconciliationReport :=
  if reservationIsTerminal reservation.lifecycle then do
    Procedure.modify fun s ↦
      { s with reservations := s.reservations.insert reservation.id reservation }
    pure report
  else do
    releaseRestored now reservation
    let restored := { reservation with
      lifecycle := .fenced
      reason := "restart invalidated live reservation authority"
      updatedAtMs := now }
    Procedure.modify fun s ↦ { s with reservations := s.reservations.insert restored.id restored }
    pure { report with reconciliationRequired := true }

def restoreAttempt (now : UInt64) (report : ReconciliationReport) (attempt : PartitionAttempt) :
    FabricM ReconciliationReport :=
  if attemptSettled attempt.state then do
    Procedure.modify fun s ↦ { s with attempts := s.attempts.insert attempt.id attempt }
    pure report
  else do
    let restored := { attempt with
      state := .outcomeUnknown
      settledAtMs := now
      detail := "restart invalidated in-flight attempt authority; reconciliation required" }
    Procedure.modify fun s ↦ { s with attempts := s.attempts.insert restored.id restored }
    pure (({ report with reconciliationRequired := true } : ReconciliationReport).addFinding
      { kind := .generationUncorrelatable
        severity := .critical
        accelerator := restored.accelerator
        resultingState := .revalidationRequired
        detail := "in-flight physical attempt classified as outcome unknown after restart" })

def restoreAssignment (report : ReconciliationReport) (assignment : PartitionAssignment) :
    FabricM ReconciliationReport := do
  let s ← Procedure.get
  if (s.findPartition assignment.partition).any fun record ↦ record.state = .active then do
    Procedure.modify fun s ↦
      { s with assignments := s.assignments.insert assignment.id assignment }
    pure report
  else
    pure (({ report with reconciliationRequired := true } : ReconciliationReport).addFinding
      { kind := .assignmentOrphaned
        severity := .critical
        accelerator := assignment.accelerator
        partition := assignment.partition
        expectedGeneration := assignment.partitionGeneration
        resultingState := .revalidationRequired
        detail := "assignment dropped because its partition authority is not current after restart" })

def restoreWorker (now : UInt64) (worker : WorkerRecord) : WorkerRecord :=
  { worker with
    alive := false
    fenced := true
    fenceReason := "process incarnation does not survive a restart"
    fencedAtMs := now }

/-- Restores the identity counter, the epoch and the state generation. -/
def restoreCounters (d : DurableState) : FabricM Unit := do
  let s ← Procedure.get
  let ids ← Procedure.lift (s.ids.restoreFloor d.nextIdentity)
  Procedure.modify fun s ↦
    { s with
      ids := ids
      coordinatorEpoch :=
        if d.coordinatorEpoch > s.coordinatorEpoch then d.coordinatorEpoch
        else s.coordinatorEpoch }
  let generation ← Procedure.lift (next d.stateGeneration)
  Procedure.modify fun s ↦ { s with stateGeneration := generation }

/-- The identity of an import's report; an exhausted allocator leaves it unset. -/
def reportIdentity : FabricM ReconciliationId := do
  match ← Procedure.attempt allocateId with
  | .ok id => pure id
  | .error _ => pure 0

lemma advances_reportIdentity_of {R : FabricState → FabricState → Prop} [Std.Refl R]
    [IsTrans FabricState R] {s : FabricState} (h : ∀ ids, R s { s with ids := ids }) :
    Procedure.Advances R reportIdentity s := by
  refine Procedure.advances_bind (Procedure.advances_attempt (advances_allocateId_of h))
    fun t status _ ↦ ?_
  cases status with
  | error e => exact Procedure.advances_pure _ _
  | ok id => exact Procedure.advances_pure _ _

/-- Imports a durable state; everything dynamic in it requires revalidation. -/
def importDurableState (d : DurableState) (now : UInt64) : FabricM ReconciliationReport := do
  let s ← Procedure.get
  Procedure.lift (d.validateImport s.stateGeneration)
  Procedure.modify d.restoreRegistry
  restoreCounters d
  let id ← reportIdentity
  let report ← d.partitions.foldlM (restorePartition now) { id := id }
  let report ← d.reservations.foldlM (restoreReservation now) report
  let report ← d.attempts.foldlM (restoreAttempt now) report
  let report ← d.assignments.foldlM restoreAssignment report
  Procedure.modify fun s ↦
    { s with workers := d.workers.foldl (fun m w ↦ m.insert w.id (restoreWorker now w)) ∅ }
  Procedure.modify FabricState.bumpStateGeneration
  pure report

/-- The durable form of a state. -/
def exportDurableState (s : FabricState) (now : UInt64) : DurableState :=
  { instanceId := s.instanceId
    stateGeneration := s.stateGeneration
    coordinatorEpoch := s.coordinatorEpoch
    policyGeneration := s.policyGeneration
    nextIdentity := s.ids.next
    savedAtMs := now
    policy := s.policy
    profiles := s.profiles.values
    accelerators := s.accelerators.values
    acceleratorKeys := s.accelerators.entries.filterMap fun (key, record) ↦
      (s.stableKeys.find? key).map fun text ↦ (record.id, text)
    ledgers := s.accelerators.entries.filterMap fun (key, record) ↦
      (s.ledgers.find? key).map fun ledger ↦ (record.id, ledger)
    partitions := s.partitions.values
    reservations := s.reservations.values
    attempts := s.attempts.values
    assignments := s.assignments.values
    workers := s.workers.values }

end PartitionFabric
