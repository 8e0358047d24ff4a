import PartitionFabric.Fabric.Mutation

/-!
Applying the result of a physical mutation: commit after verification, an explicit unknown
outcome, or a failure without effect.
-/

namespace PartitionFabric

/-- Binds a record to an observed physical partition. -/
def PartitionRecord.bindNative (record : PartitionRecord) (backend : Text)
    (layout : BackendLayout) (native : BackendNativePartition) : PartitionRecord :=
  { record with
    nativeIdentity :=
      { backend := backend
        nativeId := native.nativeId
        parentNativeId := layout.stableKey
        instanceUuid := native.instanceUuid }
    isolation :=
      { name := native.isolationDomain
        guarantees := native.isolation
        backendDefined := !native.isolationDomain.isEmpty } }

/-- Binds the record under a key when an observed partition was found for it. -/
def bindFound (p : PartitionId) (backend : Text) (found : Option (BackendLayout ×
    BackendNativePartition)) (s : FabricState) : FabricState :=
  match found with
  | none => s
  | some (layout, native) => s.modifyPartition p fun record ↦ record.bindNative backend layout native

def settleAttempt (key : PartitionAttemptId) (state : AttemptState) (detail : Text)
    (now : UInt64) (s : FabricState) : FabricState :=
  s.modifyAttempt key fun attempt ↦
    { attempt with state := state, settledAtMs := now, detail := detail }

/-- Returns the capacity of a replaced partition to the free bucket. -/
def freeReplaced (s : FabricState) (p : PartitionId) : LedgerM Unit :=
  match (s.findPartition p).bind fun record ↦ record.heldBucket.map fun b ↦ (record, b) with
  | none => pure ()
  | some (record, bucket) =>
    CapacityLedger.moveBetween bucket.raw CapacityBucket.free.raw record.resources

/-- The accounting of a device-wide reconfiguration, in one working copy of the ledger. -/
def replaceLayout (s : FabricState) (attempt : PartitionAttempt)
    (reservation : PartitionReservation) (plan : PartitionPlan) : LedgerM Unit := do
  -- a failed release is reported only after every replaced partition was freed
  let released ← Procedure.attempt
    (Procedure.when (reservation.holdsCapacity && !reservation.resources.empty)
      (CapacityLedger.releaseReserved reservation.resources))
  attempt.partitions.forM (freeReplaced s)
  Procedure.lift released
  plan.plannedPartitions.forM fun planned ↦
    CapacityLedger.moveBetween CapacityBucket.free.raw CapacityBucket.active.raw planned.resources
  let working ← Procedure.get
  Procedure.lift working.validate

/-- Retires a partition that a verified reconfiguration replaced. -/
def retireReplaced (now : UInt64) (p : PartitionId) (s : FabricState) : FabricState :=
  s.modifyPartition p fun record ↦
    { record.retire now "superseded by a verified device reconfiguration" with
      assignmentState := .unassigned
      drain := { record.drain with state := .notDraining, outstandingAssignments := 0 } }

/-- Removes the assignments of partitions that satisfy a test. -/
def dropAssignments (test : PartitionId → Bool) (s : FabricState) : FabricState :=
  ((s.assignments.values.filter fun a ↦ test a.partition).map PartitionAssignment.id).foldl
    (fun s id ↦ { s with assignments := s.assignments.erase id }) s

/-- The record of a partition that a verified reconfiguration produced. -/
def reconfiguredRecord (accelerator : AcceleratorRecord) (profile : PartitionProfile)
    (planned : PlannedPartition) (id : PartitionId) (now : UInt64)
    (provenance : EvidenceProvenance) : PartitionRecord :=
  { id := id
    generation := 1
    profile := profile.id
    profileGeneration := profile.generation
    mechanism := accelerator.capability.mechanism
    accelerator := accelerator.id
    acceleratorGeneration := accelerator.generation
    acceleratorBoot := accelerator.bootId
    resources := planned.resources
    state := .active
    heldBucket := some .active
    assignmentState := .unassigned
    provenance := provenance
    externallyObserved := false
    createdAtMs := now
    lastTransitionAtMs := now
    lastTransitionReason := "created by a verified device reconfiguration" }

/-- The observation a commit stamps its evidence from. -/
structure CommitEvidence where
  accelerator : AcceleratorRecord
  observed : Option BackendLayout
  now : UInt64

namespace CommitEvidence

def provenance (e : CommitEvidence) : EvidenceProvenance :=
  match e.observed with
  | some layout => layout.evidence.provenance
  | none => e.accelerator.provenance

def source (e : CommitEvidence) : Text :=
  match e.observed with
  | some layout => layout.evidence.source
  | none => e.accelerator.backend

/-- The unclaimed observed partition for a planned one, with the layout that lists it. -/
def unclaimed (e : CommitEvidence) (planned : PlannedPartition) (claimed : List Text) :
    Option (BackendLayout × BackendNativePartition) :=
  e.observed.bind fun layout ↦
    (findUnclaimedNativeForSpec layout planned.spec claimed).map fun native ↦ (layout, native)

def stamp (e : CommitEvidence) (p : PartitionId) (s : FabricState) : FabricState :=
  stampPartitionEvidence e.now p e.accelerator e.provenance e.source s

end CommitEvidence

/-- The claimed identities after an observed partition may have been taken. -/
def claim (claimed : List Text) (found : Option (BackendLayout × BackendNativePartition)) :
    List Text :=
  match found with
  | none => claimed
  | some (_, native) => claimed ++ [native.nativeId]

/-- Records the planned partitions of a verified reconfiguration; an exhausted allocator ends
the loop. -/
def recordReconfigured (e : CommitEvidence) :
    List PlannedPartition → List Text → List PartitionId → FabricM (List PartitionId)
  | [], _, ids => pure ids
  | planned :: rest, claimed, ids => do
    let s ← Procedure.get
    match s.findProfile planned.profile with
    | none => recordReconfigured e rest claimed ids
    | some profile => do
      match ← Procedure.attempt allocateId with
      | .error _ => pure ids
      | .ok id => do
        let found := e.unclaimed planned claimed
        Procedure.modify fun s ↦
          { s with
            partitions := s.partitions.insert id
              (reconfiguredRecord e.accelerator profile planned id e.now e.provenance) }
        Procedure.modify (bindFound id e.accelerator.backend found)
        Procedure.modify (e.stamp id)
        recordReconfigured e rest (claim claimed found) (ids ++ [id])

def commitReservation (key : PartitionReservationId) (now : UInt64) (s : FabricState) :
    FabricState :=
  s.modifyReservation key fun r ↦ { r with lifecycle := .committed, updatedAtMs := now }

/-- Replaces the layout of a device: its old partitions retire and the planned ones appear. -/
def replaceRecords (e : CommitEvidence) (attempt : PartitionAttempt) (plan : PartitionPlan)
    (working : CapacityLedger) : FabricM (List PartitionId) := do
  Procedure.modify fun s ↦ s.setLedger attempt.accelerator working
  attempt.partitions.forM fun p ↦ Procedure.modify (retireReplaced e.now p)
  Procedure.modify (dropAssignments attempt.partitions.contains)
  recordReconfigured e plan.plannedPartitions [] []

/-- Commits a verified reconfiguration whose accounting closed. -/
def commitReconfiguration (e : CommitEvidence) (key : PartitionAttemptId)
    (attempt : PartitionAttempt) (plan : PartitionPlan) (working : CapacityLedger)
    (detail : Text) (outcome : MutationOutcome) : FabricM MutationOutcome := do
  let ids ← replaceRecords e attempt plan working
  Procedure.modify (settleAttempt key .succeeded detail e.now)
  Procedure.modify (commitReservation attempt.reservation e.now)
  Procedure.modify FabricState.bumpStateGeneration
  pure { outcome with
    partitions := ids
    generations := ids.map fun _ ↦ 1
    state := .succeeded
    committed := true
    verifiedPhysically := true
    message := "device reconfiguration verified and committed" }

/-- Settles an attempt as failed and reports why. -/
def failAttempt (key : PartitionAttemptId) (detail : Text) (now : UInt64)
    (outcome : MutationOutcome) : FabricM MutationOutcome := do
  Procedure.modify (settleAttempt key .failed detail now)
  pure { outcome with state := .failed, message := detail }

/-- Settles a verified reconfiguration: committed when its accounting closes. -/
def settleReconfiguration (e : CommitEvidence) (key : PartitionAttemptId)
    (attempt : PartitionAttempt) (reservation : PartitionReservation) (detail : Text)
    (outcome : MutationOutcome) : FabricM MutationOutcome := do
  let s ← Procedure.get
  match s.findLedger attempt.accelerator, s.plans.find? reservation.plan with
  | some ledger, some plan => do
    match replaceLayout s attempt reservation plan ledger with
    | (working, .ok _) => commitReconfiguration e key attempt plan working detail outcome
    | (_, .error err) => do
      let outcome ← failAttempt key
        (("reconfiguration accounting did not close: " : Text) ++ err.toText) e.now outcome
      attempt.partitions.forM fun p ↦ Procedure.ignore (transitionPartition e.now p
        .revalidationRequired "reconfiguration accounting did not close")
      Procedure.modify FabricState.bumpStateGeneration
      pure outcome
  | _, _ =>
    failAttempt key "reconfiguration cannot be committed without a ledger and a plan" e.now outcome

/-- Publishes the partitions of a verified creation, each on an unclaimed observed partition. -/
def publishCreated (e : CommitEvidence) (desired : List PlannedPartition) :
    List (PartitionId × ℕ) → List Text → FabricM Unit
  | [], _ => pure ()
  | (p, index) :: rest, claimed => do
    let s ← Procedure.get
    match s.findPartition p with
    | none => publishCreated e desired rest claimed
    | some _ => do
      let found := desired[index]?.bind fun planned ↦ e.unclaimed planned claimed
      Procedure.modify (bindFound p e.accelerator.backend found)
      Procedure.modify (e.stamp p)
      Procedure.ignore (transitionPartition e.now p .active "physical creation verified")
      Procedure.modify fun s ↦ s.modifyPartition p fun record ↦
        { record with externallyObserved := false }
      publishCreated e desired rest (claim claimed found)

/-- Retires a partition whose destruction was verified. -/
def retireDestroyed (now : UInt64) (p : PartitionId) : FabricM Unit := do
  match ← Procedure.attempt (transitionPartition now p .retired "physical destruction verified") with
  | .error _ => pure ()
  | .ok _ => Procedure.modify fun s ↦ s.modifyPartition p PartitionRecord.supersede

/-- The lifecycle consequence of a verified creation or destruction. -/
def commitPartitions (e : CommitEvidence) (attempt : PartitionAttempt) : FabricM Unit :=
  match attempt.kind with
  | .createPartition => publishCreated e attempt.desired attempt.partitions.zipIdx []
  | .destroyPartition => attempt.partitions.forM (retireDestroyed e.now)
  | .reconfigureLayout => pure ()

/-- Commits a verified creation or destruction. -/
def commitMutation (e : CommitEvidence) (key : PartitionAttemptId) (attempt : PartitionAttempt)
    (detail : Text) (outcome : MutationOutcome) : FabricM MutationOutcome := do
  commitPartitions e attempt
  Procedure.modify (settleAttempt key .succeeded detail e.now)
  Procedure.modify (commitReservation attempt.reservation e.now)
  Procedure.modify FabricState.bumpStateGeneration
  pure { outcome with
    state := .succeeded
    committed := true
    verifiedPhysically := true
    message := "mutation verified against freshly observed physical state" }

/-- Fences a reservation whose physical outcome is unknown. -/
def fenceUnknown (key : PartitionReservationId) (reason : Text) (now : UInt64)
    (s : FabricState) : FabricState :=
  s.modifyReservation key fun r ↦
    if reservationIsTerminal r.lifecycle then r
    else { r with lifecycle := .fenced, reason := reason, updatedAtMs := now }

/-- Records that the physical outcome of an attempt is unknown. -/
def loseMutation (key : PartitionAttemptId) (attempt : PartitionAttempt) (detail : Text)
    (now : UInt64) (outcome : MutationOutcome) : FabricM MutationOutcome := do
  Procedure.modify (settleAttempt key .outcomeUnknown detail now)
  Procedure.modify (fenceUnknown attempt.reservation
    "physical outcome is unknown; reconciliation is required" now)
  attempt.partitions.forM (revalidateUnknown now "physical outcome unknown")
  Procedure.modify FabricState.bumpStateGeneration
  pure { outcome with
    state := .outcomeUnknown
    outcomeUnknown := true
    reconciliationRequired := true
    message := "physical outcome is unknown; the runtime will not replay a destructive or non-idempotent mutation without reconciliation" }

/-- Returns the partitions of a refused creation to their reservation, which stays active. -/
def reclaimCreation (attempt : PartitionAttempt) (now : UInt64) : FabricM Unit := do
  attempt.partitions.forM fun p ↦
    Procedure.ignore (transitionPartition now p .reserved "mutation failed without effect")
  Procedure.modify fun s ↦ s.modifyReservation attempt.reservation fun r ↦
    { r with lifecycle := .active }

/-- Records that a mutation failed without effect. -/
def failMutation (key : PartitionAttemptId) (attempt : PartitionAttempt)
    (reservation : PartitionReservation) (detail : Text) (now : UInt64)
    (outcome : MutationOutcome) : FabricM MutationOutcome := do
  Procedure.modify (settleAttempt key .failed detail now)
  Procedure.modify (settleReservation attempt.reservation .failed detail now)
  -- whether the reservation still holds capacity is read before the failure settled it
  Procedure.when (attempt.kind = .createPartition && reservation.holdsCapacity)
    (reclaimCreation attempt now)
  Procedure.when (attempt.kind = .destroyPartition) (attempt.partitions.forM fun p ↦
    Procedure.ignore (transitionPartition now p .revalidationRequired
      "destruction did not take effect"))
  Procedure.modify FabricState.bumpStateGeneration
  pure { outcome with state := .failed, message := detail }

/-- Settles an attempt that is still in flight by what fresh observation shows. -/
def settleMutation (key : PartitionAttemptId) (attempt : PartitionAttempt)
    (reservation : PartitionReservation) (accelerator : AcceleratorRecord)
    (report : BackendMutationResult) (observed : Option BackendLayout) (now : UInt64)
    (outcome : MutationOutcome) : FabricM MutationOutcome := do
  let s ← Procedure.get
  let v := verifyMutation s attempt reservation report observed
  let e : CommitEvidence := ⟨accelerator, observed, now⟩
  let detail := v.detail ++ (" (" : Text) ++ report.detail ++ (")" : Text)
  if v.verified then
    if attempt.kind = .reconfigureLayout then
      settleReconfiguration e key attempt reservation v.detail outcome
    else commitMutation e key attempt v.detail outcome
  else if v.ambiguous then loseMutation key attempt detail now outcome
  else failMutation key attempt reservation detail now outcome

/-- Applies the result of a mutation to its attempt, at most once. -/
def applyMutationResultLocked (key : PartitionAttemptId) (mutation : Result BackendMutationResult)
    (observed : Option BackendLayout) (now : UInt64) : FabricM MutationOutcome := do
  let s ← Procedure.get
  match s.findAttempt key with
  | none => pure { attempt := key, message := "attempt is not known" }
  | some attempt =>
    let outcome : MutationOutcome :=
      { attempt := key
        reservation := attempt.reservation
        accelerator := attempt.accelerator
        partitions := attempt.partitions }
    match s.findReservation attempt.reservation with
    | none => pure { outcome with message := "reservation is not known" }
    | some reservation =>
      let outcome := { outcome with plan := reservation.plan }
      if attemptSettled attempt.state then
        pure { outcome with
          state := attempt.state
          committed := attempt.state = .succeeded
          message := ("attempt already settled: " : Text) ++ attempt.detail }
      else if attempt.state = .outcomeUnknown then
        pure { outcome with
          state := .outcomeUnknown
          outcomeUnknown := true
          reconciliationRequired := true
          message := "attempt outcome is unknown and requires reconciliation" }
      else
        match s.findAccelerator attempt.accelerator with
        | none =>
          failAttempt key "accelerator disappeared before the result could be applied" now outcome
        | some accelerator =>
          settleMutation key attempt reservation accelerator (mutationReport mutation) observed
            now outcome

def applyMutationResult (key : PartitionAttemptId) (result : BackendMutationResult)
    (observed : Option BackendLayout) (now : UInt64) : FabricM MutationOutcome :=
  applyMutationResultLocked key (.ok result) observed now

/-- Records that the acknowledgement of an attempt was lost. -/
def markAttemptOutcomeUnknown (key : PartitionAttemptId) (reason : Text) (now : UInt64) :
    FabricM Unit := do
  let s ← Procedure.get
  match s.findAttempt key with
  | none => Procedure.throw (makeError .notFound "attempt is not known" (decimal key.toNat))
  | some attempt =>
    Procedure.when (!attemptSettled attempt.state) do
      let detail : Text := if reason.isEmpty then "acknowledgement was lost" else reason
      Procedure.modify (settleAttempt key .outcomeUnknown detail now)
      Procedure.modify (fenceUnknown attempt.reservation detail now)
      Procedure.when (attempt.kind ≠ .destroyPartition)
        (attempt.partitions.forM (revalidateUnknown now detail))
      Procedure.modify FabricState.bumpStateGeneration

def registerAttempt (id : PartitionReservationId) (kind : AttemptKind) (worker : WorkerId)
    (workerBoot : WorkerBootId) (now : UInt64) : FabricM PartitionAttempt := do
  let s ← Procedure.get
  match s.findReservation id with
  | none => Procedure.throw (makeError .notFound "reservation is not known" (decimal id.toNat))
  | some reservation => do
    Procedure.require (reservation.lifecycle = .active)
      (makeError .staleReservation "reservation is not active" reservation.lifecycle.toText)
    registerAttemptLocked id reservation kind worker workerBoot now

end PartitionFabric
