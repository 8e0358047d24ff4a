import PartitionFabric.Fabric.Occupancy

/-!
Reconciliation of the registry with an observed physical layout: known partitions are matched,
missing ones retired, ambiguous attempts decided and unexplained partitions recorded.
-/

namespace PartitionFabric

inductive ReconciliationFindingKind where
  | partitionMatches | partitionMissing | partitionUnexpected | profileChanged
  | nativeIdentityChanged | deviceReset | capabilityChanged | deviceGone
  | deviceNotPartitionCapable | generationUncorrelatable | assignmentOrphaned | layoutMatches
  | ledgerMismatch | layoutChangedExternally
deriving DecidableEq, Repr

inductive ReconciliationSeverity where
  | informational | attention | material | critical
deriving DecidableEq, Repr

structure ReconciliationFinding where
  kind : ReconciliationFindingKind := .partitionMatches
  severity : ReconciliationSeverity := .informational
  accelerator : AcceleratorId := 0
  partition : PartitionId := 0
  expectedGeneration : PartitionGeneration := 0
  resultingState : PartitionState := .discovered
  nativeId : Text := []
  detail : Text := []
deriving DecidableEq, Repr

structure ReconciliationReport where
  id : ReconciliationId := 0
  accelerator : AcceleratorId := 0
  acceleratorGeneration : AcceleratorGeneration := 0
  capabilityGeneration : CapabilityGeneration := 0
  devicePresent : Bool := false
  deviceGenerationChanged : Bool := false
  capabilityChanged : Bool := false
  layoutChanged : Bool := false
  revalidationRequired : Bool := false
  reconciliationRequired : Bool := false
  matched : UInt32 := 0
  missing : UInt32 := 0
  unexpected : UInt32 := 0
  adopted : UInt32 := 0
  fenced : UInt32 := 0
  findings : List ReconciliationFinding := []
deriving DecidableEq, Repr

/-- The number of findings a report holds at most. -/
def reconciliationFindingCap : ℕ := 4096

/-- Appends a finding; a full report drops it. -/
def ReconciliationReport.addFinding (report : ReconciliationReport)
    (finding : ReconciliationFinding) : ReconciliationReport :=
  if report.findings.length ≥ reconciliationFindingCap then report
  else { report with findings := report.findings ++ [finding] }

abbrev observedNative (layout : BackendLayout) (nativeId : Text) : Option BackendNativePartition :=
  findNative layout nativeId

def layoutSatisfies (layout : BackendLayout) (desired : List NativePartitionSpec) : Bool :=
  !desired.isEmpty && serveSpecs desired layout.partitions

/-- What a reconciliation pass reads: the device as it now stands and its observed layout. -/
structure Observation where
  id : AcceleratorId
  accelerator : AcceleratorRecord
  layout : BackendLayout
  now : UInt64

/-- What a reconciliation pass accumulates: the claimed native identities and the report. -/
structure Pass where
  claimed : List Text := []
  report : ReconciliationReport

namespace Observation

def evidence (o : Observation) : CommitEvidence := ⟨o.accelerator, some o.layout, o.now⟩

/-- A finding about a record of the observed device. -/
def finding (o : Observation) (kind : ReconciliationFindingKind)
    (severity : ReconciliationSeverity) (record : PartitionRecord) (state : PartitionState)
    (nativeId detail : Text) : ReconciliationFinding :=
  { kind := kind
    severity := severity
    accelerator := o.id
    partition := record.id
    expectedGeneration := record.generation
    resultingState := state
    nativeId := nativeId
    detail := detail }

/-- The text of a status, or a default when it is a success. -/
def detailOf (status : Status) (ok : Text) : Text :=
  match status with
  | .ok _ => ok
  | .error e => e.toText

/-- A record without a physical identity cannot be correlated with the hardware. -/
def revalidateUncorrelated (o : Observation) (key : PartitionId) (record : PartitionRecord)
    (pass : Pass) : FabricM Pass :=
  if o.accelerator.capability.declaresSupported && record.state ≠ .revalidationRequired then do
    let moved ← Procedure.attempt (transitionPartition o.now key .revalidationRequired
      "partition generation cannot be correlated with observed hardware")
    let report := pass.report.addFinding (o.finding .generationUncorrelatable .material record
      .revalidationRequired []
      (detailOf moved "durable record carries no verified physical identity"))
    pure { pass with report := { report with revalidationRequired := true } }
  else pure pass

/-- Releases the capacity that a missing partition still named. -/
def releaseMissing (o : Observation) (record : PartitionRecord) : FabricM Unit :=
  match record.heldBucket with
  | none => pure ()
  | some bucket => onLedger o.id
      (CapacityLedger.moveBetween bucket.raw CapacityBucket.free.raw record.resources)

/-- The record of a partition that the observed hardware no longer contains. -/
def missingRecord (o : Observation) (record : PartitionRecord) : PartitionRecord :=
  { record.retire o.now "observed hardware no longer contains this partition" with
    assignmentState := .unassigned
    drain := { record.drain with state := .notDraining, outstandingAssignments := 0 } }

/-- Adds a finding for a release that the ledger refused. -/
def reportRelease (o : Observation) (record : PartitionRecord) (released : Status)
    (report : ReconciliationReport) : ReconciliationReport :=
  match released with
  | .ok _ => report
  | .error e => report.addFinding (o.finding .ledgerMismatch .critical record
      .revalidationRequired [] e.toText)

/-- Retires a partition that disappeared, with its assignments, and frees its capacity. -/
def retireMissing (o : Observation) (key : PartitionId) (record : PartitionRecord)
    (pass : Pass) : FabricM Pass := do
  let released ← Procedure.attempt (o.releaseMissing record)
  let report := o.reportRelease record released pass.report
  let retired := o.missingRecord record
  Procedure.modify fun s ↦ s.modifyPartition key fun _ ↦ retired
  let report := { report with missing := report.missing + 1, layoutChanged := true }
  let report := report.addFinding (o.finding .partitionMissing .material retired .retired
    retired.nativeIdentity.nativeId
    "partition disappeared from observed hardware; capacity returned to free")
  let s ← Procedure.get
  let orphaned := s.assignments.values.filter fun a ↦ a.partition = record.id
  Procedure.modify (dropAssignments fun p ↦ p = record.id)
  let report := orphaned.foldl (fun report a ↦
    report.addFinding (o.finding .assignmentOrphaned .critical retired .retired []
      (("assignment " : Text) ++ decimal a.id.toNat ++ (" removed with its partition" : Text))))
    report
  pure { pass with report := report }

/-- Fences a partition whose observed profile differs from the recorded one. -/
def fenceChanged (o : Observation) (key : PartitionId) (record : PartitionRecord)
    (native : BackendNativePartition) (pass : Pass) : FabricM Pass := do
  let detail : Text := "observed profile differs from the recorded profile"
  let moved ← Procedure.attempt (Procedure.when (record.state ≠ .revalidationRequired)
    (transitionPartition o.now key .revalidationRequired detail))
  let report :=
    { pass.report with fenced := pass.report.fenced + 1, revalidationRequired := true }
  pure { pass with
    report := report.addFinding (o.finding .profileChanged .material record
      .revalidationRequired native.nativeId (detailOf moved detail)) }

/-- Restores the authority of a matched partition where policy allows adoption. -/
def adoptMatched (o : Observation) (key : PartitionId) (record : PartitionRecord)
    (native : BackendNativePartition) (pass : Pass) : FabricM Pass := do
  match ← Procedure.attempt (transitionPartition o.now key .active "adopted after reconciliation") with
  | .ok _ => do
    Procedure.modify fun s ↦ s.modifyPartition key fun r ↦ { r with externallyObserved := true }
    let report :=
      { pass.report with adopted := pass.report.adopted + 1, revalidationRequired := false }
    pure { pass with
      report := report.addFinding (o.finding .partitionMatches .attention record .active
        native.nativeId "externally observed partition adopted under policy") }
  | .error e =>
    pure { pass with
      report := pass.report.addFinding (o.finding .partitionMatches .material record
        .revalidationRequired native.nativeId e.toText) }

/-- Confirms a partition that the observed hardware contains as recorded. -/
def confirmMatched (o : Observation) (key : PartitionId) (record : PartitionRecord)
    (native : BackendNativePartition) (pass : Pass) : FabricM Pass := do
  Procedure.modify (o.evidence.stamp key)
  let pass := { pass with report := { pass.report with matched := pass.report.matched + 1 } }
  let s ← Procedure.get
  if record.state = .offline then do
    Procedure.ignore (transitionPartition o.now key .revalidationRequired
      "device reappeared; authority must be revalidated")
    let report := { pass.report with revalidationRequired := true }
    pure { pass with
      report := report.addFinding (o.finding .partitionMatches .attention record
        .revalidationRequired native.nativeId
        "device reappeared; partition authority requires revalidation") }
  else if record.state = .revalidationRequired then
    if s.policy.allowExternalAdoption then o.adoptMatched key record native pass
    else
      let report := { pass.report with revalidationRequired := true }
      pure { pass with
        report := report.addFinding (o.finding .partitionMatches .attention record
          .revalidationRequired native.nativeId
          "physical partition matches, but current authority requires an explicit authorised decision before it is restored") }
  else
    pure { pass with
      report := pass.report.addFinding (o.finding .partitionMatches .informational record
        record.state native.nativeId "durable record matches observed hardware") }

/-- The observed profile agrees with the recorded one as far as both are known. -/
def profileMatches (s : FabricState) (record : PartitionRecord)
    (native : BackendNativePartition) : Bool :=
  (s.findProfile record.profile).all fun profile ↦
    native.vendorNativeProfile.isEmpty || native.vendorNativeProfile = profile.vendorNative

/-- Compares one record with the observed layout. -/
def matchRecord (o : Observation) (pass : Pass) (key : PartitionId) : FabricM Pass := do
  let s ← Procedure.get
  match (s.findPartition key).filter fun r ↦ r.accelerator = o.id && inLayout r with
  | none => pure pass
  | some record =>
    if record.nativeIdentity.nativeId.isEmpty then o.revalidateUncorrelated key record pass
    else match observedNative o.layout record.nativeIdentity.nativeId with
      | none => o.retireMissing key record pass
      | some native =>
        let pass := { pass with claimed := pass.claimed ++ [native.nativeId] }
        if profileMatches s record native then o.confirmMatched key record native pass
        else o.fenceChanged key record native pass

/-- Whether the physical result that an attempt intended is present. -/
def satisfied (o : Observation) (s : FabricState) (attempt : PartitionAttempt) : Bool :=
  if attempt.kind = .destroyPartition then !attempt.partitions.any (stillObserved s o.layout)
  else layoutSatisfies o.layout (attempt.desired.map PlannedPartition.spec)

/-- The state that a partition of a satisfied attempt reaches. -/
def settledTarget (kind : AttemptKind) : PartitionState :=
  if kind = .destroyPartition then .retired else .active

/-- Settles the lifecycle of a partition whose attempt took effect. -/
def settlePartition (o : Observation) (kind : AttemptKind) (p : PartitionId)
    (record : PartitionRecord) (pass : Pass) : FabricM Pass := do
  match ← Procedure.attempt (transitionPartition o.now p (settledTarget kind)
      "reconciled with observed hardware") with
  | .ok _ =>
    if kind = .destroyPartition then do
      Procedure.modify fun s ↦ s.modifyPartition p PartitionRecord.supersede
      pure pass
    else
      pure { pass with report := { pass.report with adopted := pass.report.adopted + 1 } }
  | .error e => do
    let s ← Procedure.get
    -- a refused transition may have written the record
    let record := (s.findPartition p).getD record
    pure { pass with
      report := pass.report.addFinding (o.finding .generationUncorrelatable .material record
        record.state record.nativeIdentity.nativeId e.toText) }

/-- Adopts the physical partition that a satisfied attempt produced for one of its records. -/
def adoptProduced (o : Observation) (attempt : PartitionAttempt) (pass : Pass)
    (entry : PartitionId × ℕ) : FabricM Pass := do
  let (p, index) := entry
  let s ← Procedure.get
  match s.findPartition p with
  | none => pure pass
  | some record => do
    let found := attempt.desired[index]?.bind fun planned ↦
      o.evidence.unclaimed planned pass.claimed
    Procedure.modify (bindFound p o.accelerator.backend found)
    let pass := { pass with claimed := claim pass.claimed found }
    if record.state = .revalidationRequired || record.state = .creating then
      o.settlePartition attempt.kind p record pass
    else pure pass

/-- Withdraws a partition whose attempt did not take effect. -/
def withdrawPartition (o : Observation) (p : PartitionId) : FabricM Unit := do
  let s ← Procedure.get
  Procedure.when ((s.findPartition p).any fun r ↦ r.state = .revalidationRequired ||
      r.state = .creating || r.state = .destroying) do
    match ← Procedure.attempt (transitionPartition o.now p .unpartitioned
        "reconciled: the mutation did not take effect") with
    | .error _ => pure ()
    | .ok _ => Procedure.modify fun s ↦ s.modifyPartition p fun r ↦
        { r.supersede with nativeIdentity := {} }

/-- Settles the live reservation of a decided attempt. -/
def settleDecided (o : Observation) (attempt : PartitionAttempt)
    (lifecycle : ReservationLifecycle) (reason : Text) (s : FabricState) : FabricState :=
  s.modifyReservation attempt.reservation fun r ↦
    if reservationIsTerminal r.lifecycle then r
    else { r with lifecycle := lifecycle, reason := reason, updatedAtMs := o.now }

/-- Returns the capacity of the live reservation of an attempt that did not take effect. -/
def releaseDecided (o : Observation) (attempt : PartitionAttempt) : FabricM Unit := do
  let s ← Procedure.get
  match s.findReservation attempt.reservation with
  | none => pure ()
  | some reservation =>
    Procedure.when (!reservationIsTerminal reservation.lifecycle) do
      Procedure.modify (o.settleDecided attempt .released "released after reconciliation")
      Procedure.when (!reservation.resources.empty)
        (Procedure.ignore (onLedger o.id (CapacityLedger.releaseReserved reservation.resources)))

/-- Records the decision about an ambiguous attempt. -/
def decideAttempt (o : Observation) (key : PartitionAttemptId) (detail : Text)
    (s : FabricState) : FabricState :=
  s.modifyAttempt key fun attempt ↦
    { attempt with
      state := .reconciled
      settledAtMs := o.now
      observedNativeLayoutDigest :=
        o.layout.stableKey ++ (":" : Text) ++ decimal o.layout.partitions.length
      detail := detail }

/-- Decides an ambiguous attempt whose intended result is present. -/
def acceptAttempt (o : Observation) (key : PartitionAttemptId) (attempt : PartitionAttempt)
    (pass : Pass) : FabricM Pass := do
  Procedure.modify (o.decideAttempt key "reconciled: the intended physical result is present")
  let pass ← attempt.partitions.zipIdx.foldlM (o.adoptProduced attempt) pass
  Procedure.modify (o.settleDecided attempt .committed "committed after reconciliation")
  pure pass

/-- Decides an ambiguous attempt whose intended result is absent. -/
def rejectAttempt (o : Observation) (key : PartitionAttemptId) (attempt : PartitionAttempt)
    (pass : Pass) : FabricM Pass := do
  Procedure.modify (o.decideAttempt key "reconciled: the intended physical result is absent")
  attempt.partitions.forM o.withdrawPartition
  o.releaseDecided attempt
  pure pass

/-- Decides one ambiguous attempt of the observed device. -/
def resolveAttempt (o : Observation) (pass : Pass) (key : PartitionAttemptId) : FabricM Pass := do
  let s ← Procedure.get
  match (s.findAttempt key).filter fun a ↦ a.accelerator = o.id && a.state = .outcomeUnknown with
  | none => pure pass
  | some attempt =>
    let decided := { pass with report := { pass.report with reconciliationRequired := true } }
    if o.satisfied s attempt then o.acceptAttempt key attempt decided
    else o.rejectAttempt key attempt decided

/-- The record of a physical partition that nothing explains. -/
def unexpectedRecord (o : Observation) (s : FabricState) (native : BackendNativePartition)
    (id : PartitionId) : PartitionRecord :=
  PartitionRecord.bindNative
    { id := id
      generation := 1
      profile := native.profile
      profileGeneration :=
        ((s.findProfile native.profile).map PartitionProfile.generation).getD 0
      mechanism := o.accelerator.capability.mechanism
      accelerator := o.id
      acceleratorGeneration := o.accelerator.generation
      acceleratorBoot := o.accelerator.bootId
      resources := native.resources
      state := if s.policy.allowExternalAdoption then .active else .revalidationRequired
      provenance := o.layout.evidence.provenance
      externallyObserved := true
      createdAtMs := o.now
      lastTransitionAtMs := o.now
      lastTransitionReason := "observed physical partition" }
    o.accelerator.backend o.layout native

/-- Promotes held capacity of an adopted partition; a refusal leaves it to revalidation. -/
def promoteHeld (o : Observation) (record : PartitionRecord) : FabricM PartitionRecord :=
  if record.state = .active then do
    match ← Procedure.attempt (onLedger o.id (CapacityLedger.moveBetween
        CapacityBucket.reconfigurationHeld.raw CapacityBucket.active.raw record.resources)) with
    | .ok _ => pure { record with heldBucket := some .active }
    | .error _ =>
      pure { record with heldBucket := some .reconfigurationHeld, state := .revalidationRequired }
  else pure { record with heldBucket := some .reconfigurationHeld }

/-- Holds the capacity of an unexplained partition conservatively. -/
def holdUnexpected (o : Observation) (record : PartitionRecord) (report : ReconciliationReport) :
    FabricM (PartitionRecord × ReconciliationReport) := do
  let s ← Procedure.get
  match s.findLedger o.id with
  | none => pure (record, report)
  | some _ => do
    match ← Procedure.attempt (onLedger o.id (CapacityLedger.moveBetween CapacityBucket.free.raw
        CapacityBucket.reconfigurationHeld.raw record.resources)) with
    | .ok _ => do
      let record ← o.promoteHeld record
      pure (record, report)
    | .error _ =>
      pure (record, report.addFinding (o.finding .ledgerMismatch .critical record record.state
        record.nativeIdentity.nativeId
        "unexplained physical partition consumes capacity the ledger believed free"))

/-- The report after an unexplained partition was recorded. -/
def reportUnexpected (o : Observation) (s : FabricState) (record : PartitionRecord)
    (report : ReconciliationReport) : ReconciliationReport :=
  if s.policy.allowExternalAdoption then
    let report := report.addFinding (o.finding .partitionUnexpected .attention record record.state
      record.nativeIdentity.nativeId "externally created partition adopted under policy")
    { report with adopted := report.adopted + 1 }
  else
    let report := report.addFinding (o.finding .partitionUnexpected .material record record.state
      record.nativeIdentity.nativeId
      "externally created partition is recorded but not authoritative")
    { report with revalidationRequired := true }

/-- Records the physical partitions that nothing claimed; an exhausted allocator ends the loop. -/
def recordUnexpected (o : Observation) (claimed : List Text) :
    List BackendNativePartition → ReconciliationReport → FabricM ReconciliationReport
  | [], report => pure report
  | native :: rest, report =>
    if claimed.contains native.nativeId then o.recordUnexpected claimed rest report
    else do
      let report := { report with unexpected := report.unexpected + 1, layoutChanged := true }
      match ← Procedure.attempt allocateId with
      | .error _ => pure report
      | .ok id => do
        let s ← Procedure.get
        let (record, report) ← o.holdUnexpected (o.unexpectedRecord s native id) report
        Procedure.modify fun s ↦ { s with partitions := s.partitions.insert id record }
        Procedure.modify (o.evidence.stamp id)
        o.recordUnexpected claimed rest (o.reportUnexpected s record report)

/-- Takes a partition of an absent device offline. -/
def takeOffline (o : Observation) (report : ReconciliationReport) (key : PartitionId) :
    FabricM ReconciliationReport := do
  let s ← Procedure.get
  match (s.findPartition key).filter fun r ↦ r.accelerator = o.id && !isTerminalState r.state &&
      r.state ≠ .offline with
  | none => pure report
  | some record => do
    let moved ← Procedure.attempt (transitionPartition o.now key .offline "device is no longer present")
    pure (report.addFinding (o.finding .deviceGone .critical record .offline
      record.nativeIdentity.nativeId
      (detailOf moved "device is not present; partition authority is offline")))

/-- Reconciles a device that the backend reports absent. -/
def reconcileAbsent (o : Observation) (report : ReconciliationReport) :
    FabricM ReconciliationReport := do
  let s ← Procedure.get
  let report ← s.partitions.keys.foldlM o.takeOffline report
  Procedure.modify fun s ↦ s.modifyAccelerator o.id fun r ↦
    { r with evidence := { r.evidence with observed := false } }
  Procedure.modify FabricState.bumpStateGeneration
  pure { report with revalidationRequired := true }

/-- A finding about the device itself. -/
def deviceFinding (o : Observation) (kind : ReconciliationFindingKind)
    (severity : ReconciliationSeverity) (detail : Text) : ReconciliationFinding :=
  { kind := kind
    severity := severity
    accelerator := o.id
    resultingState := .offline
    detail := detail }

/-- Records a device incarnation that differs from the registered one. -/
def noteReset (o : Observation) (report : ReconciliationReport) :
    FabricM (Observation × ReconciliationReport) :=
  if valid o.layout.bootId && valid o.accelerator.bootId &&
      o.layout.bootId ≠ o.accelerator.bootId then do
    let generation ← Procedure.lift (next o.accelerator.generation)
    let reset := { o.accelerator with
      generation := generation
      bootId := o.layout.bootId
      capability := { o.accelerator.capability with support := .unknown, generation := 0 } }
    Procedure.modify fun s ↦ s.modifyAccelerator o.id fun _ ↦ reset
    let report := { report with deviceGenerationChanged := true, capabilityChanged := true }
    pure ({ o with accelerator := reset }, report.addFinding (o.deviceFinding .deviceReset .critical
      (("device incarnation changed: " : Text) ++ hex o.layout.bootId)))
  else pure (o, report)

/-- Findings about the observed capacity and capability of the device. -/
def noteDevice (o : Observation) (report : ReconciliationReport) : ReconciliationReport :=
  let report :=
    if !o.layout.physicalTotals.empty &&
        !o.accelerator.physicalTotals.equal o.layout.physicalTotals then
      let report := report.addFinding (o.deviceFinding .ledgerMismatch .critical
        "observed physical capacity differs from the registered capacity")
      { report with capabilityChanged := true }
    else report
  if !o.accelerator.capability.declaresSupported then
    report.addFinding (o.deviceFinding .deviceNotPartitionCapable .material
      "device is not partition capable under current capability evidence")
  else report

/-- Replaces the evidence of the device by the observation. -/
def refreshEvidence (o : Observation) (s : FabricState) : FabricState :=
  s.modifyAccelerator o.id fun r ↦
    let generation :=
      if known o.layout.evidence.generation then
        match next o.layout.evidence.generation with
        | .ok g => g
        | .error _ => 1
      else 1
    { r with
      evidence := ensureEvidence o.layout.evidence r.provenance r.backend s.evidenceTtl o.now
        generation }

/-- The passes over records, attempts and unexplained partitions of a present device. -/
def reconcilePasses (o : Observation) (report : ReconciliationReport) :
    FabricM ReconciliationReport := do
  let s ← Procedure.get
  let pass ← s.partitions.keys.foldlM o.matchRecord ⟨[], report⟩
  let s ← Procedure.get
  let pass ← s.attempts.keys.foldlM o.resolveAttempt pass
  o.recordUnexpected pass.claimed o.layout.partitions pass.report

/-- Reconciles a device that is present. -/
def reconcilePresent (o : Observation) (report : ReconciliationReport) :
    FabricM ReconciliationReport := do
  let (o, report) ← o.noteReset report
  let report ← o.reconcilePasses (o.noteDevice report)
  Procedure.modify o.refreshEvidence
  Procedure.modify FabricState.bumpStateGeneration
  pure report

end Observation

/-- Reconciles the registry with the observed layout of a device. -/
def reconcile (id : AcceleratorId) (observed : BackendLayout) (now : UInt64) :
    FabricM ReconciliationReport := do
  let s ← Procedure.get
  match s.findAccelerator id with
  | none => Procedure.throw (makeError .notFound "accelerator is not registered" (decimal id.toNat))
  | some accelerator => do
    Procedure.lift (validateBackendLayout observed s.limits)
    let reportId ← allocateId
    let report : ReconciliationReport :=
      { id := reportId
        accelerator := id
        acceleratorGeneration := accelerator.generation
        capabilityGeneration := accelerator.capability.generation
        devicePresent := observed.devicePresent }
    let o : Observation := ⟨id, accelerator, observed, now⟩
    if observed.devicePresent then o.reconcilePresent report else o.reconcileAbsent report

/-- Reconciles the device that an observed layout names by its key. -/
def reconcileWithBackendKey (observed : BackendLayout) (now : UInt64) :
    FabricM ReconciliationReport := do
  let s ← Procedure.get
  match s.keyIndex.find? observed.stableKey with
  | none => Procedure.throw (makeError .notFound "accelerator key is not registered" observed.stableKey)
  | some id => reconcile id observed now

end PartitionFabric
