import PartitionFabric.Fabric.Transition

/-!
Registration of profiles and accelerators, and the publication of capability.
-/

namespace PartitionFabric

/-- Replaces the governance policy; plans built under the previous one are discarded. -/
def setPolicy (policy : PlanningPolicy) : FabricM Unit := do
  Procedure.lift policy.validate
  let s ← Procedure.get
  let generation ← Procedure.lift (next s.policyGeneration)
  Procedure.modify fun s ↦
    { s with
      policy := { policy with generation := generation }
      policyGeneration := generation }
  s.plans.keys.forM fun key ↦ Procedure.modify fun s ↦
    { s with
      plans := s.plans.modify key fun plan ↦
        if plan.binding.policyGeneration ≠ s.policyGeneration then { plan with terminal := true }
        else plan }
  Procedure.modify FabricState.bumpStateGeneration

/-- Registers a profile and records the exclusion on every profile it names. -/
def registerProfile (profile : PartitionProfile) : FabricM Unit := do
  checkOpen
  let s ← Procedure.get
  Procedure.lift (profile.validate s.limits)
  let existing := s.profiles.find? profile.id
  Procedure.require
    (!existing.any fun e ↦ e.generation ≥ profile.generation && e.name != profile.name)
    (makeError .generationRegression
      "profile republication would regress the profile generation" profile.name)
  Procedure.require (!(s.profiles.size ≥ s.limits.maxProfiles && existing.isNone))
    (makeError .limitExceeded "profile registry is full")
  Procedure.modify fun s ↦ { s with profiles := s.profiles.insert profile.id profile }
  profile.mutuallyExclusiveWith.forM fun excluded ↦ Procedure.modify fun s ↦
    { s with
      profiles := s.profiles.modify excluded fun other ↦
        { other with mutuallyExclusiveWith := other.mutuallyExclusiveWith ++ [profile.id] } }
  Procedure.modify FabricState.bumpStateGeneration

/-- Fences a live reservation that depended on an earlier capability generation. -/
def fenceOutdated (id : AcceleratorId) (generation : CapabilityGeneration) (now : UInt64)
    (key : PartitionReservationId) : FabricM Unit := do
  let s ← Procedure.get
  match s.findReservation key with
  | none => pure ()
  | some reservation =>
    Procedure.when (reservation.accelerator = id && !reservationIsTerminal reservation.lifecycle &&
        reservation.capabilityGeneration ≠ generation) do
      Procedure.modify fun s ↦ s.modifyReservation key fun r ↦
        { r with
          lifecycle := .fenced
          reason := "capability generation changed before the reservation was committed"
          updatedAtMs := now }
      let stillHeld := reservation.partitions.any fun p ↦
        (s.findPartition p).any fun record ↦ record.heldBucket.isSome
      Procedure.when (!stillHeld)
        (Procedure.ignore (onLedger id (CapacityLedger.releaseReserved reservation.resources)))

/-- Sends a partition whose profile the capability no longer publishes to revalidation. -/
def demoteUnsupported (id : AcceleratorId) (capability : PartitionCapability) (now : UInt64)
    (key : PartitionId) : FabricM Unit := do
  let s ← Procedure.get
  match s.findPartition key with
  | none => pure ()
  | some partition =>
    Procedure.when (partition.accelerator = id && !isTerminalState partition.state &&
        !capability.supportsProfile partition.profile &&
        partition.state ≠ .revalidationRequired)
      (Procedure.ignore (transitionPartition now key .revalidationRequired
        "capability no longer publishes the partition profile"))

/-- The publication as it is compared and stored: bound to the device, with evidence. -/
def boundCapability (s : FabricState) (record : AcceleratorRecord) (id : AcceleratorId)
    (capability : PartitionCapability) (now : UInt64) : PartitionCapability :=
  let evidence := if capability.evidence.isObserved then capability.evidence else record.evidence
  { capability with
    accelerator := id
    deviceGeneration :=
      if known capability.deviceGeneration then capability.deviceGeneration else record.generation
    evidence := ensureEvidence evidence record.provenance record.backend s.evidenceTtl now
      (if known evidence.generation then evidence.generation else 1) }

/-- Publishes capability; changed content advances the generation and fences what depended on
the previous one. -/
def publishCapabilityLocked (id : AcceleratorId) (capability : PartitionCapability)
    (now : UInt64) (forceNewGeneration : Bool) : FabricM CapabilityGeneration := do
  let s ← Procedure.get
  match s.findAccelerator id with
  | none => Procedure.throw (makeError .notFound "accelerator is not registered" (decimal id.toNat))
  | some record => do
    let deviceGeneration :=
      if known capability.deviceGeneration then capability.deviceGeneration else record.generation
    Procedure.require (deviceGeneration == record.generation)
      (makeError .staleGeneration "capability was published against a different device generation"
        (decimal id.toNat))
    Procedure.lift (PartitionCapability.validate
      { capability with accelerator := id, deviceGeneration := deviceGeneration } s.limits)
    let bound := boundCapability s record id capability now
    let changed := forceNewGeneration || !known record.capability.generation ||
      capabilityDigest record.capability != capabilityDigest bound
    if !changed then pure record.capability.generation
    else do
      let generation ← Procedure.lift
        (if known record.capability.generation then next record.capability.generation else .ok 1)
      let published := { bound with generation := generation }
      Procedure.modify fun s ↦ s.modifyAccelerator id fun r ↦
        { r with
          capability := published
          topologyGeneration := published.topologyGeneration
          updatedAtMs := now }
      s.reservations.keys.forM (fenceOutdated id generation now)
      s.partitions.keys.forM (demoteUnsupported id published now)
      Procedure.modify FabricState.bumpStateGeneration
      pure generation

def publishCapability (capability : PartitionCapability) (now : UInt64) :
    FabricM CapabilityGeneration := do
  checkOpen
  publishCapabilityLocked capability.accelerator capability now false

/-- Inserts a default record where the registry has none. -/
def touchAccelerator (id : AcceleratorId) (s : FabricState) : FabricState :=
  if s.accelerators.contains id then s
  else { s with accelerators := s.accelerators.insert id {} }

/-- Inserts an empty ledger where the registry has none. -/
def touchLedger (id : AcceleratorId) (s : FabricState) : FabricState :=
  if s.ledgers.contains id then s else { s with ledgers := s.ledgers.insert id {} }

/-- Registers the profiles that a backend publishes with a device. -/
def registerBackendProfile (profile : PartitionProfile) : FabricM Unit := do
  let s ← Procedure.get
  Procedure.lift (profile.validate s.limits)
  Procedure.require
    (!(s.profiles.size ≥ s.limits.maxProfiles && !s.profiles.contains profile.id))
    (makeError .limitExceeded "profile registry is full")
  Procedure.modify fun s ↦ { s with profiles := s.profiles.insert profile.id profile }

/-- Moves a partition of a reset device to revalidation. -/
def revalidateAfterReset (id : AcceleratorId) (now : UInt64) (key : PartitionId) :
    FabricM Unit := do
  let s ← Procedure.get
  match s.findPartition key with
  | none => pure ()
  | some partition =>
    Procedure.when (partition.accelerator = id && !isTerminalState partition.state)
      (Procedure.ignore (transitionPartition now key .revalidationRequired
        "device incarnation changed"))

/-- Fences a live reservation of a reset device. -/
def fenceAfterReset (id : AcceleratorId) (now : UInt64) (key : PartitionReservationId)
    (s : FabricState) : FabricState :=
  s.modifyReservation key fun reservation ↦
    if reservation.accelerator = id && !reservationIsTerminal reservation.lifecycle then
      { reservation with
        lifecycle := .fenced
        reason := "device incarnation changed"
        updatedAtMs := now }
    else reservation

/-- The identity of a device: the one its stable key already has, or a fresh one. -/
def identifyAccelerator (stableKey : Text) : FabricM (AcceleratorId × Bool) := do
  let s ← Procedure.get
  match s.keyIndex.find? stableKey with
  | some id => pure (id, true)
  | none => do
    Procedure.require (s.accelerators.size < s.limits.maxAccelerators)
      (makeError .limitExceeded "accelerator registry is full")
    let id ← allocateId
    Procedure.modify fun s ↦
      { s with
        keyIndex := s.keyIndex.insert stableKey id
        stableKeys := s.stableKeys.insert id stableKey }
    pure (id, false)

/-- The record that a backend report establishes over the previous one. -/
def reportedRecord (s : FabricState) (accelerator : BackendAccelerator) (id : AcceleratorId)
    (generation : AcceleratorGeneration) (evidenceGeneration : EvidenceGeneration)
    (existing : Bool) (previous : AcceleratorRecord) (now : UInt64) : AcceleratorRecord :=
  let health : HealthEvidence :=
    { state := if accelerator.provenance = .synthetic then .healthy else .unknown }
  { id := id
    generation := generation
    bootId := accelerator.bootId
    backend := accelerator.backend
    identifiers := accelerator.identifiers
    physicalTotals := accelerator.physicalTotals
    capability := if existing then previous.capability else {}
    topologyGeneration := accelerator.capability.topologyGeneration
    locality := accelerator.locality
    health := if existing then previous.health else health
    evidence := ensureEvidence accelerator.evidence accelerator.provenance
      (if accelerator.backend.isEmpty then "backend" else accelerator.backend)
      s.evidenceTtl now evidenceGeneration
    provenance := accelerator.provenance
    unsupportedReason := accelerator.unsupportedReason
    registeredAtMs := if existing then previous.registeredAtMs else now
    updatedAtMs := now }

/-- Establishes the totals of a device's ledger when they differ from the reported ones; a
failure takes the registration back. -/
def establishLedger (id : AcceleratorId) (existing : Bool) (totals : ResourceVector)
    (undo : FabricState → FabricState) : FabricM Unit := do
  Procedure.modify (touchLedger id)
  let s ← Procedure.get
  let ledger := (s.findLedger id).getD {}
  Procedure.when (!existing || !ledger.total.equal totals) do
    match ← Procedure.attempt (onLedger id (CapacityLedger.initializeTotals totals)) with
    | .ok _ => pure ()
    | .error e => do
      Procedure.modify undo
      Procedure.throw e

/-- Takes the registration of a backend accelerator back. -/
def undoRegistration (stableKey : Text) (id : AcceleratorId) (existing : Bool)
    (previousGeneration : AcceleratorGeneration) (s : FabricState) : FabricState :=
  if !existing then
    { s with
      accelerators := s.accelerators.erase id
      keyIndex := s.keyIndex.erase stableKey
      stableKeys := s.stableKeys.erase id
      ledgers := s.ledgers.erase id }
  else s.modifyAccelerator id fun r ↦ { r with generation := previousGeneration }

/-- Registers a physical accelerator from backend evidence. -/
def registerBackendAccelerator (accelerator : BackendAccelerator) (now : UInt64) :
    FabricM AcceleratorId := do
  checkOpen
  let s ← Procedure.get
  Procedure.lift (validateBackendAccelerator accelerator s.limits)
  let (id, existing) ← identifyAccelerator accelerator.stableKey
  Procedure.when existing (Procedure.modify (touchAccelerator id))
  let s ← Procedure.get
  let previous := if existing then (s.findAccelerator id).getD {} else {}
  let deviceReset := existing && valid previous.bootId && valid accelerator.bootId &&
    previous.bootId != accelerator.bootId
  let generation ← Procedure.lift
    (if deviceReset then next previous.generation
      else .ok (if existing then previous.generation else 1))
  let evidenceGeneration ← Procedure.lift
    (if existing && known previous.evidence.generation then next previous.evidence.generation
      else .ok 1)
  let record := reportedRecord s accelerator id generation evidenceGeneration existing previous now
  accelerator.profiles.forM registerBackendProfile
  Procedure.modify fun s ↦ { s with accelerators := s.accelerators.insert id record }
  establishLedger id existing record.physicalTotals
    (undoRegistration accelerator.stableKey id existing previous.generation)
  let capability := { accelerator.capability with
    accelerator := id
    deviceGeneration := generation
    evidence := if accelerator.capability.evidence.isObserved then accelerator.capability.evidence
      else record.evidence }
  let _ ← publishCapabilityLocked id capability now deviceReset
  Procedure.when deviceReset do
    let s ← Procedure.get
    s.partitions.keys.forM (revalidateAfterReset id now)
    s.reservations.keys.forM fun key ↦ Procedure.modify (fenceAfterReset id now key)
  Procedure.modify FabricState.bumpStateGeneration
  pure id

/-- Registers or updates an explicit accelerator record under its own identity. -/
def registerAccelerator (record : AcceleratorRecord) (now : UInt64) : FabricM Unit := do
  checkOpen
  let s ← Procedure.get
  Procedure.lift (record.validate s.limits)
  let existing := s.findAccelerator record.id
  Procedure.require (!existing.any fun e ↦ record.generation < e.generation)
    (makeError .generationRegression
      "accelerator registration would regress the device generation" (decimal record.id.toNat))
  Procedure.require (!(existing.isNone && s.accelerators.size ≥ s.limits.maxAccelerators))
    (makeError .limitExceeded "accelerator registry is full")
  Procedure.modify fun s ↦ { s with accelerators := s.accelerators.insert record.id record }
  establishLedger record.id true record.physicalTotals fun s ↦
    if existing.isNone then { s with accelerators := s.accelerators.erase record.id } else s
  Procedure.when (known record.capability.generation) do
    let _ ← publishCapabilityLocked record.id record.capability now false
  Procedure.modify FabricState.bumpStateGeneration

def updateHealth (id : AcceleratorId) (health : HealthEvidence) : FabricM Unit := do
  let s ← Procedure.get
  Procedure.require (s.accelerators.contains id)
    (makeError .notFound "accelerator is not registered" (decimal id.toNat))
  Procedure.modify fun s ↦ s.modifyAccelerator id fun r ↦
    { r with
      health :=
        if !health.stamp.isObserved && health.state ≠ .unknown then
          { health with
            stamp := { r.evidence with
              source := if health.source.isEmpty then "health-provider" else health.source } }
        else health }
  Procedure.modify FabricState.bumpStateGeneration

def markEvidenceStale (id : AcceleratorId) : FabricM Unit := do
  let s ← Procedure.get
  Procedure.require (s.accelerators.contains id)
    (makeError .notFound "accelerator is not registered" (decimal id.toNat))
  Procedure.modify fun s ↦ s.modifyAccelerator id fun r ↦
    { r with
      evidence := { r.evidence with observed := false, ttlMs := 0 }
      health := { r.health with
        state := .unknown
        stamp := { r.health.stamp with observed := false } } }
  s.plans.keys.forM fun key ↦ Procedure.modify fun s ↦
    { s with
      plans := s.plans.modify key fun plan ↦
        if plan.binding.accelerator = id then { plan with terminal := true } else plan }
  Procedure.modify FabricState.bumpStateGeneration

/-- Hands out a snapshot, which advances the snapshot generation. -/
def snapshot : FabricM Unit := Procedure.modify fun s ↦
  match next s.snapshotGeneration with
  | .ok g => { s with snapshotGeneration := g }
  | .error _ => s

/-- Binds an accelerator to the worker incarnation that published its evidence. -/
def bindAcceleratorWorker (id : AcceleratorId) (worker : WorkerId) (workerBoot : WorkerBootId) :
    FabricM Unit := do
  let s ← Procedure.get
  match s.findWorker worker with
  | none => Procedure.throw (makeError .staleWorker "worker is not registered" (decimal worker.toNat))
  | some record => do
    Procedure.require (record.boot == workerBoot)
      (makeError .staleWorker "worker incarnation is not current" (hex workerBoot))
    Procedure.require (!record.fenced)
      (makeError .fenced "worker incarnation is fenced" (hex workerBoot))
    Procedure.require (s.accelerators.contains id)
      (makeError .notFound "accelerator is not registered" (decimal id.toNat))
    Procedure.modify fun s ↦ { s with acceleratorOwner := s.acceleratorOwner.insert id record }

end PartitionFabric
