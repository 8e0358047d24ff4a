import PartitionFabric.Fabric.Reservation

/-!
Physical mutation: the attempt registered before dispatch and the result applied after it.
-/

namespace PartitionFabric

/-- One partition that a mutation asks a backend for. -/
structure NativePartitionSpec where
  vendorNativeProfile : Text := []
  profile : PartitionProfileId := 0
  resources : ResourceVector := {}
  existingNativeId : Text := []
  logicalPartition : PartitionId := 0

/-- A physical mutation request with the authority its sender believes it holds. -/
structure PartitionMutationRequest where
  stableKey : Text := []
  expectedBoot : AcceleratorBootId := 0
  expectedAcceleratorGeneration : AcceleratorGeneration := 0
  expectedCapabilityGeneration : CapabilityGeneration := 0
  coordinatorEpoch : CoordinatorEpoch := 0
  worker : WorkerId := 0
  workerBoot : WorkerBootId := 0
  attempt : PartitionAttemptId := 0
  idempotencyToken : UInt64 := 0
  destructive : Bool := false
  fullDeviceReconfiguration : Bool := false
  desired : List NativePartitionSpec := []
  removeNativeIds : List Text := []

structure MutationOutcome where
  reservation : PartitionReservationId := 0
  attempt : PartitionAttemptId := 0
  state : AttemptState := .registered
  plan : PartitionPlanId := 0
  accelerator : AcceleratorId := 0
  partitions : List PartitionId := []
  generations : List PartitionGeneration := []
  outcomeUnknown : Bool := false
  reconciliationRequired : Bool := false
  committed : Bool := false
  verifiedPhysically : Bool := false
  message : Text := []
deriving DecidableEq

def MutationOutcome.succeeded (outcome : MutationOutcome) : Bool :=
  outcome.committed && !outcome.outcomeUnknown

def PlannedPartition.spec (planned : PlannedPartition) : NativePartitionSpec :=
  { vendorNativeProfile := planned.vendorNativeProfile
    profile := planned.profile
    resources := planned.resources }

/-- An observed partition that answers a spec; an empty field of the spec asks for nothing. -/
def NativePartitionSpec.admits (spec : NativePartitionSpec) (p : BackendNativePartition) : Bool :=
  (spec.vendorNativeProfile.isEmpty || p.vendorNativeProfile = spec.vendorNativeProfile) &&
    (spec.resources.empty || p.resources.equal spec.resources)

def findNative (layout : BackendLayout) (nativeId : Text) : Option BackendNativePartition :=
  layout.partitions.find? fun p ↦ !nativeId.isEmpty && p.nativeId = nativeId

def findNativeForSpec (layout : BackendLayout) (spec : NativePartitionSpec) :
    Option BackendNativePartition :=
  layout.partitions.find? spec.admits

/-- The first observed partition that answers a spec and was not claimed in this commit. -/
def findUnclaimedNativeForSpec (layout : BackendLayout) (spec : NativePartitionSpec)
    (claimed : List Text) : Option BackendNativePartition :=
  layout.partitions.find? fun p ↦ !claimed.contains p.nativeId && spec.admits p

/-- Serves the specs in order, each by the first candidate that is still unused. -/
def serveSpecs : List NativePartitionSpec → List BackendNativePartition → Bool
  | [], _ => true
  | spec :: rest, unused => unused.any spec.admits && serveSpecs rest (unused.eraseP spec.admits)

def layoutMatchesExactly (layout : BackendLayout) (desired : List NativePartitionSpec) : Bool :=
  layout.partitions.length = desired.length && serveSpecs desired layout.partitions

def desiredSpecsOf (plan : PartitionPlan) : List NativePartitionSpec :=
  plan.plannedPartitions.map PlannedPartition.spec

/-- Drops settled attempts when the history is full and fails when that frees nothing. -/
def makeAttemptRoom : FabricM Unit := do
  let s ← Procedure.get
  Procedure.when (s.attempts.size ≥ s.limits.maxAttemptHistory) do
    Procedure.modify pruneAttempts
    let s ← Procedure.get
    Procedure.require (s.attempts.size < s.limits.maxAttemptHistory)
      (makeError .limitExceeded "physical attempt history is full")

/-- Moves a reserved partition of the expected generation into creation. -/
def beginCreating (reservation : PartitionReservation) (now : UInt64) (p : PartitionId)
    (index : ℕ) : FabricM Unit := do
  let s ← Procedure.get
  match s.findPartition p with
  | none =>
    Procedure.throw (makeError .stalePartitionGeneration
      "reserved partition identity is no longer known" (decimal p.toNat))
  | some record => do
    Procedure.require (record.generation = reservation.partitionGenerations.getD index 0)
      (makeError .stalePartitionGeneration "reserved partition generation is no longer current"
        (decimal p.toNat))
    transitionPartition now p .creating "physical creation attempt registered"

def beginDestroying (now : UInt64) (p : PartitionId) : FabricM Unit := do
  let s ← Procedure.get
  match s.findPartition p with
  | none =>
    Procedure.throw (makeError .stalePartitionGeneration
      "reserved partition identity is no longer known" (decimal p.toNat))
  | some _ => transitionPartition now p .destroying "physical destruction attempt registered"

/-- The lifecycle consequence of registering an attempt. -/
def beginMutation (reservation : PartitionReservation) (kind : AttemptKind) (now : UInt64) :
    FabricM Unit :=
  match kind with
  | .createPartition =>
    reservation.partitions.zipIdx.forM fun (p, index) ↦ beginCreating reservation now p index
  | .destroyPartition => reservation.partitions.forM (beginDestroying now)
  | .reconfigureLayout => pure ()

/-- The result that an attempt intends, read from the plan behind its reservation. -/
def desiredBy (s : FabricState) (reservation : PartitionReservation) (kind : AttemptKind) :
    List PlannedPartition :=
  match s.plans.find? reservation.plan, kind with
  | some plan, .createPartition => plan.plannedPartitions.take reservation.partitions.length
  | some plan, .reconfigureLayout => plan.plannedPartitions
  | _, _ => []

def attemptFor (s : FabricState) (reservation : PartitionReservation) (kind : AttemptKind)
    (worker : WorkerId) (workerBoot : WorkerBootId) (id : PartitionAttemptId) (now : UInt64) :
    PartitionAttempt :=
  { id := id
    kind := kind
    reservation := reservation.id
    accelerator := reservation.accelerator
    acceleratorGeneration := reservation.acceleratorGeneration
    acceleratorBoot := reservation.acceleratorBoot
    capabilityGeneration := reservation.capabilityGeneration
    coordinatorEpoch := reservation.coordinatorEpoch
    worker := if valid worker then worker else reservation.worker
    workerBoot := if valid workerBoot then workerBoot else reservation.workerBoot
    partitions := reservation.partitions
    desired := desiredBy s reservation kind
    state := .dispatched
    token := id
    registeredAtMs := now
    dispatchedAtMs := now }

/-- Registers a physical attempt for the reservation under a key before it is dispatched. -/
def registerAttemptLocked (key : PartitionReservationId) (reservation : PartitionReservation)
    (kind : AttemptKind) (worker : WorkerId) (workerBoot : WorkerBootId) (now : UInt64) :
    FabricM PartitionAttempt := do
  makeAttemptRoom
  let s ← Procedure.get
  Procedure.require (s.attempts.values.countP (fun a ↦ !attemptSettled a.state) <
      s.limits.maxPendingAttempts)
    (makeError .limitExceeded "too many physical attempts are in flight")
  let id ← allocateId
  beginMutation reservation kind now
  let s ← Procedure.get
  let attempt := attemptFor s reservation kind worker workerBoot id now
  Procedure.lift attempt.validate
  Procedure.modify fun s ↦ { s with attempts := s.attempts.insert id attempt }
  Procedure.modify fun s ↦ s.modifyReservation key fun r ↦
    { r with attempt := id, updatedAtMs := now }
  Procedure.modify FabricState.bumpStateGeneration
  pure attempt

/-- What is known of a mutation; a call that failed after dispatch may still have applied it. -/
def mutationReport : Result BackendMutationResult → BackendMutationResult
  | .ok result => result
  | .error e => { ambiguous := true, detail := e.toText }

/-- How a mutation's result compares with fresh physical observation. -/
structure Verification where
  verified : Bool
  ambiguous : Bool
  detail : Text

/-- A comparison that was made: a mismatch leaves the outcome unknown. -/
def Verification.compared (holds ambiguous : Bool) (matching mismatching : Text) : Verification :=
  ⟨holds, ambiguous || !holds, if holds then matching else mismatching⟩

def verifyReconfiguration (s : FabricState) (reservation : PartitionReservation)
    (report : BackendMutationResult) (observed : Option BackendLayout) : Verification :=
  if !report.accepted then
    ⟨false, report.ambiguous, ("backend rejected the reconfiguration: " : Text) ++ report.detail⟩
  else match observed with
    | none =>
      ⟨false, true, "no fresh physical observation is available to verify the result"⟩
    | some layout =>
      if !layout.devicePresent then
        ⟨false, true, "device is no longer present after the mutation"⟩
      else
        let desired := ((s.plans.find? reservation.plan).map desiredSpecsOf).getD []
        .compared (layoutMatchesExactly layout desired) report.ambiguous
          "observed layout matches the planned geometry"
          "observed layout does not match the planned geometry"

def verifyCreation (attempt : PartitionAttempt) (report : BackendMutationResult)
    (observed : Option BackendLayout) : Verification :=
  if !report.accepted then
    ⟨false, report.ambiguous, ("backend rejected the mutation: " : Text) ++ report.detail⟩
  else match observed with
    | none =>
      ⟨false, true, "no fresh physical observation is available to verify the result"⟩
    | some layout =>
      if !layout.devicePresent then
        ⟨false, true, "device is no longer present after the mutation"⟩
      else
        let idsPresent := report.createdNativeIds.all fun n ↦ (findNative layout n).isSome
        let specsPresent := attempt.desired.all fun planned ↦
          (findNativeForSpec layout planned.spec).isSome
        .compared (idsPresent && specsPresent) report.ambiguous
          "every requested partition exists in freshly observed state"
          "observed layout does not contain the requested partitions"

/-- Whether the partition under a key names a native identity that the layout still lists. -/
def stillObserved (s : FabricState) (layout : BackendLayout) (p : PartitionId) : Bool :=
  (s.findPartition p).any fun record ↦ !record.nativeIdentity.nativeId.isEmpty &&
    (findNative layout record.nativeIdentity.nativeId).isSome

def verifyDestruction (s : FabricState) (attempt : PartitionAttempt)
    (report : BackendMutationResult) (observed : Option BackendLayout) : Verification :=
  if !report.accepted then
    ⟨false, report.ambiguous, ("backend rejected the destruction: " : Text) ++ report.detail⟩
  else match observed with
    | none =>
      ⟨false, true, "no fresh physical observation is available to verify destruction"⟩
    | some layout =>
      .compared (!attempt.partitions.any (stillObserved s layout)) report.ambiguous
        "no destroyed partition remains in observed state"
        "a destroyed partition still exists in observed state"

def verifyMutation (s : FabricState) (attempt : PartitionAttempt)
    (reservation : PartitionReservation) (report : BackendMutationResult)
    (observed : Option BackendLayout) : Verification :=
  match attempt.kind with
  | .reconfigureLayout => verifyReconfiguration s reservation report observed
  | .createPartition => verifyCreation attempt report observed
  | .destroyPartition => verifyDestruction s attempt report observed

end PartitionFabric
