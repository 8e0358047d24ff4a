import PartitionFabric.Codec.Writer
import PartitionFabric.Foundation.KeyedMap

/-!
The registry state of one fabric instance, the backend messages that change it and the
transition of a partition record together with its capacity.
-/

namespace PartitionFabric

/-- What discovery reports about one physical accelerator. -/
structure BackendAccelerator where
  stableKey : Text := []
  backend : Text := []
  identifiers : DeviceIdentifiers := {}
  physicalTotals : ResourceVector := {}
  capability : PartitionCapability := {}
  profiles : List PartitionProfile := []
  bootId : AcceleratorBootId := 0
  locality : LocalityDomain := {}
  evidence : EvidenceStamp := {}
  provenance : EvidenceProvenance := .unknown
  unsupportedReason : Text := []

/-- A partition as the hardware reports it. -/
structure BackendNativePartition where
  nativeId : Text := []
  instanceUuid : Text := []
  vendorNativeProfile : Text := []
  profile : PartitionProfileId := 0
  resources : ResourceVector := {}
  isolationDomain : Text := []
  isolation : IsolationSet := {}
  live : Bool := true
deriving DecidableEq

/-- The observed physical layout of one accelerator. -/
structure BackendLayout where
  stableKey : Text := []
  devicePresent : Bool := false
  bootId : AcceleratorBootId := 0
  physicalTotals : ResourceVector := {}
  partitions : List BackendNativePartition := []
  evidence : EvidenceStamp := {}
  detail : Text := []
deriving DecidableEq

/-- The answer of a backend to a physical mutation. -/
structure BackendMutationResult where
  accepted : Bool := false
  ambiguous : Bool := false
  createdNativeIds : List Text := []
  detail : Text := []
  observedLayout : BackendLayout := {}

/-- A published capability is valid; without a generation it determines nothing. -/
def checkPublishedCapability (accelerator : BackendAccelerator) (limits : Limits) : Status :=
  if known accelerator.capability.generation then accelerator.capability.validate limits false
  else if accelerator.capability.support ≠ .unknown then
    failure .invalidArgument "backend published a capability determination without a generation"
      accelerator.stableKey
  else success

def validateBackendAccelerator (accelerator : BackendAccelerator) (limits : Limits) : Status := do
  let tooLong (text : Text) : Bool := text.length > limits.maxMetadataBytes
  if accelerator.stableKey.isEmpty then
    failure .invalidArgument "backend reported an accelerator without a key"
  else if tooLong accelerator.stableKey then
    failure .limitExceeded "backend accelerator key is too long" accelerator.stableKey
  else if accelerator.backend.isEmpty || tooLong accelerator.backend then
    failure .invalidArgument "backend reported an accelerator without a backend"
  else if accelerator.physicalTotals.empty then
    failure .invalidArgument "backend reported an accelerator without physical capacity"
      accelerator.stableKey
  else do
    accelerator.physicalTotals.validateDimensions
    if tooLong accelerator.identifiers.model || tooLong accelerator.identifiers.uuid ||
        tooLong accelerator.identifiers.vendor then
      failure .limitExceeded "backend reported oversized device identifiers"
        accelerator.stableKey
    else if accelerator.identifiers.uuid.isEmpty && accelerator.identifiers.pciBusId.isEmpty &&
        accelerator.stableKey.isEmpty then
      failure .invalidArgument "backend reported an accelerator with no stable identity"
        accelerator.stableKey
    else if accelerator.provenance = .unknown then
      failure .invalidArgument "backend reported an accelerator without evidence provenance"
        accelerator.stableKey
    else do
      checkPublishedCapability accelerator limits
      if accelerator.capability.declaresSupported && accelerator.provenance = .unsupported then
        failure .invalidArgument
          "backend claims partition support while labelling the evidence unsupported"
          accelerator.stableKey
      else if accelerator.capability.declaresSupported && !valid accelerator.bootId then
        failure .invalidArgument
          "backend claims partition support without a device incarnation identity"
          accelerator.stableKey
      else success

/-- Checks the reported partitions in order, each against the native identities before it. -/
def checkNatives (limits : Limits) (stableKey : Text) :
    List Text → List BackendNativePartition → Status
  | _, [] => success
  | seen, partition :: rest =>
    if partition.nativeId.isEmpty then
      failure .invalidArgument "backend reported a partition without a native id" stableKey
    else if partition.nativeId.length > limits.maxNativeIdBytes then
      failure .limitExceeded "native partition identity is too long" stableKey
    else if seen.contains partition.nativeId then
      failure .invalidArgument "backend reported the same native partition identity twice"
        partition.nativeId
    else if partition.resources.empty then
      failure .invalidArgument "backend reported a partition without resource ownership"
        partition.nativeId
    else do
      partition.resources.validateDimensions
      checkNatives limits stableKey (partition.nativeId :: seen) rest

/-- The capacity of a present device is dimensionally valid. -/
def checkPhysicalTotals (layout : BackendLayout) : Status :=
  if layout.devicePresent then layout.physicalTotals.validateDimensions else success

def validateBackendLayout (layout : BackendLayout) (limits : Limits) : Status := do
  if layout.stableKey.isEmpty then
    failure .invalidArgument "backend reported a layout without a device key"
  else if layout.devicePresent && layout.physicalTotals.empty then
    failure .invalidArgument "backend reported a present device without physical capacity"
      layout.stableKey
  else do
    checkPhysicalTotals layout
    if layout.partitions.length > limits.maxSyntheticPartitions &&
        layout.partitions.length > limits.maxPartitions then
      failure .limitExceeded "backend reported too many partitions" layout.stableKey
    else checkNatives limits layout.stableKey [] layout.partitions

/-- The native identities of a reported layout are named and pairwise different. -/
def BackendLayout.Distinct (layout : BackendLayout) : Prop :=
  (∀ native ∈ layout.partitions, native.nativeId.isEmpty = false) ∧
    (layout.partitions.map BackendNativePartition.nativeId).Nodup

lemma checkNatives_eq_success {limits : Limits} {stableKey : Text} {seen : List Text}
    {l : List BackendNativePartition} (h : checkNatives limits stableKey seen l = success) :
    (∀ native ∈ l, native.nativeId.isEmpty = false ∧ native.nativeId ∉ seen) ∧
      (l.map BackendNativePartition.nativeId).Nodup := by
  induction l generalizing seen with
  | nil => simp
  | cons native rest ih =>
      unfold checkNatives at h
      split at h
      · exact absurd h (failure_ne_ok _ _ _ _)
      · rename_i hempty
        split at h
        · exact absurd h (failure_ne_ok _ _ _ _)
        · split at h
          · exact absurd h (failure_ne_ok _ _ _ _)
          · rename_i hseen
            split at h
            · exact absurd h (failure_ne_ok _ _ _ _)
            · obtain ⟨-, hrest⟩ := check_bind_eq_ok.mp h
              obtain ⟨hnew, hnodup⟩ := ih hrest
              refine ⟨fun n hn ↦ ?_, List.nodup_cons.mpr ⟨fun hmem ↦ ?_, hnodup⟩⟩
              · rcases List.mem_cons.mp hn with rfl | hn
                · exact ⟨by simpa using hempty, by simpa using hseen⟩
                · exact ⟨(hnew n hn).1, fun h ↦ (hnew n hn).2 (List.mem_cons_of_mem _ h)⟩
              · obtain ⟨n, hn, heq⟩ := List.mem_map.mp hmem
                exact (hnew n hn).2 (heq ▸ List.mem_cons_self)

lemma distinct_of_validate {layout : BackendLayout} {limits : Limits}
    (h : validateBackendLayout layout limits = success) : layout.Distinct := by
  unfold validateBackendLayout at h
  split at h
  · exact absurd h (failure_ne_ok _ _ _ _)
  · split at h
    · exact absurd h (failure_ne_ok _ _ _ _)
    · obtain ⟨-, h⟩ := check_bind_eq_ok.mp h
      split at h
      · exact absurd h (failure_ne_ok _ _ _ _)
      · obtain ⟨hnew, hnodup⟩ := checkNatives_eq_success h
        exact ⟨fun n hn ↦ (hnew n hn).1, hnodup⟩

/-- A worker that owns physical mutation authority. -/
structure WorkerRecord where
  id : WorkerId := 0
  boot : WorkerBootId := 0
  endpoint : Text := []
  backend : Text := []
  alive : Bool := false
  fenced : Bool := false
  deviceCount : UInt32 := 0
  registeredAtMs : UInt64 := 0
  lastSeenMs : UInt64 := 0
  fencedAtMs : UInt64 := 0
  fenceReason : Text := []
  coordinatorEpoch : CoordinatorEpoch := 0
deriving DecidableEq, Repr

/-- The registry state guarded by the fabric's lock. -/
structure FabricState where
  limits : Limits := {}
  coordinatorEpoch : CoordinatorEpoch := 1
  stateGeneration : StateGeneration := 1
  snapshotGeneration : SnapshotGeneration := 1
  policyGeneration : PolicyGeneration := 1
  policy : PlanningPolicy := {}
  ids : IdAllocator := {}
  accelerators : KeyedMap AcceleratorId AcceleratorRecord := ∅
  ledgers : KeyedMap AcceleratorId CapacityLedger := ∅
  stableKeys : KeyedMap AcceleratorId Text := ∅
  keyIndex : KeyedMap Text AcceleratorId := ∅
  profiles : KeyedMap PartitionProfileId PartitionProfile := ∅
  partitions : KeyedMap PartitionId PartitionRecord := ∅
  plans : KeyedMap PartitionPlanId PartitionPlan := ∅
  reservations : KeyedMap PartitionReservationId PartitionReservation := ∅
  attempts : KeyedMap PartitionAttemptId PartitionAttempt := ∅
  assignments : KeyedMap PartitionAssignmentId PartitionAssignment := ∅
  workers : KeyedMap WorkerId WorkerRecord := ∅
  acceleratorOwner : KeyedMap AcceleratorId WorkerRecord := ∅
  evidenceGeneration : EvidenceGeneration := 1
  instanceId : Text := "apf-instance"
  openedAtMs : UInt64 := 0
  closed : Bool := false
  closedAtMs : UInt64 := 0
  requireWorkerForMutation : Bool := false

/-- A fabric operation: it may fail, and it keeps what it wrote before failing. -/
abbrev FabricM := Procedure Error FabricState

namespace FabricState

def findAccelerator (s : FabricState) (id : AcceleratorId) : Option AcceleratorRecord :=
  s.accelerators.find? id

def findLedger (s : FabricState) (id : AcceleratorId) : Option CapacityLedger := s.ledgers.find? id

def findProfile (s : FabricState) (id : PartitionProfileId) : Option PartitionProfile :=
  s.profiles.find? id

def findPartition (s : FabricState) (id : PartitionId) : Option PartitionRecord :=
  s.partitions.find? id

def findReservation (s : FabricState) (id : PartitionReservationId) : Option PartitionReservation :=
  s.reservations.find? id

def findAttempt (s : FabricState) (id : PartitionAttemptId) : Option PartitionAttempt :=
  s.attempts.find? id

def findWorker (s : FabricState) (id : WorkerId) : Option WorkerRecord := s.workers.find? id

/-- The partition records of an accelerator in the order of their identities. -/
def partitionsOf (s : FabricState) (id : AcceleratorId) : List PartitionRecord :=
  s.partitions.values.filter fun record ↦ record.accelerator = id

def countPartitionsInStates (s : FabricState) (id : AcceleratorId)
    (states : List PartitionState) : ℕ :=
  (s.partitionsOf id).countP fun record ↦ states.contains record.state

def modifyAccelerator (s : FabricState) (id : AcceleratorId)
    (f : AcceleratorRecord → AcceleratorRecord) : FabricState :=
  { s with accelerators := s.accelerators.modify id f }

def modifyPartition (s : FabricState) (id : PartitionId) (f : PartitionRecord → PartitionRecord) :
    FabricState :=
  { s with partitions := s.partitions.modify id f }

def modifyReservation (s : FabricState) (id : PartitionReservationId)
    (f : PartitionReservation → PartitionReservation) : FabricState :=
  { s with reservations := s.reservations.modify id f }

def modifyAttempt (s : FabricState) (id : PartitionAttemptId)
    (f : PartitionAttempt → PartitionAttempt) : FabricState :=
  { s with attempts := s.attempts.modify id f }

def setLedger (s : FabricState) (id : AcceleratorId) (ledger : CapacityLedger) : FabricState :=
  { s with ledgers := s.ledgers.insert id ledger }

/-- Advances the state generation; an exhausted counter stays where it is. -/
def bumpStateGeneration (s : FabricState) : FabricState :=
  match next s.stateGeneration with
  | .ok g => { s with stateGeneration := g }
  | .error _ => s

end FabricState

section Bump

variable {s : FabricState}

/-- A bump changes the state generation alone. -/
lemma bumpStateGeneration_eq (s : FabricState) :
    ∃ generation, s.bumpStateGeneration = { s with stateGeneration := generation } := by
  unfold FabricState.bumpStateGeneration
  cases next s.stateGeneration with
  | error e => exact ⟨s.stateGeneration, rfl⟩
  | ok generation => exact ⟨generation, rfl⟩

/-- A relation that disregards the state generation relates a state to its bump. -/
lemma bump_of {R : FabricState → FabricState → Prop}
    (h : ∀ generation, R s { s with stateGeneration := generation }) :
    R s s.bumpStateGeneration := by
  obtain ⟨generation, heq⟩ := bumpStateGeneration_eq s
  rw [heq]
  exact h generation

@[simp] lemma bump_partitions : s.bumpStateGeneration.partitions = s.partitions := by
  obtain ⟨generation, heq⟩ := bumpStateGeneration_eq s
  rw [heq]

@[simp] lemma bump_assignments : s.bumpStateGeneration.assignments = s.assignments := by
  obtain ⟨generation, heq⟩ := bumpStateGeneration_eq s
  rw [heq]

@[simp] lemma bump_ledgers : s.bumpStateGeneration.ledgers = s.ledgers := by
  obtain ⟨generation, heq⟩ := bumpStateGeneration_eq s
  rw [heq]

@[simp] lemma bump_reservations : s.bumpStateGeneration.reservations = s.reservations := by
  obtain ⟨generation, heq⟩ := bumpStateGeneration_eq s
  rw [heq]

@[simp] lemma bump_plans : s.bumpStateGeneration.plans = s.plans := by
  obtain ⟨generation, heq⟩ := bumpStateGeneration_eq s
  rw [heq]

@[simp] lemma bump_workers : s.bumpStateGeneration.workers = s.workers := by
  obtain ⟨generation, heq⟩ := bumpStateGeneration_eq s
  rw [heq]

@[simp] lemma bump_ids : s.bumpStateGeneration.ids = s.ids := by
  obtain ⟨generation, heq⟩ := bumpStateGeneration_eq s
  rw [heq]

end Bump

end PartitionFabric
