import PartitionFabric.Core.Accounting

/-!
Physical accelerators as the fabric knows them: bounds, evidence, isolation, profiles,
capability publications and the accelerator record, with the checks each of them passes.
-/

namespace PartitionFabric

/-- Hard bounds of a runtime instance. -/
structure Limits where
  maxAccelerators : ℕ := 256
  maxProfiles : ℕ := 512
  maxPartitionsPerAccelerator : ℕ := 128
  maxPartitions : ℕ := 4096
  maxAssignments : ℕ := 16384
  maxReservations : ℕ := 4096
  maxActiveReservations : ℕ := 256
  maxPendingPlans : ℕ := 1024
  maxPlanSteps : ℕ := 512
  maxPendingAttempts : ℕ := 64
  maxAttemptHistory : ℕ := 4096
  maxSnapshotRetention : ℕ := 64
  maxEvents : ℕ := 8192
  maxExplanations : ℕ := 128
  maxReconciliationFindings : ℕ := 1024
  maxMetadataBytes : ℕ := 4096
  maxNativeIdBytes : ℕ := 256
  maxNameBytes : ℕ := 256
  maxWorkers : ℕ := 64
  maxFrameBytes : ℕ := 1048576
  maxMessageQueue : ℕ := 4096
  maxSyntheticDevices : ℕ := 64
  maxSyntheticPartitions : ℕ := 512
  maxPersistedRecords : ℕ := 65536
  maxProfileExclusions : ℕ := 64
  maxRetryState : ℕ := 16
deriving DecidableEq, Repr

/-- Rejects any configuration that is structurally unusable. -/
def Limits.validate (limits : Limits) : Status :=
  if limits.maxAccelerators = 0 || limits.maxProfiles = 0 || limits.maxPartitions = 0 then
    failure .invalidArgument "limits must allow at least one entity"
  else if limits.maxPartitionsPerAccelerator > limits.maxPartitions then
    failure .invalidArgument "per-accelerator partition bound exceeds the global bound"
  else if limits.maxFrameBytes < 64 || limits.maxFrameBytes > 67108864 then
    failure .invalidArgument "frame bound is outside the supported range"
      (decimal limits.maxFrameBytes)
  else if limits.maxMetadataBytes = 0 || limits.maxMetadataBytes > 1048576 then
    failure .invalidArgument "metadata bound is outside the supported range"
      (decimal limits.maxMetadataBytes)
  else if limits.maxNativeIdBytes = 0 || limits.maxNativeIdBytes > limits.maxMetadataBytes then
    failure .invalidArgument "native identity bound is not usable"
      (decimal limits.maxNativeIdBytes)
  else if limits.maxNameBytes = 0 || limits.maxNameBytes > limits.maxMetadataBytes then
    failure .invalidArgument "name bound is not usable"
  else if limits.maxPendingAttempts = 0 ||
      limits.maxPendingAttempts > limits.maxAttemptHistory then
    failure .invalidArgument "pending attempt bound exceeds attempt history"
  else if limits.maxPlanSteps = 0 || limits.maxExplanations = 0 || limits.maxEvents = 0 then
    failure .invalidArgument "explanatory bounds must be non-zero"
  else if limits.maxSyntheticDevices = 0 || limits.maxSyntheticPartitions = 0 then
    failure .invalidArgument "synthetic bounds must be non-zero"
  else if limits.maxWorkers = 0 || limits.maxMessageQueue = 0 then
    failure .invalidArgument "distributed bounds must be non-zero"
  else if limits.maxPersistedRecords < 16 then
    failure .invalidArgument "persistence record bound is too small"
  else success

/-- Usable limits bound frames and texts. -/
lemma Limits.bounded {limits : Limits} (h : limits.validate = success) :
    limits.maxFrameBytes ≤ 67108864 ∧ limits.maxMetadataBytes ≤ 1048576 := by
  unfold Limits.validate at h
  split at h
  · exact absurd h (failure_ne_ok _ _ _ _)
  · split at h
    · exact absurd h (failure_ne_ok _ _ _ _)
    · split at h
      · exact absurd h (failure_ne_ok _ _ _ _)
      · split at h
        · exact absurd h (failure_ne_ok _ _ _ _)
        · rename_i hframe hmetadata
          simp only [Bool.or_eq_true, decide_eq_true_eq, not_or, not_lt] at hframe hmetadata
          exact ⟨hframe.2, hmetadata.2⟩

/-- The frame bound of usable limits is at most 64 MiB. -/
lemma Limits.maxFrameBytes_le {limits : Limits} (h : limits.validate = success) :
    limits.maxFrameBytes ≤ 67108864 :=
  (Limits.bounded h).1

/-- The metadata bound of usable limits is at most 1 MiB. -/
lemma Limits.maxMetadataBytes_le {limits : Limits} (h : limits.validate = success) :
    limits.maxMetadataBytes ≤ 1048576 :=
  (Limits.bounded h).2

/-- A continuation byte of a UTF-8 sequence. -/
def isContinuation (byte : UInt8) : Bool := byte &&& 0xC0 == 0x80

/-- The six payload bits of a continuation byte appended to a code point. -/
def appendContinuation (codePoint : ℕ) (byte : UInt8) : ℕ :=
  codePoint * 64 + (byte &&& 0x3F).toNat

/-- Range checks on a decoded code point: shortest form, no surrogate, within Unicode. -/
def codePointOk (lowest codePoint : ℕ) : Bool :=
  lowest ≤ codePoint && codePoint ≤ 0x10FFFF && !(0xD800 ≤ codePoint && codePoint ≤ 0xDFFF)

/-- Whether a byte string is well-formed UTF-8. -/
def isValidUtf8 : Text → Bool
  | [] => true
  | byte :: rest =>
    if byte < 0x80 then isValidUtf8 rest
    else if byte &&& 0xE0 == 0xC0 then
      match rest with
      | b₁ :: rest =>
        let codePoint := appendContinuation (byte &&& 0x1F).toNat b₁
        byte &&& 0x1F != 0 && isContinuation b₁ && codePointOk 0x80 codePoint &&
          isValidUtf8 rest
      | _ => false
    else if byte &&& 0xF0 == 0xE0 then
      match rest with
      | b₁ :: b₂ :: rest =>
        let codePoint := appendContinuation (appendContinuation (byte &&& 0x0F).toNat b₁) b₂
        isContinuation b₁ && isContinuation b₂ && codePointOk 0x800 codePoint &&
          isValidUtf8 rest
      | _ => false
    else if byte &&& 0xF8 == 0xF0 then
      match rest with
      | b₁ :: b₂ :: b₃ :: rest =>
        let codePoint := appendContinuation
          (appendContinuation (appendContinuation (byte &&& 0x07).toNat b₁) b₂) b₃
        isContinuation b₁ && isContinuation b₂ && isContinuation b₃ &&
          codePointOk 0x10000 codePoint && isValidUtf8 rest
      | _ => false
    else false

/-- Text that reaches authoritative state is bounded and well-formed. -/
def checkText (value : Text) (maxBytes : ℕ) (what : Text) : Status :=
  if value.isEmpty then success
  else if value.length > maxBytes then
    failure .limitExceeded (what ++ (" is too long" : Text)) value
  else if !isValidUtf8 value then
    failure .invalidArgument (what ++ (" is not valid UTF-8" : Text)) value
  else success

inductive EvidenceProvenance where
  | unknown | real | synthetic | unsupported
deriving DecidableEq, Repr

inductive EvidenceFreshness where
  | unknown | fresh | stale | expired
deriving DecidableEq, Repr

/-- A generation-bound observation, usable while it is current and unexpired. -/
structure EvidenceStamp where
  generation : EvidenceGeneration := 0
  provenance : EvidenceProvenance := .unknown
  observedAtMs : UInt64 := 0
  ttlMs : UInt64 := 0
  source : Text := []
  observed : Bool := false
deriving DecidableEq, Repr

namespace EvidenceStamp

def isObserved (stamp : EvidenceStamp) : Bool := stamp.observed && known stamp.generation

def freshnessAt (stamp : EvidenceStamp) (nowMs : UInt64) : EvidenceFreshness :=
  if !stamp.isObserved then .unknown
  else if stamp.ttlMs = 0 then .unknown
  else if nowMs ≤ stamp.observedAtMs then .fresh
  else
    let age := nowMs - stamp.observedAtMs
    if age ≤ stamp.ttlMs then .fresh
    else if stamp.ttlMs ≤ uint64Max / 4 && age ≤ stamp.ttlMs * 4 then .stale
    else .expired

def isFreshAt (stamp : EvidenceStamp) (nowMs : UInt64) : Bool := stamp.freshnessAt nowMs = .fresh

end EvidenceStamp

inductive HealthState where
  | unknown | healthy | degraded | unhealthy | recovering
deriving DecidableEq, Repr

structure HealthEvidence where
  state : HealthState := .unknown
  stamp : EvidenceStamp := {}
  source : Text := []
deriving DecidableEq, Repr

def HealthEvidence.usableAt (health : HealthEvidence) (nowMs : UInt64) : Bool :=
  health.stamp.isFreshAt nowMs

/-- A set of isolation properties; an absent property is not claimed. -/
structure IsolationSet where
  mask : UInt32 := 0
deriving DecidableEq, Repr

def IsolationSet.isSubsetOf (set other : IsolationSet) : Bool := set.mask &&& ~~~other.mask == 0

/-- What a policy demands before a partition may host a workload. -/
structure IsolationRequirement where
  required : IsolationSet := {}
  policy : IsolationPolicyId := 0
  policyGeneration : IsolationPolicyGeneration := 0
deriving DecidableEq, Repr

structure IsolationDomain where
  name : Text := []
  guarantees : IsolationSet := {}
  backendDefined : Bool := false
deriving DecidableEq, Repr

inductive PartitionMechanism where
  | none | mig | srIov | mediatedDevice | vendorSlice | synthetic
deriving DecidableEq, Repr

def mechanismIsPhysical : PartitionMechanism → Bool
  | .mig | .srIov | .mediatedDevice | .vendorSlice => true
  | _ => false

inductive EngineGrouping where
  | none | shared | dedicated
deriving DecidableEq, Repr

structure ProfileAlignment where
  computeSliceMultiple : UInt32 := 1
  memorySliceMultiple : UInt32 := 1
  requiresContiguousSlices : Bool := false
  requiresAtomicSlice : Bool := false
deriving DecidableEq, Repr

/-- An explicit partition shape. -/
structure PartitionProfile where
  id : PartitionProfileId := 0
  generation : PartitionProfileGeneration := 0
  name : Text := []
  vendorNative : Text := []
  backend : Text := []
  mechanism : PartitionMechanism := .none
  resources : ResourceVector := {}
  computeSliceCount : UInt32 := 0
  memorySliceCount : UInt32 := 0
  engineGrouping : EngineGrouping := .none
  maxMultiplicity : UInt32 := 0
  alignment : ProfileAlignment := {}
  mutuallyExclusiveWith : List PartitionProfileId := []
  requiresFullDeviceReconfiguration : Bool := false
  liveRepartitioningSupported : Bool := false
  backendRequirements : List Text := []
  description : Text := []
deriving DecidableEq

namespace PartitionProfile

def validate (profile : PartitionProfile) (limits : Limits) : Status := do
  if !valid profile.id then failure .invalidArgument "profile identity is not set"
  else if !known profile.generation then
    failure .invalidArgument "profile generation is not set"
  else if profile.name.isEmpty || profile.name.length > limits.maxNameBytes then
    failure .invalidArgument "profile name is empty or too long" profile.name
  else do
    checkText profile.name limits.maxNameBytes "profile name"
    checkText profile.vendorNative limits.maxMetadataBytes "vendor-native profile identity"
    checkText profile.backend limits.maxMetadataBytes "profile backend"
    checkText profile.description limits.maxMetadataBytes "profile description"
    if profile.backend.isEmpty then
      failure .invalidArgument "profile does not name a backend" profile.name
    else if profile.vendorNative.length > limits.maxMetadataBytes then
      failure .limitExceeded "vendor-native profile identity is too long" profile.name
    else if profile.mechanism = .none then
      failure .invalidArgument "profile does not name a partition mechanism" profile.name
    else if profile.resources.empty then
      failure .invalidArgument "profile does not describe any resource" profile.name
    else do
      profile.resources.validateDimensions
      if profile.computeSliceCount = 0 && profile.memorySliceCount = 0 then
        failure .invalidArgument "profile describes neither compute nor memory slices" profile.name
      else if profile.alignment.computeSliceMultiple = 0 ||
          profile.alignment.memorySliceMultiple = 0 then
        failure .invalidArgument "profile alignment multiple must be non-zero" profile.name
      else if profile.mutuallyExclusiveWith.length > limits.maxProfileExclusions then
        failure .limitExceeded "profile exclusion list is too long" profile.name
      else do
        checkExclusions profile.mutuallyExclusiveWith
        if profile.backendRequirements.any (fun r ↦ r.length > limits.maxMetadataBytes) then
          failure .limitExceeded "backend requirement string is too long" profile.name
        else success
where
  checkExclusions : List PartitionProfileId → Status
    | [] => success
    | entry :: rest =>
      if entry = profile.id then failure .invalidArgument "profile excludes itself" profile.name
      else if rest.contains entry then
        failure .alreadyExists "duplicate profile exclusion entry" profile.name
      else checkExclusions rest

/-- Whether both profiles may not be resident on one device simultaneously. -/
def conflictsWith (profile other : PartitionProfile) : Bool :=
  if other.id = profile.id then false
  else profile.mutuallyExclusiveWith.contains other.id ||
    other.mutuallyExclusiveWith.contains profile.id

end PartitionProfile

/-- How many instances of a profile may coexist and what else may be resident. -/
structure ProfileCombinationRule where
  profile : PartitionProfileId := 0
  maxInstances : UInt32 := 0
  incompatibleWith : List PartitionProfileId := []
  requiresExclusiveDevice : Bool := false
deriving DecidableEq, Repr

inductive PartitionSupportState where
  | unknown | supported | unsupported | unavailable
deriving DecidableEq, Repr

/-- Generation-bound publication of what a device can do. -/
structure PartitionCapability where
  accelerator : AcceleratorId := 0
  deviceGeneration : AcceleratorGeneration := 0
  generation : CapabilityGeneration := 0
  topologyGeneration : TopologyGeneration := 0
  support : PartitionSupportState := .unknown
  mechanism : PartitionMechanism := .none
  mechanismName : Text := []
  supportedProfiles : List PartitionProfileId := []
  combinationRules : List ProfileCombinationRule := []
  maxPartitionCount : UInt32 := 0
  requiresResetForReconfiguration : Bool := false
  liveReconfigurationSupported : Bool := false
  isolation : IsolationSet := {}
  exposedDimensions : List ResourceDimension := []
  minimumAllocation : ResourceVector := {}
  sliceGranularity : UInt32 := 0
  totalComputeSlices : UInt32 := 0
  totalMemorySlices : UInt32 := 0
  drainEstimateMs : UInt64 := 0
  reconfigurationEstimateMs : UInt64 := 0
  backendName : Text := []
  backendVersion : Text := []
  driverVersion : Text := []
  toolingRequirement : Text := []
  evidence : EvidenceStamp := {}
  unsupportedReason : Text := []
deriving DecidableEq

namespace PartitionCapability

def declaresSupported (c : PartitionCapability) : Bool := c.support = .supported

def supportsProfile (c : PartitionCapability) (profile : PartitionProfileId) : Bool :=
  c.supportedProfiles.contains profile

def findRule (c : PartitionCapability) (profile : PartitionProfileId) :
    Option ProfileCombinationRule :=
  c.combinationRules.find? (fun rule ↦ rule.profile = profile)

def checkProfiles : List PartitionProfileId → Status
  | [] => success
  | profile :: rest =>
    if !valid profile then
      failure .invalidArgument "capability publishes an invalid profile identity"
    else if rest.contains profile then
      failure .alreadyExists "capability publishes a duplicate profile"
    else checkProfiles rest

def checkSupport (c : PartitionCapability) : Status :=
  if c.support ≠ .supported then success
  else if c.supportedProfiles.isEmpty then
    failure .invalidArgument "capability claims support but publishes no profiles"
  else if c.maxPartitionCount = 0 then
    failure .invalidArgument "capability claims support but publishes a zero partition count"
  else if c.mechanism = .none then
    failure .invalidArgument "capability claims support but names no partition mechanism"
  else if c.exposedDimensions.isEmpty then
    failure .invalidArgument "capability claims support but exposes no resource dimension"
  else success

def validate (c : PartitionCapability) (limits : Limits) (requireAccelerator : Bool := true) :
    Status := do
  if requireAccelerator && !valid c.accelerator then
    failure .invalidArgument "capability does not name an accelerator"
  else if !known c.generation then
    failure .invalidArgument "capability generation is not set"
  else if requireAccelerator && !known c.deviceGeneration then
    failure .invalidArgument "capability device generation is not set"
  else if [c.mechanismName, c.backendName, c.backendVersion, c.driverVersion,
      c.toolingRequirement, c.unsupportedReason].any
        (fun text ↦ text.length > limits.maxMetadataBytes) then
    failure .limitExceeded "capability metadata string is too long"
  else if c.supportedProfiles.length > limits.maxProfiles then
    failure .limitExceeded "capability publishes too many profiles"
  else if c.combinationRules.length > limits.maxProfiles then
    failure .limitExceeded "capability publishes too many combination rules"
  else do
    checkProfiles c.supportedProfiles
    checkSupport c
    if c.support = .unsupported && c.unsupportedReason.isEmpty then
      failure .invalidArgument
        "an unsupported capability must state why the device cannot be partitioned"
    else if c.support = .supported && c.mechanism = .synthetic &&
        c.evidence.provenance ≠ .synthetic then
      failure .invalidArgument "synthetic mechanism must carry synthetic provenance"
    else if c.support = .supported && mechanismIsPhysical c.mechanism &&
        c.evidence.provenance = .synthetic then
      failure .invalidArgument
        "a physical partition mechanism may not be claimed from synthetic evidence"
    else success

end PartitionCapability

end PartitionFabric
