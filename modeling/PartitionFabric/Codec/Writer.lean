import PartitionFabric.Model.Planning

/-!
The canonical little-endian encoding and the digests computed over it.
-/

namespace PartitionFabric

/-- A bounded output buffer with a sticky error. -/
structure ByteWriter where
  bound : ℕ := 1048576
  buffer : List UInt8 := []
  error : Option Error := none

namespace ByteWriter

def ok (w : ByteWriter) : Bool := w.error.isNone

def fail (w : ByteWriter) (e : Error) : ByteWriter :=
  if w.ok then { w with error := some e } else w

/-- Fails when further bytes would exceed the bound. -/
def reserveFor (w : ByteWriter) (extra : ℕ) : ByteWriter :=
  if extra > w.bound || w.buffer.length > w.bound - extra then
    w.fail (makeError .limitExceeded "encoded message exceeds the configured bound"
      (decimal (w.buffer.length + extra) ++ (" > " : Text) ++ decimal w.bound))
  else w

/-- Appends bytes that are known to be within the bound. -/
def push (w : ByteWriter) (bytes : List UInt8) : ByteWriter :=
  if w.ok then { w with buffer := w.buffer ++ bytes } else w

def u8 (w : ByteWriter) (value : UInt8) : ByteWriter :=
  if w.ok then (w.reserveFor 1).push [value] else w

/-- The bytes of a number, least significant first. -/
def littleEndian (count : ℕ) (value : ℕ) : List UInt8 :=
  (List.range count).map fun i ↦ (value >>> (8 * i)).toUInt8

def u32 (w : ByteWriter) (value : UInt32) : ByteWriter :=
  (littleEndian 4 value.toNat).foldl u8 w

def u64 (w : ByteWriter) (value : UInt64) : ByteWriter :=
  (littleEndian 8 value.toNat).foldl u8 w

def boolean (w : ByteWriter) (value : Bool) : ByteWriter := w.u8 (if value then 1 else 0)

def maxTextBytes : ℕ := 1048576

def text (w : ByteWriter) (value : Text) (maxLen : ℕ) : ByteWriter :=
  if !w.ok then w
  else if value.length > maxLen || value.length > maxTextBytes then
    w.fail (makeError .limitExceeded "text field exceeds its configured bound"
      (decimal value.length ++ (" > " : Text) ++ decimal maxLen))
  else if !isValidUtf8 value then
    w.fail (makeError .invalidArgument "text field is not valid UTF-8")
  else
    let w := w.u32 value.length.toUInt32
    if w.ok then (w.reserveFor value.length).push value else w

/-- Writes a length-prefixed list. -/
def list {α : Type} (w : ByteWriter) (values : List α) (each : ByteWriter → α → ByteWriter) :
    ByteWriter :=
  values.foldl each (w.u32 values.length.toUInt32)

/-- The bound of every short text field. -/
def small : ℕ := 256

end ByteWriter

def EvidenceProvenance.raw : EvidenceProvenance → UInt8
  | .unknown => 0
  | .real => 1
  | .synthetic => 2
  | .unsupported => 3

def PartitionSupportState.raw : PartitionSupportState → UInt8
  | .unknown => 0
  | .supported => 1
  | .unsupported => 2
  | .unavailable => 3

def PartitionMechanism.raw : PartitionMechanism → UInt8
  | .none => 0
  | .mig => 1
  | .srIov => 2
  | .mediatedDevice => 3
  | .vendorSlice => 4
  | .synthetic => 5

namespace ByteWriter

def resources (w : ByteWriter) (value : ResourceVector) : ByteWriter :=
  ResourceDimension.all.foldl (fun w d ↦ w.u64 (value.values d)) (w.u32 value.mask)

def evidence (w : ByteWriter) (value : EvidenceStamp) : ByteWriter :=
  (((((w.u64 value.generation).u8 value.provenance.raw).u64 value.observedAtMs).u64
    value.ttlMs).text value.source small).boolean value.observed

def combinationRule (w : ByteWriter) (value : ProfileCombinationRule) : ByteWriter :=
  (((w.u64 value.profile).u32 value.maxInstances).list value.incompatibleWith u64).boolean
    value.requiresExclusiveDevice

def capability (w : ByteWriter) (value : PartitionCapability) : ByteWriter :=
  let w := w.u64 value.accelerator
  let w := w.u64 value.deviceGeneration
  let w := w.u64 value.generation
  let w := w.u64 value.topologyGeneration
  let w := w.u8 value.support.raw
  let w := w.u8 value.mechanism.raw
  let w := w.text value.mechanismName small
  let w := w.list value.supportedProfiles u64
  let w := w.list value.combinationRules combinationRule
  let w := w.u32 value.maxPartitionCount
  let w := w.boolean value.requiresResetForReconfiguration
  let w := w.boolean value.liveReconfigurationSupported
  let w := w.u32 value.isolation.mask
  let w := w.list value.exposedDimensions (fun w d ↦ w.u8 d.index.toUInt8)
  let w := w.resources value.minimumAllocation
  let w := w.u32 value.sliceGranularity
  let w := w.u32 value.totalComputeSlices
  let w := w.u32 value.totalMemorySlices
  let w := w.u64 value.drainEstimateMs
  let w := w.u64 value.reconfigurationEstimateMs
  let w := w.text value.backendName small
  let w := w.text value.backendVersion small
  let w := w.text value.driverVersion small
  let w := w.text value.toolingRequirement small
  let w := w.evidence value.evidence
  w.text value.unsupportedReason small

end ByteWriter

/-- The FNV-1a offset basis used by every digest. -/
def fnvBasis : UInt64 := 1469598103934665603

/-- One round of FNV-1a. -/
def mixByte (hash : UInt64) (byte : UInt8) : UInt64 := (hash ^^^ byte.toUInt64) * 1099511628211

def mixBytes (hash : UInt64) (bytes : List UInt8) : UInt64 := bytes.foldl mixByte hash

def mixU64 (hash value : UInt64) : UInt64 :=
  mixBytes hash (ByteWriter.littleEndian 8 value.toNat)

def mixText (hash : UInt64) (value : Text) : UInt64 :=
  mixByte (mixBytes (mixU64 hash value.length.toUInt64) value) 0x1F

def mixVector (hash : UInt64) (vector : ResourceVector) : UInt64 :=
  ResourceDimension.all.foldl (fun h d ↦ mixU64 h (vector.values d))
    (mixU64 hash vector.mask.toUInt64)

def mixBool (hash : UInt64) (value : Bool) : UInt64 := mixU64 hash (if value then 1 else 0)

/-- Digest of a planning request, used for duplicate detection. -/
def requestDigest (request : PartitionRequest) : UInt64 :=
  let hash := mixU64 fnvBasis request.profile
  let hash := mixU64 hash request.count.toUInt64
  let hash := mixVector hash request.minimumResources
  let hash := mixU64 hash request.isolation.required.mask.toUInt64
  let hash := mixU64 hash request.isolation.policy
  let hash := mixU64 hash request.isolation.policyGeneration
  let hash := mixBool hash request.exclusive
  let hash := mixBool hash request.allowDrain
  let hash := mixBool hash request.allowDestructiveReconfiguration
  let hash := mixBool hash request.allowDegradedDevice
  let hash := mixBool hash request.allowSharedDevice
  let hash := mixBool hash request.allOrNothing
  let hash := mixU64 hash request.maxEvidenceAgeMs
  let hash := mixText hash request.selector.backend
  let hash := mixText hash request.selector.vendor
  let hash := mixText hash request.selector.deviceFamily
  let hash := mixText hash request.selector.localityDomain
  let hash := request.selector.allowed.foldl mixU64 hash
  let hash := mixByte hash 0xAA
  let hash := request.selector.excluded.foldl mixU64 hash
  mixText hash request.policyClass

/-- Digest over externally visible capability content. -/
def capabilityDigest (capability : PartitionCapability) : UInt64 :=
  let writer := ByteWriter.capability {} capability
  if writer.ok then mixBytes fnvBasis writer.buffer else 0

end PartitionFabric
