import PartitionFabric.Codec.Messages

/-!
The synthetic backend: device models with profile ladders and slice geometry, and the calls that
change their layouts.
-/

namespace PartitionFabric

/-- Leading zeros up to a width. -/
def padded (width n : ℕ) : Text :=
  let digits := decimal n
  List.replicate (width - digits.length) 48 ++ digits

/-- A share as a percentage. -/
def formatShare (value : UInt64) : Text :=
  decimal (value.toNat / 10000) ++ ("." : Text) ++ padded 4 (value.toNat % 10000) ++ (" %" : Text)

def formatBytes (value : UInt64) : Text :=
  let scaled (unit : ℕ) : Text :=
    decimal (value.toNat / unit) ++ ("." : Text) ++ padded 2 (value.toNat % unit * 100 / unit)
  if 2 ^ 30 ≤ value.toNat then scaled (2 ^ 30) ++ (" GiB" : Text)
  else if 2 ^ 20 ≤ value.toNat then scaled (2 ^ 20) ++ (" MiB" : Text)
  else decimal value.toNat ++ (" B" : Text)

def ResourceVector.format (v : ResourceVector) : Text :=
  let entry (d : ResourceDimension) : Text :=
    d.toText ++ ("=" : Text) ++
      (if d.isShareDimension then formatShare (v.values d) else formatBytes (v.values d))
  ("\x7b" : Text) ++ List.intercalate (", " : Text) ((ResourceDimension.all.filter v.has).map entry) ++
    ("\x7d" : Text)

/-- A boot identity mixed from entropy. -/
def deriveBoot (entropy : UInt64) : AcceleratorBootId :=
  let mixed := entropy + 0x9E3779B97F4A7C15
  let mixed := (mixed ^^^ (mixed >>> 30)) * 0xBF58476D1CE4E5B9
  let mixed := (mixed ^^^ (mixed >>> 27)) * 0x94D049BB133111EB
  let mixed := mixed ^^^ (mixed >>> 31)
  if mixed == 0 then 0xA5A5A5A5A5A5A5A5 else mixed

structure SyntheticProfileSpec where
  name : Text := []
  vendorNative : Text := []
  resources : ResourceVector := {}
  computeSlices : UInt32 := 1
  memorySlices : UInt32 := 1

/-- Static description of one synthetic accelerator. -/
structure SyntheticDeviceSpec where
  key : Text := []
  physicalTotals : ResourceVector := {}
  profiles : List SyntheticProfileSpec := []
  maxPartitionCount : UInt32 := 8
  partitioningSupported : Bool := true
  unsupportedReason : Text := []
  isolation : IsolationSet := {}
  provenance : EvidenceProvenance := .synthetic
  evidenceTtlMs : UInt64 := 30000
  reconfigurationDowntimeMs : UInt64 := 2500
  totalComputeSlices : UInt32 := 7
  totalMemorySlices : UInt32 := 8
  bootEntropy : UInt64 := 0x1000
  devicePresent : Bool := true

/-- Fault injection hooks. -/
structure SyntheticFaults where
  failDiscovery : Bool := false
  failCapabilityQuery : Bool := false
  failCreate : Bool := false
  failDestroy : Bool := false
  failReconfigure : Bool := false
  errorCreate : Bool := false
  errorDestroy : Bool := false
  errorReconfigure : Bool := false
  ambiguousCreate : Bool := false
  ambiguousDestroy : Bool := false
  ambiguousReconfigure : Bool := false
  mismatchCreateResult : Bool := false
  partitionDisappearsAfterCreate : Bool := false
  deviceDisappears : Bool := false
  silentDeviceReset : Bool := false
  externalMutationPending : Bool := false
  malformedMetadata : Bool := false
  duplicateNativeIds : Bool := false

/-- Sets the fault of a name; an unknown name sets none. -/
def SyntheticFaults.set (faults : SyntheticFaults) (name : Text) (enabled : Bool) :
    SyntheticFaults :=
  if name = ("fail_discovery" : Text) then { faults with failDiscovery := enabled }
  else if name = ("fail_capability_query" : Text) then
    { faults with failCapabilityQuery := enabled }
  else if name = ("fail_create" : Text) then { faults with failCreate := enabled }
  else if name = ("error_create" : Text) then { faults with errorCreate := enabled }
  else if name = ("error_destroy" : Text) then { faults with errorDestroy := enabled }
  else if name = ("error_reconfigure" : Text) then { faults with errorReconfigure := enabled }
  else if name = ("fail_destroy" : Text) then { faults with failDestroy := enabled }
  else if name = ("fail_reconfigure" : Text) then { faults with failReconfigure := enabled }
  else if name = ("ambiguous_create" : Text) then { faults with ambiguousCreate := enabled }
  else if name = ("ambiguous_destroy" : Text) then { faults with ambiguousDestroy := enabled }
  else if name = ("ambiguous_reconfigure" : Text) then
    { faults with ambiguousReconfigure := enabled }
  else if name = ("mismatch_create_result" : Text) then
    { faults with mismatchCreateResult := enabled }
  else if name = ("partition_disappears_after_create" : Text) then
    { faults with partitionDisappearsAfterCreate := enabled }
  else if name = ("device_disappears" : Text) then { faults with deviceDisappears := enabled }
  else if name = ("silent_device_reset" : Text) then { faults with silentDeviceReset := enabled }
  else if name = ("external_mutation_pending" : Text) then
    { faults with externalMutationPending := enabled }
  else if name = ("malformed_metadata" : Text) then { faults with malformedMetadata := enabled }
  else if name = ("duplicate_native_ids" : Text) then
    { faults with duplicateNativeIds := enabled }
  else faults

namespace SyntheticBackend

structure Partition where
  nativeId : Text := []
  instanceUuid : Text := []
  vendorNative : Text := []
  profile : PartitionProfileId := 0
  resources : ResourceVector := {}
  computeSlices : UInt32 := 0
  memorySlices : UInt32 := 0
  isolationDomain : Text := []
  isolation : IsolationSet := {}
  live : Bool := true
deriving DecidableEq

structure Device where
  spec : SyntheticDeviceSpec
  boot : AcceleratorBootId := 0
  partitions : List Partition := []
  nextPartitionIndex : UInt64 := 1
  appliedTokens : KeyedMap UInt64 BackendMutationResult := ∅
  mutationCount : UInt64 := 0
  present : Bool := true

end SyntheticBackend

/-- The devices under their own keys, and the faults. -/
structure SyntheticBackend where
  devices : KeyedMap Text SyntheticBackend.Device := ∅
  faults : SyntheticFaults := {}
  keyed : ∀ key device, devices.find? key = some device → device.spec.key = key := by
    intro _ _ h
    cases h

/-- A call of the synthetic backend. -/
abbrev SyntheticM := Procedure Error SyntheticBackend

namespace SyntheticBackend

/-- The identity of a profile, derived from the backend and the name of the profile. -/
def deriveProfileId (name : Text) : PartitionProfileId :=
  let hash := mixBytes fnvBasis (("apf-synthetic-profile|synthetic|" : Text) ++ name)
  if hash == 0 then 1 else hash

def makeNativeId (key : Text) (index : UInt64) : Text :=
  key ++ ("#" : Text) ++ decimal index.toNat

section Devices

/-- Puts a device under its key. -/
def write (backend : SyntheticBackend) (device : Device) : SyntheticBackend where
  devices := backend.devices.insert device.spec.key device
  faults := backend.faults
  keyed := by
    intro key other h
    rw [KeyedMap.find?_insert] at h
    split at h
    · rw [Option.some.inj h.symm]
      exact Eq.symm ‹_›
    · exact backend.keyed key other h

/-- Takes the device of a key away. -/
def erase (backend : SyntheticBackend) (key : Text) : SyntheticBackend where
  devices := backend.devices.erase key
  faults := backend.faults
  keyed := by
    intro other device h
    rw [KeyedMap.find?_erase] at h
    split at h
    · cases h
    · exact backend.keyed other device h

def find (backend : SyntheticBackend) (key : Text) : Option Device := backend.devices.find? key

/-- A fresh device model. -/
def Device.fresh (spec : SyntheticDeviceSpec) : Device where
  spec := spec
  boot := deriveBoot (spec.bootEntropy ^^^ 0xC0FFEE)
  present := spec.devicePresent

/-- Registers or replaces a device model. -/
def addDevice (spec : SyntheticDeviceSpec) : SyntheticM Unit := do
  let backend ← Procedure.get
  Procedure.require (!(spec.key.isEmpty || spec.key.length > 256))
    (makeError .invalidArgument "synthetic device key is not usable")
  Procedure.require (!(backend.devices.size ≥ 64 && (backend.find spec.key).isNone))
    (makeError .limitExceeded "synthetic device bound reached")
  Procedure.modify fun backend ↦ backend.write (.fresh spec)

/-- The device of a key. -/
def lookup (key : Text) : SyntheticM Device := do
  let backend ← Procedure.get
  match backend.find key with
  | some device => pure device
  | none => Procedure.throw (makeError .notFound "synthetic device is not registered" key)

/-- Rewrites the device of a key. -/
def change (key : Text) (f : Device → Device) : SyntheticM Unit := do
  let device ← lookup key
  Procedure.modify fun backend ↦ backend.write (f device)

def removeDevice (key : Text) : SyntheticM Unit := do
  let _ ← lookup key
  Procedure.modify fun backend ↦ backend.erase key

def setFaults (faults : SyntheticFaults) : SyntheticM Unit :=
  Procedure.modify fun backend ↦ { backend with faults }

def setFault (name : Text) (enabled : Bool) : SyntheticM Unit :=
  Procedure.modify fun backend ↦ { backend with faults := backend.faults.set name enabled }

/-- A capability change replaces the profiles and the partition bound. -/
def Device.republish (device : Device) (profiles : List SyntheticProfileSpec)
    (maxPartitionCount : UInt32) (partitioningSupported : Bool) (unsupportedReason : Text) :
    Device :=
  { device with
    spec := { device.spec with
      profiles, maxPartitionCount, partitioningSupported, unsupportedReason } }

def mutateCapability (key : Text) (profiles : List SyntheticProfileSpec)
    (maxPartitionCount : UInt32) (partitioningSupported : Bool) (unsupportedReason : Text) :
    SyntheticM Unit :=
  change key fun device ↦
    device.republish profiles maxPartitionCount partitioningSupported unsupportedReason

/-- An unannounced reset: the boot identity advances and every partition disappears. -/
def Device.reset (device : Device) : Device :=
  { device with
    boot := deriveBoot (device.boot ^^^ 0x5A5A5A5A), partitions := [], appliedTokens := ∅ }

@[simp] lemma reset_spec (device : Device) : device.reset.spec = device.spec := by
  unfold Device.reset
  rfl

def resetDevice (key : Text) : SyntheticM Unit := change key Device.reset

def setDevicePresent (key : Text) (present : Bool) : SyntheticM Unit :=
  change key fun device ↦ { device with present }

end Devices

section Partitions

/-- The first published profile of a name. -/
def Device.findProfile (device : Device) (vendorNative : Text) : Option SyntheticProfileSpec :=
  device.spec.profiles.find? fun profile ↦
    profile.name == vendorNative || profile.vendorNative == vendorNative

/-- A partition of a profile under the next index of its device. -/
def Device.partitionOf (device : Device) (profile : SyntheticProfileSpec)
    (isolationDomain : Text) : Partition where
  nativeId := makeNativeId device.spec.key device.nextPartitionIndex
  instanceUuid := makeNativeId device.spec.key device.nextPartitionIndex ++ ("-uuid" : Text)
  vendorNative := profile.vendorNative
  profile := deriveProfileId profile.name
  resources := profile.resources
  computeSlices := profile.computeSlices
  memorySlices := profile.memorySlices
  isolationDomain := isolationDomain
  isolation := device.spec.isolation

def Device.push (device : Device) (partition : Partition) : Device :=
  { device with
    partitions := device.partitions ++ [partition]
    nextPartitionIndex := device.nextPartitionIndex + 1 }

@[simp] lemma push_spec (device : Device) (partition : Partition) :
    (device.push partition).spec = device.spec := by
  unfold Device.push
  rfl

/-- Adds a partition of a profile in an isolation domain of its own. -/
def Device.addPartition (device : Device) (profile : SyntheticProfileSpec) : Device :=
  device.push (device.partitionOf profile (device.spec.key ++ ("-domain-" : Text) ++
    decimal (device.nextPartitionIndex + 1).toNat))

def Device.addPartitions (device : Device) (profiles : List SyntheticProfileSpec) : Device :=
  profiles.foldl addPartition device

/-- The partition that an external actor adds. -/
def Device.external (device : Device) (profile : SyntheticProfileSpec) : Partition :=
  device.partitionOf profile (device.spec.key ++ ("-external" : Text))

/-- An external actor adds a partition without any check of capacity. -/
def externalCreate (key vendorNative : Text) : SyntheticM Text := do
  let device ← lookup key
  match device.findProfile vendorNative with
  | none => Procedure.throw (makeError .notFound "synthetic profile is not published" vendorNative)
  | some profile =>
    Procedure.modify fun backend ↦ backend.write (device.push (device.external profile))
    pure (device.external profile).nativeId

/-- The device without the partitions of a native identity. -/
def Device.remove (device : Device) (nativeId : Text) : Device :=
  { device with partitions := device.partitions.filter fun partition ↦
      partition.nativeId ≠ nativeId }

@[simp] lemma remove_spec (device : Device) (nativeId : Text) :
    (device.remove nativeId).spec = device.spec := by
  unfold Device.remove
  rfl

def externalDestroy (key nativeId : Text) : SyntheticM Unit := do
  let device ← lookup key
  Procedure.require (device.partitions.any fun partition ↦ partition.nativeId = nativeId)
    (makeError .notFound "synthetic partition is not present" nativeId)
  Procedure.modify fun backend ↦ backend.write (device.remove nativeId)

end Partitions

section Layouts

/-- A live partition as the layout reports it. -/
def Partition.native (partition : Partition) : BackendNativePartition where
  nativeId := partition.nativeId
  instanceUuid := partition.instanceUuid
  vendorNativeProfile := partition.vendorNative
  profile := partition.profile
  resources := partition.resources
  isolationDomain := partition.isolationDomain
  isolation := partition.isolation
  live := partition.live

/-- The partitions that a layout reports, with those that the faults add. -/
def reported (faults : SyntheticFaults) (device : Device) : List BackendNativePartition :=
  let natives := (device.partitions.filter (·.live)).map Partition.native
  let natives := match natives with
    | first :: _ =>
      if faults.malformedMetadata then natives ++ [{ first with nativeId := [] }] else natives
    | [] => natives
  match natives with
  | first :: _ => if faults.duplicateNativeIds then natives ++ [first] else natives
  | [] => natives

/-- The reset that happens behind the back of the runtime, when a layout is built. -/
def Device.silentReset (device : Device) : Device :=
  { device with boot := deriveBoot (device.boot ^^^ 0xDEADBEEF), partitions := [] }

/-- The layout of a device. -/
def layoutOf (faults : SyntheticFaults) (nowMs : UInt64) (device : Device) : BackendLayout where
  stableKey := device.spec.key
  devicePresent := device.present && !faults.deviceDisappears
  bootId := device.boot
  physicalTotals := device.spec.physicalTotals
  partitions := if device.present && !faults.deviceDisappears then reported faults device else []
  evidence :=
    { generation := 1
      provenance := device.spec.provenance
      observedAtMs := nowMs
      ttlMs := device.spec.evidenceTtlMs
      source := "synthetic"
      observed := true }
  detail := "synthetic observed layout"

@[simp] lemma silentReset_spec (device : Device) : device.silentReset.spec = device.spec := by
  unfold Device.silentReset
  rfl

@[simp] lemma silentReset_tokens (device : Device) :
    device.silentReset.appliedTokens = device.appliedTokens := by
  unfold Device.silentReset
  rfl

@[simp] lemma silentReset_partitions (device : Device) : device.silentReset.partitions = [] := by
  unfold Device.silentReset
  rfl

/-- A device when its layout is built: a pending silent reset happens first. -/
def Device.observed (device : Device) (faults : SyntheticFaults) : Device :=
  if faults.silentDeviceReset then device.silentReset else device

/-- A silent reset happens once. -/
def observedFaults (faults : SyntheticFaults) : SyntheticFaults :=
  { faults with silentDeviceReset := false }

/-- Builds the observed layout and stores the device. -/
def buildLayout (nowMs : UInt64) (device : Device) : SyntheticM (Device × BackendLayout) := do
  let backend ← Procedure.get
  let observed := device.observed backend.faults
  let faults := observedFaults backend.faults
  Procedure.modify fun backend ↦ { backend with faults }.write observed
  pure (observed, layoutOf faults nowMs observed)

def queryLayout (nowMs : UInt64) (key : Text) : SyntheticM BackendLayout := do
  let device ← lookup key
  let backend ← Procedure.get
  Procedure.require (!backend.faults.failCapabilityQuery)
    (makeError .backendFailure "synthetic capability query fault injected")
  let (_, layout) ← buildLayout nowMs device
  pure layout

end Layouts

end SyntheticBackend

end PartitionFabric
