import PartitionFabric.Synthetic.Backend

/-!
The mutations of the synthetic backend: the capacity that they check, what they do to a device and
the frame that the three of them share.
-/

namespace PartitionFabric

namespace SyntheticBackend

section Capacity

/-- Adds a vector to a total; an empty total takes the vector as it is. -/
def extend (total v : ResourceVector) : Option ResourceVector :=
  if total.empty then some v
  else match ResourceVector.addAssign v total with
    | (sum, .ok _) => some sum
    | (_, .error _) => none

/-- Adds vectors up as long as each can be added. -/
def accumulate (total : ResourceVector) (vs : List ResourceVector) : Option ResourceVector :=
  vs.foldlM extend total

/-- The capacity of the partitions; none at all when it does not add up. -/
def Device.usedCapacity (device : Device) : ResourceVector :=
  (accumulate {} (device.partitions.map Partition.resources)).getD {}

/-- A 32-bit sum of slices. -/
def sliceSum (slices : List UInt32) : UInt32 := slices.foldl (· + ·) 0

/-- Whether slice counts are within those of the device. -/
def Device.holdsSlices (device : Device) (compute memory : List UInt32) : Bool :=
  !(sliceSum compute > device.spec.totalComputeSlices ||
    sliceSum memory > device.spec.totalMemorySlices)

def Device.publishedProfile (device : Device) (spec : NativePartitionSpec) :
    Result SyntheticProfileSpec :=
  match device.findProfile spec.vendorNativeProfile with
  | some profile => .ok profile
  | none => failure .unsupportedCapability
      "synthetic device does not publish the requested profile" spec.vendorNativeProfile

/-- The checks of a creation, and the profiles that it asks for. -/
def Device.admitCreate (device : Device) (desired : List NativePartitionSpec) :
    Result (List SyntheticProfileSpec) :=
  if desired.isEmpty then failure .invalidRequest "synthetic create received no partitions"
  else if device.partitions.length + desired.length > device.spec.maxPartitionCount.toNat then
    failure .insufficientCapacity "synthetic device cannot hold that many partitions"
      (decimal device.spec.maxPartitionCount.toNat)
  else do
    let profiles ← desired.mapM device.publishedProfile
    if !device.holdsSlices
        (device.partitions.map Partition.computeSlices ++
          profiles.map SyntheticProfileSpec.computeSlices)
        (device.partitions.map Partition.memorySlices ++
          profiles.map SyntheticProfileSpec.memorySlices) then
      failure .fragmented "synthetic slice geometry cannot assemble the requested layout"
    else match accumulate device.usedCapacity (profiles.map SyntheticProfileSpec.resources) with
      | none =>
        failure .insufficientCapacity "synthetic capacity overflow while assembling the layout"
      | some used =>
        if !used.isSubsetOf device.spec.physicalTotals then
          failure .insufficientCapacity
            (("synthetic device does not have enough capacity: needed " : Text) ++ used.format)
        else .ok profiles

/-- The profiles of a target layout and the capacity that they add up to. -/
def Device.assembleTarget (device : Device) (target : ResourceVector) :
    List NativePartitionSpec → Result (ResourceVector × List SyntheticProfileSpec)
  | [] => .ok (target, [])
  | spec :: rest => do
    let profile ← device.publishedProfile spec
    match extend target profile.resources with
    | none => failure .insufficientCapacity "synthetic target layout overflows"
    | some target =>
      let (target, profiles) ← device.assembleTarget target rest
      .ok (target, profile :: profiles)

/-- The checks of a reconfiguration, and the profiles of its target layout. -/
def Device.admitReconfigure (device : Device) (desired : List NativePartitionSpec) :
    Result (List SyntheticProfileSpec) :=
  if desired.isEmpty then failure .invalidRequest "synthetic reconfiguration target is empty"
  else if desired.length > device.spec.maxPartitionCount.toNat then
    failure .insufficientCapacity "synthetic device cannot hold that many partitions"
  else do
    let (target, profiles) ← device.assembleTarget {} desired
    if !device.holdsSlices (profiles.map SyntheticProfileSpec.computeSlices)
        (profiles.map SyntheticProfileSpec.memorySlices) then
      failure .fragmented "synthetic slice geometry cannot assemble the target layout"
    else if !target.isSubsetOf device.spec.physicalTotals then
      failure .insufficientCapacity "synthetic target layout exceeds physical capacity"
    else .ok profiles

end Capacity

section Application

/-- A device after a mutation, and what the mutation reports before the layout is observed. -/
abbrev Application := Device × BackendMutationResult

def Device.counted (device : Device) : Device :=
  { device with mutationCount := device.mutationCount + 1 }

def Device.cleared (device : Device) : Device := { device with partitions := [] }

section Fields

variable (device : Device)

@[simp] lemma counted_spec : device.counted.spec = device.spec := by
  unfold Device.counted
  rfl

@[simp] lemma counted_tokens : device.counted.appliedTokens = device.appliedTokens := by
  unfold Device.counted
  rfl

@[simp] lemma counted_partitions : device.counted.partitions = device.partitions := by
  unfold Device.counted
  rfl

@[simp] lemma cleared_spec : device.cleared.spec = device.spec := by
  unfold Device.cleared
  rfl

@[simp] lemma cleared_tokens : device.cleared.appliedTokens = device.appliedTokens := by
  unfold Device.cleared
  rfl

@[simp] lemma cleared_partitions : device.cleared.partitions = [] := by
  unfold Device.cleared
  rfl

end Fields

def applyCreate (faults : SyntheticFaults) (request : PartitionMutationRequest) (device : Device) :
    Result Application := do
  let profiles ← device.admitCreate request.desired
  let created := (device.addPartitions profiles).counted
  let ids := (created.partitions.drop device.partitions.length).map Partition.nativeId
  .ok (if faults.partitionDisappearsAfterCreate then created.cleared else created,
    { accepted := true
      ambiguous := faults.partitionDisappearsAfterCreate || faults.ambiguousCreate
      createdNativeIds :=
        if faults.mismatchCreateResult then ["phantom-partition-that-does-not-exist"] else ids
      detail :=
        if faults.mismatchCreateResult then
          "synthetic backend reported a result that does not match what it did"
        else if faults.partitionDisappearsAfterCreate then
          "synthetic partitions were removed immediately after creation"
        else if faults.ambiguousCreate then
          "synthetic create applied but the acknowledgement is ambiguous"
        else "synthetic partitions created" })

def applyDestroy (faults : SyntheticFaults) (request : PartitionMutationRequest) (device : Device) :
    Result Application :=
  if request.removeNativeIds.isEmpty then
    failure .invalidRequest "synthetic destroy received no partitions"
  else .ok ((request.removeNativeIds.foldl Device.remove device).counted,
    { accepted := true
      ambiguous := faults.ambiguousDestroy
      detail :=
        if faults.ambiguousDestroy then
          "synthetic destroy applied but the acknowledgement is ambiguous"
        else "synthetic partitions destroyed" })

def applyReconfigure (faults : SyntheticFaults) (request : PartitionMutationRequest)
    (device : Device) : Result Application := do
  let profiles ← device.admitReconfigure request.desired
  let rebuilt := (device.cleared.addPartitions profiles).counted
  .ok (if faults.mismatchCreateResult then rebuilt.cleared else rebuilt,
    { accepted := true
      ambiguous := faults.ambiguousReconfigure
      createdNativeIds := rebuilt.partitions.map Partition.nativeId
      detail :=
        if faults.mismatchCreateResult then
          "synthetic backend performed a layout different from the request"
        else if faults.ambiguousReconfigure then
          "synthetic reconfiguration applied but the acknowledgement is ambiguous"
        else "synthetic layout reconfigured" })

end Application

section Calls

/-- The result of an earlier mutation of the same token. -/
def Device.replay (device : Device) (token : UInt64) : Option BackendMutationResult :=
  if token = 0 then none
  else (device.appliedTokens.find? token).map fun applied ↦
    { applied with detail := applied.detail ++ (" (idempotent replay)" : Text) }

/-- Records the result of a token. -/
def Device.record (device : Device) (token : UInt64) (result : BackendMutationResult) : Device :=
  { device with appliedTokens := device.appliedTokens.insert token result }

/-- Forgets the smallest tokens beyond the bound of the table. -/
def Device.evict (device : Device) : Device :=
  { device with appliedTokens := device.appliedTokens.prune (fun _ ↦ true) 256 }

section Fields

variable (device : Device)

@[simp] lemma record_spec (token : UInt64) (result : BackendMutationResult) :
    (device.record token result).spec = device.spec := by
  unfold Device.record
  rfl

@[simp] lemma record_partitions (token : UInt64) (result : BackendMutationResult) :
    (device.record token result).partitions = device.partitions := by
  unfold Device.record
  rfl

@[simp] lemma evict_spec : device.evict.spec = device.spec := by
  unfold Device.evict
  rfl

@[simp] lemma evict_partitions : device.evict.partitions = device.partitions := by
  unfold Device.evict
  rfl

end Fields

/-- What sets one mutation apart from the others. -/
structure MutationKind where
  refuses : SyntheticFaults → Bool
  refusal : Text
  errs : SyntheticFaults → Bool
  lost : Text
  needsPresence : Bool
  bootDetail : AcceleratorBootId → Text
  apply : SyntheticFaults → PartitionMutationRequest → Device → Result Application
  settle : Device → Device

/-- A mutation request: the faults that refuse it, the device and its incarnation, the replay of a
token that was applied, and otherwise the mutation with the layout that it leads to. -/
def perform (kind : MutationKind) (nowMs : UInt64) (request : PartitionMutationRequest) :
    SyntheticM BackendMutationResult := do
  let backend ← Procedure.get
  if kind.refuses backend.faults then
    pure { detail := kind.refusal }
  else
    Procedure.require (!kind.errs backend.faults) (makeError .backendFailure kind.lost)
    let device ← lookup request.stableKey
    Procedure.require
      (!kind.needsPresence || device.present && !backend.faults.deviceDisappears)
      (makeError .deviceUnavailable "synthetic device is not present" request.stableKey)
    Procedure.require (!(valid request.expectedBoot && request.expectedBoot != device.boot))
      (makeError .staleGeneration "synthetic device incarnation does not match the request"
        (kind.bootDetail request.expectedBoot))
    match device.replay request.idempotencyToken with
    | some repeated => pure repeated
    | none =>
      let (applied, result) ← Procedure.lift (kind.apply backend.faults request device)
      let (observed, layout) ← buildLayout nowMs applied
      let result := { result with observedLayout := layout }
      Procedure.modify fun backend ↦
        backend.write (kind.settle (observed.record request.idempotencyToken result))
      pure result

/-- Only a creation asks for the presence of the device, names the boot identity that it refuses
and bounds the table of tokens. -/
def creation : MutationKind where
  refuses faults := faults.failCreate
  refusal := "synthetic create fault injected: refused before applying"
  errs faults := faults.errorCreate
  lost := "synthetic create call failed without a definite outcome"
  needsPresence := true
  bootDetail := hex
  apply := applyCreate
  settle := Device.evict

def destruction : MutationKind where
  refuses faults := faults.failDestroy
  refusal := "synthetic destroy fault injected: refused before applying"
  errs faults := faults.errorDestroy
  lost := "synthetic destroy call failed without a definite outcome"
  needsPresence := false
  bootDetail _ := []
  apply := applyDestroy
  settle := id

def reconfiguration : MutationKind where
  refuses faults := faults.failReconfigure
  refusal := "synthetic reconfigure fault injected: refused before applying"
  errs faults := faults.errorReconfigure
  lost := "synthetic reconfigure call failed without a definite outcome"
  needsPresence := false
  bootDetail _ := []
  apply := applyReconfigure
  settle := id

def createPartitions := perform creation

def destroyPartitions := perform destruction

def reconfigureLayout := perform reconfiguration

end Calls

end SyntheticBackend

end PartitionFabric
