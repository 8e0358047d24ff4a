import PartitionFabric.Synthetic.Checkpoint
import PartitionFabric.Synthetic.Mutation
import PartitionFabric.Foundation.System

/-!
The calls of the synthetic backend as one system, and what each call does to the device of a key.
-/

namespace PartitionFabric

namespace SyntheticBackend

/-- The calls that can change a backend. A restart exports the state and imports it into a fresh
backend with the same devices. -/
inductive Call where
  | addDevice (spec : SyntheticDeviceSpec)
  | removeDevice (key : Text)
  | setFaults (faults : SyntheticFaults)
  | setFault (name : Text) (enabled : Bool)
  | mutateCapability (key : Text) (profiles : List SyntheticProfileSpec)
      (maxPartitionCount : UInt32) (partitioningSupported : Bool) (unsupportedReason : Text)
  | resetDevice (key : Text)
  | setDevicePresent (key : Text) (present : Bool)
  | externalCreate (key vendorNative : Text)
  | externalDestroy (key nativeId : Text)
  | queryLayout (nowMs : UInt64) (key : Text)
  | createPartitions (nowMs : UInt64) (request : PartitionMutationRequest)
  | destroyPartitions (nowMs : UInt64) (request : PartitionMutationRequest)
  | reconfigureLayout (nowMs : UInt64) (request : PartitionMutationRequest)
  | importState (bytes : List UInt8)
  | restart

/-- A backend to which the same devices were added. -/
def freshCopy (backend : SyntheticBackend) : SyntheticBackend :=
  (backend.devices.values.map Device.spec).foldl (fun copy spec ↦ (addDevice spec copy).1) {}

def restart (backend : SyntheticBackend) : SyntheticBackend :=
  match exportState backend with
  | .ok bytes => (importState bytes backend.freshCopy).1
  | .error _ => backend

def step : Call → SyntheticBackend → SyntheticBackend
  | .addDevice spec, backend => (addDevice spec backend).1
  | .removeDevice key, backend => (removeDevice key backend).1
  | .setFaults faults, backend => (setFaults faults backend).1
  | .setFault name enabled, backend => (setFault name enabled backend).1
  | .mutateCapability key profiles maxPartitionCount supported reason, backend =>
    (mutateCapability key profiles maxPartitionCount supported reason backend).1
  | .resetDevice key, backend => (resetDevice key backend).1
  | .setDevicePresent key present, backend => (setDevicePresent key present backend).1
  | .externalCreate key vendorNative, backend => (externalCreate key vendorNative backend).1
  | .externalDestroy key nativeId, backend => (externalDestroy key nativeId backend).1
  | .queryLayout nowMs key, backend => (queryLayout nowMs key backend).1
  | .createPartitions nowMs request, backend => (createPartitions nowMs request backend).1
  | .destroyPartitions nowMs request, backend => (destroyPartitions nowMs request backend).1
  | .reconfigureLayout nowMs request, backend => (reconfigureLayout nowMs request backend).1
  | .importState bytes, backend => (importState bytes backend).1
  | .restart, backend => backend.restart

/-- The backend as it is constructed. -/
def constructed : SyntheticBackend := {}

/-- The synthetic backend from its construction on. -/
def synthetic : System SyntheticBackend Call where
  initial backend := backend = {}
  step := step

section Frames

variable {backend : SyntheticBackend} {device : Device} {key : Text}

lemma key_of_find (h : backend.find key = some device) : device.spec.key = key :=
  backend.keyed key device h

@[simp] lemma find_write (backend : SyntheticBackend) (device : Device) (key : Text) :
    (backend.write device).find key =
      if key = device.spec.key then some device else backend.find key := by
  change (backend.devices.insert device.spec.key device).find? key = _
  rw [KeyedMap.find?_insert]
  congr

@[simp] lemma find_erase (backend : SyntheticBackend) (key other : Text) :
    (backend.erase key).find other = if other = key then none else backend.find other := by
  change (backend.devices.erase key).find? other = _
  rw [KeyedMap.find?_erase]
  congr

@[simp] lemma find_faults (backend : SyntheticBackend) (faults : SyntheticFaults) (key : Text) :
    ({ backend with faults } : SyntheticBackend).find key = backend.find key :=
  rfl

@[simp] lemma faults_write (backend : SyntheticBackend) (device : Device) :
    (backend.write device).faults = backend.faults :=
  rfl

lemma lookup_bind_some {α : Type} (h : backend.find key = some device)
    (f : Device → SyntheticM α) : (lookup key >>= f) backend = f device backend := by
  apply Procedure.bind_ok
  unfold lookup
  rw [Procedure.get_bind, h]
  rfl

lemma lookup_bind_none {α : Type} (h : backend.find key = none) (f : Device → SyntheticM α) :
    ∃ e, (lookup key >>= f) backend = (backend, .error e) := by
  refine ⟨makeError .notFound "synthetic device is not registered" key, ?_⟩
  apply Procedure.bind_error
  unfold lookup
  rw [Procedure.get_bind, h]
  rfl

/-- A rewrite reaches the device of its key and no other. -/
lemma find_change (key : Text) {f : Device → Device}
    (hf : ∀ device, (f device).spec.key = device.spec.key) (backend : SyntheticBackend)
    (other : Text) :
    (change key f backend).1.find other =
      if other = key then (backend.find other).map f else backend.find other := by
  cases h : backend.find key with
  | none =>
    obtain ⟨e, he⟩ := lookup_bind_none h fun device ↦
      Procedure.modify fun backend ↦ backend.write (f device)
    rw [change, he]
    split
    · rename_i hother
      rw [hother, h]
      rfl
    · rfl
  | some device =>
    rw [change, lookup_bind_some h]
    change (backend.write (f device)).find other = _
    rw [find_write, hf, key_of_find h]
    split
    · rename_i hother
      rw [hother, h]
      rfl
    · rfl

end Frames

section Mutations

variable {kind : MutationKind} {nowMs : UInt64} {request : PartitionMutationRequest}
  {backend : SyntheticBackend} {faults : SyntheticFaults} {device : Device} {key : Text}
  {applied : Application}

/-- A mutation request that is neither refused nor replayed reaches the mutation itself. -/
def MutationKind.reaches (kind : MutationKind) (faults : SyntheticFaults)
    (request : PartitionMutationRequest) (device : Device) : Bool :=
  !kind.refuses faults && !kind.errs faults &&
    (!kind.needsPresence || device.present && !faults.deviceDisappears) &&
    !(valid request.expectedBoot && request.expectedBoot != device.boot) &&
    (device.replay request.idempotencyToken).isNone

lemma MutationKind.replay_of_reaches (h : kind.reaches faults request device = true) :
    device.replay request.idempotencyToken = none := by
  simp only [MutationKind.reaches, Bool.and_eq_true, Option.isNone_iff_eq_none] at h
  exact h.2

/-- The device and the result after a mutation that was applied. -/
def MutationKind.finish (kind : MutationKind) (nowMs token : UInt64) (faults : SyntheticFaults)
    (applied : Application) : Application :=
  let observed := applied.1.observed faults
  let result :=
    { applied.2 with observedLayout := layoutOf (observedFaults faults) nowMs observed }
  (kind.settle (observed.record token result), result)

/-- A mutation request leaves the backend alone, and what it accepts is then a replay, or it is
applied to the device of its key. -/
lemma perform_cases (kind : MutationKind) (nowMs : UInt64) (request : PartitionMutationRequest)
    (backend : SyntheticBackend) :
    ((perform kind nowMs request backend).1 = backend ∧
      ∀ result, (perform kind nowMs request backend).2 = .ok result → result.accepted = true →
        ∃ device, backend.find request.stableKey = some device ∧
          device.replay request.idempotencyToken = some result) ∨
    ∃ device applied, backend.find request.stableKey = some device ∧
      kind.reaches backend.faults request device = true ∧
      kind.apply backend.faults request device = .ok applied ∧
      perform kind nowMs request backend =
        ((({ backend with faults := observedFaults backend.faults } : SyntheticBackend).write
            (applied.1.observed backend.faults)).write
          (kind.finish nowMs request.idempotencyToken backend.faults applied).1,
          .ok (kind.finish nowMs request.idempotencyToken backend.faults applied).2) := by
  unfold perform
  rw [Procedure.get_bind]
  split
  · refine .inl ⟨rfl, fun result hresult haccepted ↦ ?_⟩
    cases hresult
    cases haccepted
  rename_i hrefuses
  rw [Procedure.require_bind]
  split
  · rename_i herrs
    cases hfind : backend.find request.stableKey with
    | none =>
      obtain ⟨e, he⟩ := lookup_bind_none hfind _
      rw [he]
      exact .inl ⟨rfl, fun result hresult ↦ by cases hresult⟩
    | some device =>
      rw [lookup_bind_some hfind, Procedure.require_bind]
      split
      · rename_i hpresent
        rw [Procedure.require_bind]
        split
        · rename_i hboot
          cases hreplay : device.replay request.idempotencyToken with
          | some repeated =>
            refine .inl ⟨rfl, fun result hresult _ ↦ ⟨device, rfl, ?_⟩⟩
            cases hresult
            exact hreplay
          | none =>
            cases happly : kind.apply backend.faults request device with
            | error e => exact .inl ⟨rfl, fun result hresult ↦ by cases hresult⟩
            | ok applied =>
              have hreaches : kind.reaches backend.faults request device = true := by
                simp only [MutationKind.reaches, hreplay, herrs, hpresent, hboot, hrefuses,
                  Bool.not_false, Bool.and_self, Option.isNone_none]
              exact .inr ⟨device, applied, rfl, hreaches, happly, rfl⟩
        · exact .inl ⟨rfl, fun result hresult ↦ by cases hresult⟩
      · exact .inl ⟨rfl, fun result hresult ↦ by cases hresult⟩
  · exact .inl ⟨rfl, fun result hresult ↦ by cases hresult⟩

/-- What a mutation leaves of a device. -/
structure MutationKind.Lawful (kind : MutationKind) : Prop where
  spec : ∀ {faults request device applied}, kind.apply faults request device = .ok applied →
    applied.1.spec = device.spec
  tokens : ∀ {faults request device applied}, kind.apply faults request device = .ok applied →
    applied.1.appliedTokens = device.appliedTokens
  accepted : ∀ {faults request device applied}, kind.apply faults request device = .ok applied →
    applied.2.accepted = true
  settled : ∀ device, (kind.settle device).spec = device.spec ∧
    (kind.settle device).partitions = device.partitions

@[simp] lemma spec_addPartitions (device : Device) (profiles : List SyntheticProfileSpec) :
    (device.addPartitions profiles).spec = device.spec := by
  unfold Device.addPartitions
  induction profiles generalizing device with
  | nil => rfl
  | cons profile rest ih =>
    rw [List.foldl_cons, ih]
    rfl

@[simp] lemma tokens_addPartitions (device : Device) (profiles : List SyntheticProfileSpec) :
    (device.addPartitions profiles).appliedTokens = device.appliedTokens := by
  unfold Device.addPartitions
  induction profiles generalizing device with
  | nil => rfl
  | cons profile rest ih =>
    rw [List.foldl_cons, ih]
    rfl

lemma spec_removeAll (ids : List Text) (device : Device) :
    (ids.foldl Device.remove device).spec = device.spec := by
  induction ids generalizing device with
  | nil => rfl
  | cons id rest ih =>
    rw [List.foldl_cons, ih]
    unfold Device.remove
    rfl

lemma tokens_removeAll (ids : List Text) (device : Device) :
    (ids.foldl Device.remove device).appliedTokens = device.appliedTokens := by
  induction ids generalizing device with
  | nil => rfl
  | cons id rest ih =>
    rw [List.foldl_cons, ih]
    unfold Device.remove
    rfl

/-- What an accepted creation has checked and done. -/
lemma applyCreate_ok (h : applyCreate faults request device = .ok applied) :
    ∃ profiles, device.admitCreate request.desired = .ok profiles ∧
      (applied.1 = (device.addPartitions profiles).counted ∨
        applied.1 = (device.addPartitions profiles).counted.cleared) ∧
      applied.2.accepted = true := by
  unfold applyCreate at h
  obtain ⟨profiles, hadmitted, hresult⟩ := result_bind_eq_ok.mp h
  cases hresult
  refine ⟨profiles, hadmitted, ?_, rfl⟩
  simp only
  split
  · exact .inr rfl
  · exact .inl rfl

/-- What an accepted destruction has done. -/
lemma applyDestroy_ok (h : applyDestroy faults request device = .ok applied) :
    applied.1 = (request.removeNativeIds.foldl Device.remove device).counted ∧
      applied.2.accepted = true := by
  unfold applyDestroy at h
  split at h
  · cases h
  · cases h
    exact ⟨rfl, rfl⟩

/-- What an accepted reconfiguration has checked and done. -/
lemma applyReconfigure_ok (h : applyReconfigure faults request device = .ok applied) :
    ∃ profiles, device.admitReconfigure request.desired = .ok profiles ∧
      (applied.1 = (device.cleared.addPartitions profiles).counted ∨
        applied.1 = (device.cleared.addPartitions profiles).counted.cleared) ∧
      applied.2.accepted = true := by
  unfold applyReconfigure at h
  obtain ⟨profiles, hadmitted, hresult⟩ := result_bind_eq_ok.mp h
  cases hresult
  refine ⟨profiles, hadmitted, ?_, rfl⟩
  simp only
  split
  · exact .inr rfl
  · exact .inl rfl

lemma creation_apply : creation.apply = applyCreate := rfl

lemma creation_settle : creation.settle = Device.evict := rfl

lemma destruction_apply : destruction.apply = applyDestroy := rfl

lemma destruction_settle : destruction.settle = id := rfl

lemma reconfiguration_apply : reconfiguration.apply = applyReconfigure := rfl

lemma reconfiguration_settle : reconfiguration.settle = id := rfl

lemma creation_lawful : creation.Lawful := by
  constructor
  · intro faults request device applied h
    rw [creation_apply] at h
    obtain ⟨profiles, -, hdevice | hdevice, -⟩ := applyCreate_ok h
    · simp [hdevice]
    · simp [hdevice]
  · intro faults request device applied h
    rw [creation_apply] at h
    obtain ⟨profiles, -, hdevice | hdevice, -⟩ := applyCreate_ok h
    · simp [hdevice]
    · simp [hdevice]
  · intro faults request device applied h
    rw [creation_apply] at h
    obtain ⟨profiles, -, -, haccepted⟩ := applyCreate_ok h
    exact haccepted
  · intro device
    rw [creation_settle]
    exact ⟨evict_spec device, evict_partitions device⟩

lemma destruction_lawful : destruction.Lawful := by
  constructor
  · intro faults request device applied h
    rw [destruction_apply] at h
    rw [(applyDestroy_ok h).1, counted_spec, spec_removeAll]
  · intro faults request device applied h
    rw [destruction_apply] at h
    rw [(applyDestroy_ok h).1, counted_tokens, tokens_removeAll]
  · intro faults request device applied h
    rw [destruction_apply] at h
    exact (applyDestroy_ok h).2
  · intro device
    rw [destruction_settle]
    exact ⟨rfl, rfl⟩

lemma reconfiguration_lawful : reconfiguration.Lawful := by
  constructor
  · intro faults request device applied h
    rw [reconfiguration_apply] at h
    obtain ⟨profiles, -, hdevice | hdevice, -⟩ := applyReconfigure_ok h
    · simp [hdevice]
    · simp [hdevice]
  · intro faults request device applied h
    rw [reconfiguration_apply] at h
    obtain ⟨profiles, -, hdevice | hdevice, -⟩ := applyReconfigure_ok h
    · simp [hdevice]
    · simp [hdevice]
  · intro faults request device applied h
    rw [reconfiguration_apply] at h
    obtain ⟨profiles, -, -, haccepted⟩ := applyReconfigure_ok h
    exact haccepted
  · intro device
    rw [reconfiguration_settle]
    exact ⟨rfl, rfl⟩

@[simp] lemma spec_observed (device : Device) (faults : SyntheticFaults) :
    (device.observed faults).spec = device.spec := by
  unfold Device.observed
  split
  · exact silentReset_spec device
  · rfl

@[simp] lemma tokens_observed (device : Device) (faults : SyntheticFaults) :
    (device.observed faults).appliedTokens = device.appliedTokens := by
  unfold Device.observed
  split
  · exact silentReset_tokens device
  · rfl

/-- A silent reset takes every partition away. -/
lemma partitions_observed (device : Device) (faults : SyntheticFaults) :
    (device.observed faults).partitions = device.partitions ∨
      (device.observed faults).partitions = [] := by
  unfold Device.observed
  split
  · exact .inr (silentReset_partitions device)
  · exact .inl rfl

lemma spec_finish (hkind : kind.Lawful) (nowMs token : UInt64) (faults : SyntheticFaults)
    (applied : Application) :
    (kind.finish nowMs token faults applied).1.spec = applied.1.spec := by
  unfold MutationKind.finish
  simp only
  rw [(hkind.settled _).1, record_spec, spec_observed]

end Mutations

section Imports

variable {backend after : SyntheticBackend} {key : Text}

/-- What an import does not touch. -/
def Device.kept (device : Device) :
    SyntheticDeviceSpec × KeyedMap UInt64 BackendMutationResult × UInt64 :=
  (device.spec, device.appliedTokens, device.mutationCount)

/-- The same devices with the same specifications, tokens and mutation counts. -/
def Kept (backend after : SyntheticBackend) : Prop :=
  ∀ key, (after.find key).map Device.kept = (backend.find key).map Device.kept

instance : Std.Refl Kept := ⟨fun _ _ ↦ rfl⟩

instance : IsTrans SyntheticBackend Kept :=
  ⟨fun _ _ _ hab hbc key ↦ (hbc key).trans (hab key)⟩

/-- What the device of a restored record holds afterwards. -/
def Device.restoredFrom (device : Device) (image : DeviceImage) : Device :=
  { device with
    boot := image.header.boot
    present := image.header.present
    nextPartitionIndex :=
      if image.header.nextPartitionIndex = 0 then 1 else image.header.nextPartitionIndex
    partitions := image.partitions }

@[simp] lemma restoredFrom_spec (device : Device) (image : DeviceImage) :
    (device.restoredFrom image).spec = device.spec := by
  unfold Device.restoredFrom
  rfl

/-- A record is restored into the device of its key, if there is one. -/
lemma find_restore (backend : SyntheticBackend) (image : DeviceImage) (key : Text) :
    (backend.restore image).find key =
      if key = image.header.key then (backend.find key).map (·.restoredFrom image)
      else backend.find key := by
  cases hfind : backend.find image.header.key with
  | none =>
    have hsame : backend.restore image = backend := by
      rw [restore, hfind]
    rw [hsame]
    split
    · rename_i hkey
      rw [hkey, hfind]
      rfl
    · rfl
  | some device =>
    have hwrite : backend.restore image = backend.write (device.restoredFrom image) := by
      rw [restore, hfind]
      rfl
    rw [hwrite, find_write, restoredFrom_spec, key_of_find hfind]
    split
    · rename_i hkey
      rw [hkey, hfind]
      rfl
    · rfl

lemma kept_restore (backend : SyntheticBackend) (image : DeviceImage) :
    Kept backend (backend.restore image) := by
  intro key
  rw [find_restore]
  split
  · rw [Option.map_map]
    rfl
  · rfl

lemma kept_importDevices (n : ℕ) (reader : ByteReader) (backend : SyntheticBackend) :
    Procedure.Advances Kept (importDevices n reader) backend := by
  apply Procedure.advances_repeatWhile
  intro reader backend
  apply Procedure.advances_require_bind
  intro _
  exact Procedure.advances_modify_bind (kept_restore backend _) (Procedure.advances_pure _ _)

lemma kept_importState (bytes : List UInt8) (backend : SyntheticBackend) :
    Kept backend (importState bytes backend).1 := by
  have h : Procedure.Advances Kept (importState bytes) backend := by
    unfold importState
    iterate 4 refine Procedure.advances_require_bind fun _ ↦ ?_
    apply Procedure.advances_bind (kept_importDevices _ _ _)
    intro after reader _
    unfold finishImport
    split
    · exact Procedure.advances_pure _ _
    · exact Procedure.advances_throw _ _
  exact h

end Imports

section Changes

/-- The mutation that a call requests. -/
def Call.mutation? : Call → Option (MutationKind × UInt64 × PartitionMutationRequest)
  | .createPartitions nowMs request => some (creation, nowMs, request)
  | .destroyPartitions nowMs request => some (destruction, nowMs, request)
  | .reconfigureLayout nowMs request => some (reconfiguration, nowMs, request)
  | _ => none

lemma lawful_of_mutation {call : Call} {kind : MutationKind} {nowMs : UInt64}
    {request : PartitionMutationRequest}
    (hcall : call.mutation? = some (kind, nowMs, request)) : kind.Lawful := by
  cases call with
  | createPartitions => cases hcall; exact creation_lawful
  | destroyPartitions => cases hcall; exact destruction_lawful
  | reconfigureLayout => cases hcall; exact reconfiguration_lawful
  | _ => cases hcall

/-- What a call does to the device of a key. -/
inductive DeviceChange (backend : SyntheticBackend) (key : Text) :
    Call → Option Device → Option Device → Prop where
  | kept (call : Call) (device : Option Device) : DeviceChange backend key call device device
  | added (spec : SyntheticDeviceSpec) (device : Option Device) : spec.key = key →
      DeviceChange backend key (.addDevice spec) device (some (.fresh spec))
  | removed (device : Option Device) : DeviceChange backend key (.removeDevice key) device none
  | republished (profiles : List SyntheticProfileSpec) (maxPartitionCount : UInt32)
      (supported : Bool) (reason : Text) (device : Device) :
      DeviceChange backend key
        (.mutateCapability key profiles maxPartitionCount supported reason) (some device)
        (some (device.republish profiles maxPartitionCount supported reason))
  | reset (device : Device) :
      DeviceChange backend key (.resetDevice key) (some device) (some device.reset)
  | shown (present : Bool) (device : Device) :
      DeviceChange backend key (.setDevicePresent key present) (some device)
        (some { device with present })
  | externallyCreated (vendorNative : Text) (profile : SyntheticProfileSpec) (device : Device) :
      device.findProfile vendorNative = some profile →
      DeviceChange backend key (.externalCreate key vendorNative) (some device)
        (some (device.push (device.external profile)))
  | externallyDestroyed (nativeId : Text) (device : Device) :
      DeviceChange backend key (.externalDestroy key nativeId) (some device)
        (some (device.remove nativeId))
  | queried (nowMs : UInt64) (device : Device) :
      DeviceChange backend key (.queryLayout nowMs key) (some device)
        (some (device.observed backend.faults))
  | mutated (call : Call) (kind : MutationKind) (nowMs : UInt64)
      (request : PartitionMutationRequest) (device : Device) (applied : Application) :
      call.mutation? = some (kind, nowMs, request) → request.stableKey = key →
      kind.reaches backend.faults request device = true →
      kind.apply backend.faults request device = .ok applied →
      DeviceChange backend key call (some device)
        (some (kind.finish nowMs request.idempotencyToken backend.faults applied).1)
  | imported (bytes : List UInt8) (device restored : Device) : restored.spec = device.spec →
      restored.appliedTokens = device.appliedTokens →
      DeviceChange backend key (.importState bytes) (some device) (some restored)
  | restarted (device restored : Option Device) :
      DeviceChange backend key .restart device restored

variable {backend : SyntheticBackend} {device : Device} {key : Text}

/-- A rewrite is a change of the device of its key. -/
lemma change_of_rewrite {call : Call} {own : Text} {f : Device → Device}
    (hf : ∀ device, (f device).spec.key = device.spec.key)
    (h : ∀ device, DeviceChange backend own call (some device) (some (f device))) (key : Text) :
    DeviceChange backend key call (backend.find key) ((change own f backend).1.find key) := by
  rw [find_change own hf]
  split
  · rename_i hkey
    subst hkey
    cases backend.find key with
    | none => exact .kept _ _
    | some device => exact h device
  · exact .kept _ _

/-- A mutation request changes the device of its key, if any. -/
lemma change_of_perform {call : Call} {kind : MutationKind} {nowMs : UInt64}
    {request : PartitionMutationRequest} (hkind : kind.Lawful)
    (hcall : call.mutation? = some (kind, nowMs, request)) (key : Text) :
    DeviceChange backend key call (backend.find key)
      ((perform kind nowMs request backend).1.find key) := by
  rcases perform_cases kind nowMs request backend with
    ⟨hsame, -⟩ | ⟨device, applied, hfind, hreaches, happly, hperform⟩
  · rw [hsame]
    exact .kept _ _
  · have hspec := hkind.spec happly
    have hkey := key_of_find hfind
    rw [hperform]
    simp only [find_write, spec_finish hkind, spec_observed, hspec, hkey, find_faults]
    split
    · rename_i hown
      rw [hown, hfind]
      exact .mutated call kind nowMs request device applied hcall rfl hreaches happly
    · exact .kept _ _

lemma change_of_addDevice (spec : SyntheticDeviceSpec) (backend : SyntheticBackend) (key : Text) :
    DeviceChange backend key (.addDevice spec) (backend.find key)
      ((addDevice spec backend).1.find key) := by
  unfold addDevice
  rw [Procedure.get_bind, Procedure.require_bind]
  split
  · rw [Procedure.require_bind]
    split
    · rw [Procedure.modify_apply, find_write]
      split
      · exact .added spec _ (Eq.symm ‹_›)
      · exact .kept _ _
    · exact .kept _ _
  · exact .kept _ _

lemma change_of_removeDevice (own : Text) (backend : SyntheticBackend) (key : Text) :
    DeviceChange backend key (.removeDevice own) (backend.find key)
      ((removeDevice own backend).1.find key) := by
  unfold removeDevice
  cases hfind : backend.find own with
  | none =>
    obtain ⟨e, he⟩ := lookup_bind_none hfind fun _ ↦
      Procedure.modify fun backend ↦ backend.erase own
    rw [he]
    exact .kept _ _
  | some device =>
    rw [lookup_bind_some hfind, Procedure.modify_apply, find_erase]
    split
    · rename_i hkey
      rw [hkey]
      exact .removed _
    · exact .kept _ _

lemma change_of_externalCreate (own vendorNative : Text) (backend : SyntheticBackend)
    (key : Text) :
    DeviceChange backend key (.externalCreate own vendorNative) (backend.find key)
      ((externalCreate own vendorNative backend).1.find key) := by
  unfold externalCreate
  cases hfind : backend.find own with
  | none =>
    obtain ⟨e, he⟩ := lookup_bind_none hfind _
    rw [he]
    exact .kept _ _
  | some device =>
    rw [lookup_bind_some hfind]
    cases hprofile : device.findProfile vendorNative with
    | none => exact .kept _ _
    | some profile =>
      change DeviceChange _ _ _ _ ((backend.write (device.push (device.external profile))).find key)
      rw [find_write, push_spec, key_of_find hfind]
      split
      · rename_i hown
        rw [hown, hfind]
        exact .externallyCreated vendorNative profile device hprofile
      · exact .kept _ _

lemma change_of_externalDestroy (own nativeId : Text) (backend : SyntheticBackend) (key : Text) :
    DeviceChange backend key (.externalDestroy own nativeId) (backend.find key)
      ((externalDestroy own nativeId backend).1.find key) := by
  unfold externalDestroy
  cases hfind : backend.find own with
  | none =>
    obtain ⟨e, he⟩ := lookup_bind_none hfind _
    rw [he]
    exact .kept _ _
  | some device =>
    rw [lookup_bind_some hfind, Procedure.require_bind]
    split
    · rw [Procedure.modify_apply, find_write, remove_spec, key_of_find hfind]
      split
      · rename_i hown
        rw [hown, hfind]
        exact .externallyDestroyed nativeId device
      · exact .kept _ _
    · exact .kept _ _

lemma change_of_queryLayout (nowMs : UInt64) (own : Text) (backend : SyntheticBackend)
    (key : Text) :
    DeviceChange backend key (.queryLayout nowMs own) (backend.find key)
      ((queryLayout nowMs own backend).1.find key) := by
  unfold queryLayout
  cases hfind : backend.find own with
  | none =>
    obtain ⟨e, he⟩ := lookup_bind_none hfind _
    rw [he]
    exact .kept _ _
  | some device =>
    rw [lookup_bind_some hfind, Procedure.get_bind, Procedure.require_bind]
    split
    · change DeviceChange _ _ _ _ ((({ backend with
        faults := observedFaults backend.faults } : SyntheticBackend).write
          (device.observed backend.faults)).find key)
      rw [find_write, spec_observed, key_of_find hfind, find_faults]
      split
      · rename_i hown
        rw [hown, hfind]
        exact .queried nowMs device
      · exact .kept _ _
    · exact .kept _ _

lemma kept_observed (device : Device) (faults : SyntheticFaults) :
    (device.observed faults).kept = device.kept := by
  unfold Device.observed Device.kept
  split
  · rw [silentReset_spec, silentReset_tokens]
    unfold Device.silentReset
    rfl
  · rfl

/-- A query leaves alone what the devices remember of mutations. -/
lemma kept_queryLayout (now : UInt64) (own : Text) (backend : SyntheticBackend) :
    Kept backend (queryLayout now own backend).1 := by
  unfold queryLayout
  cases hfind : backend.find own with
  | none =>
    obtain ⟨e, he⟩ := lookup_bind_none hfind _
    rw [he]
    exact refl_of Kept backend
  | some device =>
    rw [lookup_bind_some hfind, Procedure.get_bind, Procedure.require_bind]
    split
    · intro key
      change ((({ backend with faults := observedFaults backend.faults } : SyntheticBackend).write
        (device.observed backend.faults)).find key).map Device.kept = _
      rw [find_write, spec_observed, key_of_find hfind, find_faults]
      split
      · rename_i hown
        rw [hown, hfind, Option.map_some, Option.map_some, kept_observed]
      · rfl
    · exact refl_of Kept backend

lemma change_of_importState (bytes : List UInt8) (backend : SyntheticBackend) (key : Text) :
    DeviceChange backend key (.importState bytes) (backend.find key)
      ((importState bytes backend).1.find key) := by
  have hkept := kept_importState bytes backend key
  cases hbefore : backend.find key with
  | none =>
    cases hafter : (importState bytes backend).1.find key with
    | none => exact .kept _ _
    | some restored => simp [hbefore, hafter] at hkept
  | some device =>
    cases hafter : (importState bytes backend).1.find key with
    | none => simp [hbefore, hafter] at hkept
    | some restored =>
      simp only [hbefore, hafter, Option.map_some, Option.some.injEq, Device.kept,
        Prod.mk.injEq] at hkept
      exact .imported bytes device restored hkept.1 hkept.2.1

/-- Every call changes the device of a key in one of these ways. -/
theorem step_change (call : Call) (backend : SyntheticBackend) (key : Text) :
    DeviceChange backend key call (backend.find key) ((synthetic.step call backend).find key) := by
  cases call with
  | addDevice spec => exact change_of_addDevice spec backend key
  | removeDevice own => exact change_of_removeDevice own backend key
  | setFaults faults => exact .kept _ _
  | setFault name enabled => exact .kept _ _
  | mutateCapability own profiles maxPartitionCount supported reason =>
    exact change_of_rewrite
      (f := fun device ↦ device.republish profiles maxPartitionCount supported reason)
      (fun _ ↦ rfl)
      (fun device ↦ .republished profiles maxPartitionCount supported reason device) key
  | resetDevice own =>
    exact change_of_rewrite (fun device ↦ by rw [reset_spec]) (fun device ↦ .reset device) key
  | setDevicePresent own present =>
    exact change_of_rewrite (f := fun device ↦ { device with present }) (fun _ ↦ rfl)
      (fun device ↦ .shown present device) key
  | externalCreate own vendorNative =>
    exact change_of_externalCreate own vendorNative backend key
  | externalDestroy own nativeId => exact change_of_externalDestroy own nativeId backend key
  | queryLayout nowMs own => exact change_of_queryLayout nowMs own backend key
  | createPartitions nowMs request => exact change_of_perform creation_lawful rfl key
  | destroyPartitions nowMs request => exact change_of_perform destruction_lawful rfl key
  | reconfigureLayout nowMs request => exact change_of_perform reconfiguration_lawful rfl key
  | importState bytes => exact change_of_importState bytes backend key
  | restart => exact .restarted _ _

end Changes

end SyntheticBackend

end PartitionFabric
