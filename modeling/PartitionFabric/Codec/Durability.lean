import PartitionFabric.Codec.Container

/-!
Which durable states can be saved, and which saved states can be loaded again.

The validators, the writer and the reader bound the same fields independently. A state is saved
when every text fits its field and the payload fits a frame; it is loaded again when the lists and
texts also fit the bounds of the reader.
-/

namespace PartitionFabric

open Wire (Reads)

section Loading

/-- A list of persisted records that the reader accepts. -/
def RecordsReadable {α : Type} (P : α → Prop) (limits : Limits) (l : List α) : Prop :=
  l.length ≤ limits.maxPersistedRecords ∧ ∀ a ∈ l, P a

instance {α : Type} (P : α → Prop) [DecidablePred P] (limits : Limits) (l : List α) :
    Decidable (RecordsReadable P limits l) :=
  inferInstanceAs (Decidable (_ ∧ _))

/-- The bounds that only the reader enforces. -/
@[mk_iff]
structure DurableState.Readable (limits : Limits) (state : DurableState) : Prop where
  instanceId : state.instanceId.length ≤ limits.maxNameBytes
  policy : state.policy.Readable
  profiles : RecordsReadable PartitionProfile.Readable limits state.profiles
  accelerators : RecordsReadable AcceleratorRecord.Readable limits state.accelerators
  acceleratorKeys : RecordsReadable (fun entry ↦ entry.2.length ≤ 256) limits state.acceleratorKeys
  ledgers : RecordsReadable (fun entry ↦ entry.2.Readable) limits state.ledgers
  partitions : RecordsReadable PartitionRecord.Readable limits state.partitions
  reservations : RecordsReadable PartitionReservation.Readable limits state.reservations
  attempts : RecordsReadable PartitionAttempt.Readable limits state.attempts
  assignments : RecordsReadable PartitionAssignment.Readable limits state.assignments
  workers : state.workers.length ≤ limits.maxPersistedRecords

instance (limits : Limits) (state : DurableState) : Decidable (state.Readable limits) :=
  decidable_of_iff' _ (DurableState.readable_iff limits state)

variable {limits : Limits}

lemma reads_acceleratorKey (entry : AcceleratorId × Text) (maxLen : ℕ) :
    Reads decodeAcceleratorKey (List.flatten [Write.u64 entry.1, Write.text entry.2 maxLen])
      (entry.2.length ≤ 256) entry := by
  apply Reads.congr
  · unfold decodeAcceleratorKey
    apply Reads.plain (reads_u64 _)
    apply Reads.field (reads_text _ maxLen 256)
    exact Reads.pure _
  · exact ⟨And.left, fun h ↦ ⟨h, trivial⟩⟩

lemma reads_ledgerEntry (entry : AcceleratorId × CapacityLedger) :
    Reads decodeLedgerEntry (List.flatten [Write.u64 entry.1, entry.2.encode])
      entry.2.Readable entry := by
  apply Reads.congr
  · unfold decodeLedgerEntry
    apply Reads.plain (reads_u64 _)
    apply Reads.field (reads_ledger _)
    exact Reads.pure _
  · exact ⟨And.left, fun h ↦ ⟨h, trivial⟩⟩

/-- A list of records, each of which starts with its identity. -/
lemma reads_records {α : Type} {each : ReadM α} {enc : α → Script} {P : α → Prop} {l : List α}
    (hmin : ∀ a, 8 ≤ (enc a).content.length) (h : ∀ a, Reads each (enc a) (P a) a) :
    Reads (Read.list limits.maxPersistedRecords 8 each) (Write.list enc l)
      (RecordsReadable P limits l) l :=
  reads_list limits.maxPersistedRecords (by decide) (fun a _ ↦ hmin a) (fun a _ ↦ h a)

lemma reads_durableState {state : DurableState} {writing : Limits}
    (hweights : state.policy.weights.InRange) :
    Reads (decodeDurableState limits) (state.encode writing) (state.Readable limits) state := by
  apply Reads.congr
  · unfold decodeDurableState DurableState.encode
    apply Reads.plain (reads_u32 _)
    iterate 5 apply Reads.plain (reads_u64 _)
    apply Reads.field (reads_text _ _ limits.maxNameBytes)
    apply Reads.field (reads_policy hweights)
    apply Reads.field (reads_records (fun _ ↦ le_content_flatten _ (by simp)) reads_profile)
    apply Reads.field (reads_records (fun _ ↦ le_content_flatten _ (by simp)) reads_accelerator)
    apply Reads.field (reads_records (fun _ ↦ le_content_flatten _ (by simp)) fun entry ↦
      reads_acceleratorKey entry writing.maxMetadataBytes)
    apply Reads.field (reads_records (fun _ ↦ le_content_flatten _ (by simp)) reads_ledgerEntry)
    apply Reads.field (reads_records (fun _ ↦ le_content_flatten _ (by simp)) reads_partition)
    apply Reads.field (reads_records (fun _ ↦ le_content_flatten _ (by simp)) reads_reservation)
    apply Reads.field (reads_records (fun _ ↦ le_content_flatten _ (by simp)) reads_attempt)
    apply Reads.field (reads_records (fun _ ↦ le_content_flatten _ (by simp)) reads_assignment)
    apply Reads.field (reads_records (fun _ ↦ le_content_flatten _ (by simp)) reads_worker)
    exact Reads.pure _
  · constructor
    · rintro ⟨hid, hpolicy, hprofiles, haccelerators, hkeys, hledgers, hpartitions, hreservations,
        hattempts, hassignments, hworkers, -⟩
      exact ⟨hid, hpolicy, hprofiles, haccelerators, hkeys, hledgers, hpartitions, hreservations,
        hattempts, hassignments, hworkers.1⟩
    · intro h
      exact ⟨h.instanceId, h.policy, h.profiles, h.accelerators, h.acceleratorKeys, h.ledgers,
        h.partitions, h.reservations, h.attempts, h.assignments, ⟨h.workers, fun _ _ ↦ trivial⟩,
        trivial⟩

/-- A script that was written whole is read to its end exactly when its condition holds. -/
lemma finish_eq_ok_iff {α : Type} {m : ReadM α} {s : Script} {P : Prop} {a : α}
    (h : Reads m s P a) {n : ℕ} (hn : n < 2 ^ 32) (hfits : s.Fits n) :
    finish m s.content = .ok a ↔ P := by
  constructor
  · intro hfinish
    by_contra hP
    obtain ⟨t, e, hfails⟩ := h.refuses n hn hfits hP []
    rw [List.append_nil] at hfails
    simp [finish, hfails] at hfinish
  · intro hP
    have haccepts := h.accepts n hn hfits hP []
    rw [List.append_nil] at haccepts
    simp [finish, haccepts]

lemma finish_content_iff {α : Type} {m : ReadM α} {s : Script} {P : Prop} {a b : α}
    (h : Reads m s P a) {n : ℕ} (hn : n < 2 ^ 32) (hfits : s.Fits n) :
    finish m s.content = .ok b ↔ P ∧ a = b := by
  by_cases hP : P
  · have hok := (finish_eq_ok_iff h hn hfits).mpr hP
    rw [hok]
    simp [hP]
  · obtain ⟨t, e, hfails⟩ := h.refuses n hn hfits hP []
    rw [List.append_nil] at hfails
    simp [finish, hfails, hP]

/-- A container is loaded as the state it was written from exactly when the reader's own bounds
admit that state. -/
lemma decode_container_iff {state : DurableState} (hlimits : limits.validate = success)
    (hweights : state.policy.weights.InRange) (hvalid : state.validateDecoded limits = success)
    (hfits : (state.encode limits).Fits limits.maxFrameBytes)
    (hlength : (state.encode limits).content.length ≤ maxPayloadBytes) :
    PersistenceStore.decode
        (PersistenceStore.container state.formatVersion (state.encode limits).content) limits =
      .ok state ↔ state.Readable limits := by
  have hbound := Limits.maxFrameBytes_le hlimits
  have hreads : Reads (decodeDurableState limits) (state.encode limits) (state.Readable limits)
      state := reads_durableState hweights
  have hfinish := finish_eq_ok_iff hreads (by omega) hfits
  have hintact := PersistenceStore.intact_container hlength
  rw [PersistenceStore.decode_eq_ok_iff, PersistenceStore.drop_container, hfinish,
    DurableState.formatVersion_of_valid hvalid]
  exact ⟨fun h ↦ h.2.1, fun h ↦ ⟨hintact, h, hvalid⟩⟩

/-- A saved state is loaded again exactly when the reader's own bounds admit it. -/
theorem durable_round_trip_iff {state : DurableState} {bytes : List UInt8}
    (hlimits : limits.validate = success) (hweights : state.policy.weights.InRange)
    (h : PersistenceStore.encode state limits = .ok bytes) :
    PersistenceStore.decode bytes limits = .ok state ↔ state.Readable limits := by
  obtain ⟨hvalid, hfits, hlength, rfl⟩ := PersistenceStore.encode_eq_ok_iff.mp h
  exact decode_container_iff hlimits hweights hvalid hfits hlength

section Weights

/-- The weights as sixty-four bits keep them. -/
def PlanningWeights.stored (v : PlanningWeights) : PlanningWeights where
  fragmentation := v.fragmentation.bmod (2 ^ 64)
  capacityWaste := v.capacityWaste.bmod (2 ^ 64)
  destructiveReconfiguration := v.destructiveReconfiguration.bmod (2 ^ 64)
  drain := v.drain.bmod (2 ^ 64)
  mutationCount := v.mutationCount.bmod (2 ^ 64)
  health := v.health.bmod (2 ^ 64)
  locality := v.locality.bmod (2 ^ 64)
  futureOptionality := v.futureOptionality.bmod (2 ^ 64)
  contiguityPreservation := v.contiguityPreservation.bmod (2 ^ 64)
  reconfigurationCost := v.reconfigurationCost.bmod (2 ^ 64)
  liveReconfigurationBonus := v.liveReconfigurationBonus.bmod (2 ^ 64)

lemma fits64_bmod (v : ℤ) : Fits64 (v.bmod (2 ^ 64)) := by
  have hlow := @Int.le_bmod v (2 ^ 64) (by decide)
  have hhigh := @Int.bmod_lt v (2 ^ 64) (by decide)
  constructor <;> omega

lemma PlanningWeights.stored_inRange (v : PlanningWeights) : v.stored.InRange := by
  constructor <;> exact fits64_bmod _

lemma i64_bmod (v : ℤ) : Write.i64 (v.bmod (2 ^ 64)) = Write.i64 v := by
  have hmod : v.bmod (2 ^ 64) % 2 ^ 64 = v % 2 ^ 64 := Int.bmod_emod
  rw [Write.i64, Write.i64, hmod]

lemma PlanningWeights.encode_stored (v : PlanningWeights) : v.stored.encode = v.encode := by
  simp only [PlanningWeights.encode, PlanningWeights.stored, i64_bmod]

def DurableState.stored (d : DurableState) : DurableState :=
  { d with policy := { d.policy with weights := d.policy.weights.stored } }

lemma DurableState.encode_stored (d : DurableState) (limits : Limits) :
    d.stored.encode limits = d.encode limits := by
  simp only [DurableState.encode, DurableState.stored, PlanningPolicy.encode,
    PlanningWeights.encode_stored]

lemma PlanningWeights.InRange.stored {v : PlanningWeights} (h : v.InRange) : v.stored = v := by
  have hfield {x : ℤ} (hx : Fits64 x) : x.bmod (2 ^ 64) = x := by
    obtain ⟨hlow, hhigh⟩ := hx
    apply Int.bmod_eq_of_le <;> omega
  unfold PlanningWeights.stored
  rw [hfield h.fragmentation, hfield h.capacityWaste, hfield h.destructiveReconfiguration,
    hfield h.drain, hfield h.mutationCount, hfield h.health, hfield h.locality,
    hfield h.futureOptionality, hfield h.contiguityPreservation, hfield h.reconfigurationCost,
    hfield h.liveReconfigurationBonus]

lemma DurableState.stored_of_inRange {d : DurableState} (h : d.policy.weights.InRange) :
    d.stored = d := by
  unfold DurableState.stored
  rw [h.stored]

/-- What a saved state is loaded as under any limits: itself, with its weights as they are kept. -/
lemma decode_encoded_iff {state loaded : DurableState} {writing : Limits} {bytes : List UInt8}
    (h : PersistenceStore.encode state writing = .ok bytes) :
    PersistenceStore.decode bytes limits = .ok loaded ↔
      state.stored.Readable limits ∧ state.stored.validateDecoded limits = success ∧
        state.stored = loaded := by
  obtain ⟨hvalid, hfits, hlength, rfl⟩ := PersistenceStore.encode_eq_ok_iff.mp h
  have hintact := PersistenceStore.intact_container hlength
  rw [PersistenceStore.decode_eq_ok_iff, PersistenceStore.drop_container,
    DurableState.formatVersion_of_valid hvalid]
  rw [← DurableState.encode_stored] at hfits hlength hintact ⊢
  have hreads : Reads (decodeDurableState limits) (state.stored.encode writing)
      (state.stored.Readable limits) state.stored :=
    reads_durableState (PlanningWeights.stored_inRange _)
  have hwords : (state.stored.encode writing).content.length < 2 ^ 32 := by
    unfold maxPayloadBytes at hlength
    omega
  rw [finish_content_iff hreads hwords ⟨hfits.1, le_refl _⟩]
  constructor
  · rintro ⟨-, ⟨hreadable, rfl⟩, hvalidated⟩
    exact ⟨hreadable, hvalidated, rfl⟩
  · rintro ⟨hreadable, hvalidated, rfl⟩
    exact ⟨hintact, ⟨hreadable, rfl⟩, hvalidated⟩

end Weights

/-- The weights of the shipped policy are within their range. -/
lemma PlanningWeights.default_inRange : PlanningWeights.InRange {} := by
  constructor <;> decide

/-- The state with records of each kind is loaded again as it was saved. -/
theorem durable_round_trip_iff_furnished :
    ∃ bytes, PersistenceStore.encode Sample.furnished {} = .ok bytes ∧
      PersistenceStore.decode bytes {} = .ok Sample.furnished := by
  have hreadable : Sample.furnished.Readable {} := by decide +kernel
  exact ⟨_, encode_furnished, (durable_round_trip_iff (by decide +kernel)
    PlanningWeights.default_inRange encode_furnished).mpr hreadable⟩

/-- A state whose instance name is longer than the reader's bound for names. -/
def longNamed : DurableState := { instanceId := List.replicate 257 0x61 }

/-- A state can be saved that can never be loaded. -/
theorem durable_round_trip_fails :
    ∃ (limits : Limits) (state : DurableState) (bytes : List UInt8),
      limits.validate = success ∧ state.policy.weights.InRange ∧
        PersistenceStore.encode state limits = .ok bytes ∧
        PersistenceStore.decode bytes limits ≠ .ok state := by
  have hvalid : longNamed.validateDecoded {} = success := by decide +kernel
  have hfits : (longNamed.encode {}).Fits 1048576 := ⟨by decide +kernel, by decide +kernel⟩
  have hlength : (longNamed.encode {}).content.length ≤ maxPayloadBytes := by decide +kernel
  refine ⟨{}, longNamed, _, by decide +kernel, PlanningWeights.default_inRange,
    PersistenceStore.encode_eq_ok_iff.mpr ⟨hvalid, hfits, hlength, rfl⟩, ?_⟩
  intro hdecode
  have hreadable := (decode_container_iff (by decide +kernel) PlanningWeights.default_inRange
    hvalid hfits hlength).mp hdecode
  have hname := hreadable.instanceId
  exact absurd hname (by decide +kernel)

end Loading

section Saving

/-- The texts of a record that share the common bound, in the order they are written. -/
def PartitionProfile.texts (v : PartitionProfile) : List Text :=
  [v.name, v.vendorNative, v.backend] ++ v.backendRequirements ++ [v.description]

def PartitionCapability.texts (v : PartitionCapability) : List Text :=
  [v.mechanismName, v.backendName, v.backendVersion, v.driverVersion, v.toolingRequirement,
    v.evidence.source, v.unsupportedReason]

def DeviceIdentifiers.texts (v : DeviceIdentifiers) : List Text :=
  [v.vendor, v.model, v.uuid, v.pciBusId, v.hardwareId, v.firmwareVersion, v.driverVersion,
    v.serial, v.computeCapability]

def AcceleratorRecord.texts (v : AcceleratorRecord) : List Text :=
  [v.backend] ++ v.identifiers.texts ++ v.capability.texts ++
    [v.locality.name, v.health.stamp.source, v.health.source, v.evidence.source,
      v.unsupportedReason]

def PartitionRecord.texts (v : PartitionRecord) : List Text :=
  [v.nativeIdentity.backend, v.nativeIdentity.nativeId, v.nativeIdentity.parentNativeId,
    v.nativeIdentity.instanceUuid, v.isolation.name, v.drain.blockedReason, v.drain.blocker,
    v.evidence.source, v.lastTransitionReason]

def PartitionAttempt.texts (v : PartitionAttempt) : List Text :=
  v.desired.map PlannedPartition.vendorNativeProfile ++ [v.detail, v.observedNativeLayoutDigest]

def PartitionAssignment.texts (v : PartitionAssignment) : List Text := [v.workloadId, v.tenantId]

def WorkerRecord.texts (v : WorkerRecord) : List Text := [v.endpoint, v.backend, v.fenceReason]

namespace DurableState

/-- The texts of a state that share the common bound. -/
def smallTexts (state : DurableState) : List Text :=
  [state.policy.name] ++ state.profiles.flatMap PartitionProfile.texts ++
    state.accelerators.flatMap AcceleratorRecord.texts ++
    state.partitions.flatMap PartitionRecord.texts ++
    state.reservations.map PartitionReservation.reason ++
    state.attempts.flatMap PartitionAttempt.texts ++
    state.assignments.flatMap PartitionAssignment.texts ++
    state.workers.flatMap WorkerRecord.texts

/-- The texts of a state that are bounded as metadata. -/
def longTexts (state : DurableState) : List Text :=
  state.instanceId :: state.acceleratorKeys.map Prod.snd

end DurableState

/-- Nothing of a script is refused. -/
def Accepted (s : Script) : Prop := ∀ c ∈ s, c.accepted = true

@[simp] lemma accepted_nil : Accepted [] := by simp [Accepted]

@[simp] lemma accepted_append (s t : Script) : Accepted (s ++ t) ↔ Accepted s ∧ Accepted t := by
  simp [Accepted, or_imp, forall_and]

@[simp] lemma accepted_flatMap {α : Type} (l : List α) (enc : α → Script) :
    Accepted (l.flatMap enc) ↔ ∀ a ∈ l, Accepted (enc a) := by
  simp only [Accepted, List.mem_flatMap]
  exact ⟨fun h a ha c hc ↦ h c ⟨a, ha, hc⟩, fun h c ⟨a, ha, hc⟩ ↦ h a ha c hc⟩

@[simp] lemma accepted_u8 (v : UInt8) : Accepted (Write.u8 v) := by simp [Accepted, Write.u8]; rfl

@[simp] lemma accepted_u32 (v : UInt32) : Accepted (Write.u32 v) := by
  simp [Accepted, Write.u32]; rfl

@[simp] lemma accepted_u64 (v : UInt64) : Accepted (Write.u64 v) := by
  simp [Accepted, Write.u64]; rfl

@[simp] lemma accepted_i64 (v : ℤ) : Accepted (Write.i64 v) := by simp [Accepted, Write.i64]; rfl

@[simp] lemma accepted_boolean (v : Bool) : Accepted (Write.boolean v) := accepted_u8 _

@[simp] lemma accepted_enum {α : Type} [DecidableEq α] (all : List α) (v : α) :
    Accepted (Write.enum all v) := accepted_u8 _

@[simp] lemma accepted_textField (v : Text) (maxLen : ℕ) :
    Accepted (Write.text v maxLen) ↔ Writable maxLen v :=
  accepted_text v maxLen

@[simp] lemma accepted_small (v : Text) : Accepted (Write.small v) ↔ Writable 256 v :=
  accepted_text v 256

@[simp] lemma accepted_list {α : Type} (enc : α → Script) (l : List α) :
    Accepted (Write.list enc l) ↔ ∀ a ∈ l, Accepted (enc a) := by
  rw [← accepted_flatMap]
  simp only [Accepted, Write.list, List.forall_mem_cons]
  exact ⟨And.right, fun h ↦ ⟨rfl, h⟩⟩

/-- All texts of a list are ones that a writer with a given bound accepts. -/
def AllWritable (maxLen : ℕ) (l : List Text) : Prop := ∀ t ∈ l, Writable maxLen t

@[simp] lemma allWritable_nil (maxLen : ℕ) : AllWritable maxLen [] := by simp [AllWritable]

@[simp] lemma allWritable_cons (maxLen : ℕ) (t : Text) (l : List Text) :
    AllWritable maxLen (t :: l) ↔ Writable maxLen t ∧ AllWritable maxLen l :=
  List.forall_mem_cons

@[simp] lemma allWritable_append (maxLen : ℕ) (l l' : List Text) :
    AllWritable maxLen (l ++ l') ↔ AllWritable maxLen l ∧ AllWritable maxLen l' :=
  List.forall_mem_append

@[simp] lemma allWritable_map {α : Type} (maxLen : ℕ) (f : α → Text) (l : List α) :
    AllWritable maxLen (l.map f) ↔ ∀ a ∈ l, Writable maxLen (f a) :=
  List.forall_mem_map

@[simp] lemma allWritable_flatMap {α : Type} (maxLen : ℕ) (f : α → List Text) (l : List α) :
    AllWritable maxLen (l.flatMap f) ↔ ∀ a ∈ l, AllWritable maxLen (f a) :=
  List.forall_mem_flatMap

@[simp] lemma forall_writable (maxLen : ℕ) (l : List Text) :
    (∀ t ∈ l, Writable maxLen t) ↔ AllWritable maxLen l := Iff.rfl

@[simp] lemma accepted_resources (v : ResourceVector) : Accepted v.encode := by
  simp [ResourceVector.encode]

@[simp] lemma accepted_evidence (v : EvidenceStamp) :
    Accepted v.encode ↔ Writable 256 v.source := by
  simp [EvidenceStamp.encode]

@[simp] lemma accepted_isolation (v : IsolationSet) : Accepted v.encode := accepted_u32 _

@[simp] lemma accepted_profile (v : PartitionProfile) :
    Accepted v.encode ↔ AllWritable 256 v.texts := by
  simp [PartitionProfile.encode, PartitionProfile.texts, ProfileAlignment.encode]

@[simp] lemma accepted_capability (v : PartitionCapability) :
    Accepted v.encode ↔ AllWritable 256 v.texts := by
  simp [PartitionCapability.encode, PartitionCapability.texts, ProfileCombinationRule.encode]

@[simp] lemma accepted_accelerator (v : AcceleratorRecord) :
    Accepted v.encode ↔ AllWritable 256 v.texts := by
  simp [AcceleratorRecord.encode, AcceleratorRecord.texts, DeviceIdentifiers.encode,
    DeviceIdentifiers.texts, LocalityDomain.encode, HealthEvidence.encode]

@[simp] lemma accepted_partition (v : PartitionRecord) :
    Accepted v.encode ↔ AllWritable 256 v.texts := by
  simp [PartitionRecord.encode, PartitionRecord.texts, PartitionNativeIdentity.encode,
    IsolationDomain.encode, DrainProgress.encode, encodeHeldBucket]

@[simp] lemma accepted_reservation (v : PartitionReservation) :
    Accepted v.encode ↔ Writable 256 v.reason := by
  simp [PartitionReservation.encode]

@[simp] lemma accepted_attempt (v : PartitionAttempt) :
    Accepted v.encode ↔ AllWritable 256 v.texts := by
  simp [PartitionAttempt.encode, PartitionAttempt.texts, PlannedPartition.encode]

@[simp] lemma accepted_assignment (v : PartitionAssignment) :
    Accepted v.encode ↔ AllWritable 256 v.texts := by
  simp [PartitionAssignment.encode, PartitionAssignment.texts, IsolationRequirement.encode]

@[simp] lemma accepted_worker (v : WorkerRecord) :
    Accepted v.encode ↔ AllWritable 256 v.texts := by
  simp [WorkerRecord.encode, WorkerRecord.texts]

@[simp] lemma accepted_ledger (v : CapacityLedger) : Accepted v.encode := by
  simp [CapacityLedger.encode]

@[simp] lemma accepted_policy (v : PlanningPolicy) :
    Accepted v.encode ↔ Writable 256 v.name := by
  simp [PlanningPolicy.encode, PlanningWeights.encode, IsolationRequirement.encode]

variable {limits : Limits} {state : DurableState}

/-- The writer refuses a state only for its texts. -/
lemma accepted_durableState :
    Accepted (state.encode limits) ↔
      AllWritable 256 state.smallTexts ∧ AllWritable limits.maxMetadataBytes state.longTexts := by
  simp only [DurableState.encode, DurableState.smallTexts, DurableState.longTexts,
    List.flatten_cons, List.flatten_nil, List.append_nil, accepted_append, accepted_u32,
    accepted_u64, accepted_textField, accepted_policy, accepted_list, accepted_profile,
    accepted_accelerator, accepted_ledger, accepted_partition, accepted_reservation,
    accepted_attempt, accepted_assignment, accepted_worker, allWritable_append, allWritable_cons,
    allWritable_nil, allWritable_map, allWritable_flatMap, true_and, and_true]
  tauto

lemma writable_iff {maxLen : ℕ} {t : Text} (hmax : maxLen ≤ ByteWriter.maxTextBytes)
    (hutf : isValidUtf8 t = true) : Writable maxLen t ↔ t.length ≤ maxLen :=
  ⟨fun h ↦ h.1, fun h ↦ ⟨h, h.trans hmax, hutf⟩⟩

/-- A valid state with well-formed texts is saved exactly when every text fits its field and the
payload fits a frame. -/
theorem saved_iff (hlimits : limits.validate = success)
    (hvalid : state.validateDecoded limits = success)
    (hutf : ∀ t ∈ state.smallTexts ++ state.longTexts, isValidUtf8 t = true)
    (hpayload : (state.encode limits).content.length ≤ maxPayloadBytes) :
    (∃ bytes, PersistenceStore.encode state limits = .ok bytes) ↔
      (∀ t ∈ state.smallTexts, t.length ≤ 256) ∧
        (∀ t ∈ state.longTexts, t.length ≤ limits.maxMetadataBytes) ∧
        (state.encode limits).content.length ≤ limits.maxFrameBytes := by
  have hmetadata := Limits.maxMetadataBytes_le hlimits
  have hsmall : ∀ t ∈ state.smallTexts, (Writable 256 t ↔ t.length ≤ 256) := by
    intro t ht
    exact writable_iff (by decide) (hutf t (List.mem_append_left _ ht))
  have hlong : ∀ t ∈ state.longTexts,
      (Writable limits.maxMetadataBytes t ↔ t.length ≤ limits.maxMetadataBytes) := by
    intro t ht
    exact writable_iff hmetadata (hutf t (List.mem_append_right _ ht))
  have hfits : (state.encode limits).Fits limits.maxFrameBytes ↔
      ((∀ t ∈ state.smallTexts, t.length ≤ 256) ∧
        ∀ t ∈ state.longTexts, t.length ≤ limits.maxMetadataBytes) ∧
        (state.encode limits).content.length ≤ limits.maxFrameBytes := by
    rw [← forall₂_congr hsmall, ← forall₂_congr hlong]
    exact and_congr_left' accepted_durableState
  constructor
  · rintro ⟨bytes, h⟩
    obtain ⟨-, hfit, -, -⟩ := PersistenceStore.encode_eq_ok_iff.mp h
    obtain ⟨⟨hs, hl⟩, hlen⟩ := hfits.mp hfit
    exact ⟨hs, hl, hlen⟩
  · rintro ⟨hs, hl, hlen⟩
    exact ⟨_, PersistenceStore.encode_eq_ok_iff.mpr
      ⟨hvalid, hfits.mpr ⟨⟨hs, hl⟩, hlen⟩, hpayload, rfl⟩⟩

namespace Sample

/-- The furnished state, with the outcome of its attempt described at length. -/
def verbose : DurableState :=
  { furnished with
    attempts := furnished.attempts.map ({ · with detail := List.replicate 257 0x61 }) }

end Sample

/-- The state with records of each kind is saved, and with one text beyond its bound it is not. -/
theorem saved_iff_furnished :
    (∃ bytes, PersistenceStore.encode Sample.furnished {} = .ok bytes) ∧
      ¬∃ bytes, PersistenceStore.encode Sample.verbose {} = .ok bytes := by
  have hfits := @saved_iff {} Sample.furnished (by decide +kernel)
    (by decide +kernel) (by decide +kernel) (by decide +kernel)
  have hverbose := @saved_iff {} Sample.verbose (by decide +kernel)
    (by decide +kernel) (by decide +kernel) (by decide +kernel)
  refine ⟨hfits.mpr (by decide +kernel), fun h ↦ ?_⟩
  obtain ⟨hsmall, -⟩ := hverbose.mp h
  have hlong : List.replicate 257 0x61 ∈ Sample.verbose.smallTexts := by decide +kernel
  exact absurd (hsmall _ hlong) (by decide +kernel)

/-- A state with an attempt whose outcome is described at length. -/
def longDetailed : DurableState :=
  { attempts := [{ id := 2, reservation := 1, detail := List.replicate 257 0x61 }] }

/-- A valid state can be impossible to save. -/
theorem valid_state_not_saved :
    ∃ (limits : Limits) (state : DurableState), limits.validate = success ∧
      state.validateDecoded limits = success ∧
      (∀ t ∈ state.smallTexts ++ state.longTexts, isValidUtf8 t = true) ∧
      (state.encode limits).content.length ≤ maxPayloadBytes ∧
      ¬ ∃ bytes, PersistenceStore.encode state limits = .ok bytes := by
  refine ⟨{}, longDetailed, by decide +kernel, by decide +kernel, by decide +kernel,
    by decide +kernel, ?_⟩
  rintro ⟨bytes, h⟩
  obtain ⟨-, hfits, -, -⟩ := PersistenceStore.encode_eq_ok_iff.mp h
  have hsmall := (accepted_durableState.mp hfits.1).1 (List.replicate 257 0x61)
    (by decide +kernel)
  exact absurd hsmall.1 (by decide +kernel)

end Saving

end PartitionFabric
