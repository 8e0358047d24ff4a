import PartitionFabric.Codec.Records

/-!
Every record is read back from what its encoder writes, up to the bounds that only its decoder
enforces.
-/

namespace PartitionFabric

open Wire (Reads Chunk)

lemma reads_small (value : Text) : Reads Read.small (Write.small value) True value :=
  reads_text_within value le_rfl

section Enumerations

lemma reads_provenance (v : EvidenceProvenance) :
    Reads (Read.enum EvidenceProvenance.all "evidence provenance")
      (Write.enum EvidenceProvenance.all v) True v :=
  reads_enum _ (by cases v <;> decide) (by decide)

lemma reads_mechanism (v : PartitionMechanism) :
    Reads (Read.enum PartitionMechanism.all "partition mechanism")
      (Write.enum PartitionMechanism.all v) True v :=
  reads_enum _ (by cases v <;> decide) (by decide)

lemma reads_dimension (v : ResourceDimension) :
    Reads decodeDimension (Write.enum ResourceDimension.all v) True v :=
  reads_enum _ (ResourceDimension.mem_all v) (by decide)

end Enumerations

section Lists

/-- The first field of a record bounds what the record takes. -/
lemma le_content_flatten {k : ℕ} {s : Script} (rest : List Script)
    (h : k ≤ s.content.length) : k ≤ (Wire.Script.content (List.flatten (s :: rest))).length := by
  rw [List.flatten_cons, Wire.Script.content_append, List.length_append]
  omega

@[simp] lemma length_u8 (v : UInt8) : (Write.u8 v).content.length = 1 := rfl

@[simp] lemma length_u32 (v : UInt32) : (Write.u32 v).content.length = 4 := rfl

@[simp] lemma length_u64 (v : UInt64) : (Write.u64 v).content.length = 8 := rfl

lemma four_le_small (value : Text) : 4 ≤ (Write.small value).content.length := by
  rw [Write.small, content_text, List.length_append, Wire.length_littleEndian]
  omega

lemma reads_ids (l : List UInt64) (maxCount : ℕ) :
    Reads (Read.list maxCount 8 Read.u64) (Write.list Write.u64 l) (l.length ≤ maxCount) l := by
  have hlist := reads_list (l := l) maxCount (show 0 < 8 by decide)
    (fun a _ ↦ (length_u64 a).ge) (fun a _ ↦ reads_u64 a)
  exact hlist.congr (by simp)

lemma reads_texts (l : List Text) (maxCount : ℕ) :
    Reads (Read.list maxCount 4 Read.small) (Write.list Write.small l) (l.length ≤ maxCount) l := by
  have hlist := reads_list (l := l) maxCount (show 0 < 4 by decide)
    (fun a _ ↦ four_le_small a) (fun a _ ↦ reads_small a)
  exact hlist.congr (by simp)

lemma reads_dimensions (l : List ResourceDimension) (maxCount : ℕ) :
    Reads (Read.list maxCount 1 decodeDimension)
      (Write.list (Write.enum ResourceDimension.all) l) (l.length ≤ maxCount) l := by
  have hlist := reads_list (l := l) maxCount (show 0 < 1 by decide)
    (fun a _ ↦ (length_u8 (ResourceDimension.all.idxOf a).toUInt8).ge)
    (fun a _ ↦ reads_dimension a)
  exact hlist.congr (by simp)

end Lists

/-- The dimensions of a vector are ones that a decoder accepts. -/
def ResourceVector.Readable (v : ResourceVector) : Prop := v.validateDimensions = success

instance (v : ResourceVector) : Decidable v.Readable := inferInstanceAs (Decidable (_ = _))

lemma ResourceVector.ofRaw_map (v : ResourceVector) :
    ResourceVector.ofRaw v.mask (ResourceDimension.all.map v.values) = v := by
  have hvalues : (ResourceVector.ofRaw v.mask (ResourceDimension.all.map v.values)).values =
      v.values := by
    funext d
    cases d <;> rfl
  cases v
  exact congrArg (ResourceVector.mk · _) hvalues

lemma reads_resources (v : ResourceVector) : Reads decodeResources v.encode v.Readable v := by
  have hvalues : ResourceDimension.all.flatMap (fun d ↦ Write.u64 (v.values d)) =
      (ResourceDimension.all.map v.values).flatMap Write.u64 := by
    rw [List.flatMap_map]
  have hraw := Wire.reads_times (l := ResourceDimension.all.map v.values) fun a _ ↦ reads_u64 a
  unfold decodeResources ResourceVector.encode
  rw [hvalues]
  apply Reads.plain (reads_u32 _)
  apply Reads.plain (hraw.congr (by simp))
  rw [ResourceVector.ofRaw_map]
  exact (Reads.lift fun _ ↦ Reads.pure v).congr (by simp [ResourceVector.Readable, success])

lemma reads_evidence (v : EvidenceStamp) : Reads decodeEvidence v.encode True v := by
  unfold decodeEvidence EvidenceStamp.encode
  apply Reads.plain (reads_u64 _)
  apply Reads.plain (reads_provenance _)
  iterate 2 apply Reads.plain (reads_u64 _)
  apply Reads.plain (reads_small _)
  apply Reads.plain (reads_boolean _)
  exact Reads.pure _

/-- Only defined properties are claimed. -/
def IsolationSet.Readable (v : IsolationSet) : Prop := v.mask >>> 8 = 0

instance (v : IsolationSet) : Decidable v.Readable := inferInstanceAs (Decidable (_ = _))

lemma reads_isolation (v : IsolationSet) : Reads decodeIsolation v.encode v.Readable v := by
  have hcheck : Reads (Procedure.require (v.mask >>> 8 == 0)
      (makeError .protocolViolation "isolation mask carries undefined properties") >>= fun _ ↦
        (pure v : ReadM IsolationSet)) [] ((v.mask >>> 8 == 0) = true ∧ True) v :=
    Reads.check _ (Reads.pure v)
  exact ((reads_u32 v.mask).bind hcheck).congr (by simp [IsolationSet.Readable])

lemma reads_alignment (v : ProfileAlignment) : Reads decodeProfileAlignment v.encode True v := by
  unfold decodeProfileAlignment ProfileAlignment.encode
  iterate 2 apply Reads.plain (reads_u32 _)
  iterate 2 apply Reads.plain (reads_boolean _)
  exact Reads.pure _

/-- The lists of a profile are within the decoder's bounds. -/
@[mk_iff]
structure PartitionProfile.Readable (v : PartitionProfile) : Prop where
  resources : v.resources.Readable
  mutuallyExclusiveWith : v.mutuallyExclusiveWith.length ≤ 64
  backendRequirements : v.backendRequirements.length ≤ 64

instance (v : PartitionProfile) : Decidable v.Readable :=
  decidable_of_iff' _ (PartitionProfile.readable_iff v)

lemma reads_engineGrouping (v : EngineGrouping) :
    Reads (Read.enum EngineGrouping.all "engine grouping") (Write.enum EngineGrouping.all v) True
      v :=
  reads_enum _ (by cases v <;> decide) (by decide)

lemma reads_profile (v : PartitionProfile) : Reads decodeProfile v.encode v.Readable v := by
  apply Reads.congr
  · unfold decodeProfile PartitionProfile.encode
    iterate 2 apply Reads.plain (reads_u64 _)
    iterate 3 apply Reads.plain (reads_small _)
    apply Reads.plain (reads_mechanism _)
    apply Reads.field (reads_resources _)
    iterate 2 apply Reads.plain (reads_u32 _)
    apply Reads.plain (reads_engineGrouping _)
    apply Reads.plain (reads_u32 _)
    apply Reads.plain (reads_alignment _)
    apply Reads.field (reads_ids _ 64)
    iterate 2 apply Reads.plain (reads_boolean _)
    apply Reads.field (reads_texts _ 64)
    apply Reads.plain (reads_small _)
    exact Reads.pure _
  · constructor
    · rintro ⟨hresources, hexclusions, hrequirements, -⟩
      exact ⟨hresources, hexclusions, hrequirements⟩
    · intro h
      exact ⟨h.resources, h.mutuallyExclusiveWith, h.backendRequirements, trivial⟩

def ProfileCombinationRule.Readable (v : ProfileCombinationRule) : Prop :=
  v.incompatibleWith.length ≤ 64

instance (v : ProfileCombinationRule) : Decidable v.Readable := inferInstanceAs (Decidable (_ ≤ _))

lemma reads_combinationRule (v : ProfileCombinationRule) :
    Reads decodeCombinationRule v.encode v.Readable v := by
  apply Reads.congr
  · unfold decodeCombinationRule ProfileCombinationRule.encode
    apply Reads.plain (reads_u64 _)
    apply Reads.plain (reads_u32 _)
    apply Reads.field (reads_ids _ 64)
    apply Reads.plain (reads_boolean _)
    exact Reads.pure _
  · exact ⟨And.left, fun h ↦ ⟨h, trivial⟩⟩

/-- The lists, the vector and the guarantees of a capability are ones that a decoder accepts. -/
@[mk_iff]
structure PartitionCapability.Readable (v : PartitionCapability) : Prop where
  supportedProfiles : v.supportedProfiles.length ≤ 512
  combinationRules : v.combinationRules.length ≤ 512 ∧ ∀ rule ∈ v.combinationRules, rule.Readable
  isolation : v.isolation.Readable
  exposedDimensions : v.exposedDimensions.length ≤ 8
  minimumAllocation : v.minimumAllocation.Readable

instance (v : PartitionCapability) : Decidable v.Readable :=
  decidable_of_iff' _ (PartitionCapability.readable_iff v)

lemma reads_support (v : PartitionSupportState) :
    Reads (Read.enum PartitionSupportState.all "partition support state")
      (Write.enum PartitionSupportState.all v) True v :=
  reads_enum _ (by cases v <;> decide) (by decide)

lemma reads_combinationRules (l : List ProfileCombinationRule) :
    Reads (Read.list 512 4 decodeCombinationRule) (Write.list ProfileCombinationRule.encode l)
      (l.length ≤ 512 ∧ ∀ rule ∈ l, rule.Readable) l := by
  apply reads_list 512 (by decide)
  · intro rule _
    exact le_content_flatten _ (by simp)
  · exact fun rule _ ↦ reads_combinationRule rule

lemma reads_capability (v : PartitionCapability) :
    Reads decodeCapability v.encode v.Readable v := by
  apply Reads.congr
  · unfold decodeCapability PartitionCapability.encode
    iterate 4 apply Reads.plain (reads_u64 _)
    apply Reads.plain (reads_support _)
    apply Reads.plain (reads_mechanism _)
    apply Reads.plain (reads_small _)
    apply Reads.field (reads_ids _ 512)
    apply Reads.field (reads_combinationRules _)
    apply Reads.plain (reads_u32 _)
    iterate 2 apply Reads.plain (reads_boolean _)
    apply Reads.field (reads_isolation _)
    apply Reads.field (reads_dimensions _ 8)
    apply Reads.field (reads_resources _)
    iterate 3 apply Reads.plain (reads_u32 _)
    iterate 2 apply Reads.plain (reads_u64 _)
    iterate 4 apply Reads.plain (reads_small _)
    apply Reads.plain (reads_evidence _)
    apply Reads.plain (reads_small _)
    exact Reads.pure _
  · constructor
    · rintro ⟨hprofiles, hrules, hisolation, hdimensions, hminimum, -⟩
      exact ⟨hprofiles, hrules, hisolation, hdimensions, hminimum⟩
    · intro h
      exact ⟨h.supportedProfiles, h.combinationRules, h.isolation, h.exposedDimensions,
        h.minimumAllocation, trivial⟩

lemma reads_identifiers (v : DeviceIdentifiers) : Reads decodeIdentifiers v.encode True v := by
  unfold decodeIdentifiers DeviceIdentifiers.encode
  iterate 9 apply Reads.plain (reads_small _)
  exact Reads.pure _

lemma fits64_int32 (v : Int32) : Fits64 v.toInt := by
  have hlow := Int32.le_toInt v
  have hhigh := Int32.toInt_lt v
  constructor <;> omega

lemma reads_locality (v : LocalityDomain) : Reads decodeLocality v.encode True v := by
  unfold decodeLocality LocalityDomain.encode
  apply Reads.plain (reads_small _)
  apply Reads.plain (reads_i64 (fits64_int32 _))
  rw [Int32.ofInt_toInt]
  exact Reads.pure _

lemma reads_healthState (v : HealthState) :
    Reads (Read.enum HealthState.all "health state") (Write.enum HealthState.all v) True v :=
  reads_enum _ (by cases v <;> decide) (by decide)

lemma reads_health (v : HealthEvidence) : Reads decodeHealth v.encode True v := by
  unfold decodeHealth HealthEvidence.encode
  apply Reads.plain (reads_healthState _)
  apply Reads.plain (reads_evidence _)
  apply Reads.plain (reads_small _)
  exact Reads.pure _

@[mk_iff]
structure AcceleratorRecord.Readable (v : AcceleratorRecord) : Prop where
  physicalTotals : v.physicalTotals.Readable
  capability : v.capability.Readable

instance (v : AcceleratorRecord) : Decidable v.Readable :=
  decidable_of_iff' _ (AcceleratorRecord.readable_iff v)

lemma reads_accelerator (v : AcceleratorRecord) :
    Reads decodeAccelerator v.encode v.Readable v := by
  apply Reads.congr
  · unfold decodeAccelerator AcceleratorRecord.encode
    iterate 3 apply Reads.plain (reads_u64 _)
    apply Reads.plain (reads_small _)
    apply Reads.plain (reads_identifiers _)
    apply Reads.field (reads_resources _)
    apply Reads.field (reads_capability _)
    apply Reads.plain (reads_u64 _)
    apply Reads.plain (reads_locality _)
    apply Reads.plain (reads_health _)
    apply Reads.plain (reads_evidence _)
    apply Reads.plain (reads_provenance _)
    apply Reads.plain (reads_small _)
    iterate 2 apply Reads.plain (reads_u64 _)
    exact Reads.pure _
  · constructor
    · rintro ⟨htotals, hcapability, -⟩
      exact ⟨htotals, hcapability⟩
    · intro h
      exact ⟨h.physicalTotals, h.capability, trivial⟩

lemma reads_nativeIdentity (v : PartitionNativeIdentity) :
    Reads decodeNativeIdentity v.encode True v := by
  unfold decodeNativeIdentity PartitionNativeIdentity.encode
  iterate 4 apply Reads.plain (reads_small _)
  exact Reads.pure _

lemma reads_isolationDomain (v : IsolationDomain) :
    Reads decodeIsolationDomain v.encode v.guarantees.Readable v := by
  apply Reads.congr
  · unfold decodeIsolationDomain IsolationDomain.encode
    apply Reads.plain (reads_small _)
    apply Reads.field (reads_isolation _)
    apply Reads.plain (reads_boolean _)
    exact Reads.pure _
  · exact ⟨And.left, fun h ↦ ⟨h, trivial⟩⟩

lemma reads_drainState (v : DrainState) :
    Reads (Read.enum DrainState.all "drain state") (Write.enum DrainState.all v) True v :=
  reads_enum _ (by cases v <;> decide) (by decide)

lemma reads_drain (v : DrainProgress) : Reads decodeDrain v.encode True v := by
  unfold decodeDrain DrainProgress.encode
  apply Reads.plain (reads_drainState _)
  iterate 2 apply Reads.plain (reads_u32 _)
  iterate 2 apply Reads.plain (reads_u64 _)
  iterate 2 apply Reads.plain (reads_small _)
  exact Reads.pure _

lemma reads_heldBucket (v : Option CapacityBucket) :
    Reads decodeHeldBucket (encodeHeldBucket v) True v := by
  cases v with
  | none => exact ((reads_u8 0xFF).bind (Reads.pure none)).congr (by simp)
  | some bucket =>
      have hpure : Reads (pure (some bucket) : ReadM (Option CapacityBucket)) [] True
          (some bucket) := Reads.pure _
      cases bucket <;> exact ((reads_u8 _).bind hpure).congr (by simp)

@[mk_iff]
structure PartitionRecord.Readable (v : PartitionRecord) : Prop where
  resources : v.resources.Readable
  isolation : v.isolation.guarantees.Readable
  supersededGenerations : v.supersededGenerations.length ≤ 64

instance (v : PartitionRecord) : Decidable v.Readable :=
  decidable_of_iff' _ (PartitionRecord.readable_iff v)

lemma reads_partitionState (v : PartitionState) :
    Reads (Read.enum PartitionState.all "partition state") (Write.enum PartitionState.all v) True
      v :=
  reads_enum _ (by cases v <;> decide) (by decide)

lemma reads_assignmentState (v : AssignmentState) :
    Reads (Read.enum AssignmentState.all "assignment state") (Write.enum AssignmentState.all v)
      True v :=
  reads_enum _ (by cases v <;> decide) (by decide)

lemma reads_partition (v : PartitionRecord) : Reads decodePartition v.encode v.Readable v := by
  apply Reads.congr
  · unfold decodePartition PartitionRecord.encode
    iterate 4 apply Reads.plain (reads_u64 _)
    apply Reads.plain (reads_mechanism _)
    iterate 3 apply Reads.plain (reads_u64 _)
    apply Reads.field (reads_resources _)
    apply Reads.plain (reads_partitionState _)
    apply Reads.plain (reads_nativeIdentity _)
    apply Reads.field (reads_isolationDomain _)
    apply Reads.plain (reads_heldBucket _)
    apply Reads.plain (reads_assignmentState _)
    apply Reads.plain (reads_drain _)
    iterate 2 apply Reads.plain (reads_u64 _)
    apply Reads.field (reads_ids _ 64)
    apply Reads.plain (reads_evidence _)
    apply Reads.plain (reads_provenance _)
    iterate 2 apply Reads.plain (reads_u64 _)
    apply Reads.plain (reads_small _)
    apply Reads.plain (reads_boolean _)
    exact Reads.pure _
  · constructor
    · rintro ⟨hresources, hisolation, hsuperseded, -⟩
      exact ⟨hresources, hisolation, hsuperseded⟩
    · intro h
      exact ⟨h.resources, h.isolation, h.supersededGenerations, trivial⟩

lemma reads_isolationRequirement (v : IsolationRequirement) :
    Reads decodeIsolationRequirement v.encode v.required.Readable v := by
  apply Reads.congr
  · unfold decodeIsolationRequirement IsolationRequirement.encode
    apply Reads.field (reads_isolation _)
    iterate 2 apply Reads.plain (reads_u64 _)
    exact Reads.pure _
  · exact ⟨And.left, fun h ↦ ⟨h, trivial⟩⟩

def PartitionAssignment.Readable (v : PartitionAssignment) : Prop := v.isolation.required.Readable

instance (v : PartitionAssignment) : Decidable v.Readable := inferInstanceAs (Decidable (_ = _))

lemma reads_assignment (v : PartitionAssignment) :
    Reads decodeAssignment v.encode v.Readable v := by
  apply Reads.congr
  · unfold decodeAssignment PartitionAssignment.encode
    iterate 5 apply Reads.plain (reads_u64 _)
    iterate 2 apply Reads.plain (reads_small _)
    apply Reads.field (reads_isolationRequirement _)
    iterate 3 apply Reads.plain (reads_u64 _)
    apply Reads.plain (reads_boolean _)
    iterate 2 apply Reads.plain (reads_u64 _)
    exact Reads.pure _
  · exact ⟨And.left, fun h ↦ ⟨h, trivial⟩⟩

/-- A ledger whose buckets all carry the dimensions of a non-empty total, and which closes. -/
@[mk_iff]
structure CapacityLedger.Readable (v : CapacityLedger) : Prop where
  nonempty : v.total.empty = false
  sameDimensions : ∀ b, (v.buckets b).mask = v.total.mask
  closes : v.validate = success

instance (v : CapacityLedger) : Decidable v.Readable :=
  decidable_of_iff' _ (CapacityLedger.readable_iff v)

lemma CapacityLedger.ofRaw_map {v : CapacityLedger}
    (h : (CapacityLedger.initializeTotals v.total {}).2 = success) :
    CapacityLedger.ofRaw v.total (CapacityBucket.all.map v.buckets) = v := by
  have htotal : (CapacityLedger.initializeTotals v.total {}).1.total = v.total := by
    rcases CapacityLedger.initializeTotals_spec v.total {} with ⟨l, hl, hdivides, -⟩ | ⟨⟨e, he⟩, -⟩
    · rw [hl]
      exact hdivides.total
    · rw [he] at h
      exact absurd h (by simp [success])
  have hbuckets : (fun b ↦ (CapacityBucket.all.map v.buckets).getD (CapacityBucket.raw b).toNat
      ({} : ResourceVector)) = v.buckets := by
    funext b
    cases b <;> rfl
  have hvalid : ∀ b : CapacityBucket, ((CapacityBucket.all.map v.buckets).getD b.raw.toNat
      ({} : ResourceVector)).validateDimensions = success := by
    intro b
    rw [congrFun hbuckets b]
    exact v.validBuckets b
  unfold CapacityLedger.ofRaw
  rw [dif_pos hvalid]
  exact CapacityLedger.ext hbuckets htotal

lemma CapacityLedger.initializeTotals_ok_iff (total : ResourceVector) :
    (CapacityLedger.initializeTotals total {}).2 = success ↔
      total.Readable ∧ total.empty = false := by
  rcases CapacityLedger.initializeTotals_spec total {} with ⟨l, hl, -, hdims, hne⟩ | ⟨⟨e, he⟩, hnot⟩
  · rw [hl]
    exact ⟨fun _ ↦ ⟨hdims, hne⟩, fun _ ↦ rfl⟩
  · rw [he]
    exact ⟨fun h ↦ absurd h (by simp [success]), fun h ↦ absurd h hnot⟩

lemma reads_ledger (v : CapacityLedger) : Reads decodeLedger v.encode v.Readable v := by
  have hbuckets : CapacityBucket.all.flatMap (fun b ↦ (v.buckets b).encode) =
      (CapacityBucket.all.map v.buckets).flatMap ResourceVector.encode := by
    rw [List.flatMap_map]
  have hraw := Wire.reads_times (l := CapacityBucket.all.map v.buckets) fun a _ ↦ reads_resources a
  have hmem : ∀ b, b ∈ CapacityBucket.all := by
    intro b
    cases b <;> decide
  apply Reads.congr
  · unfold decodeLedger CapacityLedger.encode
    rw [hbuckets]
    apply Reads.field (reads_resources _)
    apply Reads.field hraw
    apply Reads.lift
    intro hok
    apply Reads.check
    rw [CapacityLedger.ofRaw_map hok]
    apply Reads.lift
    intro _
    exact Reads.pure v
  · constructor
    · rintro ⟨-, -, hok, hdims, hcloses, -⟩
      refine ⟨((CapacityLedger.initializeTotals_ok_iff v.total).mp hok).2, fun b ↦ ?_, hcloses⟩
      rw [List.all_eq_true] at hdims
      simpa using hdims _ (List.mem_map_of_mem (hmem b))
    · intro h
      have hok := (CapacityLedger.initializeTotals_ok_iff v.total).mpr ⟨v.validTotal, h.nonempty⟩
      refine ⟨v.validTotal, ?_, hok, ?_, h.closes, trivial⟩
      · intro bucket hbucket
        obtain ⟨b, -, rfl⟩ := List.mem_map.mp hbucket
        exact v.validBuckets b
      · rw [List.all_eq_true]
        intro bucket hbucket
        obtain ⟨b, -, rfl⟩ := List.mem_map.mp hbucket
        simpa using h.sameDimensions b

/-- The weights are signed 64-bit numbers. -/
structure PlanningWeights.InRange (v : PlanningWeights) : Prop where
  fragmentation : Fits64 v.fragmentation
  capacityWaste : Fits64 v.capacityWaste
  destructiveReconfiguration : Fits64 v.destructiveReconfiguration
  drain : Fits64 v.drain
  mutationCount : Fits64 v.mutationCount
  health : Fits64 v.health
  locality : Fits64 v.locality
  futureOptionality : Fits64 v.futureOptionality
  contiguityPreservation : Fits64 v.contiguityPreservation
  reconfigurationCost : Fits64 v.reconfigurationCost
  liveReconfigurationBonus : Fits64 v.liveReconfigurationBonus

lemma reads_weights {v : PlanningWeights} (h : v.InRange) : Reads decodeWeights v.encode True v := by
  unfold decodeWeights PlanningWeights.encode
  apply Reads.plain (reads_i64 h.fragmentation)
  apply Reads.plain (reads_i64 h.capacityWaste)
  apply Reads.plain (reads_i64 h.destructiveReconfiguration)
  apply Reads.plain (reads_i64 h.drain)
  apply Reads.plain (reads_i64 h.mutationCount)
  apply Reads.plain (reads_i64 h.health)
  apply Reads.plain (reads_i64 h.locality)
  apply Reads.plain (reads_i64 h.futureOptionality)
  apply Reads.plain (reads_i64 h.contiguityPreservation)
  apply Reads.plain (reads_i64 h.reconfigurationCost)
  apply Reads.plain (reads_i64 h.liveReconfigurationBonus)
  exact Reads.pure _

@[mk_iff]
structure PlanningPolicy.Readable (v : PlanningPolicy) : Prop where
  minimumIsolation : v.minimumIsolation.required.Readable
  protectedDimensions : v.protectedDimensions.length ≤ 8

instance (v : PlanningPolicy) : Decidable v.Readable :=
  decidable_of_iff' _ (PlanningPolicy.readable_iff v)

lemma reads_policy {v : PlanningPolicy} (h : v.weights.InRange) :
    Reads decodePolicy v.encode v.Readable v := by
  apply Reads.congr
  · unfold decodePolicy PlanningPolicy.encode
    apply Reads.plain (reads_u64 _)
    apply Reads.plain (reads_small _)
    apply Reads.plain (reads_weights h)
    iterate 2 apply Reads.plain (reads_boolean _)
    apply Reads.plain (reads_u64 _)
    apply Reads.plain (reads_boolean _)
    apply Reads.plain (reads_u64 _)
    iterate 4 apply Reads.plain (reads_boolean _)
    apply Reads.plain (reads_u32 _)
    apply Reads.plain (reads_boolean _)
    apply Reads.field (reads_isolationRequirement _)
    apply Reads.field (reads_dimensions _ 8)
    apply Reads.plain (reads_u32 _)
    exact Reads.pure _
  · constructor
    · rintro ⟨hisolation, hdimensions, -⟩
      exact ⟨hisolation, hdimensions⟩
    · intro h
      exact ⟨h.minimumIsolation, h.protectedDimensions, trivial⟩

@[mk_iff]
structure PartitionReservation.Readable (v : PartitionReservation) : Prop where
  partitions : v.partitions.length ≤ 256
  partitionGenerations : v.partitionGenerations.length ≤ 256
  resources : v.resources.Readable

instance (v : PartitionReservation) : Decidable v.Readable :=
  decidable_of_iff' _ (PartitionReservation.readable_iff v)

lemma reads_lifecycle (v : ReservationLifecycle) :
    Reads (Read.enum ReservationLifecycle.all "reservation lifecycle")
      (Write.enum ReservationLifecycle.all v) True v :=
  reads_enum _ (by cases v <;> decide) (by decide)

lemma reads_reservation (v : PartitionReservation) :
    Reads decodeReservation v.encode v.Readable v := by
  apply Reads.congr
  · unfold decodeReservation PartitionReservation.encode
    iterate 12 apply Reads.plain (reads_u64 _)
    apply Reads.plain (reads_lifecycle _)
    iterate 2 apply Reads.field (reads_ids _ 256)
    apply Reads.field (reads_resources _)
    apply Reads.plain (reads_u64 _)
    apply Reads.plain (reads_u32 _)
    apply Reads.plain (reads_boolean _)
    iterate 3 apply Reads.plain (reads_u64 _)
    apply Reads.plain (reads_u32 _)
    apply Reads.plain (reads_small _)
    exact Reads.pure _
  · constructor
    · rintro ⟨hpartitions, hgenerations, hresources, -⟩
      exact ⟨hpartitions, hgenerations, hresources⟩
    · intro h
      exact ⟨h.partitions, h.partitionGenerations, h.resources, trivial⟩

lemma reads_plannedPartition (v : PlannedPartition) :
    Reads decodePlannedPartition v.encode v.resources.Readable v := by
  apply Reads.congr
  · unfold decodePlannedPartition PlannedPartition.encode
    iterate 2 apply Reads.plain (reads_u64 _)
    apply Reads.field (reads_resources _)
    apply Reads.plain (reads_u32 _)
    apply Reads.plain (reads_small _)
    exact Reads.pure _
  · exact ⟨And.left, fun h ↦ ⟨h, trivial⟩⟩

@[mk_iff]
structure PartitionAttempt.Readable (v : PartitionAttempt) : Prop where
  partitions : v.partitions.length ≤ 256
  desired : v.desired.length ≤ 256 ∧ ∀ planned ∈ v.desired, planned.resources.Readable

instance (v : PartitionAttempt) : Decidable v.Readable :=
  decidable_of_iff' _ (PartitionAttempt.readable_iff v)

lemma reads_attemptKind (v : AttemptKind) :
    Reads (Read.enum AttemptKind.all "attempt kind") (Write.enum AttemptKind.all v) True v :=
  reads_enum _ (by cases v <;> decide) (by decide)

lemma reads_attemptState (v : AttemptState) :
    Reads (Read.enum AttemptState.all "attempt state") (Write.enum AttemptState.all v) True v :=
  reads_enum _ (by cases v <;> decide) (by decide)

lemma reads_desired (l : List PlannedPartition) :
    Reads (Read.list 256 4 decodePlannedPartition) (Write.list PlannedPartition.encode l)
      (l.length ≤ 256 ∧ ∀ planned ∈ l, planned.resources.Readable) l := by
  apply reads_list 256 (by decide)
  · intro planned _
    exact le_content_flatten _ (by simp)
  · exact fun planned _ ↦ reads_plannedPartition planned

lemma reads_attempt (v : PartitionAttempt) : Reads decodeAttempt v.encode v.Readable v := by
  apply Reads.congr
  · unfold decodeAttempt PartitionAttempt.encode
    apply Reads.plain (reads_u64 _)
    apply Reads.plain (reads_attemptKind _)
    iterate 8 apply Reads.plain (reads_u64 _)
    apply Reads.field (reads_ids _ 256)
    apply Reads.field (reads_desired _)
    apply Reads.plain (reads_attemptState _)
    iterate 4 apply Reads.plain (reads_u64 _)
    iterate 2 apply Reads.plain (reads_small _)
    exact Reads.pure _
  · constructor
    · rintro ⟨hpartitions, hdesired, -⟩
      exact ⟨hpartitions, hdesired⟩
    · intro h
      exact ⟨h.partitions, h.desired, trivial⟩

lemma reads_worker (v : WorkerRecord) : Reads decodeWorker v.encode True v := by
  unfold decodeWorker WorkerRecord.encode
  iterate 2 apply Reads.plain (reads_u64 _)
  iterate 2 apply Reads.plain (reads_small _)
  iterate 2 apply Reads.plain (reads_boolean _)
  apply Reads.plain (reads_u32 _)
  iterate 3 apply Reads.plain (reads_u64 _)
  apply Reads.plain (reads_small _)
  apply Reads.plain (reads_u64 _)
  exact Reads.pure _

end PartitionFabric
