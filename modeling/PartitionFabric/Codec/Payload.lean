import PartitionFabric.Codec.Durability
import PartitionFabric.Codec.Messages

/-!
Every message is read back from what its encoder writes, up to the bounds that only its decoder
enforces.
-/

namespace PartitionFabric

open Wire (Reads)

section Helpers

/-- A list that the reader accepts. -/
def ListReadable {α : Type} (maxCount : ℕ) (P : α → Prop) (l : List α) : Prop :=
  l.length ≤ maxCount ∧ ∀ a ∈ l, P a

instance {α : Type} (maxCount : ℕ) (P : α → Prop) [DecidablePred P] (l : List α) :
    Decidable (ListReadable maxCount P l) :=
  inferInstanceAs (Decidable (_ ∧ _))

lemma reads_bounded {α : Type} {each : ReadM α} {enc : α → Script} {P : α → Prop} {minBytes : ℕ}
    (l : List α) (maxCount : ℕ) (hpos : 0 < minBytes)
    (hmin : ∀ a, minBytes ≤ (enc a).content.length) (h : ∀ a ∈ l, Reads each (enc a) (P a) a) :
    Reads (Read.list maxCount minBytes each) (Write.list enc l) (ListReadable maxCount P l) l :=
  reads_list maxCount hpos (fun a _ ↦ hmin a) h

@[simp] lemma length_small (v : Text) : (Write.small v).content.length = 4 + v.length := by
  rw [Write.small, content_text, List.length_append, Wire.length_littleEndian]

@[simp] lemma length_boolean (v : Bool) : (Write.boolean v).content.length = 1 := rfl

@[simp] lemma length_i64 (v : ℤ) : (Write.i64 v).content.length = 8 := rfl

@[simp] lemma length_enum {α : Type} [DecidableEq α] (all : List α) (v : α) :
    (Write.enum all v).content.length = 1 := rfl

end Helpers

section Enumerations

lemma reads_queryKind (v : QueryKind) :
    Reads (Read.enum QueryKind.all "query kind") (Write.enum QueryKind.all v) True v :=
  reads_enum _ (by cases v <;> decide) (by decide)

lemma reads_adminAction (v : AdminAction) :
    Reads (Read.enum AdminAction.all "admin action") (Write.enum AdminAction.all v) True v :=
  reads_enum _ (by cases v <;> decide) (by decide)

lemma reads_commandKind (v : CommandKind) :
    Reads (Read.enum CommandKind.all "command kind") (Write.enum CommandKind.all v) True v :=
  reads_enum _ (by cases v <;> decide) (by decide)

lemma reads_planStepKind (v : PlanStepKind) :
    Reads (Read.enum PlanStepKind.all "plan step kind") (Write.enum PlanStepKind.all v) True v :=
  reads_enum _ (by cases v <;> decide) (by decide)

lemma reads_planOutcome (v : PlanOutcome) :
    Reads (Read.enum PlanOutcome.all "plan outcome") (Write.enum PlanOutcome.all v) True v :=
  reads_enum _ (by cases v <;> decide) (by decide)

lemma reads_explanationCode (v : ExplanationCode) :
    Reads (Read.enum ExplanationCode.all "explanation code") (Write.enum ExplanationCode.all v) True
      v :=
  reads_enum _ (by cases v <;> decide) (by decide)


lemma reads_errorCode (v : ErrorCode) : Reads decodeErrorCode (encodeErrorCode v) True v := by
  have hmem : v ∈ ErrorCode.all := by cases v <;> decide
  have hindex : ErrorCode.all.idxOf v < ErrorCode.all.length := List.idxOf_lt_length_of_mem hmem
  have hsmall : ErrorCode.all.length < 2 ^ 16 := by decide
  have hraw : (ErrorCode.all.idxOf v).toUInt16.toNat = ErrorCode.all.idxOf v := by
    change ErrorCode.all.idxOf v % 2 ^ 16 = _
    exact Nat.mod_eq_of_lt (by omega)
  have hfind : ErrorCode.all[(ErrorCode.all.idxOf v).toUInt16.toNat]? = some v := by
    rw [hraw, List.getElem?_eq_getElem hindex, List.getElem_idxOf hindex]
  have hread : Reads decodeErrorCode (encodeErrorCode v ++ []) (True ∧ True) v := by
    refine Reads.bind (reads_u16 (ErrorCode.all.idxOf v).toUInt16) ?_
    rw [hfind]
    exact Reads.pure v
  rw [List.append_nil] at hread
  exact hread.congr (by simp)

lemma reads_size {v : ℕ} (h : v < 2 ^ 64) : Reads Read.size (Write.size v) True v := by
  have hback : v.toUInt64.toNat = v := by
    rw [Nat.toUInt64_eq, UInt64.toNat_ofNat']
    exact Nat.mod_eq_of_lt h
  have hsize := (reads_u64 v.toUInt64).map UInt64.toNat
  rw [hback] at hsize
  exact hsize

end Enumerations

section Records

/-- The limits are sizes. -/
structure Limits.InRange (v : Limits) : Prop where
  maxAccelerators : v.maxAccelerators < 2 ^ 64
  maxProfiles : v.maxProfiles < 2 ^ 64
  maxPartitionsPerAccelerator : v.maxPartitionsPerAccelerator < 2 ^ 64
  maxPartitions : v.maxPartitions < 2 ^ 64
  maxAssignments : v.maxAssignments < 2 ^ 64
  maxReservations : v.maxReservations < 2 ^ 64
  maxActiveReservations : v.maxActiveReservations < 2 ^ 64
  maxPendingPlans : v.maxPendingPlans < 2 ^ 64
  maxPlanSteps : v.maxPlanSteps < 2 ^ 64
  maxPendingAttempts : v.maxPendingAttempts < 2 ^ 64
  maxAttemptHistory : v.maxAttemptHistory < 2 ^ 64
  maxSnapshotRetention : v.maxSnapshotRetention < 2 ^ 64
  maxEvents : v.maxEvents < 2 ^ 64
  maxExplanations : v.maxExplanations < 2 ^ 64
  maxReconciliationFindings : v.maxReconciliationFindings < 2 ^ 64
  maxMetadataBytes : v.maxMetadataBytes < 2 ^ 64
  maxNativeIdBytes : v.maxNativeIdBytes < 2 ^ 64
  maxNameBytes : v.maxNameBytes < 2 ^ 64
  maxWorkers : v.maxWorkers < 2 ^ 64
  maxFrameBytes : v.maxFrameBytes < 2 ^ 64
  maxMessageQueue : v.maxMessageQueue < 2 ^ 64
  maxSyntheticDevices : v.maxSyntheticDevices < 2 ^ 64
  maxSyntheticPartitions : v.maxSyntheticPartitions < 2 ^ 64
  maxPersistedRecords : v.maxPersistedRecords < 2 ^ 64
  maxProfileExclusions : v.maxProfileExclusions < 2 ^ 64
  maxRetryState : v.maxRetryState < 2 ^ 64

lemma reads_limits {v : Limits} (h : v.InRange) :
    Reads decodeLimits v.encode (v.validate = success) v := by
  apply Reads.congr
  · unfold decodeLimits Limits.encode
    apply Reads.plain (reads_size h.maxAccelerators)
    apply Reads.plain (reads_size h.maxProfiles)
    apply Reads.plain (reads_size h.maxPartitionsPerAccelerator)
    apply Reads.plain (reads_size h.maxPartitions)
    apply Reads.plain (reads_size h.maxAssignments)
    apply Reads.plain (reads_size h.maxReservations)
    apply Reads.plain (reads_size h.maxActiveReservations)
    apply Reads.plain (reads_size h.maxPendingPlans)
    apply Reads.plain (reads_size h.maxPlanSteps)
    apply Reads.plain (reads_size h.maxPendingAttempts)
    apply Reads.plain (reads_size h.maxAttemptHistory)
    apply Reads.plain (reads_size h.maxSnapshotRetention)
    apply Reads.plain (reads_size h.maxEvents)
    apply Reads.plain (reads_size h.maxExplanations)
    apply Reads.plain (reads_size h.maxReconciliationFindings)
    apply Reads.plain (reads_size h.maxMetadataBytes)
    apply Reads.plain (reads_size h.maxNativeIdBytes)
    apply Reads.plain (reads_size h.maxNameBytes)
    apply Reads.plain (reads_size h.maxWorkers)
    apply Reads.plain (reads_size h.maxFrameBytes)
    apply Reads.plain (reads_size h.maxMessageQueue)
    apply Reads.plain (reads_size h.maxSyntheticDevices)
    apply Reads.plain (reads_size h.maxSyntheticPartitions)
    apply Reads.plain (reads_size h.maxPersistedRecords)
    apply Reads.plain (reads_size h.maxProfileExclusions)
    apply Reads.plain (reads_size h.maxRetryState)
    apply Reads.lift
    intro _
    exact Reads.pure _
  · exact ⟨And.left, fun h ↦ ⟨h, trivial⟩⟩

structure DeviceSelector.Readable (v : DeviceSelector) : Prop where
  allowed : v.allowed.length ≤ 64
  excluded : v.excluded.length ≤ 64

lemma reads_selector (v : DeviceSelector) : Reads decodeDeviceSelector v.encode v.Readable v := by
  apply Reads.congr
  · unfold decodeDeviceSelector DeviceSelector.encode
    iterate 4 apply Reads.plain (reads_small _)
    iterate 2 apply Reads.field (reads_ids _ 64)
    exact Reads.pure _
  · constructor
    · rintro ⟨hallowed, hexcluded, -⟩
      exact ⟨hallowed, hexcluded⟩
    · intro h
      exact ⟨h.allowed, h.excluded, trivial⟩

structure PartitionRequest.Readable (v : PartitionRequest) : Prop where
  minimumResources : v.minimumResources.Readable
  isolation : v.isolation.required.Readable
  selector : v.selector.Readable

lemma reads_request (v : PartitionRequest) : Reads decodeRequest v.encode v.Readable v := by
  apply Reads.congr
  · unfold decodeRequest PartitionRequest.encode
    apply Reads.plain (reads_u64 _)
    apply Reads.plain (reads_u32 _)
    apply Reads.field (reads_resources _)
    apply Reads.field (reads_isolationRequirement _)
    iterate 5 apply Reads.plain (reads_boolean _)
    apply Reads.field (reads_selector _)
    apply Reads.plain (reads_small _)
    apply Reads.plain (reads_u64 _)
    apply Reads.plain (reads_small _)
    apply Reads.plain (reads_boolean _)
    apply Reads.plain (reads_small _)
    exact Reads.pure _
  · constructor
    · rintro ⟨hminimumresources, hisolation, hselector, -⟩
      exact ⟨hminimumresources, hisolation, hselector⟩
    · intro h
      exact ⟨h.minimumResources, h.isolation, h.selector, trivial⟩

lemma reads_planStep (v : PlanStep) : Reads decodePlanStep v.encode True v := by
  unfold decodePlanStep PlanStep.encode
  apply Reads.plain (reads_u32 _)
  apply Reads.plain (reads_planStepKind _)
  iterate 5 apply Reads.plain (reads_u64 _)
  apply Reads.plain (reads_u32 _)
  iterate 2 apply Reads.plain (reads_boolean _)
  apply Reads.plain (reads_u64 _)
  apply Reads.plain (reads_small _)
  exact Reads.pure _

@[mk_iff]
structure BackendNativePartition.Readable (v : BackendNativePartition) : Prop where
  resources : v.resources.Readable
  isolation : v.isolation.Readable

instance (v : BackendNativePartition) : Decidable v.Readable :=
  decidable_of_iff' _ (BackendNativePartition.readable_iff v)

lemma reads_nativePartition (v : BackendNativePartition) :
    Reads decodeNativePartition v.encode v.Readable v := by
  apply Reads.congr
  · unfold decodeNativePartition BackendNativePartition.encode
    iterate 3 apply Reads.plain (reads_small _)
    apply Reads.plain (reads_u64 _)
    apply Reads.field (reads_resources _)
    apply Reads.plain (reads_small _)
    apply Reads.field (reads_isolation _)
    apply Reads.plain (reads_boolean _)
    exact Reads.pure _
  · constructor
    · rintro ⟨hresources, hisolation, -⟩
      exact ⟨hresources, hisolation⟩
    · intro h
      exact ⟨h.resources, h.isolation, trivial⟩

lemma reads_natives (l : List BackendNativePartition) :
    Reads (Read.list 512 4 decodeNativePartition) (Write.list BackendNativePartition.encode l)
      (ListReadable 512 (·.Readable) l) l := by
  apply reads_bounded l 512 (by decide)
  · intro v
    simp [BackendNativePartition.encode]
    omega
  · exact fun v _ ↦ reads_nativePartition v

@[mk_iff]
structure BackendLayout.Readable (v : BackendLayout) : Prop where
  physicalTotals : v.physicalTotals.Readable
  partitions : ListReadable 512 (·.Readable) v.partitions

instance (v : BackendLayout) : Decidable v.Readable :=
  decidable_of_iff' _ (BackendLayout.readable_iff v)

lemma reads_layout (v : BackendLayout) : Reads decodeLayout v.encode v.Readable v := by
  apply Reads.congr
  · unfold decodeLayout BackendLayout.encode
    apply Reads.plain (reads_small _)
    apply Reads.plain (reads_boolean _)
    apply Reads.plain (reads_u64 _)
    apply Reads.field (reads_resources _)
    apply Reads.field (reads_natives _)
    apply Reads.plain (reads_evidence _)
    apply Reads.plain (reads_small _)
    exact Reads.pure _
  · constructor
    · rintro ⟨hphysicaltotals, hpartitions, -⟩
      exact ⟨hphysicaltotals, hpartitions⟩
    · intro h
      exact ⟨h.physicalTotals, h.partitions, trivial⟩

lemma reads_profiles (l : List PartitionProfile) :
    Reads (Read.list 512 8 decodeProfile) (Write.list PartitionProfile.encode l)
      (ListReadable 512 (·.Readable) l) l := by
  apply reads_bounded l 512 (by decide)
  · intro v
    simp [PartitionProfile.encode]
  · exact fun v _ ↦ reads_profile v

@[mk_iff]
structure BackendAccelerator.Readable (v : BackendAccelerator) : Prop where
  physicalTotals : v.physicalTotals.Readable
  capability : v.capability.Readable
  profiles : ListReadable 512 (·.Readable) v.profiles

instance (v : BackendAccelerator) : Decidable v.Readable :=
  decidable_of_iff' _ (BackendAccelerator.readable_iff v)

lemma reads_backendAccelerator (v : BackendAccelerator) :
    Reads decodeBackendAccelerator v.encode v.Readable v := by
  apply Reads.congr
  · unfold decodeBackendAccelerator BackendAccelerator.encode
    iterate 2 apply Reads.plain (reads_small _)
    apply Reads.plain (reads_identifiers _)
    apply Reads.field (reads_resources _)
    apply Reads.field (reads_capability _)
    apply Reads.field (reads_profiles _)
    apply Reads.plain (reads_u64 _)
    apply Reads.plain (reads_locality _)
    apply Reads.plain (reads_evidence _)
    apply Reads.plain (reads_provenance _)
    apply Reads.plain (reads_small _)
    exact Reads.pure _
  · constructor
    · rintro ⟨hphysicaltotals, hcapability, hprofiles, -⟩
      exact ⟨hphysicaltotals, hcapability, hprofiles⟩
    · intro h
      exact ⟨h.physicalTotals, h.capability, h.profiles, trivial⟩

def NativePartitionSpec.Readable (v : NativePartitionSpec) : Prop := v.resources.Readable

lemma reads_nativeSpec (v : NativePartitionSpec) :
    Reads decodeNativeSpec v.encode v.Readable v := by
  apply Reads.congr
  · unfold decodeNativeSpec NativePartitionSpec.encode
    apply Reads.plain (reads_small _)
    apply Reads.plain (reads_u64 _)
    apply Reads.field (reads_resources _)
    apply Reads.plain (reads_small _)
    apply Reads.plain (reads_u64 _)
    exact Reads.pure _
  · exact ⟨And.left, fun h ↦ ⟨h, trivial⟩⟩

lemma reads_nativeSpecs (l : List NativePartitionSpec) :
    Reads (Read.list 256 4 decodeNativeSpec) (Write.list NativePartitionSpec.encode l)
      (ListReadable 256 (·.Readable) l) l := by
  apply reads_bounded l 256 (by decide)
  · intro v
    simp [NativePartitionSpec.encode]
    omega
  · exact fun v _ ↦ reads_nativeSpec v

structure PartitionMutationRequest.Readable (v : PartitionMutationRequest) : Prop where
  desired : ListReadable 256 (·.Readable) v.desired
  removeNativeIds : v.removeNativeIds.length ≤ 256

lemma reads_mutationRequest (v : PartitionMutationRequest) :
    Reads decodeMutationRequest v.encode v.Readable v := by
  apply Reads.congr
  · unfold decodeMutationRequest PartitionMutationRequest.encode
    apply Reads.plain (reads_small _)
    iterate 8 apply Reads.plain (reads_u64 _)
    iterate 2 apply Reads.plain (reads_boolean _)
    apply Reads.field (reads_nativeSpecs _)
    apply Reads.field (reads_texts _ 256)
    exact Reads.pure _
  · constructor
    · rintro ⟨hdesired, hremovenativeids, -⟩
      exact ⟨hdesired, hremovenativeids⟩
    · intro h
      exact ⟨h.desired, h.removeNativeIds, trivial⟩

structure BackendMutationResult.Readable (v : BackendMutationResult) : Prop where
  createdNativeIds : v.createdNativeIds.length ≤ 256
  observedLayout : v.observedLayout.Readable

lemma reads_mutationResult (v : BackendMutationResult) :
    Reads decodeMutationResult v.encode v.Readable v := by
  apply Reads.congr
  · unfold decodeMutationResult BackendMutationResult.encode
    iterate 2 apply Reads.plain (reads_boolean _)
    apply Reads.field (reads_texts _ 256)
    apply Reads.plain (reads_small _)
    apply Reads.field (reads_layout _)
    exact Reads.pure _
  · constructor
    · rintro ⟨hcreatednativeids, hobservedlayout, -⟩
      exact ⟨hcreatednativeids, hobservedlayout⟩
    · intro h
      exact ⟨h.createdNativeIds, h.observedLayout, trivial⟩

lemma reads_devices (l : List BackendAccelerator) :
    Reads (Read.list 64 8 decodeBackendAccelerator) (Write.list BackendAccelerator.encode l)
      (ListReadable 64 (·.Readable) l) l := by
  apply reads_bounded l 64 (by decide)
  · intro v
    simp [BackendAccelerator.encode]
    omega
  · exact fun v _ ↦ reads_backendAccelerator v

lemma reads_layouts (l : List BackendLayout) :
    Reads (Read.list 64 8 decodeLayout) (Write.list BackendLayout.encode l)
      (ListReadable 64 (·.Readable) l) l := by
  apply reads_bounded l 64 (by decide)
  · intro v
    simp [BackendLayout.encode]
    omega
  · exact fun v _ ↦ reads_layout v

lemma reads_partitions (l : List PartitionRecord) (maxCount : ℕ) :
    Reads (Read.list maxCount 8 decodePartition) (Write.list PartitionRecord.encode l)
      (ListReadable maxCount (·.Readable) l) l := by
  apply reads_bounded l maxCount (by decide)
  · intro v
    simp [PartitionRecord.encode]
  · exact fun v _ ↦ reads_partition v

lemma reads_plannedPartitions (l : List PlannedPartition) :
    Reads (Read.list 512 8 decodePlannedPartition) (Write.list PlannedPartition.encode l)
      (ListReadable 512 (·.resources.Readable) l) l := by
  apply reads_bounded l 512 (by decide)
  · intro v
    simp [PlannedPartition.encode]
  · exact fun v _ ↦ reads_plannedPartition v

lemma reads_workers (l : List WorkerRecord) :
    Reads (Read.list 64 8 decodeWorker) (Write.list WorkerRecord.encode l)
      (l.length ≤ 64) l := by
  have hlist : Reads (Read.list 64 8 decodeWorker) (Write.list WorkerRecord.encode l)
      (ListReadable 64 (fun _ ↦ True) l) l := by
    apply reads_bounded l 64 (by decide)
    · intro v
      simp [WorkerRecord.encode]
    · exact fun v _ ↦ reads_worker v
  exact hlist.congr (by simp [ListReadable])

lemma reads_planSteps (l : List PlanStep) :
    Reads (Read.list 512 8 decodePlanStep) (Write.list PlanStep.encode l)
      (l.length ≤ 512) l := by
  have hlist : Reads (Read.list 512 8 decodePlanStep) (Write.list PlanStep.encode l)
      (ListReadable 512 (fun _ ↦ True) l) l := by
    apply reads_bounded l 512 (by decide)
    · intro v
      simp [PlanStep.encode]
      omega
    · exact fun v _ ↦ reads_planStep v
  exact hlist.congr (by simp [ListReadable])


end Records

section Candidates

/-- Neither the fragmentation report nor the summary is written, and factors are numbered again. -/
def CandidateReport.received (v : CandidateReport) : CandidateReport :=
  { v with
    fragmentation := {}
    fragmentationExplanation := {}
    explanation := v.explanation.factors.foldl Explanation.add {} }

@[mk_iff]
structure ScoreTermReport.InRange (v : ScoreTermReport) : Prop where
  weight : Fits64 v.weight
  raw : Fits64 v.raw
  contribution : Fits64 v.contribution

instance (v : ScoreTermReport) : Decidable v.InRange :=
  decidable_of_iff' _ (ScoreTermReport.inRange_iff v)

/-- The scores and magnitudes of a candidate are signed 64-bit numbers. -/
@[mk_iff]
structure CandidateReport.InRange (v : CandidateReport) : Prop where
  total : Fits64 v.total
  terms : ∀ term ∈ v.terms, term.InRange
  factors : ∀ factor ∈ v.explanation.factors, Fits64 factor.magnitude

instance (v : CandidateReport) : Decidable v.InRange :=
  decidable_of_iff' _ (CandidateReport.inRange_iff v)

@[mk_iff]
structure CandidateReport.Readable (v : CandidateReport) : Prop where
  terms : v.terms.length ≤ 64
  factors : v.explanation.factors.length ≤ 128

instance (v : CandidateReport) : Decidable v.Readable :=
  decidable_of_iff' _ (CandidateReport.readable_iff v)

lemma reads_planScoreTerm {v : ScoreTermReport} (h : v.InRange) :
    Reads decodePlanScoreTerm v.encode True v := by
  unfold decodePlanScoreTerm ScoreTermReport.encode
  apply Reads.plain (reads_explanationCode _)
  apply Reads.plain (reads_small _)
  apply Reads.plain (reads_i64 h.weight)
  apply Reads.plain (reads_i64 h.raw)
  apply Reads.plain (reads_i64 h.contribution)
  exact Reads.pure _

lemma reads_terms {l : List ScoreTermReport} (h : ∀ term ∈ l, term.InRange) :
    Reads (Read.list 64 8 decodePlanScoreTerm) (Write.list ScoreTermReport.encode l)
      (ListReadable 64 (fun _ ↦ True) l) l := by
  apply reads_bounded l 64 (by decide)
  · intro v
    simp [ScoreTermReport.encode]
    omega
  · exact fun v hv ↦ reads_planScoreTerm (h v hv)

/-- A factor without its number. -/
def ExplanationFactor.unnumbered (v : ExplanationFactor) : ExplanationFactor :=
  { v with sequence := 0 }

lemma reads_factor {v : ExplanationFactor} (h : Fits64 v.magnitude) :
    Reads decodeFactor v.encode True v.unnumbered := by
  unfold decodeFactor ExplanationFactor.encode
  apply Reads.plain (reads_explanationCode _)
  apply Reads.plain (reads_small _)
  apply Reads.plain (reads_text_within _ le_rfl)
  apply Reads.plain (reads_i64 h)
  exact Reads.pure _

lemma Explanation.foldl_add_unnumbered (l : List ExplanationFactor) (e : Explanation) :
    (l.map ExplanationFactor.unnumbered).foldl Explanation.add e = l.foldl Explanation.add e := by
  rw [List.foldl_map]
  rfl

lemma reads_factors {l : List ExplanationFactor} (h : ∀ factor ∈ l, Fits64 factor.magnitude) :
    Reads decodeFactors (Write.list ExplanationFactor.encode l) (l.length ≤ 128)
      (l.map ExplanationFactor.unnumbered) := by
  have hone : ∀ factor ∈ l, 1 ≤ factor.encode.content.length := by
    intro factor _
    exact le_content_flatten _ (by simp)
  have hlong := length_le_content hone
  rw [mul_one] at hlong
  have hbody : Reads (decodeFactorsOf l.length) (l.flatMap ExplanationFactor.encode)
      (l.length ≤ 128) (l.map ExplanationFactor.unnumbered) := by
    have htimes := Wire.reads_times_map fun factor hfactor ↦ reads_factor (h factor hfactor)
    apply Reads.congr (Reads.check _ htimes)
    simp
  exact reads_length hlong fun _ ↦ hbody

lemma reads_candidate {v : CandidateReport} (h : v.InRange) :
    Reads decodeCandidate v.encode v.Readable v.received := by
  apply Reads.congr
  · unfold decodeCandidate CandidateReport.encode
    iterate 2 apply Reads.plain (reads_u64 _)
    apply Reads.plain (reads_boolean _)
    apply Reads.plain (reads_planOutcome _)
    apply Reads.plain (reads_i64 h.total)
    apply Reads.field (reads_terms h.terms)
    apply Reads.field (reads_factors h.factors)
    rw [Explanation.foldl_add_unnumbered]
    exact Reads.pure _
  · constructor
    · rintro ⟨hterms, hfactors, -⟩
      exact ⟨hterms.1, hfactors⟩
    · intro h
      exact ⟨⟨h.terms, fun _ _ ↦ trivial⟩, h.factors, trivial⟩

lemma reads_candidates {l : List CandidateReport} (h : ∀ candidate ∈ l, candidate.InRange) :
    Reads (Read.list 64 8 decodeCandidate) (Write.list CandidateReport.encode l)
      (ListReadable 64 (·.Readable) l) (l.map CandidateReport.received) := by
  apply reads_list_map 64 (by decide)
  · intro v _
    exact le_content_flatten _ (by simp)
  · exact fun v hv ↦ reads_candidate (h v hv)

/-- Factors numbered from a position on. -/
def numberFrom : ℕ → List ExplanationFactor → List ExplanationFactor
  | _, [] => []
  | k, factor :: rest => { factor with sequence := k.toUInt32 } :: numberFrom (k + 1) rest

lemma Explanation.foldl_add (l : List ExplanationFactor) (e : Explanation) :
    l.foldl Explanation.add e =
      { e with factors := e.factors ++ numberFrom e.factors.length l } := by
  induction l generalizing e with
  | nil => simp [numberFrom]
  | cons factor rest ih =>
      rw [List.foldl_cons, ih]
      simp [Explanation.add, numberFrom]

/-- A candidate that carries only what is written: no fragmentation report, no summary, and
factors numbered by their position. -/
structure CandidateReport.Bare (v : CandidateReport) : Prop where
  fragmentation : v.fragmentation = {}
  fragmentationExplanation : v.fragmentationExplanation = {}
  summary : v.explanation.summary = []
  numbered : numberFrom 0 v.explanation.factors = v.explanation.factors

lemma CandidateReport.received_eq_iff (v : CandidateReport) : v.received = v ↔ v.Bare := by
  have hadd : v.explanation.factors.foldl Explanation.add {} =
      { factors := numberFrom 0 v.explanation.factors } := by
    rw [Explanation.foldl_add]
    rfl
  rw [received, hadd]
  constructor
  · intro h
    have hexplanation := congrArg CandidateReport.explanation h
    exact ⟨(congrArg CandidateReport.fragmentation h).symm,
      (congrArg CandidateReport.fragmentationExplanation h).symm,
      (congrArg Explanation.summary hexplanation).symm,
      congrArg Explanation.factors hexplanation⟩
  · intro h
    have hexplanation : ({ factors := numberFrom 0 v.explanation.factors } : Explanation) =
        v.explanation := by
      rw [h.numbered, ← h.summary]
    rw [hexplanation, ← h.fragmentation, ← h.fragmentationExplanation]

end Candidates

section Messages

lemma reads_rejected (l : List Text) (maxLen maxCount : ℕ) :
    Reads (Read.list maxCount 4 Read.small) (Write.list (Write.text · maxLen) l)
      (ListReadable maxCount (·.length ≤ 256) l) l := by
  apply reads_bounded l maxCount (by decide)
  · intro v
    simp
  · exact fun v _ ↦ reads_text v maxLen 256

structure HelloMessage.Readable (v : HelloMessage) : Prop where
  backend : v.backend.length ≤ 256
  agentVersion : v.agentVersion.length ≤ 64
  instanceName : v.instanceName.length ≤ 256

lemma reads_helloMessage (limits : Limits) (v : HelloMessage) :
    Reads decodeHello (v.encodePayload limits) v.Readable v := by
  apply Reads.congr
  · unfold decodeHello HelloMessage.encodePayload
    apply Reads.plain (reads_u16 _)
    iterate 3 apply Reads.plain (reads_u64 _)
    apply Reads.field (reads_text _ limits.maxMetadataBytes 256)
    apply Reads.field (reads_text _ limits.maxMetadataBytes 64)
    apply Reads.field (reads_text _ limits.maxMetadataBytes 256)
    exact Reads.pure _
  · constructor
    · rintro ⟨hbackend, hagentversion, hinstancename, -⟩
      exact ⟨hbackend, hagentversion, hinstancename⟩
    · intro h
      exact ⟨h.backend, h.agentVersion, h.instanceName, trivial⟩

structure HelloAckMessage.Readable (v : HelloAckMessage) : Prop where
  limits : v.limits.validate = success
  reason : v.reason.length ≤ 256

lemma reads_helloAckMessage (limits : Limits) {v : HelloAckMessage} (h : v.limits.InRange) :
    Reads decodeHelloAck (v.encodePayload limits) v.Readable v := by
  apply Reads.congr
  · unfold decodeHelloAck HelloAckMessage.encodePayload
    apply Reads.plain (reads_boolean _)
    iterate 3 apply Reads.plain (reads_u64 _)
    apply Reads.field (reads_limits h)
    apply Reads.field (reads_text _ limits.maxMetadataBytes 256)
    exact Reads.pure _
  · constructor
    · rintro ⟨hlimits, hreason, -⟩
      exact ⟨hlimits, hreason⟩
    · intro h
      exact ⟨h.limits, h.reason, trivial⟩

def RegisterWorkerMessage.Readable (v : RegisterWorkerMessage) : Prop :=
  ListReadable 64 (·.Readable) v.devices

lemma reads_registerWorkerMessage (limits : Limits) (v : RegisterWorkerMessage) :
    Reads decodeRegisterWorker (v.encodePayload limits) v.Readable v := by
  apply Reads.congr
  · unfold decodeRegisterWorker RegisterWorkerMessage.encodePayload
    apply Reads.plain (reads_worker _)
    apply Reads.field (reads_devices _)
    apply Reads.plain (reads_u64 _)
    exact Reads.pure _
  · exact ⟨And.left, fun h ↦ ⟨h, trivial⟩⟩

structure RegisterAckMessage.Readable (v : RegisterAckMessage) : Prop where
  registeredAccelerators : v.registeredAccelerators.length ≤ 64
  rejectedDevices : ListReadable 64 (·.length ≤ 256) v.rejectedDevices
  reason : v.reason.length ≤ 256

lemma reads_registerAckMessage (limits : Limits) (v : RegisterAckMessage) :
    Reads decodeRegisterAck (v.encodePayload limits) v.Readable v := by
  apply Reads.congr
  · unfold decodeRegisterAck RegisterAckMessage.encodePayload
    apply Reads.plain (reads_boolean _)
    apply Reads.plain (reads_u64 _)
    apply Reads.field (reads_ids _ 64)
    apply Reads.field (reads_rejected _ limits.maxMetadataBytes 64)
    apply Reads.field (reads_text _ limits.maxMetadataBytes 256)
    exact Reads.pure _
  · constructor
    · rintro ⟨hregisteredaccelerators, hrejecteddevices, hreason, -⟩
      exact ⟨hregisteredaccelerators, hrejecteddevices, hreason⟩
    · intro h
      exact ⟨h.registeredAccelerators, h.rejectedDevices, h.reason, trivial⟩

structure EvidencePublishMessage.Readable (v : EvidencePublishMessage) : Prop where
  devices : ListReadable 64 (·.Readable) v.devices
  layouts : ListReadable 64 (·.Readable) v.layouts

lemma reads_evidencePublishMessage (limits : Limits) (v : EvidencePublishMessage) :
    Reads decodeEvidencePublish (v.encodePayload limits) v.Readable v := by
  apply Reads.congr
  · unfold decodeEvidencePublish EvidencePublishMessage.encodePayload
    apply Reads.field (reads_devices _)
    apply Reads.field (reads_layouts _)
    apply Reads.plain (reads_u64 _)
    apply Reads.plain (reads_boolean _)
    exact Reads.pure _
  · constructor
    · rintro ⟨hdevices, hlayouts, -⟩
      exact ⟨hdevices, hlayouts⟩
    · intro h
      exact ⟨h.devices, h.layouts, trivial⟩

structure EvidenceAckMessage.Readable (v : EvidenceAckMessage) : Prop where
  accelerators : v.accelerators.length ≤ 64
  revalidatedPartitions : v.revalidatedPartitions.length ≤ 256
  reason : v.reason.length ≤ 256

lemma reads_evidenceAckMessage (limits : Limits) (v : EvidenceAckMessage) :
    Reads decodeEvidenceAck (v.encodePayload limits) v.Readable v := by
  apply Reads.congr
  · unfold decodeEvidenceAck EvidenceAckMessage.encodePayload
    apply Reads.plain (reads_boolean _)
    apply Reads.field (reads_ids _ 64)
    apply Reads.field (reads_ids _ 256)
    apply Reads.field (reads_text _ limits.maxMetadataBytes 256)
    exact Reads.pure _
  · constructor
    · rintro ⟨haccelerators, hrevalidatedpartitions, hreason, -⟩
      exact ⟨haccelerators, hrevalidatedpartitions, hreason⟩
    · intro h
      exact ⟨h.accelerators, h.revalidatedPartitions, h.reason, trivial⟩

def MutationRequestMessage.Readable (v : MutationRequestMessage) : Prop := v.request.Readable

lemma reads_mutationRequestMessage (limits : Limits) (v : MutationRequestMessage) :
    Reads decodeMutationRequestMessage (v.encodePayload limits) v.Readable v := by
  apply Reads.congr
  · unfold decodeMutationRequestMessage MutationRequestMessage.encodePayload
    iterate 2 apply Reads.plain (reads_u64 _)
    apply Reads.plain (reads_attemptKind _)
    apply Reads.field (reads_mutationRequest _)
    exact Reads.pure _
  · exact ⟨And.left, fun h ↦ ⟨h, trivial⟩⟩

def MutationResultMessage.Readable (v : MutationResultMessage) : Prop := v.result.Readable

lemma reads_mutationResultMessage (limits : Limits) (v : MutationResultMessage) :
    Reads decodeMutationResultMessage (v.encodePayload limits) v.Readable v := by
  apply Reads.congr
  · unfold decodeMutationResultMessage MutationResultMessage.encodePayload
    iterate 2 apply Reads.plain (reads_u64 _)
    apply Reads.field (reads_mutationResult _)
    exact Reads.pure _
  · exact ⟨And.left, fun h ↦ ⟨h, trivial⟩⟩

def QueryRequestMessage.Readable (v : QueryRequestMessage) : Prop := v.key.length ≤ 256

lemma reads_queryRequestMessage (limits : Limits) (v : QueryRequestMessage) :
    Reads decodeQueryRequest (v.encodePayload limits) v.Readable v := by
  apply Reads.congr
  · unfold decodeQueryRequest QueryRequestMessage.encodePayload
    apply Reads.plain (reads_queryKind _)
    apply Reads.field (reads_text _ limits.maxMetadataBytes 256)
    iterate 2 apply Reads.plain (reads_u64 _)
    apply Reads.plain (reads_boolean _)
    exact Reads.pure _
  · exact ⟨And.left, fun h ↦ ⟨h, trivial⟩⟩

structure QueryResponseMessage.Readable (v : QueryResponseMessage) : Prop where
  detail : v.detail.length ≤ 512
  devices : ListReadable 64 (·.Readable) v.devices
  layout : v.layout.Readable
  attempt : v.attempt.Readable
  partitions : ListReadable 256 (·.Readable) v.partitions
  workers : v.workers.length ≤ 64

lemma reads_queryResponseMessage (limits : Limits) (v : QueryResponseMessage) :
    Reads decodeQueryResponse (v.encodePayload limits) v.Readable v := by
  apply Reads.congr
  · unfold decodeQueryResponse QueryResponseMessage.encodePayload
    apply Reads.plain (reads_queryKind _)
    apply Reads.plain (reads_boolean _)
    apply Reads.field (reads_text _ limits.maxMetadataBytes 512)
    apply Reads.field (reads_devices _)
    apply Reads.field (reads_layout _)
    apply Reads.field (reads_attempt _)
    apply Reads.field (reads_partitions _ 256)
    apply Reads.field (reads_workers _)
    apply Reads.plain (reads_text_within _ (le_refl 262144))
    exact Reads.pure _
  · constructor
    · rintro ⟨hdetail, hdevices, hlayout, hattempt, hpartitions, hworkers, -⟩
      exact ⟨hdetail, hdevices, hlayout, hattempt, hpartitions, hworkers⟩
    · intro h
      exact ⟨h.detail, h.devices, h.layout, h.attempt, h.partitions, h.workers, trivial⟩

def FenceMessage.Readable (v : FenceMessage) : Prop := v.reason.length ≤ 256

lemma reads_fenceMessage (limits : Limits) (v : FenceMessage) :
    Reads decodeFence (v.encodePayload limits) v.Readable v := by
  apply Reads.congr
  · unfold decodeFence FenceMessage.encodePayload
    iterate 3 apply Reads.plain (reads_u64 _)
    apply Reads.field (reads_text _ limits.maxMetadataBytes 256)
    exact Reads.pure _
  · exact ⟨And.left, fun h ↦ ⟨h, trivial⟩⟩

def FenceAckMessage.Readable (v : FenceAckMessage) : Prop := v.reason.length ≤ 256

lemma reads_fenceAckMessage (limits : Limits) (v : FenceAckMessage) :
    Reads decodeFenceAck (v.encodePayload limits) v.Readable v := by
  apply Reads.congr
  · unfold decodeFenceAck FenceAckMessage.encodePayload
    apply Reads.plain (reads_boolean _)
    apply Reads.field (reads_text _ limits.maxMetadataBytes 256)
    exact Reads.pure _
  · exact ⟨And.left, fun h ↦ ⟨h, trivial⟩⟩

lemma reads_heartbeatMessage (limits : Limits) (v : HeartbeatMessage) :
    Reads decodeHeartbeat (v.encodePayload limits) True v := by
  unfold decodeHeartbeat HeartbeatMessage.encodePayload
  iterate 2 apply Reads.plain (reads_u64 _)
  exact Reads.pure _

lemma reads_heartbeatAckMessage (limits : Limits) (v : HeartbeatAckMessage) :
    Reads decodeHeartbeatAck (v.encodePayload limits) True v := by
  unfold decodeHeartbeatAck HeartbeatAckMessage.encodePayload
  iterate 3 apply Reads.plain (reads_u64 _)
  exact Reads.pure _

def ShutdownMessage.Readable (v : ShutdownMessage) : Prop := v.reason.length ≤ 256

lemma reads_shutdownMessage (limits : Limits) (v : ShutdownMessage) :
    Reads decodeShutdown (v.encodePayload limits) v.Readable v := by
  apply Reads.congr
  · unfold decodeShutdown ShutdownMessage.encodePayload
    apply Reads.field (reads_text _ limits.maxMetadataBytes 256)
    apply Reads.plain (reads_boolean _)
    exact Reads.pure _
  · exact ⟨And.left, fun h ↦ ⟨h, trivial⟩⟩

structure ErrorResponseMessage.Readable (v : ErrorResponseMessage) : Prop where
  message : v.message.length ≤ 256
  detail : v.detail.length ≤ 512

lemma reads_errorResponseMessage (limits : Limits) (v : ErrorResponseMessage) :
    Reads decodeErrorResponse (v.encodePayload limits) v.Readable v := by
  apply Reads.congr
  · unfold decodeErrorResponse ErrorResponseMessage.encodePayload
    apply Reads.plain (reads_errorCode _)
    apply Reads.field (reads_text _ limits.maxMetadataBytes 256)
    apply Reads.field (reads_text _ limits.maxMetadataBytes 512)
    apply Reads.plain (reads_u64 _)
    exact Reads.pure _
  · constructor
    · rintro ⟨hmessage, hdetail, -⟩
      exact ⟨hmessage, hdetail⟩
    · intro h
      exact ⟨h.message, h.detail, trivial⟩

def ReconcileRequestMessage.Readable (v : ReconcileRequestMessage) : Prop :=
  v.stableKey.length ≤ 256

lemma reads_reconcileRequestMessage (limits : Limits) (v : ReconcileRequestMessage) :
    Reads decodeReconcileRequest (v.encodePayload limits) v.Readable v := by
  apply Reads.congr
  · unfold decodeReconcileRequest ReconcileRequestMessage.encodePayload
    apply Reads.field (reads_text _ limits.maxMetadataBytes 256)
    apply Reads.plain (reads_boolean _)
    exact Reads.pure _
  · exact ⟨And.left, fun h ↦ ⟨h, trivial⟩⟩

def ReconcileResponseMessage.Readable (v : ReconcileResponseMessage) : Prop := v.reason.length ≤ 256

lemma reads_reconcileResponseMessage (limits : Limits) (v : ReconcileResponseMessage) :
    Reads decodeReconcileResponse (v.encodePayload limits) v.Readable v := by
  apply Reads.congr
  · unfold decodeReconcileResponse ReconcileResponseMessage.encodePayload
    apply Reads.plain (reads_boolean _)
    apply Reads.plain (reads_text_within _ (le_refl 2048))
    iterate 4 apply Reads.plain (reads_u32 _)
    apply Reads.plain (reads_boolean _)
    apply Reads.field (reads_text _ limits.maxMetadataBytes 256)
    exact Reads.pure _
  · exact ⟨And.left, fun h ↦ ⟨h, trivial⟩⟩

def AdminRequestMessage.Readable (v : AdminRequestMessage) : Prop := v.reason.length ≤ 256

lemma reads_adminRequestMessage (limits : Limits) (v : AdminRequestMessage) :
    Reads decodeAdminRequest (v.encodePayload limits) v.Readable v := by
  apply Reads.congr
  · unfold decodeAdminRequest AdminRequestMessage.encodePayload
    apply Reads.plain (reads_adminAction _)
    iterate 5 apply Reads.plain (reads_u64 _)
    apply Reads.field (reads_text _ limits.maxMetadataBytes 256)
    apply Reads.plain (reads_boolean _)
    exact Reads.pure _
  · exact ⟨And.left, fun h ↦ ⟨h, trivial⟩⟩

structure AdminResponseMessage.Readable (v : AdminResponseMessage) : Prop where
  message : v.message.length ≤ 256
  detail : v.detail.length ≤ 512

lemma reads_adminResponseMessage (limits : Limits) (v : AdminResponseMessage) :
    Reads decodeAdminResponse (v.encodePayload limits) v.Readable v := by
  apply Reads.congr
  · unfold decodeAdminResponse AdminResponseMessage.encodePayload
    apply Reads.plain (reads_boolean _)
    apply Reads.plain (reads_errorCode _)
    apply Reads.field (reads_text _ limits.maxMetadataBytes 256)
    apply Reads.field (reads_text _ limits.maxMetadataBytes 512)
    exact Reads.pure _
  · constructor
    · rintro ⟨hmessage, hdetail, -⟩
      exact ⟨hmessage, hdetail⟩
    · intro h
      exact ⟨h.message, h.detail, trivial⟩

structure CommandRequestMessage.Readable (v : CommandRequestMessage) : Prop where
  request : v.request.Readable
  stableKey : v.stableKey.length ≤ 256
  reason : v.reason.length ≤ 512

lemma reads_commandRequestMessage (limits : Limits) (v : CommandRequestMessage) :
    Reads decodeCommandRequest (v.encodePayload limits) v.Readable v := by
  apply Reads.congr
  · unfold decodeCommandRequest CommandRequestMessage.encodePayload
    apply Reads.plain (reads_commandKind _)
    apply Reads.field (reads_request _)
    iterate 6 apply Reads.plain (reads_u64 _)
    apply Reads.field (reads_text _ limits.maxMetadataBytes 256)
    apply Reads.field (reads_text _ limits.maxMetadataBytes 512)
    apply Reads.plain (reads_boolean _)
    exact Reads.pure _
  · constructor
    · rintro ⟨hrequest, hstablekey, hreason, -⟩
      exact ⟨hrequest, hstablekey, hreason⟩
    · intro h
      exact ⟨h.request, h.stableKey, h.reason, trivial⟩

@[mk_iff]
structure CommandResponseMessage.Readable (v : CommandResponseMessage) : Prop where
  message : v.message.length ≤ 256
  planSteps : v.planSteps.length ≤ 512
  plannedPartitions : ListReadable 512 (·.resources.Readable) v.plannedPartitions
  candidates : ListReadable 64 (·.Readable) v.candidates
  partitions : v.partitions.length ≤ 512
  generations : v.generations.length ≤ 512
  layout : v.layout.Readable
  devices : ListReadable 64 (·.Readable) v.devices
  workers : v.workers.length ≤ 64
  partitionRecords : ListReadable 512 (·.Readable) v.partitionRecords

instance (v : CommandResponseMessage) : Decidable v.Readable :=
  decidable_of_iff' _ (CommandResponseMessage.readable_iff v)

def CommandResponseMessage.received (v : CommandResponseMessage) : CommandResponseMessage :=
  { v with candidates := v.candidates.map CandidateReport.received }

lemma reads_commandResponseMessage (limits : Limits) {v : CommandResponseMessage}
    (h : ∀ candidate ∈ v.candidates, candidate.InRange) :
    Reads decodeCommandResponse (v.encodePayload limits) v.Readable v.received := by
  apply Reads.congr
  · unfold decodeCommandResponse CommandResponseMessage.encodePayload
    apply Reads.plain (reads_boolean _)
    apply Reads.plain (reads_errorCode _)
    apply Reads.field (reads_text _ limits.maxMetadataBytes 256)
    apply Reads.plain (reads_text_within _ (le_refl 4096))
    iterate 2 apply Reads.plain (reads_u64 _)
    apply Reads.plain (reads_planOutcome _)
    apply Reads.field (reads_planSteps _)
    apply Reads.field (reads_plannedPartitions _)
    apply Reads.field (reads_candidates h)
    apply Reads.plain (reads_u64 _)
    apply Reads.plain (reads_lifecycle _)
    apply Reads.plain (reads_u64 _)
    apply Reads.plain (reads_attemptState _)
    iterate 2 apply Reads.plain (reads_boolean _)
    iterate 2 apply Reads.field (reads_ids _ 512)
    iterate 4 apply Reads.plain (reads_u32 _)
    apply Reads.plain (reads_boolean _)
    iterate 2 apply Reads.plain (reads_u64 _)
    apply Reads.field (reads_layout _)
    apply Reads.field (reads_devices _)
    apply Reads.field (reads_workers _)
    apply Reads.field (reads_partitions _ 512)
    apply Reads.plain (reads_text_within _ (le_refl 262144))
    exact Reads.pure _
  · constructor
    · rintro ⟨hmessage, hplansteps, hplannedpartitions, hcandidates, hpartitions, hgenerations,
      hlayout, hdevices, hworkers, hpartitionrecords, -⟩
      exact ⟨hmessage, hplansteps, hplannedpartitions, hcandidates, hpartitions, hgenerations,
        hlayout, hdevices, hworkers, hpartitionrecords⟩
    · intro h
      exact ⟨h.message, h.planSteps, h.plannedPartitions, h.candidates, h.partitions,
        h.generations, h.layout, h.devices, h.workers, h.partitionRecords, trivial⟩

end Messages

end PartitionFabric
