import PartitionFabric.Codec.Payload

/-!
Which messages survive being packed and unpacked.

Packing drops the writer's failure and ships what was written before it; the reader bounds texts
and lists by numbers of its own. A message is unpacked as itself exactly when both admit it and it
carries nothing that its encoder leaves out.
-/

namespace PartitionFabric

open Wire (Reads)

section Texts

/-- Texts with the bound that the writer enforces on them. -/
def bounded (maxLen : ℕ) (l : List Text) : List (ℕ × Text) := l.map fun t ↦ (maxLen, t)

/-- Every text is one that the writer accepts. -/
def AllWithin (l : List (ℕ × Text)) : Prop := ∀ p ∈ l, Writable p.1 p.2

instance (l : List (ℕ × Text)) : Decidable (AllWithin l) :=
  inferInstanceAs (Decidable (∀ p ∈ l, Writable p.1 p.2))

@[simp] lemma allWithin_nil : AllWithin [] := by simp [AllWithin]

@[simp] lemma allWithin_append (l l' : List (ℕ × Text)) :
    AllWithin (l ++ l') ↔ AllWithin l ∧ AllWithin l' :=
  List.forall_mem_append

@[simp] lemma allWithin_bounded (maxLen : ℕ) (l : List Text) :
    AllWithin (bounded maxLen l) ↔ AllWritable maxLen l :=
  List.forall_mem_map

@[simp] lemma accepted_u16 (v : UInt16) : Accepted (Write.u16 v) := by
  simp [Accepted, Write.u16]; rfl

def DeviceSelector.texts (v : DeviceSelector) : List Text :=
  [v.backend, v.vendor, v.deviceFamily, v.localityDomain]

@[simp] lemma accepted_selector (v : DeviceSelector) :
    Accepted v.encode ↔ AllWritable 256 v.texts := by
  simp [DeviceSelector.encode, DeviceSelector.texts]

def PartitionRequest.texts (v : PartitionRequest) : List Text :=
  v.selector.texts ++ [v.policyClass, v.requester, v.requestTag]

@[simp] lemma accepted_request (v : PartitionRequest) :
    Accepted v.encode ↔ AllWritable 256 v.texts := by
  simp [PartitionRequest.encode, PartitionRequest.texts, IsolationRequirement.encode]

def BackendNativePartition.texts (v : BackendNativePartition) : List Text :=
  [v.nativeId, v.instanceUuid, v.vendorNativeProfile, v.isolationDomain]

@[simp] lemma accepted_nativePartition (v : BackendNativePartition) :
    Accepted v.encode ↔ AllWritable 256 v.texts := by
  simp [BackendNativePartition.encode, BackendNativePartition.texts]

def BackendLayout.texts (v : BackendLayout) : List Text :=
  [v.stableKey] ++ v.partitions.flatMap BackendNativePartition.texts ++
    [v.evidence.source, v.detail]

@[simp] lemma accepted_layout (v : BackendLayout) :
    Accepted v.encode ↔ AllWritable 256 v.texts := by
  simp [BackendLayout.encode, BackendLayout.texts]

def BackendAccelerator.texts (v : BackendAccelerator) : List Text :=
  [v.stableKey, v.backend] ++ v.identifiers.texts ++ v.capability.texts ++
    v.profiles.flatMap PartitionProfile.texts ++
    [v.locality.name, v.evidence.source, v.unsupportedReason]

@[simp] lemma accepted_backendAccelerator (v : BackendAccelerator) :
    Accepted v.encode ↔ AllWritable 256 v.texts := by
  simp [BackendAccelerator.encode, BackendAccelerator.texts, DeviceIdentifiers.encode,
    DeviceIdentifiers.texts, LocalityDomain.encode]

def NativePartitionSpec.texts (v : NativePartitionSpec) : List Text :=
  [v.vendorNativeProfile, v.existingNativeId]

@[simp] lemma accepted_nativeSpec (v : NativePartitionSpec) :
    Accepted v.encode ↔ AllWritable 256 v.texts := by
  simp [NativePartitionSpec.encode, NativePartitionSpec.texts]

def PartitionMutationRequest.texts (v : PartitionMutationRequest) : List Text :=
  [v.stableKey] ++ v.desired.flatMap NativePartitionSpec.texts ++ v.removeNativeIds

@[simp] lemma accepted_mutationRequest (v : PartitionMutationRequest) :
    Accepted v.encode ↔ AllWritable 256 v.texts := by
  simp [PartitionMutationRequest.encode, PartitionMutationRequest.texts]

def BackendMutationResult.texts (v : BackendMutationResult) : List Text :=
  v.createdNativeIds ++ [v.detail] ++ v.observedLayout.texts

@[simp] lemma accepted_mutationResult (v : BackendMutationResult) :
    Accepted v.encode ↔ AllWritable 256 v.texts := by
  simp [BackendMutationResult.encode, BackendMutationResult.texts]

@[simp] lemma accepted_planStep (v : PlanStep) : Accepted v.encode ↔ Writable 256 v.detail := by
  simp [PlanStep.encode]

@[simp] lemma accepted_plannedPartition (v : PlannedPartition) :
    Accepted v.encode ↔ Writable 256 v.vendorNativeProfile := by
  simp [PlannedPartition.encode]

def CandidateReport.texts (v : CandidateReport) : List Text :=
  v.terms.map (·.subject) ++ v.explanation.factors.map ExplanationFactor.subject

/-- The texts of a candidate with the larger bound. -/
def CandidateReport.details (v : CandidateReport) : List Text :=
  v.explanation.factors.map ExplanationFactor.detail

@[simp] lemma accepted_candidate (v : CandidateReport) :
    Accepted v.encode ↔
      AllWritable 256 v.texts ∧ AllWritable largeText v.details := by
  simp [CandidateReport.encode, CandidateReport.texts, CandidateReport.details,
    ScoreTermReport.encode, ExplanationFactor.encode, forall_and, and_assoc]

@[simp] lemma accepted_limits (v : Limits) : Accepted v.encode := by
  simp [Limits.encode, Write.size]

@[simp] lemma accepted_errorCode (v : ErrorCode) : Accepted (encodeErrorCode v) := accepted_u16 _

def HelloMessage.texts (limits : Limits) (v : HelloMessage) : List (ℕ × Text) :=
  bounded limits.maxMetadataBytes [v.backend, v.agentVersion, v.instanceName]

lemma accepted_helloMessage (limits : Limits) (v : HelloMessage) :
    Accepted (v.encodePayload limits) ↔ AllWithin (v.texts limits) := by
  simp [HelloMessage.encodePayload, HelloMessage.texts]

def HelloAckMessage.texts (limits : Limits) (v : HelloAckMessage) : List (ℕ × Text) :=
  bounded limits.maxMetadataBytes [v.reason]

lemma accepted_helloAckMessage (limits : Limits) (v : HelloAckMessage) :
    Accepted (v.encodePayload limits) ↔ AllWithin (v.texts limits) := by
  simp [HelloAckMessage.encodePayload, HelloAckMessage.texts]

def RegisterWorkerMessage.texts (_ : Limits) (v : RegisterWorkerMessage) : List (ℕ × Text) :=
  bounded 256 (v.worker.texts ++ v.devices.flatMap BackendAccelerator.texts)

lemma accepted_registerWorkerMessage (limits : Limits) (v : RegisterWorkerMessage) :
    Accepted (v.encodePayload limits) ↔ AllWithin (v.texts limits) := by
  simp [RegisterWorkerMessage.encodePayload, RegisterWorkerMessage.texts]

def RegisterAckMessage.texts (limits : Limits) (v : RegisterAckMessage) : List (ℕ × Text) :=
  bounded limits.maxMetadataBytes (v.rejectedDevices ++ [v.reason])

lemma accepted_registerAckMessage (limits : Limits) (v : RegisterAckMessage) :
    Accepted (v.encodePayload limits) ↔ AllWithin (v.texts limits) := by
  simp [RegisterAckMessage.encodePayload, RegisterAckMessage.texts]

def EvidencePublishMessage.texts (_ : Limits) (v : EvidencePublishMessage) : List (ℕ × Text) :=
  bounded 256 (v.devices.flatMap BackendAccelerator.texts ++ v.layouts.flatMap BackendLayout.texts)

lemma accepted_evidencePublishMessage (limits : Limits) (v : EvidencePublishMessage) :
    Accepted (v.encodePayload limits) ↔ AllWithin (v.texts limits) := by
  simp [EvidencePublishMessage.encodePayload, EvidencePublishMessage.texts]

def EvidenceAckMessage.texts (limits : Limits) (v : EvidenceAckMessage) : List (ℕ × Text) :=
  bounded limits.maxMetadataBytes [v.reason]

lemma accepted_evidenceAckMessage (limits : Limits) (v : EvidenceAckMessage) :
    Accepted (v.encodePayload limits) ↔ AllWithin (v.texts limits) := by
  simp [EvidenceAckMessage.encodePayload, EvidenceAckMessage.texts]

def MutationRequestMessage.texts (_ : Limits) (v : MutationRequestMessage) : List (ℕ × Text) :=
  bounded 256 v.request.texts

lemma accepted_mutationRequestMessage (limits : Limits) (v : MutationRequestMessage) :
    Accepted (v.encodePayload limits) ↔ AllWithin (v.texts limits) := by
  simp [MutationRequestMessage.encodePayload, MutationRequestMessage.texts]

def MutationResultMessage.texts (_ : Limits) (v : MutationResultMessage) : List (ℕ × Text) :=
  bounded 256 v.result.texts

lemma accepted_mutationResultMessage (limits : Limits) (v : MutationResultMessage) :
    Accepted (v.encodePayload limits) ↔ AllWithin (v.texts limits) := by
  simp [MutationResultMessage.encodePayload, MutationResultMessage.texts]

def QueryRequestMessage.texts (limits : Limits) (v : QueryRequestMessage) : List (ℕ × Text) :=
  bounded limits.maxMetadataBytes [v.key]

lemma accepted_queryRequestMessage (limits : Limits) (v : QueryRequestMessage) :
    Accepted (v.encodePayload limits) ↔ AllWithin (v.texts limits) := by
  simp [QueryRequestMessage.encodePayload, QueryRequestMessage.texts]

def QueryResponseMessage.texts (limits : Limits) (v : QueryResponseMessage) : List (ℕ × Text) :=
  bounded limits.maxMetadataBytes [v.detail] ++
    bounded 256 (v.devices.flatMap BackendAccelerator.texts ++ v.layout.texts ++
      v.attempt.texts ++ v.partitions.flatMap PartitionRecord.texts ++
      v.workers.flatMap WorkerRecord.texts) ++
    bounded 262144 [v.snapshotText]

lemma accepted_queryResponseMessage (limits : Limits) (v : QueryResponseMessage) :
    Accepted (v.encodePayload limits) ↔ AllWithin (v.texts limits) := by
  simp [QueryResponseMessage.encodePayload, QueryResponseMessage.texts, and_assoc]

def FenceMessage.texts (limits : Limits) (v : FenceMessage) : List (ℕ × Text) :=
  bounded limits.maxMetadataBytes [v.reason]

lemma accepted_fenceMessage (limits : Limits) (v : FenceMessage) :
    Accepted (v.encodePayload limits) ↔ AllWithin (v.texts limits) := by
  simp [FenceMessage.encodePayload, FenceMessage.texts]

def FenceAckMessage.texts (limits : Limits) (v : FenceAckMessage) : List (ℕ × Text) :=
  bounded limits.maxMetadataBytes [v.reason]

lemma accepted_fenceAckMessage (limits : Limits) (v : FenceAckMessage) :
    Accepted (v.encodePayload limits) ↔ AllWithin (v.texts limits) := by
  simp [FenceAckMessage.encodePayload, FenceAckMessage.texts]

def ShutdownMessage.texts (limits : Limits) (v : ShutdownMessage) : List (ℕ × Text) :=
  bounded limits.maxMetadataBytes [v.reason]

lemma accepted_shutdownMessage (limits : Limits) (v : ShutdownMessage) :
    Accepted (v.encodePayload limits) ↔ AllWithin (v.texts limits) := by
  simp [ShutdownMessage.encodePayload, ShutdownMessage.texts]

def ErrorResponseMessage.texts (limits : Limits) (v : ErrorResponseMessage) : List (ℕ × Text) :=
  bounded limits.maxMetadataBytes [v.message, v.detail]

lemma accepted_errorResponseMessage (limits : Limits) (v : ErrorResponseMessage) :
    Accepted (v.encodePayload limits) ↔ AllWithin (v.texts limits) := by
  simp [ErrorResponseMessage.encodePayload, ErrorResponseMessage.texts]

def ReconcileRequestMessage.texts (limits : Limits) (v : ReconcileRequestMessage) :
    List (ℕ × Text) :=
  bounded limits.maxMetadataBytes [v.stableKey]

lemma accepted_reconcileRequestMessage (limits : Limits) (v : ReconcileRequestMessage) :
    Accepted (v.encodePayload limits) ↔ AllWithin (v.texts limits) := by
  simp [ReconcileRequestMessage.encodePayload, ReconcileRequestMessage.texts]

def ReconcileResponseMessage.texts (limits : Limits) (v : ReconcileResponseMessage) :
    List (ℕ × Text) :=
  bounded 2048 [v.summary] ++
    bounded limits.maxMetadataBytes [v.reason]

lemma accepted_reconcileResponseMessage (limits : Limits) (v : ReconcileResponseMessage) :
    Accepted (v.encodePayload limits) ↔ AllWithin (v.texts limits) := by
  simp [ReconcileResponseMessage.encodePayload, ReconcileResponseMessage.texts]

def AdminRequestMessage.texts (limits : Limits) (v : AdminRequestMessage) : List (ℕ × Text) :=
  bounded limits.maxMetadataBytes [v.reason]

lemma accepted_adminRequestMessage (limits : Limits) (v : AdminRequestMessage) :
    Accepted (v.encodePayload limits) ↔ AllWithin (v.texts limits) := by
  simp [AdminRequestMessage.encodePayload, AdminRequestMessage.texts]

def AdminResponseMessage.texts (limits : Limits) (v : AdminResponseMessage) : List (ℕ × Text) :=
  bounded limits.maxMetadataBytes [v.message, v.detail]

lemma accepted_adminResponseMessage (limits : Limits) (v : AdminResponseMessage) :
    Accepted (v.encodePayload limits) ↔ AllWithin (v.texts limits) := by
  simp [AdminResponseMessage.encodePayload, AdminResponseMessage.texts]

def CommandRequestMessage.texts (limits : Limits) (v : CommandRequestMessage) : List (ℕ × Text) :=
  bounded 256 v.request.texts ++
    bounded limits.maxMetadataBytes [v.stableKey, v.reason]

lemma accepted_commandRequestMessage (limits : Limits) (v : CommandRequestMessage) :
    Accepted (v.encodePayload limits) ↔ AllWithin (v.texts limits) := by
  simp [CommandRequestMessage.encodePayload, CommandRequestMessage.texts]

def CommandResponseMessage.texts (limits : Limits) (v : CommandResponseMessage) : List (ℕ × Text) :=
  bounded limits.maxMetadataBytes [v.message] ++
    bounded 4096 [v.detail] ++
    bounded 256 (v.planSteps.map PlanStep.detail ++
      v.plannedPartitions.map PlannedPartition.vendorNativeProfile ++
      v.candidates.flatMap CandidateReport.texts ++ v.layout.texts ++
      v.devices.flatMap BackendAccelerator.texts ++ v.workers.flatMap WorkerRecord.texts ++
      v.partitionRecords.flatMap PartitionRecord.texts) ++
    bounded largeText (v.candidates.flatMap CandidateReport.details) ++
    bounded 262144 [v.snapshotText]

lemma accepted_commandResponseMessage (limits : Limits) (v : CommandResponseMessage) :
    Accepted (v.encodePayload limits) ↔ AllWithin (v.texts limits) := by
  simp [CommandResponseMessage.encodePayload, CommandResponseMessage.texts, forall_and]
  tauto


end Texts

section Packing

lemma CommandResponseMessage.received_eq_iff (v : CommandResponseMessage) :
    v.received = v ↔ ∀ candidate ∈ v.candidates, candidate.Bare := by
  have hlist : v.candidates.map CandidateReport.received = v.candidates ↔
      ∀ candidate ∈ v.candidates, candidate.Bare := by
    have hself := List.map_inj_left (f := CandidateReport.received) (g := id) (l := v.candidates)
    rw [List.map_id] at hself
    simp only [hself, id_eq, CandidateReport.received_eq_iff]
  rw [← hlist]
  constructor
  · exact congrArg CommandResponseMessage.candidates
  · intro h
    rw [received, h]

/-- The types of payload. -/
inductive Payload where
  | hello | helloAck | registerWorker | registerAck | evidencePublish | evidenceAck
  | mutationRequest | mutationResult | queryRequest | queryResponse | fence | fenceAck | heartbeat
  | heartbeatAck | shutdown | errorResponse | reconcileRequest | reconcileResponse | adminRequest
  | adminResponse | commandRequest | commandResponse
deriving DecidableEq, Repr

namespace Payload

/-- The messages of a type. -/
def Message : Payload → Type
  | .hello => HelloMessage
  | .helloAck => HelloAckMessage
  | .registerWorker => RegisterWorkerMessage
  | .registerAck => RegisterAckMessage
  | .evidencePublish => EvidencePublishMessage
  | .evidenceAck => EvidenceAckMessage
  | .mutationRequest => MutationRequestMessage
  | .mutationResult => MutationResultMessage
  | .queryRequest => QueryRequestMessage
  | .queryResponse => QueryResponseMessage
  | .fence => FenceMessage
  | .fenceAck => FenceAckMessage
  | .heartbeat => HeartbeatMessage
  | .heartbeatAck => HeartbeatAckMessage
  | .shutdown => ShutdownMessage
  | .errorResponse => ErrorResponseMessage
  | .reconcileRequest => ReconcileRequestMessage
  | .reconcileResponse => ReconcileResponseMessage
  | .adminRequest => AdminRequestMessage
  | .adminResponse => AdminResponseMessage
  | .commandRequest => CommandRequestMessage
  | .commandResponse => CommandResponseMessage

def encodePayload (limits : Limits) : (t : Payload) → t.Message → Script
  | .hello => HelloMessage.encodePayload limits
  | .helloAck => HelloAckMessage.encodePayload limits
  | .registerWorker => RegisterWorkerMessage.encodePayload limits
  | .registerAck => RegisterAckMessage.encodePayload limits
  | .evidencePublish => EvidencePublishMessage.encodePayload limits
  | .evidenceAck => EvidenceAckMessage.encodePayload limits
  | .mutationRequest => MutationRequestMessage.encodePayload limits
  | .mutationResult => MutationResultMessage.encodePayload limits
  | .queryRequest => QueryRequestMessage.encodePayload limits
  | .queryResponse => QueryResponseMessage.encodePayload limits
  | .fence => FenceMessage.encodePayload limits
  | .fenceAck => FenceAckMessage.encodePayload limits
  | .heartbeat => HeartbeatMessage.encodePayload limits
  | .heartbeatAck => HeartbeatAckMessage.encodePayload limits
  | .shutdown => ShutdownMessage.encodePayload limits
  | .errorResponse => ErrorResponseMessage.encodePayload limits
  | .reconcileRequest => ReconcileRequestMessage.encodePayload limits
  | .reconcileResponse => ReconcileResponseMessage.encodePayload limits
  | .adminRequest => AdminRequestMessage.encodePayload limits
  | .adminResponse => AdminResponseMessage.encodePayload limits
  | .commandRequest => CommandRequestMessage.encodePayload limits
  | .commandResponse => CommandResponseMessage.encodePayload limits

def decodePayload : (t : Payload) → ReadM t.Message
  | .hello => decodeHello
  | .helloAck => decodeHelloAck
  | .registerWorker => decodeRegisterWorker
  | .registerAck => decodeRegisterAck
  | .evidencePublish => decodeEvidencePublish
  | .evidenceAck => decodeEvidenceAck
  | .mutationRequest => decodeMutationRequestMessage
  | .mutationResult => decodeMutationResultMessage
  | .queryRequest => decodeQueryRequest
  | .queryResponse => decodeQueryResponse
  | .fence => decodeFence
  | .fenceAck => decodeFenceAck
  | .heartbeat => decodeHeartbeat
  | .heartbeatAck => decodeHeartbeatAck
  | .shutdown => decodeShutdown
  | .errorResponse => decodeErrorResponse
  | .reconcileRequest => decodeReconcileRequest
  | .reconcileResponse => decodeReconcileResponse
  | .adminRequest => decodeAdminRequest
  | .adminResponse => decodeAdminResponse
  | .commandRequest => decodeCommandRequest
  | .commandResponse => decodeCommandResponse

/-- The texts of a message with the bounds that the writer enforces on them. -/
def texts (limits : Limits) : (t : Payload) → t.Message → List (ℕ × Text)
  | .hello => HelloMessage.texts limits
  | .helloAck => HelloAckMessage.texts limits
  | .registerWorker => RegisterWorkerMessage.texts limits
  | .registerAck => RegisterAckMessage.texts limits
  | .evidencePublish => EvidencePublishMessage.texts limits
  | .evidenceAck => EvidenceAckMessage.texts limits
  | .mutationRequest => MutationRequestMessage.texts limits
  | .mutationResult => MutationResultMessage.texts limits
  | .queryRequest => QueryRequestMessage.texts limits
  | .queryResponse => QueryResponseMessage.texts limits
  | .fence => FenceMessage.texts limits
  | .fenceAck => FenceAckMessage.texts limits
  | .heartbeat => fun _ ↦ []
  | .heartbeatAck => fun _ ↦ []
  | .shutdown => ShutdownMessage.texts limits
  | .errorResponse => ErrorResponseMessage.texts limits
  | .reconcileRequest => ReconcileRequestMessage.texts limits
  | .reconcileResponse => ReconcileResponseMessage.texts limits
  | .adminRequest => AdminRequestMessage.texts limits
  | .adminResponse => AdminResponseMessage.texts limits
  | .commandRequest => CommandRequestMessage.texts limits
  | .commandResponse => CommandResponseMessage.texts limits

/-- The bounds that only the reader enforces. -/
def Readable : (t : Payload) → t.Message → Prop
  | .hello => HelloMessage.Readable
  | .helloAck => HelloAckMessage.Readable
  | .registerWorker => RegisterWorkerMessage.Readable
  | .registerAck => RegisterAckMessage.Readable
  | .evidencePublish => EvidencePublishMessage.Readable
  | .evidenceAck => EvidenceAckMessage.Readable
  | .mutationRequest => MutationRequestMessage.Readable
  | .mutationResult => MutationResultMessage.Readable
  | .queryRequest => QueryRequestMessage.Readable
  | .queryResponse => QueryResponseMessage.Readable
  | .fence => FenceMessage.Readable
  | .fenceAck => FenceAckMessage.Readable
  | .heartbeat => fun _ ↦ True
  | .heartbeatAck => fun _ ↦ True
  | .shutdown => ShutdownMessage.Readable
  | .errorResponse => ErrorResponseMessage.Readable
  | .reconcileRequest => ReconcileRequestMessage.Readable
  | .reconcileResponse => ReconcileResponseMessage.Readable
  | .adminRequest => AdminRequestMessage.Readable
  | .adminResponse => AdminResponseMessage.Readable
  | .commandRequest => CommandRequestMessage.Readable
  | .commandResponse => CommandResponseMessage.Readable

/-- The message carries nothing that its encoder leaves out. -/
def Complete : (t : Payload) → t.Message → Prop
  | .commandResponse => fun v : CommandResponseMessage ↦ ∀ candidate ∈ v.candidates, candidate.Bare
  | _ => fun _ ↦ True

/-- Sizes and signed numbers are 64-bit ones. -/
def InRange : (t : Payload) → t.Message → Prop
  | .helloAck => fun v : HelloAckMessage ↦ v.limits.InRange
  | .commandResponse => fun v : CommandResponseMessage ↦
      ∀ candidate ∈ v.candidates, candidate.InRange
  | _ => fun _ ↦ True

/-- What the reader makes of a message. -/
def received : (t : Payload) → t.Message → t.Message
  | .commandResponse => CommandResponseMessage.received
  | _ => id

lemma accepted_encodePayload (limits : Limits) (t : Payload) (m : t.Message) :
    Accepted (t.encodePayload limits m) ↔ AllWithin (t.texts limits m) := by
  cases t with
  | hello => exact accepted_helloMessage limits m
  | helloAck => exact accepted_helloAckMessage limits m
  | registerWorker => exact accepted_registerWorkerMessage limits m
  | registerAck => exact accepted_registerAckMessage limits m
  | evidencePublish => exact accepted_evidencePublishMessage limits m
  | evidenceAck => exact accepted_evidenceAckMessage limits m
  | mutationRequest => exact accepted_mutationRequestMessage limits m
  | mutationResult => exact accepted_mutationResultMessage limits m
  | queryRequest => exact accepted_queryRequestMessage limits m
  | queryResponse => exact accepted_queryResponseMessage limits m
  | fence => exact accepted_fenceMessage limits m
  | fenceAck => exact accepted_fenceAckMessage limits m
  | heartbeat => simp [encodePayload, texts, HeartbeatMessage.encodePayload]
  | heartbeatAck => simp [encodePayload, texts, HeartbeatAckMessage.encodePayload]
  | shutdown => exact accepted_shutdownMessage limits m
  | errorResponse => exact accepted_errorResponseMessage limits m
  | reconcileRequest => exact accepted_reconcileRequestMessage limits m
  | reconcileResponse => exact accepted_reconcileResponseMessage limits m
  | adminRequest => exact accepted_adminRequestMessage limits m
  | adminResponse => exact accepted_adminResponseMessage limits m
  | commandRequest => exact accepted_commandRequestMessage limits m
  | commandResponse => exact accepted_commandResponseMessage limits m

lemma reads_payload (limits : Limits) {t : Payload} {m : t.Message} (h : t.InRange m) :
    Reads t.decodePayload (t.encodePayload limits m) (t.Readable m) (t.received m) := by
  cases t with
  | hello => exact reads_helloMessage limits m
  | helloAck => exact reads_helloAckMessage limits h
  | registerWorker => exact reads_registerWorkerMessage limits m
  | registerAck => exact reads_registerAckMessage limits m
  | evidencePublish => exact reads_evidencePublishMessage limits m
  | evidenceAck => exact reads_evidenceAckMessage limits m
  | mutationRequest => exact reads_mutationRequestMessage limits m
  | mutationResult => exact reads_mutationResultMessage limits m
  | queryRequest => exact reads_queryRequestMessage limits m
  | queryResponse => exact reads_queryResponseMessage limits m
  | fence => exact reads_fenceMessage limits m
  | fenceAck => exact reads_fenceAckMessage limits m
  | heartbeat => exact reads_heartbeatMessage limits m
  | heartbeatAck => exact reads_heartbeatAckMessage limits m
  | shutdown => exact reads_shutdownMessage limits m
  | errorResponse => exact reads_errorResponseMessage limits m
  | reconcileRequest => exact reads_reconcileRequestMessage limits m
  | reconcileResponse => exact reads_reconcileResponseMessage limits m
  | adminRequest => exact reads_adminRequestMessage limits m
  | adminResponse => exact reads_adminResponseMessage limits m
  | commandRequest => exact reads_commandRequestMessage limits m
  | commandResponse => exact reads_commandResponseMessage limits h

lemma received_eq_iff (t : Payload) (m : t.Message) : t.received m = m ↔ t.Complete m := by
  cases t with
  | commandResponse => exact CommandResponseMessage.received_eq_iff m
  | _ => exact ⟨fun _ ↦ trivial, fun _ ↦ rfl⟩

end Payload

/-- Packs a message. A failure of the writer is not reported: what was written before it is
returned. -/
def packPayload (t : Payload) (m : t.Message) (limits : Limits) : List UInt8 :=
  (ByteWriter.run { bound := limits.maxFrameBytes } (t.encodePayload limits m)).buffer

/-- Unpacks a message and refuses trailing bytes. -/
def unpackPayload (t : Payload) (bytes : List UInt8) : Result t.Message :=
  finish t.decodePayload bytes

lemma packPayload_eq (t : Payload) (m : t.Message) (limits : Limits) :
    packPayload t m limits = (t.encodePayload limits m).emitted limits.maxFrameBytes := by
  have hhealthy : ByteWriter.Healthy { bound := limits.maxFrameBytes } := ⟨rfl, Nat.zero_le _⟩
  have hrun := ByteWriter.wrote_run hhealthy (t.encodePayload limits m)
  have hleft : ByteWriter.left { bound := limits.maxFrameBytes } = limits.maxFrameBytes :=
    Nat.sub_zero _
  rw [hleft] at hrun
  by_cases hfits : (t.encodePayload limits m).Fits limits.maxFrameBytes
  · obtain ⟨-, -, hbuffer⟩ := hrun.accepts hfits
    rw [packPayload, hbuffer, Wire.Script.emitted_of_fits hfits]
    rfl
  · obtain ⟨-, hbuffer⟩ := hrun.refuses hfits
    rw [packPayload, hbuffer]
    rfl

/-- Reading what a script could write returns a value exactly when the script was written whole,
its condition holds, and the value is the scripted one. -/
lemma finish_emitted_iff {α : Type} {m : ReadM α} {s : Script} {P : Prop} {a : α}
    (h : Reads m s P a) {n : ℕ} (hn : n < 2 ^ 32) (hcounted : s.Counted) (b : α) :
    finish m (s.emitted n) = .ok b ↔ s.Fits n ∧ P ∧ a = b := by
  by_cases hfits : s.Fits n
  · rw [Wire.Script.emitted_of_fits hfits, finish_content_iff h hn hfits]
    simp [hfits]
  · obtain ⟨t, e, hfails⟩ := h.notices n hn hcounted hfits
    simp [finish, hfails, hfits]

/-- A message is unpacked as itself exactly when the writer accepts its texts, its encoding fits a
frame, it is within the bounds of the reader, and it carries nothing that its encoder leaves
out. -/
theorem unpack_pack_iff {limits : Limits} (hlimits : limits.validate = success) {t : Payload}
    {m : t.Message} (hrange : t.InRange m) (hcounted : (t.encodePayload limits m).Counted) :
    unpackPayload t (packPayload t m limits) = .ok m ↔
      AllWithin (t.texts limits m) ∧
        (t.encodePayload limits m).content.length ≤ limits.maxFrameBytes ∧
        t.Readable m ∧ t.Complete m := by
  have hbound := Limits.maxFrameBytes_le hlimits
  have hfinish := finish_emitted_iff (Payload.reads_payload limits hrange)
    (show limits.maxFrameBytes < 2 ^ 32 by omega) hcounted m
  have hfits : (t.encodePayload limits m).Fits limits.maxFrameBytes ↔
      AllWithin (t.texts limits m) ∧
        (t.encodePayload limits m).content.length ≤ limits.maxFrameBytes :=
    and_congr_left' (Payload.accepted_encodePayload limits t m)
  rw [unpackPayload, packPayload_eq, hfinish, hfits, Payload.received_eq_iff, and_assoc]

/-- A message is unpacked as what the reader makes of it when the writer accepts it and the reader
does; otherwise it is not unpacked at all. -/
lemma unpack_ok_iff {limits : Limits} (hlimits : limits.validate = success) {t : Payload}
    {m : t.Message} (hrange : t.InRange m) (hcounted : (t.encodePayload limits m).Counted)
    (b : t.Message) :
    unpackPayload t (packPayload t m limits) = .ok b ↔
      (t.encodePayload limits m).Fits limits.maxFrameBytes ∧ t.Readable m ∧ t.received m = b := by
  have hbound := Limits.maxFrameBytes_le hlimits
  rw [unpackPayload, packPayload_eq]
  exact finish_emitted_iff (Payload.reads_payload limits hrange)
    (show limits.maxFrameBytes < 2 ^ 32 by omega) hcounted b

/-- A number at the front of a payload arrives as it was written, whatever follows it and whether
or not it was written whole. -/
lemma front_of_unpack {limits : Limits} {t : Payload} {m b : t.Message} {v : UInt64}
    {rest : Script} {next : UInt64 → ReadM t.Message}
    (hwrite : t.encodePayload limits m = Write.u64 v ++ rest)
    (hread : t.decodePayload = Read.u64 >>= next)
    (h : unpackPayload t (packPayload t m limits) = .ok b) :
    ∃ bytes left, next v bytes = (left, .ok b) := by
  have hlength : (Write.u64 v).content.length = 8 := by
    simp [Write.u64, Wire.Chunk.content, Wire.length_littleEndian]
  have haccepted : ∀ c ∈ Write.u64 v, c.accepted = true := fun c hc ↦ by
    rw [List.mem_singleton.mp hc]
    rfl
  rw [unpackPayload, packPayload_eq, hwrite, hread, finish] at h
  by_cases hroom : 8 ≤ limits.maxFrameBytes
  · have hfits : (Write.u64 v).Fits limits.maxFrameBytes := ⟨haccepted, hlength.trans_le hroom⟩
    have hfront := (reads_u64 v).accepts 8 (by decide) ⟨haccepted, hlength.le⟩ trivial
    rw [Wire.Script.emitted_append rest hfits, Procedure.bind_ok (hfront _)] at h
    generalize Wire.Script.emitted _ rest = bytes at h
    rcases hnext : next v bytes with ⟨left, e | b'⟩
    · rw [hnext] at h
      cases h
    · rw [hnext] at h
      refine ⟨bytes, left, ?_⟩
      cases left with
      | nil => rw [hnext, Except.ok.inj h]
      | cons byte more => cases h
  · have hfits : ¬ (Write.u64 v).Fits limits.maxFrameBytes := fun h ↦ hroom (hlength.symm.le.trans h.2)
    have hcounted : (Write.u64 v).Counted := fun n hmem ↦ by simp [Write.u64] at hmem
    obtain ⟨t', e, hfails⟩ := (reads_u64 v).notices _ (by omega) hcounted hfits
    rw [Wire.Script.emitted_append_of_not_fits rest hfits, Procedure.bind_error hfails] at h
    cases h

namespace Sample

/-- A candidate with a score and an explanation. -/
def reported : CandidateReport :=
  { accelerator := 2
    acceleratorGeneration := 1
    eligible := true
    outcome := .feasibleNow
    total := -40
    terms := [{ subject := "drain", weight := 200, raw := 0, contribution := 0 },
      { subject := "locality", weight := 25, raw := -1, contribution := -25 }]
    explanation := { factors := [{ code := .candidateEligible, subject := "β slice" },
      { code := .rankingFactor, subject := "locality", magnitude := -25, sequence := 1 }] } }

/-- The answer to a command with a plan, its candidate and every record that an answer carries. -/
def answered : CommandResponseMessage :=
  { accepted := true
    message := "planned"
    plan := 11
    planGeneration := 1
    planOutcome := .feasibleNow
    planSteps := [{ kind := .reserveCapacity, accelerator := 2, profile := 1, detail := "4 B" },
      { index := 1, kind := .createPartition, accelerator := 2, profile := 1 }]
    plannedPartitions := [{ profile := 1, resources := storedMemory 4 }]
    candidates := [reported]
    partitions := [4, 6]
    generations := [2, 1]
    layout :=
      { stableKey := "gpu"
        devicePresent := true
        physicalTotals := storedMemory 16
        partitions := [{ nativeId := "a", profile := 1, resources := storedMemory 4 }] }
    devices := [{ stableKey := "gpu", backend := "synthetic", physicalTotals := storedMemory 16,
                  capability := storedDevice.capability, profiles := [storedProfile] }]
    workers := furnished.workers
    partitionRecords := storedPartitions }

/-- The same answer, with a summary of what explains its candidate. -/
def summarised : CommandResponseMessage :=
  { answered with
    candidates :=
      [{ reported with explanation := { reported.explanation with summary := "eligible" } }] }

end Sample

/-- An answer with texts, lists and records is unpacked as itself, and with a summary it is not. -/
theorem unpack_pack_iff_answered :
    unpackPayload .commandResponse (packPayload .commandResponse Sample.answered {}) =
        .ok Sample.answered ∧
      unpackPayload .commandResponse (packPayload .commandResponse Sample.summarised {}) ≠
        .ok Sample.summarised := by
  have hrange : ∀ candidate ∈ Sample.answered.candidates, candidate.InRange := by decide +kernel
  have hsummed : ∀ candidate ∈ Sample.summarised.candidates, candidate.InRange := by decide +kernel
  have hwithin : AllWithin (Sample.answered.texts {}) := by decide +kernel
  have hreadable : Sample.answered.Readable := by decide +kernel
  have hcomplete : ∀ candidate ∈ Sample.answered.candidates, candidate.Bare := by
    intro candidate hmem
    obtain rfl := List.mem_singleton.mp hmem
    exact ⟨rfl, rfl, rfl, rfl⟩
  constructor
  · exact (unpack_pack_iff (t := .commandResponse) (m := Sample.answered) (by decide +kernel) hrange
      (by decide +kernel)).mpr ⟨hwithin, by decide +kernel, hreadable, hcomplete⟩
  · intro h
    obtain ⟨-, -, -, hbare⟩ := (unpack_pack_iff (t := .commandResponse) (m := Sample.summarised)
      (by decide +kernel) hsummed (by decide +kernel)).mp h
    have hsummary := (hbare _ (List.mem_singleton_self _)).summary
    cases hsummary

/-- A worker whose agent reports a version longer than the reader's bound for it. -/
def longVersioned : HelloMessage := { agentVersion := List.replicate 65 0x31 }

/-- A message within every limit of the runtime can be packed without a failure and not be
unpacked. -/
theorem unpack_pack_fails :
    ∃ (limits : Limits) (t : Payload) (m : t.Message), limits.validate = success ∧
      t.InRange m ∧ (t.encodePayload limits m).Counted ∧
        (ByteWriter.run { bound := limits.maxFrameBytes } (t.encodePayload limits m)).ok = true ∧
        unpackPayload t (packPayload t m limits) ≠ .ok m := by
  refine ⟨{}, .hello, longVersioned, by decide +kernel, trivial, by decide +kernel,
    by decide +kernel, ?_⟩
  have hrefused : (unpackPayload .hello (packPayload .hello longVersioned {})).isOk = false := by
    decide +kernel
  intro hok
  rw [hok] at hrefused
  exact absurd hrefused (by decide)

end Packing

end PartitionFabric
