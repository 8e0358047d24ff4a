import PartitionFabric.Codec.Packing
import PartitionFabric.Foundation.Framing

/-!
No accepted payload is a proper prefix or a proper extension of another.

No decoder looks beyond what it reads: the only thing that a decoder learns about the bytes after
its own is that a declared count fits in them, and more bytes keep that true. Together with the
refusal of trailing bytes this makes the accepted payloads of each kind prefix-free.
-/

namespace PartitionFabric

open Wire (Framed PrefixFree)

section Primitives

instance framed_u8 : Framed Read.u8 := by
  unfold Read.u8
  infer_instance

instance framed_u16 : Framed Read.u16 := by
  unfold Read.u16
  infer_instance

instance framed_u32 : Framed Read.u32 := by
  unfold Read.u32
  infer_instance

instance framed_u64 : Framed Read.u64 := by
  unfold Read.u64
  infer_instance

instance framed_i64 : Framed Read.i64 := by
  unfold Read.i64
  infer_instance

instance framed_boolean : Framed Read.boolean := by
  unfold Read.boolean
  infer_instance

instance framed_text (maxLen : ℕ) : Framed (Read.text maxLen) := by
  unfold Read.text Read.textOf
  infer_instance

instance framed_small : Framed Read.small := framed_text _

/-- The bound on the remaining bytes is the one check of a list that depends on what follows. -/
instance framed_list {α : Type} (maxCount minElementBytes : ℕ) (each : ReadM α) [Framed each] :
    Framed (Read.list maxCount minElementBytes each) := by
  have hlist : ∀ declared, Framed (Read.listOf maxCount minElementBytes each declared) := by
    intro declared
    have hroom := fun e ↦ Framed.room (m := Wire.readTimes each declared)
      (declared * minElementBytes) (e : Error)
    unfold Read.listOf
    infer_instance
  unfold Read.list
  infer_instance

instance framed_enum {α : Type} (all : List α) (what : Text) : Framed (Read.enum all what) := by
  have hvalue : ∀ raw : UInt8, Framed (match all[raw.toNat]? with
      | some value => pure value
      | none => Procedure.throw (makeError .protocolViolation
          (("invalid " : Text) ++ what ++ (" value" : Text)) (decimal raw.toNat)) : ReadM α) := by
    intro raw
    cases all[raw.toNat]? <;> infer_instance
  unfold Read.enum
  infer_instance

end Primitives

section Records

instance framed_resources : Framed decodeResources := by
  unfold decodeResources
  infer_instance

instance framed_evidence : Framed decodeEvidence := by
  unfold decodeEvidence
  infer_instance

instance framed_isolation : Framed decodeIsolation := by
  unfold decodeIsolation
  infer_instance

instance framed_profileAlignment : Framed decodeProfileAlignment := by
  unfold decodeProfileAlignment
  infer_instance

instance framed_profile : Framed decodeProfile := by
  unfold decodeProfile
  infer_instance

instance framed_combinationRule : Framed decodeCombinationRule := by
  unfold decodeCombinationRule
  infer_instance

instance framed_dimension : Framed decodeDimension := by
  unfold decodeDimension
  infer_instance

instance framed_capability : Framed decodeCapability := by
  unfold decodeCapability
  infer_instance

instance framed_identifiers : Framed decodeIdentifiers := by
  unfold decodeIdentifiers
  infer_instance

instance framed_locality : Framed decodeLocality := by
  unfold decodeLocality
  infer_instance

instance framed_health : Framed decodeHealth := by
  unfold decodeHealth
  infer_instance

instance framed_accelerator : Framed decodeAccelerator := by
  unfold decodeAccelerator
  infer_instance

instance framed_nativeIdentity : Framed decodeNativeIdentity := by
  unfold decodeNativeIdentity
  infer_instance

instance framed_isolationDomain : Framed decodeIsolationDomain := by
  unfold decodeIsolationDomain
  infer_instance

instance framed_drain : Framed decodeDrain := by
  unfold decodeDrain
  infer_instance

instance framed_heldBucket : Framed decodeHeldBucket := by
  unfold decodeHeldBucket
  refine @Framed.bind _ _ _ _ _ framed_u8 fun raw ↦ ?_
  split
  · infer_instance
  · split <;> infer_instance

instance framed_partition : Framed decodePartition := by
  unfold decodePartition
  infer_instance

instance framed_isolationRequirement : Framed decodeIsolationRequirement := by
  unfold decodeIsolationRequirement
  infer_instance

instance framed_assignment : Framed decodeAssignment := by
  unfold decodeAssignment
  infer_instance

instance framed_ledger : Framed decodeLedger := by
  unfold decodeLedger
  infer_instance

instance framed_weights : Framed decodeWeights := by
  unfold decodeWeights
  infer_instance

instance framed_policy : Framed decodePolicy := by
  unfold decodePolicy
  infer_instance

instance framed_reservation : Framed decodeReservation := by
  unfold decodeReservation
  infer_instance

instance framed_plannedPartition : Framed decodePlannedPartition := by
  unfold decodePlannedPartition
  infer_instance

instance framed_attempt : Framed decodeAttempt := by
  unfold decodeAttempt
  infer_instance

instance framed_worker : Framed decodeWorker := by
  unfold decodeWorker
  infer_instance

end Records

section Messages

instance framed_errorCode : Framed decodeErrorCode := by
  unfold decodeErrorCode
  refine @Framed.bind _ _ _ _ _ framed_u16 fun raw ↦ ?_
  split <;> infer_instance

instance framed_size : Framed Read.size := by
  unfold Read.size
  infer_instance

instance framed_limits : Framed decodeLimits := by
  unfold decodeLimits
  infer_instance

instance framed_deviceSelector : Framed decodeDeviceSelector := by
  unfold decodeDeviceSelector
  infer_instance

instance framed_request : Framed decodeRequest := by
  unfold decodeRequest
  infer_instance

instance framed_planStep : Framed decodePlanStep := by
  unfold decodePlanStep
  infer_instance

instance framed_planScoreTerm : Framed decodePlanScoreTerm := by
  unfold decodePlanScoreTerm
  infer_instance

instance framed_factor : Framed decodeFactor := by
  unfold decodeFactor
  infer_instance

instance framed_factors : Framed decodeFactors := by
  unfold decodeFactors decodeFactorsOf
  infer_instance

instance framed_candidate : Framed decodeCandidate := by
  unfold decodeCandidate
  infer_instance

instance framed_nativePartition : Framed decodeNativePartition := by
  unfold decodeNativePartition
  infer_instance

instance framed_layout : Framed decodeLayout := by
  unfold decodeLayout
  infer_instance

instance framed_backendAccelerator : Framed decodeBackendAccelerator := by
  unfold decodeBackendAccelerator
  infer_instance

instance framed_nativeSpec : Framed decodeNativeSpec := by
  unfold decodeNativeSpec
  infer_instance

instance framed_mutationRequest : Framed decodeMutationRequest := by
  unfold decodeMutationRequest
  infer_instance

instance framed_mutationResult : Framed decodeMutationResult := by
  unfold decodeMutationResult
  infer_instance

instance framed_hello : Framed decodeHello := by
  unfold decodeHello
  infer_instance

instance framed_helloAck : Framed decodeHelloAck := by
  unfold decodeHelloAck
  infer_instance

instance framed_registerWorker : Framed decodeRegisterWorker := by
  unfold decodeRegisterWorker
  infer_instance

instance framed_registerAck : Framed decodeRegisterAck := by
  unfold decodeRegisterAck
  infer_instance

instance framed_evidencePublish : Framed decodeEvidencePublish := by
  unfold decodeEvidencePublish
  infer_instance

instance framed_evidenceAck : Framed decodeEvidenceAck := by
  unfold decodeEvidenceAck
  infer_instance

instance framed_mutationRequestMessage : Framed decodeMutationRequestMessage := by
  unfold decodeMutationRequestMessage
  infer_instance

instance framed_mutationResultMessage : Framed decodeMutationResultMessage := by
  unfold decodeMutationResultMessage
  infer_instance

instance framed_queryRequest : Framed decodeQueryRequest := by
  unfold decodeQueryRequest
  infer_instance

instance framed_queryResponse : Framed decodeQueryResponse := by
  unfold decodeQueryResponse
  infer_instance

instance framed_fence : Framed decodeFence := by
  unfold decodeFence
  infer_instance

instance framed_fenceAck : Framed decodeFenceAck := by
  unfold decodeFenceAck
  infer_instance

instance framed_heartbeat : Framed decodeHeartbeat := by
  unfold decodeHeartbeat
  infer_instance

instance framed_heartbeatAck : Framed decodeHeartbeatAck := by
  unfold decodeHeartbeatAck
  infer_instance

instance framed_shutdown : Framed decodeShutdown := by
  unfold decodeShutdown
  infer_instance

instance framed_errorResponse : Framed decodeErrorResponse := by
  unfold decodeErrorResponse
  infer_instance

instance framed_reconcileRequest : Framed decodeReconcileRequest := by
  unfold decodeReconcileRequest
  infer_instance

instance framed_reconcileResponse : Framed decodeReconcileResponse := by
  unfold decodeReconcileResponse
  infer_instance

instance framed_adminRequest : Framed decodeAdminRequest := by
  unfold decodeAdminRequest
  infer_instance

instance framed_adminResponse : Framed decodeAdminResponse := by
  unfold decodeAdminResponse
  infer_instance

instance framed_commandRequest : Framed decodeCommandRequest := by
  unfold decodeCommandRequest
  infer_instance

instance framed_commandResponse : Framed decodeCommandResponse := by
  unfold decodeCommandResponse
  infer_instance

end Messages

instance framed_acceleratorKey : Framed decodeAcceleratorKey := by
  unfold decodeAcceleratorKey
  infer_instance

instance framed_ledgerEntry : Framed decodeLedgerEntry := by
  unfold decodeLedgerEntry
  infer_instance

instance framed_durableState (limits : Limits) : Framed (decodeDurableState limits) := by
  unfold decodeDurableState
  infer_instance

section Payloads

instance framed_payload (t : Payload) : Framed t.decodePayload := by
  cases t with
  | hello => exact framed_hello
  | helloAck => exact framed_helloAck
  | registerWorker => exact framed_registerWorker
  | registerAck => exact framed_registerAck
  | evidencePublish => exact framed_evidencePublish
  | evidenceAck => exact framed_evidenceAck
  | mutationRequest => exact framed_mutationRequestMessage
  | mutationResult => exact framed_mutationResultMessage
  | queryRequest => exact framed_queryRequest
  | queryResponse => exact framed_queryResponse
  | fence => exact framed_fence
  | fenceAck => exact framed_fenceAck
  | heartbeat => exact framed_heartbeat
  | heartbeatAck => exact framed_heartbeatAck
  | shutdown => exact framed_shutdown
  | errorResponse => exact framed_errorResponse
  | reconcileRequest => exact framed_reconcileRequest
  | reconcileResponse => exact framed_reconcileResponse
  | adminRequest => exact framed_adminRequest
  | adminResponse => exact framed_adminResponse
  | commandRequest => exact framed_commandRequest
  | commandResponse => exact framed_commandResponse

lemma finish_eq_ok_iff_consumed {α : Type} {m : ReadM α} {bytes : List UInt8} {a : α} :
    finish m bytes = .ok a ↔ m bytes = ([], .ok a) := by
  rcases hrun : m bytes with ⟨_ | ⟨byte, rest⟩, _ | value⟩ <;> simp [finish, failure, hrun]

/-- What a decoder accepts when trailing bytes are refused is prefix-free. -/
lemma prefixFree_finish {α : Type} (m : ReadM α) [Framed m] :
    PrefixFree fun bytes ↦ ∃ a, finish m bytes = .ok a := by
  simp only [finish_eq_ok_iff_consumed]
  exact Framed.prefixFree m

/-- The payload of a container, as it is decoded and validated. -/
def AcceptedDurable (limits : Limits) (payload : List UInt8) : Prop :=
  ∃ state, finish (decodeDurableState limits) payload = .ok state ∧
    state.validateDecoded limits = success

/-- No accepted durable payload (as it is parsed, and as it is also validated), no accepted
container and no accepted message payload of any type has an accepted proper prefix or an accepted
proper extension. -/
theorem decoding_prefix_free (limits : Limits) :
    PrefixFree (fun payload ↦ ∃ state, finish (decodeDurableState limits) payload = .ok state) ∧
      PrefixFree (AcceptedDurable limits) ∧
      PrefixFree (fun bytes ↦ ∃ state, PersistenceStore.decode bytes limits = .ok state) ∧
      ∀ t : Payload, PrefixFree fun bytes ↦ ∃ m, unpackPayload t bytes = .ok m := by
  have hparsed := prefixFree_finish (decodeDurableState limits)
  refine ⟨hparsed, hparsed.mono ?_, ?_, fun t ↦ prefixFree_finish t.decodePayload⟩
  · rintro payload ⟨state, hfinish, -⟩
    exact ⟨state, hfinish⟩
  · refine Wire.prefixFree_of_extension ?_
    rintro bytes ⟨state, hdecode⟩ c hc ⟨state', hdecode'⟩
    have hintact := (PersistenceStore.decode_eq_ok_iff.mp hdecode).1
    exact PersistenceStore.not_intact_append hintact hc
      (PersistenceStore.decode_eq_ok_iff.mp hdecode').1

end Payloads

end PartitionFabric
