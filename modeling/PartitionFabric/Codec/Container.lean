import PartitionFabric.Codec.Frame
import PartitionFabric.Codec.RoundTrip
import PartitionFabric.Fabric.Durable

/-!
The durable container: a payload behind a header with two integrity hashes.

One round of the hash is a bijection of the running value, so two byte strings that differ in one
place never have the same hash; this is what protects every offset of a container.
-/

namespace PartitionFabric

open Wire (Reads littleEndian)

section Hash

/-- The inverse of the FNV prime modulo the word size. -/
def fnvInverse : UInt64 := 14886173955864302971

lemma mixByte_injective (byte : UInt8) : Function.Injective fun hash ↦ mixByte hash byte := by
  have hundo : ∀ hash, (mixByte hash byte * fnvInverse) ^^^ byte.toUInt64 = hash := by
    intro hash
    have hone : (1099511628211 : UInt64) * fnvInverse = 1 := by decide
    rw [mixByte, UInt64.mul_assoc, hone, UInt64.mul_one, UInt64.xor_assoc, UInt64.xor_self,
      UInt64.xor_zero]
  intro hash hash' h
  have h : mixByte hash byte = mixByte hash' byte := h
  rw [← hundo hash, h, hundo hash']

lemma mixByte_injective_byte (hash : UInt64) : Function.Injective (mixByte hash) := by
  have hundo : ∀ byte, hash ^^^ (mixByte hash byte * fnvInverse) = byte.toUInt64 := by
    intro byte
    have hone : (1099511628211 : UInt64) * fnvInverse = 1 := by decide
    rw [mixByte, UInt64.mul_assoc, hone, UInt64.mul_one, ← UInt64.xor_assoc, UInt64.xor_self,
      UInt64.zero_xor]
  intro byte byte' h
  have hwide : byte.toUInt64 = byte'.toUInt64 := by
    rw [← hundo byte, h, hundo byte']
  have hnat := congrArg UInt64.toNat hwide
  rw [UInt8.toNat_toUInt64, UInt8.toNat_toUInt64] at hnat
  exact UInt8.toNat_inj.mp hnat

lemma mixBytes_injective (bytes : List UInt8) :
    Function.Injective fun hash ↦ mixBytes hash bytes := by
  induction bytes with
  | nil => exact fun _ _ h ↦ h
  | cons byte rest ih =>
      intro hash hash' h
      exact mixByte_injective byte (ih h)

/-- The hash of a byte string. -/
def integrityHash (data : List UInt8) : UInt64 := mixBytes fnvBasis data

/-- Changing one byte changes the hash. -/
theorem integrityHash_set_ne {data : List UInt8} {i : ℕ} (hi : i < data.length) {b : UInt8}
    (hb : data[i] ≠ b) : integrityHash (data.set i b) ≠ integrityHash data := by
  have hsplit : data = data.take i ++ data[i] :: data.drop (i + 1) := by
    rw [List.cons_getElem_drop_succ, List.take_append_drop]
  have hset : data.set i b = data.take i ++ b :: data.drop (i + 1) :=
    List.set_eq_take_append_cons_drop.trans (if_pos hi)
  intro h
  rw [hset] at h
  conv_rhs at h => rw [hsplit]
  unfold integrityHash mixBytes at h
  rw [List.foldl_append, List.foldl_append, List.foldl_cons, List.foldl_cons] at h
  exact hb (mixByte_injective_byte _ (mixBytes_injective _ h)).symm

end Hash

def containerMagic : List UInt8 := ("APFSTATE" : Text)

def endianMarker : UInt32 := 0x01020304

def containerHeaderSize : ℕ := 40

def maxPayloadBytes : ℕ := 67108864

/-- The writes that make up the payload of a container. -/
def DurableState.encode (state : DurableState) (limits : Limits) : Script :=
  List.flatten
    [Write.u32 state.formatVersion,
      Write.u64 state.stateGeneration,
      Write.u64 state.coordinatorEpoch,
      Write.u64 state.policyGeneration,
      Write.u64 state.nextIdentity,
      Write.u64 state.savedAtMs,
      Write.text state.instanceId limits.maxMetadataBytes,
      state.policy.encode,
      Write.list PartitionProfile.encode state.profiles,
      Write.list AcceleratorRecord.encode state.accelerators,
      Write.list (fun entry ↦
        List.flatten [Write.u64 entry.1, Write.text entry.2 limits.maxMetadataBytes])
        state.acceleratorKeys,
      Write.list (fun entry ↦ List.flatten [Write.u64 entry.1, CapacityLedger.encode entry.2])
        state.ledgers,
      Write.list PartitionRecord.encode state.partitions,
      Write.list PartitionReservation.encode state.reservations,
      Write.list PartitionAttempt.encode state.attempts,
      Write.list PartitionAssignment.encode state.assignments,
      Write.list WorkerRecord.encode state.workers]

def decodeAcceleratorKey : ReadM (AcceleratorId × Text) := do
  let id ← Read.u64
  let key ← Read.text 256
  pure (id, key)

def decodeLedgerEntry : ReadM (AcceleratorId × CapacityLedger) := do
  let id ← Read.u64
  let ledger ← decodeLedger
  pure (id, ledger)

def decodeDurableState (limits : Limits) : ReadM DurableState := do
  let formatVersion ← Read.u32
  let stateGeneration ← Read.u64
  let coordinatorEpoch ← Read.u64
  let policyGeneration ← Read.u64
  let nextIdentity ← Read.u64
  let savedAtMs ← Read.u64
  let instanceId ← Read.text limits.maxNameBytes
  let policy ← decodePolicy
  let profiles ← Read.list limits.maxPersistedRecords 8 decodeProfile
  let accelerators ← Read.list limits.maxPersistedRecords 8 decodeAccelerator
  let acceleratorKeys ← Read.list limits.maxPersistedRecords 8 decodeAcceleratorKey
  let ledgers ← Read.list limits.maxPersistedRecords 8 decodeLedgerEntry
  let partitions ← Read.list limits.maxPersistedRecords 8 decodePartition
  let reservations ← Read.list limits.maxPersistedRecords 8 decodeReservation
  let attempts ← Read.list limits.maxPersistedRecords 8 decodeAttempt
  let assignments ← Read.list limits.maxPersistedRecords 8 decodeAssignment
  let workers ← Read.list limits.maxPersistedRecords 8 decodeWorker
  pure {
    formatVersion, instanceId, stateGeneration, coordinatorEpoch, policyGeneration, nextIdentity,
    savedAtMs, policy, profiles, accelerators, acceleratorKeys, ledgers, partitions, reservations,
    attempts, assignments, workers }

/-- Succeeds only when a reader is fully consumed. -/
def finish {α : Type} (m : ReadM α) (bytes : List UInt8) : Result α :=
  match m bytes with
  | (_, .error e) => .error e
  | ([], .ok value) => .ok value
  | (rest, .ok _) => failure .protocolViolation "message carries trailing bytes"
      (decimal rest.length)

namespace PersistenceStore

/-- The header fields that the header hash covers. -/
def headerFields (version : UInt32) (payload : List UInt8) : List UInt8 :=
  containerMagic ++ (littleEndian 4 version.toNat ++ (littleEndian 4 endianMarker.toNat ++
    (littleEndian 8 payload.length.toUInt64.toNat ++
    littleEndian 8 (integrityHash payload).toNat)))

/-- A payload with its header. -/
def container (version : UInt32) (payload : List UInt8) : List UInt8 :=
  headerFields version payload ++
    (littleEndian 8 (integrityHash (headerFields version payload)).toNat ++ payload)

def encode (state : DurableState) (limits : Limits) : Result (List UInt8) := do
  state.validateDecoded limits
  let writer := ByteWriter.run { bound := limits.maxFrameBytes } (state.encode limits)
  match writer.error with
  | some e => .error e
  | none =>
    if writer.buffer.length > maxPayloadBytes then
      failure .limitExceeded "durable payload exceeds the container limit"
    else .ok (container state.formatVersion writer.buffer)

def decode (bytes : List UInt8) (limits : Limits) : Result DurableState :=
  if bytes.length < containerHeaderSize then
    failure .persistenceCorruption "durable state is truncated" (decimal bytes.length)
  else if bytes.take 8 ≠ containerMagic then
    failure .persistenceCorruption "durable state has invalid magic"
  else if readU32At bytes 8 ≠ persistenceFormatVersion then
    failure .persistenceCorruption "unsupported durable format version"
      (decimal (readU32At bytes 8).toNat)
  else if readU32At bytes 12 ≠ endianMarker then
    failure .persistenceCorruption "durable state byte order is not supported"
  else if (readU64At bytes 16).toNat > maxPayloadBytes ∨
      (readU64At bytes 16).toNat > bytes.length - containerHeaderSize then
    failure .persistenceCorruption "declared durable payload length is not usable"
      (decimal (readU64At bytes 16).toNat)
  else if bytes.length ≠ containerHeaderSize + (readU64At bytes 16).toNat then
    failure .persistenceCorruption "durable state size does not match its header"
  else if readU64At bytes 32 ≠ integrityHash (bytes.take 32) then
    failure .persistenceCorruption "durable header integrity check failed"
  else if readU64At bytes 24 ≠ integrityHash (bytes.drop containerHeaderSize) then
    failure .persistenceCorruption "durable payload integrity check failed"
  else
    match finish (decodeDurableState limits) (bytes.drop containerHeaderSize) with
    | .error e => failure .persistenceCorruption e.toText
    | .ok state =>
      match state.validateDecoded limits with
      | .error e => failure .persistenceCorruption e.toText
      | .ok _ => .ok state

/-- A byte string that the header checks accept. -/
structure Intact (bytes : List UInt8) : Prop where
  size : containerHeaderSize ≤ bytes.length
  magic : bytes.take 8 = containerMagic
  version : readU32At bytes 8 = persistenceFormatVersion
  marker : readU32At bytes 12 = endianMarker
  usable : (readU64At bytes 16).toNat ≤ maxPayloadBytes
  length : bytes.length = containerHeaderSize + (readU64At bytes 16).toNat
  header : readU64At bytes 32 = integrityHash (bytes.take 32)
  payload : readU64At bytes 24 = integrityHash (bytes.drop containerHeaderSize)

/-- Decoding checks the container, then its payload, then what the payload describes. -/
theorem decode_eq_ok_iff {bytes : List UInt8} {limits : Limits} {state : DurableState} :
    decode bytes limits = .ok state ↔
      Intact bytes ∧
        finish (decodeDurableState limits) (bytes.drop containerHeaderSize) = .ok state ∧
        state.validateDecoded limits = success := by
  unfold decode
  constructor
  · intro h
    split_ifs at h with hsize hmagic hversion hmarker husable hlength hheader hpayload
    · simp at h
    · simp at h
    · simp at h
    · simp at h
    · simp at h
    · simp at h
    · simp at h
    · simp at h
    · rw [not_or, not_lt, not_lt] at husable
      have hintact : Intact bytes :=
        ⟨not_lt.mp hsize, not_not.mp hmagic, not_not.mp hversion, not_not.mp hmarker, husable.1,
          not_not.mp hlength, not_not.mp hheader, not_not.mp hpayload⟩
      split at h
      · simp at h
      · rename_i decoded hfinish
        split at h
        · simp at h
        · rename_i hvalid
          cases h
          exact ⟨hintact, hfinish, hvalid⟩
  · rintro ⟨hintact, hfinish, hvalid⟩
    have husable : ¬ ((readU64At bytes 16).toNat > maxPayloadBytes ∨
        (readU64At bytes 16).toNat > bytes.length - containerHeaderSize) := by
      have hbound := hintact.usable
      have hlength := hintact.length
      omega
    rw [if_neg (not_lt.mpr hintact.size), if_neg (not_not.mpr hintact.magic),
      if_neg (not_not.mpr hintact.version), if_neg (not_not.mpr hintact.marker), if_neg husable,
      if_neg (not_not.mpr hintact.length), if_neg (not_not.mpr hintact.header),
      if_neg (not_not.mpr hintact.payload), hfinish]
    simp only [hvalid, success]

lemma decode_fails {bytes : List UInt8} (h : ¬ Intact bytes) (limits : Limits) :
    ∃ e, decode bytes limits = .error e := by
  cases hdecode : decode bytes limits with
  | error e => exact ⟨e, rfl⟩
  | ok state => exact absurd (decode_eq_ok_iff.mp hdecode).1 h

@[simp] lemma length_headerFields (version : UInt32) (payload : List UInt8) :
    (headerFields version payload).length = 32 := by
  have hmagic : containerMagic.length = 8 := by decide
  simp [headerFields, hmagic]

/-- The fields behind the magic, in order. -/
lemma container_fields (version : UInt32) (payload : List UInt8) :
    readU32At (container version payload) 8 = version ∧
      readU32At (container version payload) 12 = endianMarker ∧
      readU64At (container version payload) 16 = payload.length.toUInt64 ∧
      readU64At (container version payload) 24 = integrityHash payload ∧
      readU64At (container version payload) 32 =
        integrityHash (headerFields version payload) := by
  have hmagic : containerMagic = littleEndian 8 (Wire.ofLittleEndian containerMagic) := by decide
  have hlayout : container version payload = headerFields version payload ++
      (littleEndian 8 (integrityHash (headerFields version payload)).toNat ++ payload) := rfl
  generalize integrityHash (headerFields version payload) = hash at hlayout ⊢
  rw [hlayout, headerFields, hmagic]
  generalize integrityHash payload = inner
  generalize payload.length.toUInt64 = length
  simp only [List.append_assoc]
  refine ⟨?_, ?_, ?_, ?_, ?_⟩ <;> simp

lemma take_container (version : UInt32) (payload : List UInt8) :
    (container version payload).take 32 = headerFields version payload :=
  List.take_left' (length_headerFields version payload)

lemma drop_container (version : UInt32) (payload : List UInt8) :
    (container version payload).drop containerHeaderSize = payload := by
  rw [container, ← List.append_assoc]
  apply List.drop_left'
  simp [containerHeaderSize]

@[simp] lemma length_container (version : UInt32) (payload : List UInt8) :
    (container version payload).length = containerHeaderSize + payload.length := by
  simp only [container, List.length_append, length_headerFields, Wire.length_littleEndian,
    containerHeaderSize]
  omega

/-- A container with a payload of admissible length passes its own checks. -/
lemma intact_container {payload : List UInt8} (h : payload.length ≤ maxPayloadBytes) :
    Intact (container persistenceFormatVersion payload) := by
  obtain ⟨hversion, hmarker, hlength, hpayload, hheader⟩ :=
    container_fields persistenceFormatVersion payload
  have hwidth : payload.length.toUInt64.toNat = payload.length := by
    apply UInt64.toNat_ofNat_of_lt'
    unfold maxPayloadBytes at h
    change _ < 2 ^ 64
    omega
  have hmagic : (container persistenceFormatVersion payload).take 8 = containerMagic := by
    rw [container, headerFields, List.append_assoc]
    exact List.take_left' (by decide)
  refine ⟨?_, hmagic, hversion, hmarker, ?_, ?_, ?_, ?_⟩
  · rw [length_container]
    omega
  · rw [hlength, hwidth]
    exact h
  · rw [hlength, hwidth, length_container]
  · rw [hheader, take_container]
  · rw [hpayload, drop_container]

/-- What a successful encoding has checked and written. -/
theorem encode_eq_ok_iff {state : DurableState} {limits : Limits} {bytes : List UInt8} :
    encode state limits = .ok bytes ↔
      state.validateDecoded limits = success ∧
        (state.encode limits).Fits limits.maxFrameBytes ∧
        (state.encode limits).content.length ≤ maxPayloadBytes ∧
        bytes = container state.formatVersion (state.encode limits).content := by
  have hhealthy : ByteWriter.Healthy { bound := limits.maxFrameBytes } := ⟨rfl, Nat.zero_le _⟩
  have hrun := ByteWriter.wrote_run hhealthy (state.encode limits)
  have hleft : ByteWriter.left { bound := limits.maxFrameBytes } = limits.maxFrameBytes :=
    Nat.sub_zero _
  rw [hleft] at hrun
  have hpure : encode state limits = (state.validateDecoded limits).bind fun _ ↦
      match (ByteWriter.run { bound := limits.maxFrameBytes } (state.encode limits)).error with
      | some e => .error e
      | none =>
        if (ByteWriter.run { bound := limits.maxFrameBytes }
            (state.encode limits)).buffer.length > maxPayloadBytes then
          failure .limitExceeded "durable payload exceeds the container limit"
        else .ok (container state.formatVersion
          (ByteWriter.run { bound := limits.maxFrameBytes } (state.encode limits)).buffer) := rfl
  rw [hpure]
  generalize ByteWriter.run { bound := limits.maxFrameBytes } (state.encode limits) = w at hrun ⊢
  cases hvalid : state.validateDecoded limits with
  | error e => simp [Except.bind, success]
  | ok u =>
      by_cases hfits : (state.encode limits).Fits limits.maxFrameBytes
      · obtain ⟨hok, -, hbuffer⟩ := hrun.accepts hfits
        have hbuffer : w.buffer = (state.encode limits).content := by simpa using hbuffer
        have herror : w.error = none := by simpa [ByteWriter.ok] using hok.ok
        simp only [Except.bind, herror, hbuffer]
        by_cases hlarge : (state.encode limits).content.length > maxPayloadBytes
        · rw [if_pos hlarge]
          simp [hfits, not_le.mpr hlarge]
        · rw [if_neg hlarge]
          constructor
          · intro h
            exact ⟨rfl, hfits, not_lt.mp hlarge, (Except.ok.inj h).symm⟩
          · rintro ⟨-, -, -, rfl⟩
            rfl
      · obtain ⟨hfailed, -⟩ := hrun.refuses hfits
        cases herror : w.error with
        | none => simp [ByteWriter.ok, herror] at hfailed
        | some e => simp [Except.bind, hfits]

section Corruption

variable {bytes : List UInt8}

lemma readU64At_congr {data data' : List UInt8} {offset : ℕ}
    (h : data.take (offset + 8) = data'.take (offset + 8)) :
    readU64At data offset = readU64At data' offset := by
  rw [readU64At, Wire.numberAt_congr h, readU64At]

/-- A changed byte is noticed by the hash that covers it or is compared with it. -/
lemma not_intact_set (h : Intact bytes) {i : ℕ} (hi : i < bytes.length) {b : UInt8}
    (hb : bytes[i] ≠ b) : ¬ Intact (bytes.set i b) := by
  intro h'
  have hsize : 40 ≤ bytes.length := h.size
  rcases Nat.lt_or_ge i 32 with hheader | hheader
  · -- a header field: the stored header hash is still the old one
    have hstored : readU64At (bytes.set i b) 32 = readU64At bytes 32 := by
      rw [readU64At, readU64At, Wire.numberAt, Wire.numberAt, List.drop_set_of_lt hheader]
    have htake : (bytes.set i b).take 32 = (bytes.take 32).set i b := List.take_set
    have hlen : i < (bytes.take 32).length := by
      rw [List.length_take]
      omega
    have hne : (bytes.take 32)[i] ≠ b := by
      rw [List.getElem_take]
      exact hb
    apply integrityHash_set_ne hlen hne
    rw [← htake, ← h'.header, hstored, h.header]
  · rcases Nat.lt_or_ge i 40 with hhash | hhash
    · -- the header hash itself: the header is still the old one
      have htake : (bytes.set i b).take 32 = bytes.take 32 := List.take_set_of_le hheader
      have hstored : readU64At (bytes.set i b) 32 = readU64At bytes 32 := by
        rw [h'.header, h.header, htake]
      have hnew := take_readU64At (bytes.set i b) 32 (by rw [List.length_set]; omega)
      have hold := take_readU64At bytes 32 (by omega)
      rw [hstored, htake, ← hold] at hnew
      have hget := congrArg (·[i]?) hnew
      simp only [List.getElem?_take, hhash, if_true, List.getElem?_set_self hi,
        List.getElem?_eq_getElem hi, Option.some.injEq] at hget
      exact hb hget.symm
    · -- the payload: the stored payload hash is still the old one
      have hstored : readU64At (bytes.set i b) 24 = readU64At bytes 24 :=
        readU64At_congr (List.take_set_of_le (by omega))
      have hdrop : (bytes.set i b).drop 40 = (bytes.drop 40).set (i - 40) b := by
        rw [List.drop_set, if_neg (by omega)]
      have hlen : i - 40 < (bytes.drop 40).length := by
        rw [List.length_drop]
        omega
      have hne : (bytes.drop 40)[i - 40] ≠ b := by
        rw [List.getElem_drop]
        simpa [Nat.add_sub_cancel' hhash] using hb
      apply integrityHash_set_ne hlen hne
      rw [← hdrop]
      exact h'.payload.symm.trans (hstored.trans h.payload)

/-- A byte string of another length than the header declares is refused. -/
lemma not_intact_of_length (h : Intact bytes) {other : List UInt8}
    (hlength : other.length ≠ bytes.length) (htake : other.take 24 = bytes.take 24) :
    ¬ Intact other := by
  intro h'
  have hdeclared : readU64At other 16 = readU64At bytes 16 := readU64At_congr htake
  apply hlength
  rw [h'.length, h.length, hdeclared]

lemma not_intact_take (h : Intact bytes) {k : ℕ} (hk : k < bytes.length) :
    ¬ Intact (bytes.take k) := by
  intro h'
  have hsize : 40 ≤ (bytes.take k).length := h'.size
  rw [List.length_take] at hsize
  apply not_intact_of_length h ?_ ?_ h'
  · rw [List.length_take]
    omega
  · rw [List.take_take, Nat.min_eq_left (by omega)]

lemma not_intact_append (h : Intact bytes) {suffix : List UInt8} (hsuffix : suffix ≠ []) :
    ¬ Intact (bytes ++ suffix) := by
  have hsize : 40 ≤ bytes.length := h.size
  have hpos : 0 < suffix.length := List.length_pos_of_ne_nil hsuffix
  apply not_intact_of_length h
  · rw [List.length_append]
    omega
  · exact List.take_append_of_le_length (by omega)

end Corruption

end PersistenceStore

lemma DurableState.formatVersion_of_valid {state : DurableState} {limits : Limits}
    (h : state.validateDecoded limits = success) :
    state.formatVersion = persistenceFormatVersion := by
  unfold DurableState.validateDecoded at h
  by_contra hne
  rw [if_pos hne] at h
  simp [success] at h

/-- Every single-byte change, every truncation and every extension of a container is detected. -/
theorem corruption_detected {state : DurableState} {limits : Limits} {bytes : List UInt8}
    (h : PersistenceStore.encode state limits = .ok bytes) (limits' : Limits) :
    (∀ (i : ℕ) (b : UInt8) (hi : i < bytes.length), bytes[i] ≠ b →
      ∃ e, PersistenceStore.decode (bytes.set i b) limits' = .error e) ∧
    (∀ k < bytes.length, ∃ e, PersistenceStore.decode (bytes.take k) limits' = .error e) ∧
    ∀ suffix : List UInt8, suffix ≠ [] →
      ∃ e, PersistenceStore.decode (bytes ++ suffix) limits' = .error e := by
  obtain ⟨hvalid, -, hlength, rfl⟩ := PersistenceStore.encode_eq_ok_iff.mp h
  rw [DurableState.formatVersion_of_valid hvalid]
  have hintact := PersistenceStore.intact_container hlength
  refine ⟨?_, ?_, ?_⟩
  · intro i b hi hb
    exact PersistenceStore.decode_fails (PersistenceStore.not_intact_set hintact hi hb) limits'
  · intro k hk
    exact PersistenceStore.decode_fails (PersistenceStore.not_intact_take hintact hk) limits'
  · intro suffix hsuffix
    exact PersistenceStore.decode_fails (PersistenceStore.not_intact_append hintact hsuffix) limits'

namespace Sample

/-- A quantity of memory, as it is stored. -/
def storedMemory (bytes : UInt64) : ResourceVector :=
  { values := fun d ↦ if d = .memoryBytes then bytes else 0
    mask := ResourceDimension.memoryBytes.bit }

def storedProfile : PartitionProfile :=
  { id := 1
    generation := 1
    name := "β slice"
    vendorNative := "1g"
    backend := "synthetic"
    mechanism := .synthetic
    resources := storedMemory 4
    memorySliceCount := 1
    mutuallyExclusiveWith := [12]
    backendRequirements := ["tooling"] }

def storedEvidence : EvidenceStamp :=
  { generation := 1, provenance := .synthetic, ttlMs := 1000000, source := "scan",
    observed := true }

def storedDevice : AcceleratorRecord :=
  { id := 2
    generation := 1
    bootId := 7
    backend := "synthetic"
    identifiers := { vendor := "vendor", uuid := "uuid" }
    physicalTotals := storedMemory 16
    capability :=
      { accelerator := 2
        deviceGeneration := 1
        generation := 1
        support := .supported
        mechanism := .synthetic
        mechanismName := "slices"
        supportedProfiles := [1]
        combinationRules := [{ profile := 1, maxInstances := 4, incompatibleWith := [12] }]
        maxPartitionCount := 8
        exposedDimensions := [.memoryBytes]
        evidence := storedEvidence }
    locality := { name := "rack" }
    evidence := storedEvidence }

/-- Half of the memory is free, and a quarter each is active and reserved. -/
def storedLedger : CapacityLedger where
  buckets b := storedMemory (if b = .free then 8 else if b = .active || b = .reserved then 4 else 0)
  total := storedMemory 16
  validBuckets b := by
    cases b <;> decide
  validTotal := by decide

/-- A slice that was created and is occupied, and one that is still reserved. -/
def storedPartitions : List PartitionRecord :=
  let slice : PartitionRecord :=
    { id := 4, generation := 2, accelerator := 2, acceleratorGeneration := 1, profile := 1,
      resources := storedMemory 4, state := .active, heldBucket := some .active,
      supersededGenerations := [1], nativeIdentity := { nativeId := "a" }, evidence := storedEvidence }
  [slice, { slice with
    id := 6, state := .reserved, heldBucket := some .reserved, nativeIdentity := {} }]

/-- A state with records of each kind. -/
def furnished : DurableState :=
  let committed : PartitionReservation :=
    { id := 3, plan := 11, planGeneration := 1, accelerator := 2, acceleratorGeneration := 1,
      capabilityGeneration := 1, policyGeneration := 1, lifecycle := .committed,
      partitions := [4], partitionGenerations := [1], resources := storedMemory 4,
      reason := "verified" }
  let succeeded : PartitionAttempt :=
    { id := 7, reservation := 3, accelerator := 2, acceleratorGeneration := 1, partitions := [4],
      desired := [{ profile := 1, resources := storedMemory 4 }], state := .succeeded,
      settledAtMs := 5, detail := "created" }
  let occupied : PartitionAssignment :=
    { id := 8, partition := 4, partitionGeneration := 2, accelerator := 2,
      acceleratorGeneration := 1, workloadId := "workload", tenantId := "tenant" }
  { instanceId := "fabric"
    stateGeneration := 9
    coordinatorEpoch := 2
    policyGeneration := 1
    nextIdentity := 13
    profiles := [storedProfile]
    accelerators := [storedDevice]
    acceleratorKeys := [(2, "gpu")]
    ledgers := [(2, storedLedger)]
    partitions := storedPartitions
    reservations := [committed, { committed with id := 5, lifecycle := .active, partitions := [6] }]
    attempts := [succeeded]
    assignments := [occupied]
    workers := [{ id := 9, boot := 10, endpoint := "host", backend := "synthetic", alive := true }] }

end Sample

/-- A state with records of each kind is saved. -/
lemma encode_furnished : PersistenceStore.encode Sample.furnished {} = .ok
    (PersistenceStore.container persistenceFormatVersion (Sample.furnished.encode {}).content) := by
  have hvalid : Sample.furnished.validateDecoded {} = success := by decide +kernel
  have hfits : (Sample.furnished.encode {}).Fits 1048576 := ⟨by decide +kernel, by decide +kernel⟩
  have hlength : (Sample.furnished.encode {}).content.length ≤ maxPayloadBytes := by decide +kernel
  exact PersistenceStore.encode_eq_ok_iff.mpr ⟨hvalid, hfits, hlength, rfl⟩

/-- A byte within the stored records is changed, the last record is cut off, and a byte follows. -/
theorem corruption_detected_furnished :
    ∃ bytes, PersistenceStore.encode Sample.furnished {} = .ok bytes ∧ 1000 < bytes.length ∧
      (∃ e, PersistenceStore.decode (bytes.set 200 0xA5) {} = .error e) ∧
      (∃ e, PersistenceStore.decode (bytes.take 1000) {} = .error e) ∧
      ∃ e, PersistenceStore.decode (bytes ++ [0]) {} = .error e := by
  obtain ⟨hset, htake, happend⟩ := corruption_detected encode_furnished {}
  have hlong : 1000 < (PersistenceStore.container persistenceFormatVersion
      (Sample.furnished.encode {}).content).length := by decide +kernel
  have hbyte : (PersistenceStore.container persistenceFormatVersion
      (Sample.furnished.encode {}).content)[200]? ≠ some 0xA5 := by decide +kernel
  have hwithin : 200 < (PersistenceStore.container persistenceFormatVersion
      (Sample.furnished.encode {}).content).length := by omega
  refine ⟨_, encode_furnished, hlong, hset 200 0xA5 hwithin fun h ↦ hbyte ?_, htake 1000 hlong,
    happend [0] (by decide)⟩
  rw [List.getElem?_eq_getElem hwithin, h]

end PartitionFabric
