import PartitionFabric.Codec.Writer
import PartitionFabric.Foundation.Wire

/-!
The framed protocol: a fixed header with an integrity check in front of a payload.
-/

namespace PartitionFabric

open Wire (littleEndian numberAt)

/-- Wire identity of the framed protocol: the bytes of `APF1`. -/
def frameMagic : UInt32 := 0x31465041

def frameHeaderSize : ℕ := 56

def protocolVersion : UInt16 := 1

def reservedMustBeZero : UInt32 := 0

inductive MessageType where
  | invalid | hello | helloAck | registerWorker | registerAck | evidencePublish | evidenceAck
  | mutationRequest | mutationResult | queryRequest | queryResponse | fenceWorker | fenceAck
  | heartbeat | heartbeatAck | shutdown | errorResponse | reconcileRequest | reconcileResponse
  | adminRequest | adminResponse | commandRequest | commandResponse | count
deriving DecidableEq, Repr

namespace MessageType

/-- The types in the order of their numbers. -/
def all : List MessageType :=
  [invalid, hello, helloAck, registerWorker, registerAck, evidencePublish, evidenceAck,
    mutationRequest, mutationResult, queryRequest, queryResponse, fenceWorker, fenceAck, heartbeat,
    heartbeatAck, shutdown, errorResponse, reconcileRequest, reconcileResponse, adminRequest,
    adminResponse, commandRequest, commandResponse, count]

/-- The number of a type; it is part of the protocol contract. -/
def raw (type : MessageType) : UInt16 := (all.idxOf type).toUInt16

def ofRaw (value : UInt16) : MessageType := all.getD value.toNat count

/-- A type that a message can have. -/
def Valid (type : MessageType) : Prop := type ≠ invalid ∧ type ≠ count

@[simp] lemma ofRaw_raw (type : MessageType) : ofRaw type.raw = type := by
  cases type <;> rfl

lemma raw_ofRaw {value : UInt16} (h : value < count.raw) : (ofRaw value).raw = value := by
  have hlt : value.toNat < 23 := UInt16.lt_iff_toNat_lt.mp h
  have hall : ∀ k < 23, (ofRaw k.toUInt16).raw = k.toUInt16 := by decide
  have hvalue := hall value.toNat hlt
  rwa [show value.toNat.toUInt16 = value from UInt16.ofNat_toNat] at hvalue

/-- The test that both directions make. -/
lemma valid_iff (type : MessageType) :
    type.Valid ↔ ¬ (type.raw = 0 ∨ count.raw ≤ type.raw) := by
  unfold Valid
  cases type <;> decide

end MessageType

/-- A decoded frame. -/
structure Frame where
  type : MessageType := .invalid
  flags : UInt32 := 0
  sequence : UInt64 := 0
  coordinatorEpoch : CoordinatorEpoch := 0
  worker : WorkerId := 0
  workerBoot : WorkerBootId := 0
  payload : List UInt8 := []
deriving DecidableEq, Repr

/-- The header as it appears on the wire. -/
structure FrameHeader where
  magic : UInt32 := frameMagic
  version : UInt16 := protocolVersion
  type : MessageType := .invalid
  flags : UInt32 := 0
  payloadLen : UInt32 := 0
  reserved : UInt32 := 0
  sequence : UInt64 := 0
  coordinatorEpoch : CoordinatorEpoch := 0
  worker : WorkerId := 0
  workerBoot : WorkerBootId := 0
  checksum : UInt32 := 0
deriving DecidableEq, Repr

def writeU32At (buffer : List UInt8) (offset : ℕ) (value : UInt32) : List UInt8 :=
  buffer.take offset ++ littleEndian 4 value.toNat ++ buffer.drop (offset + 4)

def readU16At (data : List UInt8) (offset : ℕ) : UInt16 := (numberAt data offset 2).toUInt16

def readU32At (data : List UInt8) (offset : ℕ) : UInt32 := (numberAt data offset 4).toUInt32

def readU64At (data : List UInt8) (offset : ℕ) : UInt64 := (numberAt data offset 8).toUInt64

/-- The integrity check over the header without its last field, and the payload. -/
def frameChecksum (header payload : List UInt8) : UInt32 :=
  let hash := mixBytes (mixBytes fnvBasis (header.take (frameHeaderSize - 4))) payload
  ((hash >>> 32) ^^^ (hash &&& 0xFFFFFFFF)).toUInt32

/-- The header fields in front of the checksum. -/
def Frame.headerFields (frame : Frame) : List UInt8 :=
  littleEndian 4 frameMagic.toNat ++ (littleEndian 2 protocolVersion.toNat ++
    (littleEndian 2 frame.type.raw.toNat ++ (littleEndian 4 frame.flags.toNat ++
    (littleEndian 4 frame.payload.length.toUInt32.toNat ++
    (littleEndian 4 reservedMustBeZero.toNat ++ (littleEndian 8 frame.sequence.toNat ++
    (littleEndian 8 frame.coordinatorEpoch.toNat ++ (littleEndian 8 frame.worker.toNat ++
    littleEndian 8 frame.workerBoot.toNat))))))))

/-- Frames the payload with a header and integrity check. -/
def encodeFrame (frame : Frame) (limits : Limits) : Result (List UInt8) :=
  if frame.type = .invalid ∨ MessageType.count.raw ≤ frame.type.raw then
    failure .protocolViolation "cannot encode an invalid message type"
  else if frame.payload.length > limits.maxFrameBytes then
    failure .limitExceeded "frame payload exceeds the configured bound"
      (decimal frame.payload.length)
  else
    let header := frame.headerFields ++ littleEndian 4 0
    let checksum := frameChecksum header frame.payload
    .ok (writeU32At header (frameHeaderSize - 4) checksum ++ frame.payload)

/-- Validates just the header. -/
def decodeFrameHeader (data : List UInt8) (limits : Limits) : Result FrameHeader :=
  if data.length < frameHeaderSize then
    failure .protocolViolation "truncated frame header" (decimal data.length)
  else if readU32At data 0 ≠ frameMagic then
    failure .protocolViolation "invalid frame magic" (decimal (readU32At data 0).toNat)
  else if readU16At data 4 ≠ protocolVersion then
    failure .protocolViolation "unsupported protocol version" (decimal (readU16At data 4).toNat)
  else if readU16At data 6 = 0 ∨ MessageType.count.raw ≤ readU16At data 6 then
    failure .protocolViolation "unknown message type" (decimal (readU16At data 6).toNat)
  else if readU32At data 16 ≠ reservedMustBeZero then
    failure .protocolViolation "reserved header field is not zero"
  else if (readU32At data 12).toNat > limits.maxFrameBytes then
    failure .limitExceeded "declared payload length exceeds the bound"
      (decimal (readU32At data 12).toNat)
  else
    .ok {
      magic := readU32At data 0
      version := readU16At data 4
      type := MessageType.ofRaw (readU16At data 6)
      flags := readU32At data 8
      payloadLen := readU32At data 12
      reserved := readU32At data 16
      sequence := readU64At data 20
      coordinatorEpoch := readU64At data 28
      worker := readU64At data 36
      workerBoot := readU64At data 44
      checksum := readU32At data 52 }

/-- Decodes and validates a complete frame. -/
def decodeFrame (data : List UInt8) (limits : Limits) : Result Frame := do
  let header ← decodeFrameHeader data limits
  let expected := frameHeaderSize + header.payloadLen.toNat
  if data.length ≠ expected then
    failure .protocolViolation "frame length does not match the declared size"
      (decimal data.length ++ (" != " : Text) ++ decimal expected)
  else
    let headerBytes := data.take frameHeaderSize
    let payload := data.drop frameHeaderSize
    let headerBytes := writeU32At headerBytes (frameHeaderSize - 4) 0
    if frameChecksum headerBytes payload ≠ header.checksum then
      failure .protocolViolation "frame integrity check failed"
    else
      .ok {
        type := header.type
        flags := header.flags
        sequence := header.sequence
        coordinatorEpoch := header.coordinatorEpoch
        worker := header.worker
        workerBoot := header.workerBoot
        payload := payload }

section Fields

variable {k offset : ℕ} (v : ℕ) (rest : List UInt8)

@[simp] lemma readU16At_skip (h : k ≤ offset) :
    readU16At (littleEndian k v ++ rest) offset = readU16At rest (offset - k) := by
  rw [readU16At, Wire.numberAt_skip v rest 2 h, readU16At]

@[simp] lemma readU32At_skip (h : k ≤ offset) :
    readU32At (littleEndian k v ++ rest) offset = readU32At rest (offset - k) := by
  rw [readU32At, Wire.numberAt_skip v rest 4 h, readU32At]

@[simp] lemma readU64At_skip (h : k ≤ offset) :
    readU64At (littleEndian k v ++ rest) offset = readU64At rest (offset - k) := by
  rw [readU64At, Wire.numberAt_skip v rest 8 h, readU64At]

@[simp] lemma readU16At_here (v : UInt16) : readU16At (littleEndian 2 v.toNat ++ rest) 0 = v := by
  have hv : v.toNat < 256 ^ 2 := UInt16.toNat_lt v
  rw [readU16At, Wire.numberAt_here, Nat.mod_eq_of_lt hv]
  exact UInt16.ofNat_toNat

@[simp] lemma readU32At_here (v : UInt32) : readU32At (littleEndian 4 v.toNat ++ rest) 0 = v := by
  have hv : v.toNat < 256 ^ 4 := UInt32.toNat_lt v
  rw [readU32At, Wire.numberAt_here, Nat.mod_eq_of_lt hv]
  exact UInt32.ofNat_toNat

@[simp] lemma readU64At_here (v : UInt64) : readU64At (littleEndian 8 v.toNat ++ rest) 0 = v := by
  have hv : v.toNat < 256 ^ 8 := UInt64.toNat_lt v
  rw [readU64At, Wire.numberAt_here, Nat.mod_eq_of_lt hv]
  exact UInt64.ofNat_toNat

end Fields

section Slices

variable (data : List UInt8) (offset : ℕ)

lemma take_readU16At (h : offset + 2 ≤ data.length) :
    data.take (offset + 2) = data.take offset ++ littleEndian 2 (readU16At data offset).toNat := by
  have hlt : numberAt data offset 2 < 2 ^ 16 := Wire.numberAt_lt data offset 2
  rw [Wire.take_numberAt h, readU16At, Nat.toUInt16, UInt16.toNat_ofNat_of_lt' hlt]

lemma take_readU32At (h : offset + 4 ≤ data.length) :
    data.take (offset + 4) = data.take offset ++ littleEndian 4 (readU32At data offset).toNat := by
  have hlt : numberAt data offset 4 < 2 ^ 32 := Wire.numberAt_lt data offset 4
  rw [Wire.take_numberAt h, readU32At, Nat.toUInt32, UInt32.toNat_ofNat_of_lt' hlt]

lemma take_readU64At (h : offset + 8 ≤ data.length) :
    data.take (offset + 8) = data.take offset ++ littleEndian 8 (readU64At data offset).toNat := by
  have hlt : numberAt data offset 8 < 2 ^ 64 := Wire.numberAt_lt data offset 8
  rw [Wire.take_numberAt h, readU64At, Nat.toUInt64, UInt64.toNat_ofNat_of_lt' hlt]

end Slices

/-- The checksum does not depend on its own field. -/
lemma frameChecksum_append {fields : List UInt8} (h : fields.length = frameHeaderSize - 4)
    (field payload : List UInt8) :
    frameChecksum (fields ++ field) payload = frameChecksum fields payload := by
  unfold frameChecksum
  rw [List.take_left' h, List.take_of_length_le (le_of_eq h)]

/-- The last header field is replaced. -/
lemma writeU32At_last {fields : List UInt8} (h : fields.length = frameHeaderSize - 4) (old : ℕ)
    (value : UInt32) :
    writeU32At (fields ++ littleEndian 4 old) (frameHeaderSize - 4) value =
      fields ++ littleEndian 4 value.toNat := by
  have hdrop : (fields ++ littleEndian 4 old).drop (frameHeaderSize - 4 + 4) = [] := by
    apply List.drop_of_length_le
    simp [h]
  rw [writeU32At, List.take_left' h, hdrop, List.append_nil]

@[simp] lemma Frame.length_headerFields (frame : Frame) :
    frame.headerFields.length = frameHeaderSize - 4 := by
  simp [headerFields, frameHeaderSize]

/-- A frame as it appears on the wire. -/
def Frame.onWire (frame : Frame) : List UInt8 :=
  frame.headerFields ++
    (littleEndian 4 (frameChecksum frame.headerFields frame.payload).toNat ++ frame.payload)

lemma encodeFrame_eq (frame : Frame) (limits : Limits) (htype : frame.type.Valid)
    (hpayload : frame.payload.length ≤ limits.maxFrameBytes) :
    encodeFrame frame limits = .ok frame.onWire := by
  have hfields := frame.length_headerFields
  have hcheck : ¬ (frame.type = .invalid ∨ MessageType.count.raw ≤ frame.type.raw) := by
    have h := (MessageType.valid_iff frame.type).mp htype
    rintro (hinvalid | hcount)
    · exact htype.1 hinvalid
    · exact h (Or.inr hcount)
  rw [encodeFrame, if_neg hcheck, if_neg (by omega)]
  simp only [frameChecksum_append hfields, writeU32At_last hfields, Frame.onWire,
    List.append_assoc]

/-- Clearing the checksum field of a received header leaves what the check covers. -/
lemma frameChecksum_cleared {data : List UInt8} (h : frameHeaderSize ≤ data.length)
    (payload : List UInt8) :
    frameChecksum (writeU32At (data.take frameHeaderSize) (frameHeaderSize - 4) 0) payload =
      frameChecksum (data.take (frameHeaderSize - 4)) payload := by
  have hlen : (data.take (frameHeaderSize - 4)).length = frameHeaderSize - 4 := by
    rw [List.length_take]
    omega
  have htake : (data.take frameHeaderSize).take (frameHeaderSize - 4) =
      data.take (frameHeaderSize - 4) := by
    rw [List.take_take]
    rfl
  rw [writeU32At, htake, List.append_assoc, frameChecksum_append hlen]

/-- What a received header has to satisfy. -/
structure HeaderAccepted (data : List UInt8) (limits : Limits) : Prop where
  size : frameHeaderSize ≤ data.length
  magic : readU32At data 0 = frameMagic
  version : readU16At data 4 = protocolVersion
  type : ¬ (readU16At data 6 = 0 ∨ MessageType.count.raw ≤ readU16At data 6)
  reserved : readU32At data 16 = reservedMustBeZero
  payloadLen : (readU32At data 12).toNat ≤ limits.maxFrameBytes

/-- The header that the bytes carry. -/
def headerOf (data : List UInt8) : FrameHeader where
  magic := readU32At data 0
  version := readU16At data 4
  type := MessageType.ofRaw (readU16At data 6)
  flags := readU32At data 8
  payloadLen := readU32At data 12
  reserved := readU32At data 16
  sequence := readU64At data 20
  coordinatorEpoch := readU64At data 28
  worker := readU64At data 36
  workerBoot := readU64At data 44
  checksum := readU32At data 52

lemma decodeFrameHeader_eq_ok_iff {data : List UInt8} {limits : Limits} {header : FrameHeader} :
    decodeFrameHeader data limits = .ok header ↔
      HeaderAccepted data limits ∧ header = headerOf data := by
  unfold decodeFrameHeader
  constructor
  · intro h
    split_ifs at h with hsize hmagic hversion htype hreserved hpayload
    · simp at h
    · simp at h
    · simp at h
    · simp at h
    · simp at h
    · simp at h
    · refine ⟨⟨?_, ?_, ?_, htype, ?_, ?_⟩, (Except.ok.inj h).symm⟩
      · exact not_lt.mp hsize
      · exact not_not.mp hmagic
      · exact not_not.mp hversion
      · exact not_not.mp hreserved
      · exact not_lt.mp hpayload
  · rintro ⟨h, rfl⟩
    rw [if_neg (not_lt.mpr h.size), if_neg (not_not.mpr h.magic), if_neg (not_not.mpr h.version),
      if_neg h.type, if_neg (not_not.mpr h.reserved), if_neg (not_lt.mpr h.payloadLen)]
    rfl

/-- The frame that the bytes carry. -/
def frameOf (data : List UInt8) : Frame where
  type := MessageType.ofRaw (readU16At data 6)
  flags := readU32At data 8
  sequence := readU64At data 20
  coordinatorEpoch := readU64At data 28
  worker := readU64At data 36
  workerBoot := readU64At data 44
  payload := data.drop frameHeaderSize

/-- Everything a successful decoding has checked, and what it returns. -/
theorem decodeFrame_eq_ok_iff {data : List UInt8} {limits : Limits} {frame : Frame} :
    decodeFrame data limits = .ok frame ↔
      HeaderAccepted data limits ∧ data.length = frameHeaderSize + (readU32At data 12).toNat ∧
        frameChecksum (data.take (frameHeaderSize - 4)) (data.drop frameHeaderSize) =
          readU32At data 52 ∧ frame = frameOf data := by
  unfold decodeFrame
  constructor
  · intro h
    cases hheader : decodeFrameHeader data limits with
    | error e =>
        rw [hheader] at h
        cases h
    | ok header =>
        rw [hheader] at h
        obtain ⟨haccepted, rfl⟩ := decodeFrameHeader_eq_ok_iff.mp hheader
        simp only [bind, Except.bind, frameChecksum_cleared haccepted.size] at h
        split_ifs at h with hlength hchecksum
        · simp at h
        · simp at h
        · exact ⟨haccepted, not_not.mp hlength, not_not.mp hchecksum, (Except.ok.inj h).symm⟩
  · rintro ⟨haccepted, hlength, hchecksum, rfl⟩
    rw [decodeFrameHeader_eq_ok_iff.mpr ⟨haccepted, rfl⟩]
    simp only [bind, Except.bind, frameChecksum_cleared haccepted.size]
    have hlen : ¬ data.length ≠ frameHeaderSize + (headerOf data).payloadLen.toNat :=
      not_not.mpr hlength
    have hsum : ¬ frameChecksum (data.take (frameHeaderSize - 4)) (data.drop frameHeaderSize) ≠
        (headerOf data).checksum := not_not.mpr hchecksum
    rw [if_neg hlen, if_neg hsum]
    rfl

/-- A received header is the header of the frame it carries. -/
lemma headerFields_frameOf {data : List UInt8} {limits : Limits} (h : HeaderAccepted data limits)
    (hlength : data.length = frameHeaderSize + (readU32At data 12).toNat) :
    (frameOf data).headerFields = data.take (frameHeaderSize - 4) := by
  have hsize : 56 ≤ data.length := h.size
  have hpayload : (frameOf data).payload.length.toUInt32 = readU32At data 12 := by
    have hdrop : (frameOf data).payload.length = (readU32At data 12).toNat := by
      change (data.drop frameHeaderSize).length = _
      rw [List.length_drop]
      omega
    rw [hdrop]
    exact UInt32.ofNat_toNat
  have htype : (frameOf data).type.raw = readU16At data 6 := by
    apply MessageType.raw_ofRaw
    rw [← UInt16.not_le]
    exact fun hle ↦ h.type (Or.inr hle)
  have hchain : data.take 52 = _ := take_readU64At data 44 (by omega)
  rw [take_readU64At data 36 (by omega), take_readU64At data 28 (by omega),
    take_readU64At data 20 (by omega), take_readU32At data 16 (by omega),
    take_readU32At data 12 (by omega), take_readU32At data 8 (by omega),
    take_readU16At data 6 (by omega), take_readU16At data 4 (by omega),
    take_readU32At data 0 (by omega), h.magic, h.version, h.reserved] at hchain
  rw [Frame.headerFields, hpayload, htype]
  change _ = data.take 52
  rw [hchain]
  simp only [List.take_zero, List.nil_append, List.append_assoc]
  rfl

/-- Every field of a frame is found at its place. -/
lemma frame_fields (frame : Frame) :
    readU32At frame.onWire 0 = frameMagic ∧ readU16At frame.onWire 4 = protocolVersion ∧
      readU16At frame.onWire 6 = frame.type.raw ∧ readU32At frame.onWire 8 = frame.flags ∧
      readU32At frame.onWire 12 = frame.payload.length.toUInt32 ∧
      readU32At frame.onWire 16 = reservedMustBeZero ∧
      readU64At frame.onWire 20 = frame.sequence ∧
      readU64At frame.onWire 28 = frame.coordinatorEpoch ∧
      readU64At frame.onWire 36 = frame.worker ∧ readU64At frame.onWire 44 = frame.workerBoot ∧
      readU32At frame.onWire 52 = frameChecksum frame.headerFields frame.payload := by
  have hlayout : frame.onWire = frame.headerFields ++
      (littleEndian 4 (frameChecksum frame.headerFields frame.payload).toNat ++
        frame.payload) := rfl
  generalize frameChecksum frame.headerFields frame.payload = checksum at hlayout ⊢
  rw [hlayout, Frame.headerFields]
  generalize frame.payload.length.toUInt32 = payloadLen
  simp only [List.append_assoc]
  refine ⟨?_, ?_, ?_, ?_, ?_, ?_, ?_, ?_, ?_, ?_, ?_⟩ <;> simp

/-- What is on the wire is a well-formed frame. -/
lemma decodeFrame_onWire {frame : Frame} {limits : Limits} (hlimits : limits.validate = success)
    (htype : frame.type.Valid) (hpayload : frame.payload.length ≤ limits.maxFrameBytes) :
    decodeFrame frame.onWire limits = .ok frame := by
  obtain ⟨hmagic, hversion, hraw, hflags, hlen, hreserved, hsequence, hepoch, hworker, hboot,
    hchecksum⟩ := frame_fields frame
  have hfields := frame.length_headerFields
  have hbound := Limits.maxFrameBytes_le hlimits
  have hwidth : frame.payload.length.toUInt32.toNat = frame.payload.length := by
    apply UInt32.toNat_ofNat_of_lt'
    change _ < 2 ^ 32
    omega
  have hdrop : frame.onWire.drop frameHeaderSize = frame.payload := by
    rw [Frame.onWire, ← List.append_assoc]
    apply List.drop_left'
    simp [hfields, frameHeaderSize]
  have htake : frame.onWire.take (frameHeaderSize - 4) = frame.headerFields :=
    List.take_left' hfields
  have hsize : frame.onWire.length = frameHeaderSize + frame.payload.length := by
    simp only [Frame.onWire, List.length_append, hfields, Wire.length_littleEndian, frameHeaderSize]
    omega
  rw [decodeFrame_eq_ok_iff]
  refine ⟨⟨?_, hmagic, hversion, ?_, hreserved, ?_⟩, ?_, ?_, ?_⟩
  · omega
  · rw [hraw]
    exact (MessageType.valid_iff frame.type).mp htype
  · rw [hlen, hwidth]
    exact hpayload
  · rw [hlen, hwidth, hsize]
  · rw [htake, hdrop, hchecksum]
  · rw [frameOf, hraw, MessageType.ofRaw_raw, hflags, hsequence, hepoch, hworker, hboot, hdrop]

/-- A byte string that carries a frame is what that frame looks like on the wire. -/
lemma onWire_frameOf {data : List UInt8} {limits : Limits} (h : HeaderAccepted data limits)
    (hlength : data.length = frameHeaderSize + (readU32At data 12).toNat)
    (hchecksum : frameChecksum (data.take (frameHeaderSize - 4)) (data.drop frameHeaderSize) =
      readU32At data 52) : (frameOf data).onWire = data := by
  have hsize : 56 ≤ data.length := h.size
  have hlast : data.take 56 = data.take 52 ++ littleEndian 4 (readU32At data 52).toNat :=
    take_readU32At data 52 (by omega)
  have hpayload : (frameOf data).payload = data.drop frameHeaderSize := rfl
  rw [Frame.onWire, headerFields_frameOf h hlength, hpayload, hchecksum, ← List.append_assoc]
  change data.take 52 ++ _ ++ data.drop 56 = data
  rw [← hlast, List.take_append_drop]

/-- Frames and accepted byte strings correspond to each other. -/
theorem frame_codec_bijective {limits : Limits} (hlimits : limits.validate = success) :
    (∀ frame : Frame, frame.type.Valid → frame.payload.length ≤ limits.maxFrameBytes →
      ∃ data, encodeFrame frame limits = .ok data ∧ decodeFrame data limits = .ok frame) ∧
    ∀ (data : List UInt8) (frame : Frame), decodeFrame data limits = .ok frame →
      encodeFrame frame limits = .ok data := by
  constructor
  · intro frame htype hpayload
    have hencode := encodeFrame_eq frame limits htype hpayload
    exact ⟨frame.onWire, hencode, decodeFrame_onWire hlimits htype hpayload⟩
  · intro data frame hdecode
    obtain ⟨haccepted, hlength, hchecksum, rfl⟩ := decodeFrame_eq_ok_iff.mp hdecode
    have htype : (frameOf data).type.Valid := by
      rw [MessageType.valid_iff]
      have hraw : (frameOf data).type.raw = readU16At data 6 := by
        apply MessageType.raw_ofRaw
        rw [← UInt16.not_le]
        exact fun hle ↦ haccepted.type (Or.inr hle)
      rw [hraw]
      exact haccepted.type
    have hpayload : (frameOf data).payload.length ≤ limits.maxFrameBytes := by
      have hbound := haccepted.payloadLen
      change (data.drop frameHeaderSize).length ≤ _
      rw [List.length_drop]
      omega
    rw [encodeFrame_eq _ limits htype hpayload, onWire_frameOf haccepted hlength hchecksum]

theorem frame_codec_bijective_default :
    ∃ data, encodeFrame { type := .hello, sequence := 7, payload := [1, 2, 3] } {} = .ok data ∧
      decodeFrame data {} = .ok { type := .hello, sequence := 7, payload := [1, 2, 3] } := by
  have hlimits : Limits.validate {} = success := by decide
  have htype : MessageType.hello.Valid := ⟨by decide, by decide⟩
  exact (frame_codec_bijective hlimits).1 _ htype (by decide)

end PartitionFabric
