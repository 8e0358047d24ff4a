import PartitionFabric.Codec.Frame
import PartitionFabric.Foundation.Chunked

/-!
Sockets and the framed channels over them.

A connection is a pair of byte streams. The operating system hands out what arrives in pieces of
its own choice, and takes what is sent in pieces of its own choice, until it reports the end of the
stream or a failure. Frames are read off such a stream one by one.
-/

namespace PartitionFabric

/-- The most that one call of the operating system transfers. -/
def transferBytes : ℕ := 2 ^ 20

/-- A failure that the operating system reports, with its reason. -/
def lastSocketError (what reason : Text) : Error := makeError .deviceUnavailable what reason

def socketNotConnected : Error := makeError .closed "socket is not connected"

/-- A socket: the bytes that arrive, the bytes that were taken from it, and how many bytes each
further call takes at most; where that is none, with the reason. -/
structure TcpSocket where
  connected : Bool := true
  incoming : Chunked Text UInt8
  outgoing : List UInt8 := []
  answers : ℕ → ℕ × Text
  calls : ℕ := 0

namespace TcpSocket

def close (s : TcpSocket) : TcpSocket := { s with connected := false }

/-- One call that receives at most a number of bytes; none when the peer has closed. -/
def recvSome (size : ℕ) : Procedure Error TcpSocket (List UInt8) := fun s ↦
  if s.connected then
    let (incoming, received) := Chunked.receive (min size transferBytes) s.incoming
    ({ s with incoming := incoming },
      received.mapError (lastSocketError "socket receive failed"))
  else (s, .error socketNotConnected)

def recvExact (size : ℕ) : Procedure Error TcpSocket (List UInt8) :=
  receiveExact recvSome
    (fun received ↦ makeError .closed "peer closed the connection"
      (decimal received ++ (" of " : Text) ++ decimal size ++ (" bytes read" : Text)))
    size 0

/-- One call that sends; a call that takes nothing has failed. -/
def sendSome (data : List UInt8) : Procedure Error TcpSocket ℕ+ := fun s ↦
  let written := min (s.answers s.calls).1 (min data.length transferBytes)
  if h : 0 < written then
    ({ s with outgoing := s.outgoing ++ data.take written, calls := s.calls + 1 }, .ok ⟨written, h⟩)
  else
    ({ s with calls := s.calls + 1 },
      .error (lastSocketError "socket send failed" (s.answers s.calls).2))

def sendAll (data : List UInt8) : Procedure Error TcpSocket Unit := do
  let s ← Procedure.get
  Procedure.require s.connected socketNotConnected
  sendEntire sendSome data

/-- What is still to be received, and how that ends. -/
def feed (s : TcpSocket) : Feed Error UInt8 :=
  if s.connected then
    { content := s.incoming.feed.content
      failure := s.incoming.feed.failure.map (lastSocketError "socket receive failed") }
  else { content := [], failure := some socketNotConnected }

lemma feed_connected {s : TcpSocket} (h : s.connected = true) :
    s.feed = ⟨s.incoming.feed.content,
      s.incoming.feed.failure.map (lastSocketError "socket receive failed")⟩ := by
  rw [feed, if_pos h]

lemma feed_closed {s : TcpSocket} (h : ¬ s.connected = true) :
    s.feed = ⟨[], some socketNotConnected⟩ := by
  rw [feed, if_neg h]

/-- Receiving over an open connection. -/
lemma recvSome_connected {s : TcpSocket} (h : s.connected = true) {size : ℕ}
    {next : Chunked Text UInt8} {received : Except Text (List UInt8)}
    (hreceive : Chunked.receive (min size transferBytes) s.incoming = (next, received)) :
    ∃ t : TcpSocket, t.connected = true ∧ t.incoming = next ∧
      recvSome size s = (t, received.mapError (lastSocketError "socket receive failed")) := by
  refine ⟨{ s with incoming := next }, h, rfl, ?_⟩
  rw [recvSome, if_pos h, hreceive]

lemma transferBytes_pos : 0 < transferBytes := by decide

lemma receives : Receives feed recvSome where
  some := by
    intro n s hn hcontent
    by_cases hconnected : s.connected = true
    · rw [feed_connected hconnected] at hcontent
      obtain ⟨chunk, next, hreceive, hchunk, hlength, hview⟩ :=
        (Chunked.receives transferBytes_pos).some hn hcontent
      obtain ⟨t, ht, rfl, hrecv⟩ := recvSome_connected hconnected hreceive
      refine ⟨chunk, t, hrecv, hchunk, hlength, ?_⟩
      rw [feed_connected hconnected, feed_connected ht, hview]
    · rw [feed_closed hconnected] at hcontent
      exact absurd rfl hcontent
  closed := by
    intro n s hcontent hfailure
    by_cases hconnected : s.connected = true
    · rw [feed_connected hconnected] at hcontent hfailure
      obtain ⟨next, hreceive, hview⟩ :=
        (Chunked.receives transferBytes_pos).closed hcontent (Option.map_eq_none_iff.mp hfailure)
      obtain ⟨t, ht, rfl, hrecv⟩ := recvSome_connected hconnected hreceive
      refine ⟨t, hrecv, ?_⟩
      rw [feed_connected hconnected, feed_connected ht, hview]
    · rw [feed_closed hconnected] at hfailure
      cases hfailure
  failed := by
    intro n s e hcontent hfailure
    by_cases hconnected : s.connected = true
    · rw [feed_connected hconnected] at hcontent hfailure
      obtain ⟨reason, hreason, rfl⟩ := Option.map_eq_some_iff.mp hfailure
      obtain ⟨next, hreceive, hview⟩ :=
        (Chunked.receives transferBytes_pos).failed hcontent hreason
      obtain ⟨t, ht, rfl, hrecv⟩ := recvSome_connected hconnected hreceive
      refine ⟨t, hrecv, ?_⟩
      rw [feed_connected hconnected, feed_connected ht, hview]
    · rw [feed_closed hconnected] at hfailure
      obtain rfl := Option.some.inj hfailure
      refine ⟨s, ?_, rfl⟩
      rw [recvSome, if_neg hconnected]

lemma sends : Sends outgoing sendSome where
  taken := by
    intro data s t n h
    simp only [sendSome] at h
    split at h
    · obtain ⟨rfl, hn⟩ := Prod.mk.inj h
      obtain rfl := Except.ok.inj hn
      rfl
    · cases (Prod.mk.inj h).2
  failed := by
    intro data s t e h
    simp only [sendSome] at h
    split at h
    · cases (Prod.mk.inj h).2
    · obtain ⟨rfl, -⟩ := Prod.mk.inj h
      rfl

/-- What a socket has sent after sending is a front of the data, and all of it on success. -/
lemma sendAll_outgoing (data : List UInt8) (s : TcpSocket) :
    ∃ front, front <+: data ∧ (sendAll data s).1.outgoing = s.outgoing ++ front ∧
      ((sendAll data s).2 = .ok () → front = data) := by
  unfold sendAll
  rw [Procedure.get_bind, Procedure.require_bind]
  split
  · exact sends.sent data s
  · exact ⟨[], List.nil_prefix, (List.append_nil _).symm, fun h ↦ by cases h⟩

/-- An open connection that takes something in every call. -/
def Takes (s : TcpSocket) : Prop := s.connected = true ∧ ∀ k, 0 < (s.answers k).1

lemma sendAll_takes (data : List UInt8) {s : TcpSocket} (h : s.Takes) :
    ∃ t, sendAll data s = (t, .ok ()) ∧ t.Takes := by
  unfold sendAll
  rw [Procedure.get_bind, Procedure.require_bind, if_pos h.1]
  refine sendEntire_ok (fun {data s} hdata hs ↦ ?_) data h
  have hwritten : 0 < min (s.answers s.calls).1 (min data.length transferBytes) :=
    lt_min (hs.2 _) (lt_min (List.length_pos_of_ne_nil hdata) transferBytes_pos)
  exact ⟨_, _, dif_pos hwritten, hs⟩

end TcpSocket

/-- A connection that carries frames under the limits it was opened with. -/
structure FramedChannel (limits : Limits) where
  socket : TcpSocket
  framesSent : UInt64 := 0
  framesReceived : UInt64 := 0

namespace FramedChannel

variable {limits : Limits} {α : Type}

def close (c : FramedChannel limits) : FramedChannel limits := { c with socket := c.socket.close }

/-- Runs an operation on the channel's socket. -/
def onSocket (m : Procedure Error TcpSocket α) : Procedure Error (FramedChannel limits) α := fun c ↦
  ({ c with socket := (m c.socket).1 }, (m c.socket).2)

def send (frame : Frame) : Procedure Error (FramedChannel limits) Unit := do
  let encoded ← Procedure.lift (encodeFrame frame limits)
  onSocket (TcpSocket.sendAll encoded)
  Procedure.modify fun c ↦ { c with framesSent := c.framesSent + 1 }

/-- The rest of a frame behind its header. -/
def recvPayload (header : List UInt8) (payloadLen : UInt32) :
    Procedure Error (FramedChannel limits) (List UInt8) :=
  if payloadLen > 0 then do
    let payload ← onSocket (TcpSocket.recvExact payloadLen.toNat)
    pure (header ++ payload)
  else pure header

/-- Receives a complete frame. -/
def receive : Procedure Error (FramedChannel limits) Frame := do
  let header ← onSocket (TcpSocket.recvExact frameHeaderSize)
  let decoded ← Procedure.lift (decodeFrameHeader header limits)
  let buffer ← recvPayload header decoded.payloadLen
  let frame ← Procedure.lift (decodeFrame buffer limits)
  Procedure.modify fun c ↦ { c with framesReceived := c.framesReceived + 1 }
  pure frame

end FramedChannel

/-- The error of a stream that ends early. -/
def closedEarly (size received : ℕ) : Error :=
  makeError .closed "peer closed the connection"
    (decimal received ++ (" of " : Text) ++ decimal size ++ (" bytes read" : Text))

/-- Reading the rest of a frame off a whole stream of bytes. -/
def Frame.readPayload (header : List UInt8) (payloadLen : UInt32) :
    Procedure Error (Feed Error UInt8) (List UInt8) :=
  if payloadLen > 0 then do
    let payload ← Feed.readExact (closedEarly payloadLen.toNat) payloadLen.toNat 0
    pure (header ++ payload)
  else pure header

/-- Reading a frame off a whole stream of bytes. -/
def Frame.read (limits : Limits) : Procedure Error (Feed Error UInt8) Frame := do
  let header ← Feed.readExact (closedEarly frameHeaderSize) frameHeaderSize 0
  let decoded ← Procedure.lift (decodeFrameHeader header limits)
  let buffer ← Frame.readPayload header decoded.payloadLen
  Procedure.lift (decodeFrame buffer limits)

namespace FramedChannel

variable {limits : Limits} {α : Type}

/-- What is still to be received over a channel. -/
def feed (c : FramedChannel limits) : Feed Error UInt8 := c.socket.feed

lemma realizes_onSocket {m : Procedure Error TcpSocket α} {n : Procedure Error (Feed Error UInt8) α}
    (h : Procedure.Realizes TcpSocket.feed m n) :
    Procedure.Realizes (@feed limits) (onSocket m) n := fun c ↦ h c.socket

lemma realizes_recvExact (size : ℕ) :
    Procedure.Realizes (@feed limits) (onSocket (TcpSocket.recvExact size))
      (Feed.readExact (closedEarly size) size 0) :=
  realizes_onSocket (TcpSocket.receives.realizes_receiveExact _ size 0)

/-- A channel receives what is read off its stream. -/
theorem realizes_receive :
    Procedure.Realizes (@feed limits) receive (Frame.read limits) := by
  unfold receive Frame.read
  refine .bind (realizes_recvExact _) fun header ↦ .bind (.lift _) fun decoded ↦ .bind ?_ ?_
  · unfold recvPayload Frame.readPayload
    exact .ite (.bind (realizes_recvExact _) fun payload ↦ .pure _) (.pure _)
  · intro buffer c
    cases hdecode : decodeFrame buffer limits with
    | ok frame => rfl
    | error e => rfl

/-- How the operating system cuts up what arrives has no influence on what a channel receives, nor
on the error that reception ends with. -/
theorem receive_uncut (k : ℕ) {c c' : FramedChannel limits} (h : c.feed = c'.feed) :
    receive.untilError k c = receive.untilError k c' := by
  rw [realizes_receive.untilError, realizes_receive.untilError, h]

namespace Sample

/-- A channel over which bytes arrive in some pieces, and that takes a few bytes at a time. -/
def attached (incoming : Chunked Text UInt8) : FramedChannel {} where
  socket := { incoming := incoming, answers := fun _ ↦ (7, []) }

def hello : Frame := { type := .hello, sequence := 7, payload := [1, 2, 3] }

lemma feed_over (incoming : Chunked Text UInt8) (h : incoming.failure = none) :
    (attached incoming).feed = ⟨incoming.feed.content, none⟩ := by
  change (attached incoming).socket.feed = _
  rw [TcpSocket.feed_connected rfl]
  change (⟨incoming.feed.content, Option.map _ incoming.failure⟩ : Feed Error UInt8) = _
  rw [h]
  rfl

end Sample

theorem receive_uncut_singly :
    receive.untilError 2 (Sample.attached (.singly Sample.hello.onWire)) =
      receive.untilError 2 (Sample.attached (.whole Sample.hello.onWire)) := by
  apply receive_uncut
  rw [Sample.feed_over _ rfl, Sample.feed_over _ rfl, Chunked.feed_singly, Chunked.feed_whole]

end FramedChannel

section Headers

variable {header : List UInt8} (rest : List UInt8) {limits : Limits}

lemma numberAt_append (hsize : header.length = frameHeaderSize) {offset width : ℕ}
    (h : offset + width ≤ frameHeaderSize) :
    Wire.numberAt (header ++ rest) offset width = Wire.numberAt header offset width := by
  apply Wire.numberAt_congr
  rw [List.take_append_of_le_length (hsize ▸ h)]

/-- Everything that is checked of a header is in its bytes. -/
lemma headerAccepted_append (hsize : header.length = frameHeaderSize) :
    HeaderAccepted (header ++ rest) limits ↔ HeaderAccepted header limits := by
  have h0 : readU32At (header ++ rest) 0 = readU32At header 0 :=
    congrArg Nat.toUInt32 (numberAt_append rest hsize (by decide))
  have h4 : readU16At (header ++ rest) 4 = readU16At header 4 :=
    congrArg Nat.toUInt16 (numberAt_append rest hsize (by decide))
  have h6 : readU16At (header ++ rest) 6 = readU16At header 6 :=
    congrArg Nat.toUInt16 (numberAt_append rest hsize (by decide))
  have h12 : readU32At (header ++ rest) 12 = readU32At header 12 :=
    congrArg Nat.toUInt32 (numberAt_append rest hsize (by decide))
  have h16 : readU32At (header ++ rest) 16 = readU32At header 16 :=
    congrArg Nat.toUInt32 (numberAt_append rest hsize (by decide))
  have hlength : frameHeaderSize ≤ (header ++ rest).length := by
    rw [List.length_append, hsize]
    exact Nat.le_add_right ..
  constructor
  · intro h
    exact ⟨hsize.ge, h0 ▸ h.magic, h4 ▸ h.version, h6 ▸ h.type, h16 ▸ h.reserved,
      h12 ▸ h.payloadLen⟩
  · intro h
    exact ⟨hlength, h0.trans h.magic, h4.trans h.version, h6.symm ▸ h.type, h16.trans h.reserved,
      h12.symm ▸ h.payloadLen⟩

end Headers

namespace Frame

variable {limits : Limits} {f : Feed Error UInt8}

/-- A frame without payload is read in the same way. -/
lemma readPayload_apply (header : List UInt8) (payloadLen : UInt32) :
    readPayload header payloadLen f =
      (Feed.readExact (closedEarly payloadLen.toNat) payloadLen.toNat 0 >>= fun payload ↦
        (pure (header ++ payload) : Procedure Error (Feed Error UInt8) (List UInt8))) f := by
  unfold readPayload
  split
  · rfl
  · rename_i hzero
    have hlen : payloadLen.toNat = 0 := by
      rw [gt_iff_lt, UInt32.lt_iff_toNat_lt] at hzero
      exact Nat.eq_zero_of_not_pos hzero
    have hread : Feed.readExact (closedEarly 0) 0 0 f = (f, .ok []) :=
      Feed.readExact_append (List.nil_append f.content).symm rfl
    rw [hlen, Procedure.bind_ok hread, List.append_nil]

lemma read_short (limits : Limits) (h : f.content.length < frameHeaderSize) :
    ∃ e, read limits f = ({ f with content := [] }, .error e) := by
  obtain ⟨rest, _, hlength, _⟩ | ⟨_, e, hshort⟩ :=
    Feed.readExact_cases (closedEarly frameHeaderSize) frameHeaderSize f
  · rw [List.length_take] at hlength
    omega
  · exact ⟨e, Procedure.bind_error hshort⟩

lemma read_refused {header rest : List UInt8} (hcontent : f.content = header ++ rest)
    (hsize : header.length = frameHeaderSize) {e : Error}
    (h : decodeFrameHeader header limits = .error e) :
    read limits f = ({ f with content := rest }, .error e) := by
  rw [read, Procedure.bind_ok (Feed.readExact_append hcontent hsize),
    Procedure.bind_error (e := e) (by rw [h]; rfl)]

/-- What happens behind a header that is accepted. -/
lemma read_accepted {header rest : List UInt8} (hcontent : f.content = header ++ rest)
    (hsize : header.length = frameHeaderSize) (h : HeaderAccepted header limits) :
    read limits f =
      (Feed.readExact (closedEarly (readU32At header 12).toNat) (readU32At header 12).toNat 0 >>=
        fun payload ↦ Procedure.lift (decodeFrame (header ++ payload) limits))
          { f with content := rest } := by
  have hdecode : decodeFrameHeader header limits = .ok (headerOf header) :=
    decodeFrameHeader_eq_ok_iff.mpr ⟨h, rfl⟩
  have hread : readPayload header (headerOf header).payloadLen =
      (Feed.readExact (closedEarly (readU32At header 12).toNat) (readU32At header 12).toNat 0 >>=
        fun payload ↦ (pure (header ++ payload) : Procedure Error (Feed Error UInt8) _)) :=
    funext fun f ↦ readPayload_apply header _
  rw [read, Procedure.bind_ok (Feed.readExact_append hcontent hsize), hdecode,
    Procedure.bind_ok (Procedure.lift_apply ..), hread, Procedure.bind_assoc]
  rfl

/-- A frame that a channel under some limits transfers. -/
def Transferable (limits : Limits) (frame : Frame) : Prop :=
  frame.type.Valid ∧ frame.payload.length ≤ limits.maxFrameBytes

/-- The image of a transferable frame is an accepted header that announces the payload. -/
lemma Transferable.onWire_eq {frame : Frame} (hlimits : limits.validate = success)
    (h : frame.Transferable limits) :
    ∃ header, header.length = frameHeaderSize ∧ frame.onWire = header ++ frame.payload ∧
      HeaderAccepted header limits ∧ (readU32At header 12).toNat = frame.payload.length := by
  have hdecode := decodeFrame_onWire hlimits h.1 h.2
  obtain ⟨haccepted, hlength, -, -⟩ := decodeFrame_eq_ok_iff.mp hdecode
  have hwire : frame.onWire = frame.headerFields ++
      Wire.littleEndian 4 (frameChecksum frame.headerFields frame.payload).toNat ++ frame.payload :=
    (List.append_assoc ..).symm
  have hsize : (frame.headerFields ++
      Wire.littleEndian 4 (frameChecksum frame.headerFields frame.payload).toNat).length =
        frameHeaderSize := by
    rw [List.length_append, length_headerFields, Wire.length_littleEndian]
    rfl
  refine ⟨_, hsize, hwire, ?_, ?_⟩
  · rw [hwire] at haccepted
    exact (headerAccepted_append _ hsize).mp haccepted
  · have hread : readU32At frame.onWire 12 = readU32At (frame.headerFields ++
        Wire.littleEndian 4 (frameChecksum frame.headerFields frame.payload).toNat) 12 := by
      rw [hwire]
      exact congrArg Nat.toUInt32 (numberAt_append _ hsize (by decide))
    rw [← hread]
    rw [hwire, List.length_append, hsize, ← hwire] at hlength
    omega

/-- Frames are read off a stream by their images. -/
theorem read_delimits (hlimits : limits.validate = success) :
    Delimits (read limits) onWire (Transferable limits) where
  whole := by
    intro frame rest failure h
    obtain ⟨header, hsize, hwire, haccepted, hpayload⟩ := h.onWire_eq hlimits
    have hdecode := decodeFrame_onWire hlimits h.1 h.2
    rw [hwire] at hdecode
    rw [hwire, List.append_assoc, read_accepted rfl hsize haccepted,
      Procedure.bind_ok (Feed.readExact_append rfl hpayload.symm), hdecode]
    rfl
  part := by
    intro frame front failure h hfront hne
    obtain ⟨header, hsize, hwire, haccepted, hpayload⟩ := h.onWire_eq hlimits
    by_cases hshort : front.length < frameHeaderSize
    · obtain ⟨e, hread⟩ := read_short limits (f := ⟨front, failure⟩) hshort
      exact ⟨_, e, hread⟩
    · rw [hwire] at hfront hne
      have hheader : header <+: front :=
        List.prefix_of_prefix_length_le (List.prefix_append ..) hfront (by omega)
      obtain ⟨received, rfl⟩ := hheader
      have hpart : received <+: frame.payload := (List.prefix_append_right_inj _).mp hfront
      have hlt : received.length < frame.payload.length := by
        refine lt_of_le_of_ne hpart.length_le fun heq ↦ hne ?_
        rw [hpart.eq_of_length heq]
      rw [read_accepted rfl hsize haccepted, hpayload]
      obtain ⟨rest, _, hlength, _⟩ | ⟨_, e, hfails⟩ :=
        Feed.readExact_cases (closedEarly frame.payload.length) frame.payload.length
          (⟨received, failure⟩ : Feed Error UInt8)
      · rw [List.length_take] at hlength
        change min frame.payload.length received.length = _ at hlength
        omega
      · exact ⟨_, e, Procedure.bind_error hfails⟩
  exhausted := by
    intro failure
    obtain ⟨e, hread⟩ :=
      read_short limits (f := ⟨[], failure⟩) (show 0 < frameHeaderSize by decide)
    exact ⟨_, e, hread⟩

/-- A frame that decodes is transferable, and the bytes are its image. -/
lemma transferable_of_decode {data : List UInt8} {frame : Frame}
    (h : decodeFrame data limits = .ok frame) :
    frame.Transferable limits ∧ frame.onWire = data := by
  obtain ⟨haccepted, hlength, hchecksum, rfl⟩ := decodeFrame_eq_ok_iff.mp h
  have hraw : (frameOf data).type.raw = readU16At data 6 := by
    apply MessageType.raw_ofRaw
    rw [← UInt16.not_le]
    exact fun hle ↦ haccepted.type (Or.inr hle)
  have hpayload : (frameOf data).payload.length ≤ limits.maxFrameBytes := by
    have hbound := haccepted.payloadLen
    change (data.drop frameHeaderSize).length ≤ _
    rw [List.length_drop]
    omega
  refine ⟨⟨?_, hpayload⟩, onWire_frameOf haccepted hlength hchecksum⟩
  rw [MessageType.valid_iff, hraw]
  exact haccepted.type

/-- Whatever arrives, reading takes a bounded front of it, and a frame is returned only for its own
image. -/
theorem read_consumes (limits : Limits) (f : Feed Error UInt8) :
    ∃ consumed, f.content = consumed ++ (read limits f).1.content ∧
      (read limits f).1.failure = f.failure ∧
      consumed.length ≤ frameHeaderSize + limits.maxFrameBytes ∧
      ∀ frame, (read limits f).2 = .ok frame →
        consumed = frame.onWire ∧ frame.Transferable limits := by
  by_cases hshort : f.content.length < frameHeaderSize
  · obtain ⟨e, hread⟩ := read_short limits hshort
    rw [hread]
    exact ⟨f.content, (List.append_nil _).symm, rfl, by omega, fun _ h ↦ by cases h⟩
  have hsize : (f.content.take frameHeaderSize).length = frameHeaderSize := by
    rw [List.length_take, Nat.min_eq_left (not_lt.mp hshort)]
  have hcontent : f.content = f.content.take frameHeaderSize ++ f.content.drop frameHeaderSize :=
    (List.take_append_drop ..).symm
  generalize f.content.take frameHeaderSize = header at hsize hcontent
  generalize f.content.drop frameHeaderSize = rest at hcontent
  cases hdecode : decodeFrameHeader header limits with
  | error e =>
    rw [read_refused hcontent hsize hdecode]
    exact ⟨header, hcontent, rfl, by omega, fun _ h ↦ by cases h⟩
  | ok decoded =>
    obtain ⟨haccepted, rfl⟩ := decodeFrameHeader_eq_ok_iff.mp hdecode
    have hbound := haccepted.payloadLen
    rw [read_accepted hcontent hsize haccepted]
    obtain ⟨behind, hrest, hlength, hread⟩ | ⟨hlt, e, hread⟩ :=
      Feed.readExact_cases (closedEarly (readU32At header 12).toNat)
        (readU32At header 12).toNat { f with content := rest }
    · rw [Procedure.bind_ok hread]
      refine ⟨header ++ rest.take (readU32At header 12).toNat, ?_, rfl, ?_, fun frame h ↦ ?_⟩
      · rw [hcontent, List.append_assoc]
        exact congrArg _ hrest
      · rw [List.length_append, hsize]
        exact Nat.add_le_add_left (hlength.trans_le hbound) _
      · obtain ⟨htransferable, hwire⟩ := transferable_of_decode h
        exact ⟨hwire.symm, htransferable⟩
    · rw [Procedure.bind_error hread]
      refine ⟨f.content, (List.append_nil _).symm, rfl, ?_, fun _ h ↦ by cases h⟩
      change rest.length < _ at hlt
      rw [hcontent, List.length_append, hsize]
      omega

end Frame

namespace Frame

variable {limits : Limits}

/-- Only transferable frames are encoded. -/
lemma transferable_of_encode {frame : Frame} {data : List UInt8}
    (h : encodeFrame frame limits = .ok data) :
    frame.Transferable limits ∧ data = frame.onWire := by
  have htransferable : frame.Transferable limits := by
    unfold encodeFrame at h
    split_ifs at h with htype hpayload
    · cases h
    · cases h
    · refine ⟨⟨fun hinvalid ↦ htype (Or.inl hinvalid), fun hcount ↦ htype (Or.inr ?_)⟩,
        not_lt.mp hpayload⟩
      rw [hcount]
      exact UInt16.le_refl _
  refine ⟨htransferable, ?_⟩
  rw [encodeFrame_eq frame limits htransferable.1 htransferable.2] at h
  exact (Except.ok.inj h).symm

lemma length_onWire (frame : Frame) : 0 < frame.onWire.length := by
  rw [onWire, List.length_append, length_headerFields]
  exact Nat.add_pos_left (by decide) _

lemma flatMap_take_prefix (frames : List Frame) (m : ℕ) :
    ((frames.take m).flatMap onWire) <+: frames.flatMap onWire :=
  ⟨(frames.drop m).flatMap onWire, by rw [← List.flatMap_append, List.take_append_drop]⟩

/-- A further frame takes more bytes. -/
lemma length_flatMap_take {frames : List Frame} {m : ℕ} (h : m < frames.length) :
    ((frames.take m).flatMap onWire).length < ((frames.take (m + 1)).flatMap onWire).length := by
  rw [List.take_add_one, List.getElem?_eq_getElem h, List.flatMap_append, List.length_append]
  exact Nat.lt_add_of_pos_right (by
    rw [Option.toList_some, List.flatMap_singleton]
    exact length_onWire _)

end Frame

namespace FramedChannel

variable {limits : Limits}

/-- Sending an encoded frame is sending its bytes. -/
lemma send_encoded {frame : Frame} {data : List UInt8} (h : encodeFrame frame limits = .ok data)
    (c : FramedChannel limits) :
    (send frame c).1.socket = (TcpSocket.sendAll data c.socket).1 ∧
      (send frame c).2 = (TcpSocket.sendAll data c.socket).2 := by
  rw [send, h, Procedure.bind_ok (Procedure.lift_apply ..)]
  rcases hsent : TcpSocket.sendAll data c.socket with ⟨socket, e | u⟩
  · have hsend : (onSocket (TcpSocket.sendAll data)) c =
        ({ c with socket := socket }, .error e) := by
      rw [onSocket, hsent]
    rw [Procedure.bind_error hsend]
    exact ⟨rfl, rfl⟩
  · have hsend : (onSocket (TcpSocket.sendAll data)) c = ({ c with socket := socket }, .ok u) := by
      rw [onSocket, hsent]
    rw [Procedure.bind_ok hsend]
    exact ⟨rfl, rfl⟩

/-- The bytes that a frame leaves on the connection are a front of its image, and all of it when
sending succeeds. -/
lemma send_outgoing (frame : Frame) (c : FramedChannel limits) :
    ∃ front, (send frame c).1.socket.outgoing = c.socket.outgoing ++ front ∧
      front <+: frame.onWire ∧ (front ≠ [] → frame.Transferable limits) ∧
        ((send frame c).2 = .ok () → frame.Transferable limits ∧ front = frame.onWire) := by
  cases hencode : encodeFrame frame limits with
  | error e =>
    have hsend : send frame c = (c, .error e) := by
      rw [send, hencode]
      rfl
    rw [hsend]
    exact ⟨[], (List.append_nil _).symm, List.nil_prefix, fun h ↦ absurd rfl h, fun h ↦ by cases h⟩
  | ok data =>
    obtain ⟨htransferable, rfl⟩ := Frame.transferable_of_encode hencode
    obtain ⟨hsocket, hresult⟩ := send_encoded hencode c
    obtain ⟨front, hfront, houtgoing, hall⟩ := TcpSocket.sendAll_outgoing frame.onWire c.socket
    rw [hsocket, hresult]
    exact ⟨front, houtgoing, hfront, fun _ ↦ htransferable, fun hok ↦ ⟨htransferable, hall hok⟩⟩

/-- Frames within the limits are all sent over a connection that takes something in every call. -/
lemma sendAll_takes {frames : List Frame} (hframes : ∀ frame ∈ frames, frame.Transferable limits)
    {c : FramedChannel limits} (hc : c.socket.Takes) : (frames.forM send c).2 = .ok () := by
  induction frames generalizing c with
  | nil => rfl
  | cons frame rest ih =>
    obtain ⟨hframe, hrest⟩ := List.forall_mem_cons.mp hframes
    have hencode := encodeFrame_eq frame limits hframe.1 hframe.2
    obtain ⟨t, hsent, ht⟩ := TcpSocket.sendAll_takes frame.onWire hc
    obtain ⟨hsocket, hresult⟩ := send_encoded hencode c
    have hrun : (frame :: rest).forM send c = (send frame >>= fun _ ↦ rest.forM send) c := rfl
    rcases hsend : send frame c with ⟨next, e | u⟩
    · rw [hsend, hsent] at hresult
      cases hresult
    · rw [hsend, hsent] at hsocket
      rw [hrun, Procedure.bind_ok hsend]
      exact ih hrest (hsocket ▸ ht)

/-- Frames that are sent until the first failure leave a front of the images of the first of them,
and the images of all of them when all are sent. -/
lemma sendAll_outgoing (frames : List Frame) (c : FramedChannel limits) :
    ∃ sent front, sent <+: frames ∧ (∀ frame ∈ sent, frame.Transferable limits) ∧
      (frames.forM send c).1.socket.outgoing = c.socket.outgoing ++ front ∧
        front <+: sent.flatMap Frame.onWire ∧
          ((frames.forM send c).2 = .ok () →
            sent = frames ∧ front = frames.flatMap Frame.onWire) := by
  induction frames generalizing c with
  | nil =>
    exact ⟨[], [], List.nil_prefix, List.forall_mem_nil _, (List.append_nil _).symm,
      List.nil_prefix, fun _ ↦ ⟨rfl, rfl⟩⟩
  | cons frame rest ih =>
    obtain ⟨front, houtgoing, hfront, hpart, hall⟩ := send_outgoing frame c
    have hrun : (frame :: rest).forM send c = (send frame >>= fun _ ↦ rest.forM send) c := rfl
    rw [hrun]
    rcases hsend : send frame c with ⟨next, e | u⟩
    · rw [hsend] at houtgoing
      rw [Procedure.bind_error hsend]
      by_cases hempty : front = []
      · refine ⟨[], front, List.nil_prefix, List.forall_mem_nil _, houtgoing, ?_,
          fun h ↦ by cases h⟩
        rw [hempty]
        exact List.nil_prefix
      · refine ⟨[frame], front, List.prefix_append [frame] rest, ?_, houtgoing, ?_,
          fun h ↦ by cases h⟩
        · intro other hother
          rw [List.mem_singleton.mp hother]
          exact hpart hempty
        · rw [List.flatMap_singleton]
          exact hfront
    · rw [hsend] at houtgoing hall
      obtain ⟨htransferable, rfl⟩ := hall rfl
      obtain ⟨sent, behind, hsent, hgood, hbehind, hfrontier, hdone⟩ := ih next
      rw [Procedure.bind_ok hsend]
      refine ⟨frame :: sent, frame.onWire ++ behind, ?_, ?_, ?_, ?_, fun hok ↦ ?_⟩
      · exact List.cons_prefix_cons.mpr ⟨rfl, hsent⟩
      · exact List.forall_mem_cons.mpr ⟨htransferable, hgood⟩
      · rw [hbehind, houtgoing, List.append_assoc]
      · rw [List.flatMap_cons]
        exact (List.prefix_append_right_inj _).mpr hfrontier
      · obtain ⟨rfl, rfl⟩ := hdone hok
        exact ⟨rfl, List.flatMap_cons.symm⟩

/-- Whatever a peer sends, the frames received are valid ones whose images stand one behind the
other at the front of the stream, and no reception takes more than a header and the largest
payload. -/
theorem received_authentic (k : ℕ) (c : FramedChannel limits) :
    ((receive.untilError k c).1.flatMap Frame.onWire) <+: c.feed.content ∧
      (∀ frame ∈ (receive.untilError k c).1, frame.Transferable limits) ∧
        c.feed.content.length ≤
          (receive c).1.feed.content.length + frameHeaderSize + limits.maxFrameBytes := by
  refine ⟨?_, ?_, ?_⟩
  · rw [realizes_receive.untilError]
    generalize c.feed = f
    induction k generalizing f with
    | zero => exact List.nil_prefix
    | succ k ih =>
      obtain ⟨consumed, hcontent, -, -, hframe⟩ := Frame.read_consumes limits f
      rcases hread : Frame.read limits f with ⟨g, e | frame⟩
      · rw [Procedure.untilError_error hread]
        exact List.nil_prefix
      · rw [hread] at hcontent hframe
        rw [Procedure.untilError_ok hread, List.flatMap_cons, hcontent, (hframe frame rfl).1]
        exact (List.prefix_append_right_inj _).mpr (ih g)
  · rw [realizes_receive.untilError]
    generalize c.feed = f
    induction k generalizing f with
    | zero => exact List.forall_mem_nil _
    | succ k ih =>
      obtain ⟨consumed, -, -, -, hframe⟩ := Frame.read_consumes limits f
      rcases hread : Frame.read limits f with ⟨g, e | frame⟩
      · rw [Procedure.untilError_error hread]
        exact List.forall_mem_nil _
      · rw [hread] at hframe
        rw [Procedure.untilError_ok hread]
        exact List.forall_mem_cons.mpr ⟨(hframe frame rfl).2, ih g⟩
  · obtain ⟨consumed, hcontent, -, hlength, -⟩ := Frame.read_consumes limits c.feed
    rw [realizes_receive c] at hcontent
    have hsplit : c.feed.content.length = (consumed ++ (receive c).1.feed.content).length :=
      congrArg List.length hcontent
    rw [List.length_append] at hsplit
    omega

/-- End to end: frames are sent one after the other until the first failure, and a part of the
bytes that were taken arrives, cut up in any way. The receiver gets the first frames in order, as
many as have arrived completely, and then an error. -/
theorem frames_delivered (hlimits : limits.validate = success) (frames : List Frame)
    {sender receiver : FramedChannel limits} (hfresh : sender.socket.outgoing = [])
    (harrived : receiver.feed.content <+: (frames.forM send sender).1.socket.outgoing) :
    ∃ m ≤ frames.length,
      (∀ k, (receive.untilError k receiver).1 = frames.take (min k m) ∧
        (m < k → (receive.untilError k receiver).2.isSome)) ∧
      ((frames.take m).flatMap Frame.onWire) <+: receiver.feed.content ∧
      (m < frames.length →
        receiver.feed.content.length < ((frames.take (m + 1)).flatMap Frame.onWire).length) ∧
      ((frames.forM send sender).2 = .ok () →
        receiver.feed.content = (frames.forM send sender).1.socket.outgoing →
          m = frames.length) := by
  obtain ⟨sent, front, hsent, hgood, houtgoing, hfront, hdone⟩ := sendAll_outgoing frames sender
  rw [hfresh, List.nil_append] at houtgoing
  rw [houtgoing] at harrived ⊢
  obtain ⟨behind, rfl⟩ := hsent
  obtain ⟨m, hm, hcomplete, hnext, hruns⟩ :=
    (Frame.read_delimits hlimits).untilError receiver.feed.failure hgood (harrived.trans hfront)
  have htake : ∀ j ≤ sent.length, (sent ++ behind).take j = sent.take j := fun j hj ↦
    List.take_append_of_le_length hj
  have hbound : m < (sent ++ behind).length → receiver.feed.content.length <
      (((sent ++ behind).take (m + 1)).flatMap Frame.onWire).length := by
    intro hlt
    by_cases hall : m < sent.length
    · rw [htake (m + 1) hall]
      exact hnext hall
    · have hmsent : m = sent.length := by omega
      refine lt_of_le_of_lt (harrived.trans hfront).length_le ?_
      have hwhole : sent = (sent ++ behind).take m := by rw [hmsent, List.take_left]
      nth_rewrite 1 [hwhole]
      exact Frame.length_flatMap_take hlt
  refine ⟨m, ?_, fun k ↦ ?_, ?_, hbound, fun hok hwhole ↦ ?_⟩
  · rw [List.length_append]
    omega
  · rw [realizes_receive.untilError, htake _ (by omega)]
    exact hruns k
  · rw [htake m hm]
    exact hcomplete
  · obtain ⟨heq, hall⟩ := hdone hok
    rw [← heq] at hbound hall ⊢
    refine le_antisymm hm (not_lt.mp fun hlt ↦ ?_)
    have hshort := hbound hlt
    rw [hwhole, hall] at hshort
    exact absurd (Frame.flatMap_take_prefix sent (m + 1)).length_le (not_le.mpr hshort)

namespace Sample

def frames : List Frame :=
  [hello, { type := .heartbeat, sequence := 8, payload := [] },
    { type := .shutdown, sequence := 9, payload := [4, 5] }]

end Sample

/-- Three frames are sent a few bytes at a time, and all but the last two bytes have arrived, each on
its own: two frames are received. -/
theorem frames_delivered_part :
    let sender := (Sample.frames.forM send (Sample.attached (.whole []))).1
    let arrived := sender.socket.outgoing.take (sender.socket.outgoing.length - 2)
    (receive.untilError 3 (Sample.attached (.singly arrived))).1 = Sample.frames.take 2 ∧
      (receive.untilError 3 (Sample.attached (.singly arrived))).2.isSome := by
  intro sender arrived
  have hcontent : (Sample.attached (.singly arrived)).feed.content = arrived := by
    rw [Sample.feed_over _ rfl, Chunked.feed_singly]
  obtain ⟨sent, front, -, -, houtgoing, -, hdone⟩ :=
    sendAll_outgoing Sample.frames (Sample.attached (.whole []))
  have hframes : ∀ frame ∈ Sample.frames, frame.Transferable {} := by
    simp only [Sample.frames, List.forall_mem_cons]
    unfold Frame.Transferable MessageType.Valid
    decide
  obtain ⟨-, rfl⟩ := hdone (sendAll_takes hframes ⟨rfl, fun _ ↦ Nat.succ_pos 6⟩)
  rw [show (Sample.attached (.whole [])).socket.outgoing = [] from rfl, List.nil_append]
    at houtgoing
  have hlength : arrived.length = (Sample.frames.flatMap Frame.onWire).length - 2 := by
    change (List.take _ (Sample.frames.forM send _).1.socket.outgoing).length = _
    rw [List.length_take, houtgoing]
    exact Nat.min_eq_left (Nat.sub_le _ 2)
  obtain ⟨m, hm, hreceived, hprefix, hnext, -⟩ := @frames_delivered {} (by decide) Sample.frames
    (Sample.attached (.whole [])) (Sample.attached (.singly arrived)) rfl
    (by rw [hcontent]; exact List.take_prefix _ _)
  have hfront := hprefix.length_le
  rw [hcontent, hlength] at hfront hnext
  obtain rfl : m = 2 := by
    have hbetween : ∀ k ≤ 3, ((Sample.frames.take k).flatMap Frame.onWire).length ≤
        (Sample.frames.flatMap Frame.onWire).length - 2 → (k < 3 →
        (Sample.frames.flatMap Frame.onWire).length - 2 <
          ((Sample.frames.take (k + 1)).flatMap Frame.onWire).length) → k = 2 := by
      decide +kernel
    exact hbetween m hm hfront hnext
  exact ⟨(hreceived 3).1, (hreceived 3).2 (by decide)⟩

end FramedChannel

end PartitionFabric
