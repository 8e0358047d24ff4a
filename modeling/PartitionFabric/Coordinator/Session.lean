import PartitionFabric.Codec.Packing
import PartitionFabric.Fabric.Step

/-!
The coordinator's side of its connections: what a session remembers, what each message from a
peer does to the fabric, and what happens when the connection is lost.

Responses are returned by the handlers and go to the peer; the state keeps of the traffic only
which registrations were accepted over a session and which queries were addressed to it.
-/

namespace PartitionFabric

/-- The position of a session in the order of its acceptance. -/
abbrev SessionId := ℕ

/-- How far the reader thread of a session has come: it reads frames, it has left its loop, it has
closed the session, or it has fenced the session's worker and ended. -/
inductive ReaderState where
  | reading | stopped | closing | ended
deriving DecidableEq, Repr

/-- One connection: a worker incarnation, or an administrative client. -/
structure Session where
  worker : WorkerId := 0
  workerBoot : WorkerBootId := 0
  backend : Text := []
  workerSession : Bool := false
  closed : Bool := false
  reader : ReaderState := .reading
  accepted : List (WorkerId × WorkerBootId) := []
  asked : List (UInt64 × QueryRequestMessage) := []

/-- A caller that waits for the outcome of a dispatched attempt. -/
structure Waiting where
  attempt : PartitionAttemptId := 0
  worker : WorkerId := 0
  workerBoot : WorkerBootId := 0
  settled : Bool := false
  outcome : MutationOutcome := {}

/-- One outstanding query; the reader thread of a session wakes its caller. -/
structure PendingQuery where
  settled : Bool := false
  ok : Bool := false
  session : SessionId
  response : QueryResponseMessage := {}
  error : Error := { message := [] }

/-- A layout query whose session was looked up and that is not yet registered. -/
structure LayoutQuery where
  session : SessionId
  worker : WorkerId
  workerBoot : WorkerBootId
  stableKey : Text
deriving DecidableEq

structure CoordinatorState where
  limits : Limits := {}
  fabric : FabricState := {}
  sessions : List Session := []
  waiting : KeyedMap PartitionAttemptId Waiting := ∅
  queries : List LayoutQuery := []
  nextQuerySequence : UInt64 := 1
  pendingQueries : KeyedMap UInt64 PendingQuery := ∅

abbrev CoordinatorM := Procedure Error CoordinatorState

namespace CoordinatorState

def modifySession (c : CoordinatorState) (i : SessionId) (f : Session → Session) :
    CoordinatorState :=
  { c with sessions := c.sessions.modify i f }

/-- The first open session of a worker incarnation. -/
def findSession (c : CoordinatorState) (worker : WorkerId) (boot : WorkerBootId) :
    Option SessionId :=
  c.sessions.findIdx? fun session ↦
    session.workerSession && session.worker = worker && session.workerBoot = boot &&
      !session.closed

/-- Hands the outcome of an attempt to the caller that waits for it. -/
def settle (attempt : PartitionAttemptId) (outcome : MutationOutcome) (c : CoordinatorState) :
    CoordinatorState :=
  { c with
    waiting := c.waiting.modify attempt fun waiter ↦
      if waiter.settled then waiter else { waiter with outcome := outcome, settled := true } }

/-- Wakes the callers that wait for a worker incarnation with an unknown outcome. -/
def abandonWorker (worker : WorkerId) (boot : WorkerBootId) (reason : Text)
    (c : CoordinatorState) : CoordinatorState :=
  { c with
    waiting := c.waiting.keys.foldl (fun waiting key ↦ waiting.modify key fun waiter ↦
      if !waiter.settled && waiter.worker = worker && waiter.workerBoot = boot then
        { waiter with
          settled := true
          outcome := { waiter.outcome with
            state := .outcomeUnknown
            outcomeUnknown := true
            reconciliationRequired := true
            attempt := waiter.attempt
            message := reason } }
      else waiter) c.waiting }

/-- Fails the unsettled queries of a session. -/
def failPendingQueries (i : SessionId) (reason : Text) (c : CoordinatorState) : CoordinatorState :=
  { c with
    pendingQueries := c.pendingQueries.keys.foldl (fun queries key ↦ queries.modify key fun query ↦
      if !query.settled && query.session = i then
        { query with settled := true, ok := false, error := makeError .closed reason }
      else query) c.pendingQueries }

/-- Settles the unsettled query under a sequence with a response. -/
def answerQuery (sequence : UInt64) (response : QueryResponseMessage) (c : CoordinatorState) :
    CoordinatorState :=
  { c with
    pendingQueries := c.pendingQueries.modify sequence fun query ↦
      if query.settled then query
      else { query with settled := true, ok := true, response := response } }

end CoordinatorState

open CoordinatorState

/-- Runs an operation on the coordinator's fabric. -/
def onFabric {α : Type} (m : FabricM α) : CoordinatorM α := fun c ↦
  ({ c with fabric := (m c.fabric).1 }, (m c.fabric).2)

def MessageType.toText : MessageType → Text
  | .hello => "HELLO"
  | .helloAck => "HELLO_ACK"
  | .registerWorker => "REGISTER_WORKER"
  | .registerAck => "REGISTER_ACK"
  | .evidencePublish => "EVIDENCE_PUBLISH"
  | .evidenceAck => "EVIDENCE_ACK"
  | .mutationRequest => "MUTATION_REQUEST"
  | .mutationResult => "MUTATION_RESULT"
  | .queryRequest => "QUERY_REQUEST"
  | .queryResponse => "QUERY_RESPONSE"
  | .fenceWorker => "FENCE_WORKER"
  | .fenceAck => "FENCE_ACK"
  | .heartbeat => "HEARTBEAT"
  | .heartbeatAck => "HEARTBEAT_ACK"
  | .shutdown => "SHUTDOWN"
  | .errorResponse => "ERROR_RESPONSE"
  | .reconcileRequest => "RECONCILE_REQUEST"
  | .reconcileResponse => "RECONCILE_RESPONSE"
  | .adminRequest => "ADMIN_REQUEST"
  | .adminResponse => "ADMIN_RESPONSE"
  | .count => "COUNT"
  -- the commands have no name of their own
  | .invalid | .commandRequest | .commandResponse => "INVALID"

/-- The flag of a response frame. -/
def responseFlag : UInt32 := 2

/-- A response to the peer of a session, under the incarnation that the session is bound to. -/
def Session.reply (session : Session) (type : MessageType) (epoch : CoordinatorEpoch)
    (payload : List UInt8) : Frame :=
  { type := type
    flags := responseFlag
    coordinatorEpoch := epoch
    worker := session.worker
    workerBoot := session.workerBoot
    payload := payload }

/-- The session under an index as a handler sees it. -/
def sessionAt (c : CoordinatorState) (i : SessionId) : Session := c.sessions.getD i {}

/-- Whether a worker is welcome; one that has no identity yet is assigned one. -/
def acknowledgeHello (hello : HelloMessage) : CoordinatorM HelloAckMessage := do
  let c ← Procedure.get
  let ack : HelloAckMessage :=
    { epoch := c.fabric.coordinatorEpoch, limits := c.limits, sessionNonce := hello.workerBoot }
  if known hello.knownEpoch && hello.knownEpoch > ack.epoch then
    pure { ack with reason := "worker believes it belongs to a newer coordinator epoch" }
  else if valid hello.worker then
    pure { ack with accepted := true, assignedWorker := hello.worker }
  else do
    match ← Procedure.attempt (onFabric allocateId) with
    | .error e => pure { ack with reason := e.toText }
    | .ok allocated => pure { ack with accepted := true, assignedWorker := allocated }

def handleHello (hello : HelloMessage) : CoordinatorM Frame := do
  Procedure.require (hello.protocolVersion = protocolVersion)
    (makeError .protocolViolation "worker protocol version is not supported"
      (decimal hello.protocolVersion.toNat))
  let ack ← acknowledgeHello hello
  let c ← Procedure.get
  pure
    { type := .helloAck
      flags := responseFlag
      coordinatorEpoch := ack.epoch
      payload := packPayload .helloAck ack c.limits }

/-- The record under which a registration enters the fabric. -/
def RegisterWorkerMessage.record (message : RegisterWorkerMessage) (epoch : CoordinatorEpoch) :
    WorkerRecord :=
  { message.worker with
    coordinatorEpoch := epoch
    alive := true
    registeredAtMs := message.startedAtMs
    lastSeenMs := message.startedAtMs }

/-- Notes that a request was addressed to a session. -/
def Session.ask (session : Session) (sequence : UInt64) (request : QueryRequestMessage) : Session :=
  { session with asked := session.asked ++ [(sequence, request)] }

/-- Registers the devices of an accepted worker one by one. -/
def registerDevices (now : UInt64) :
    List BackendAccelerator → RegisterAckMessage → CoordinatorM RegisterAckMessage
  | [], ack => pure ack
  | device :: rest, ack => do
    let registered ← Procedure.attempt (onFabric (registerBackendAccelerator device now))
    registerDevices now rest (match registered with
      | .ok id => { ack with registeredAccelerators := ack.registeredAccelerators ++ [id] }
      | .error e =>
        { ack with
          rejectedDevices :=
            ack.rejectedDevices ++ [device.stableKey ++ (": " : Text) ++ e.toText] })

/-- Binds a session to the incarnation that a registration names. -/
def Session.bind (session : Session) (worker : WorkerRecord) : Session :=
  { session with
    worker := worker.id
    workerBoot := worker.boot
    backend := worker.backend
    workerSession := true }

/-- Notes that a registration over a session was accepted. -/
def Session.accept (session : Session) (worker : WorkerRecord) : Session :=
  { session with accepted := session.accepted ++ [(worker.id, worker.boot)] }

/-- Notes a worker and, if the fabric accepts it, registers its devices; the session takes the
identity before the fabric has accepted it. -/
def admitWorker (i : SessionId) (epoch : CoordinatorEpoch) (message : RegisterWorkerMessage)
    (now : UInt64) : CoordinatorM RegisterAckMessage := do
  Procedure.modify fun c ↦ c.modifySession i fun session ↦ session.bind message.worker
  let noted ← Procedure.attempt (onFabric (noteWorker (message.record epoch) now))
  let c ← Procedure.get
  match noted with
  | .error e => pure { epoch := c.fabric.coordinatorEpoch, reason := e.toText }
  | .ok _ => do
    Procedure.modify fun c ↦ c.modifySession i fun session ↦ session.accept message.worker
    registerDevices now message.devices { epoch := c.fabric.coordinatorEpoch, accepted := true }

def handleRegister (i : SessionId) (frame : Frame) (message : RegisterWorkerMessage)
    (now : UInt64) : CoordinatorM Frame := do
  Procedure.require (valid message.worker.id && valid message.worker.boot)
    (makeError .invalidArgument "worker registration requires a worker and boot identity")
  let c ← Procedure.get
  Procedure.require (frame.coordinatorEpoch = c.fabric.coordinatorEpoch)
    (makeError .staleCoordinatorEpoch "registration arrived under a superseded coordinator epoch"
      (decimal frame.coordinatorEpoch.toNat))
  let ack ← admitWorker i frame.coordinatorEpoch message now
  let c ← Procedure.get
  pure ((sessionAt c i).reply .registerAck ack.epoch (packPayload .registerAck ack c.limits))

/-- Publishes the evidence of a current worker incarnation; the first failure ends it. -/
def publishEvidence (worker : WorkerId) (boot : WorkerBootId) (devices : List BackendAccelerator)
    (layouts : List BackendLayout) (now : UInt64) : CoordinatorM Unit := do
  onFabric PartitionFabric.snapshot
  let c ← Procedure.get
  Procedure.require (c.fabric.workers.values.any fun record ↦
      record.id = worker && record.boot = boot && !record.fenced)
    (makeError .staleWorker "evidence was published by a worker incarnation that is not current"
      (hex boot))
  devices.forM fun device ↦ do
    let id ← onFabric (registerBackendAccelerator device now)
    onFabric (PartitionFabric.bindAcceleratorWorker id worker boot)
  layouts.forM fun layout ↦ do
    let _ ← onFabric (reconcileWithBackendKey layout now)

def handleEvidence (i : SessionId) (frame : Frame) (message : EvidencePublishMessage)
    (now : UInt64) : CoordinatorM Frame := do
  let c ← Procedure.get
  let session := sessionAt c i
  Procedure.require (session.workerSession && session.worker = frame.worker &&
      session.workerBoot = frame.workerBoot)
    (makeError .staleWorker "evidence arrived on a session that is not bound to that incarnation")
  Procedure.require (frame.coordinatorEpoch = c.fabric.coordinatorEpoch)
    (makeError .staleCoordinatorEpoch "evidence arrived under a superseded coordinator epoch")
  let published ← Procedure.attempt
    (publishEvidence session.worker session.workerBoot message.devices message.layouts now)
  let c ← Procedure.get
  let ack : EvidenceAckMessage :=
    { accepted := published.isOk
      reason := match published with
        | .ok _ => []
        | .error e => e.toText
      accelerators := message.devices.filterMap fun device ↦
        c.fabric.keyIndex.find? device.stableKey }
  pure (session.reply .evidenceAck c.fabric.coordinatorEpoch
    (packPayload .evidenceAck ack c.limits))

/-- Applies a reported result: the frame and the attempt have to agree on the boot identity and on
the token. -/
def applyReport (frame : Frame) (message : MutationResultMessage) (now : UInt64) :
    CoordinatorM Unit := do
  let c ← Procedure.get
  match c.fabric.findAttempt message.attempt with
  | none =>
    Procedure.throw (makeError .notFound "attempt is not known" (decimal message.attempt.toNat))
  | some attempt => do
    Procedure.require (valid attempt.workerBoot && attempt.workerBoot = frame.workerBoot)
      (makeError .staleWorker "mutation result arrived from a superseded worker incarnation"
        (hex frame.workerBoot))
    Procedure.require (attempt.token = message.idempotencyToken)
      (makeError .staleReservation "mutation result does not match the registered attempt token")
    let observed := if message.result.observedLayout.devicePresent
      then some message.result.observedLayout else none
    let outcome ← onFabric (applyMutationResult message.attempt message.result observed now)
    Procedure.modify (settle message.attempt outcome)

def handleMutationResult (frame : Frame) (now : UInt64) : CoordinatorM Unit := do
  let message : MutationResultMessage ←
    Procedure.lift (unpackPayload .mutationResult frame.payload)
  applyReport frame message now

def handleHeartbeat (i : SessionId) (heartbeat : HeartbeatMessage) :
    CoordinatorM (Option Frame) := do
  let c ← Procedure.get
  let session := sessionAt c i
  if session.workerSession then do
    Procedure.ignore (onFabric
      (PartitionFabric.noteWorkerSeen session.worker session.workerBoot heartbeat.sentAtMs))
    let c ← Procedure.get
    let ack : HeartbeatAckMessage :=
      { epoch := c.fabric.coordinatorEpoch, receivedAtMs := heartbeat.sentAtMs }
    pure (some (session.reply .heartbeatAck ack.epoch (packPayload .heartbeatAck ack c.limits)))
  else pure none

/-- Handles one frame of a session. The requests of clients do their work through the operations
of the fabric and through layout queries, which are steps of their own. -/
def handleSessionFrame (i : SessionId) (frame : Frame) (now : UInt64) :
    CoordinatorM (Option Frame) :=
  match frame.type with
  | .hello => do
    let hello : HelloMessage ← Procedure.lift (unpackPayload .hello frame.payload)
    some <$> handleHello hello
  | .registerWorker => do
    let message : RegisterWorkerMessage ←
      Procedure.lift (unpackPayload .registerWorker frame.payload)
    some <$> handleRegister i frame message now
  | .evidencePublish => do
    let message : EvidencePublishMessage ←
      Procedure.lift (unpackPayload .evidencePublish frame.payload)
    some <$> handleEvidence i frame message now
  | .mutationResult => do
    handleMutationResult frame now
    pure none
  | .queryResponse => do
    let response : QueryResponseMessage ←
      Procedure.lift (unpackPayload .queryResponse frame.payload)
    Procedure.modify (answerQuery frame.sequence response)
    pure none
  | .queryRequest => do
    let _ : QueryRequestMessage ← Procedure.lift (unpackPayload .queryRequest frame.payload)
    pure none
  | .commandRequest => do
    let _ : CommandRequestMessage ← Procedure.lift (unpackPayload .commandRequest frame.payload)
    pure none
  | .heartbeat => do
    let heartbeat : HeartbeatMessage ← Procedure.lift (unpackPayload .heartbeat frame.payload)
    handleHeartbeat i heartbeat
  | .fenceAck => do
    let _ : FenceAckMessage ← Procedure.lift (unpackPayload .fenceAck frame.payload)
    pure none
  | .errorResponse => pure none
  | .shutdown => do
    Procedure.modify fun c ↦ c.modifySession i fun session ↦ { session with closed := true }
    pure none
  | .invalid | .count => Procedure.throw (makeError .protocolViolation "invalid message type")
  | type => Procedure.throw (makeError .protocolViolation
      "the coordinator does not accept this message type" type.toText)

/-- A failure after which the reader leaves its loop. -/
def fatal (code : ErrorCode) : Bool :=
  code = .protocolViolation || code = .staleWorker || code = .fenced

end PartitionFabric
