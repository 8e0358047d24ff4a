import PartitionFabric.Coordinator.Agent
import PartitionFabric.Coordinator.Dispatching

/-!
A worker process from end to end: how an incarnation is created over the file of its hardware, how
it introduces itself to its coordinator, and how it stops.
-/

namespace PartitionFabric

open Procedure

structure WorkerOptions where
  workerId : WorkerId := 0
  workerBoot : WorkerBootId := 0
  limits : Limits := {}
  description : Text := []
  deviceStatePath : Text := []
  ambiguousNextMutation : Bool := false
  dieAfterRegister : Bool := false

/-- What a worker meets on its way in: whether it reaches its coordinator, and the frames that it
receives there. -/
structure Reception where
  connects : Status := success
  hello : Result Frame
  registration : Result Frame
  evidence : Result Frame

def versionString : Text := "1.0.0"

/-- What the coordinator's answer to the handshake makes of an incarnation. -/
def Worker.welcomed (ack : HelloAckMessage) (w : Worker) : Worker :=
  { w with epoch := ack.epoch, id := if valid w.id then w.id else ack.assignedWorker }

namespace Agent

variable {β : Type} (backend : AcceleratorBackend β) (env : Surroundings)

/-- The hardware that an incarnation begins with: as the file says, where there is one. -/
def resumed (options : WorkerOptions) (os : Filing) (files : Files) (hardware : β) : Result β :=
  if options.deviceStatePath.isEmpty then .ok hardware
  else
    match backend.importState with
    | none => .ok hardware
    | some importState =>
      if fileExists os files.target then
        match readFile os options.deviceStatePath files.target with
        | .error e => .error e
        | .ok state => (importState state hardware).2.map fun _ ↦ (importState state hardware).1
      else .ok hardware

/-- A new incarnation; one without a boot identity derives it from entropy. -/
def create (options : WorkerOptions) (entropy : UInt64) (os : Filing) (files : Files)
    (hardware : β) : Result (Agent β) :=
  match h : options.limits.validate with
  | .error e => .error e
  | .ok _ => (resumed backend options os files hardware).map fun hardware ↦
    { id := options.workerId
      boot := if valid options.workerBoot then options.workerBoot else deriveBoot entropy
      epoch := 0
      fenced := false
      limits := options.limits
      bounded := h
      connected := false
      channelOpen := false
      ambiguousNext := options.ambiguousNextMutation
      deviceStatePath := options.deviceStatePath
      files := files
      hardware := hardware }

/-- A request of the incarnation. -/
def request (a : Agent β) (type : MessageType) (payload : List UInt8) : Frame :=
  { type := type
    flags := requestFlag
    coordinatorEpoch := a.epoch
    worker := a.id
    workerBoot := a.boot
    payload := payload }

/-- The acknowledgement that a request is to be answered with. -/
def acknowledged (type : MessageType) (t : Payload) (complaint : Text) (reply : Result Frame) :
    Result t.Message :=
  match reply with
  | .error e => .error e
  | .ok frame =>
    if frame.type = type then unpackPayload t frame.payload
    else failure .protocolViolation complaint frame.type.toText

def discovered : Procedure Error (Agent β) (List BackendAccelerator) := do
  match ← onHardware (backend.discover env.now) with
  | .ok devices => pure devices
  | .error e => throw (makeError .backendFailure "discovery failed" e.toText)

/-- The layouts of the devices that tell theirs. -/
def queryLayouts : List BackendAccelerator → Procedure Error (Agent β) (List BackendLayout)
  | [] => pure []
  | device :: rest => do
    let layout ← onHardware (backend.queryLayout env.now device.stableKey)
    let layouts ← queryLayouts rest
    pure (layout.toOption.toList ++ layouts)

def republishEvidence (reply : Result Frame) : Procedure Error (Agent β) Unit := do
  let a ← get
  require a.connected (makeError .closed "worker is not connected")
  let devices ← discovered backend env
  let layouts ← queryLayouts backend env devices
  let publish : EvidencePublishMessage :=
    { devices := devices, layouts := layouts, publishedAtMs := env.now, revalidate := true }
  send env (a.request .evidencePublish (packPayload .evidencePublish publish a.limits))
  let ack : EvidenceAckMessage ← lift (acknowledged .evidenceAck .evidenceAck
    "coordinator did not acknowledge evidence" reply)
  require ack.accepted (makeError .revalidationRequired "coordinator rejected evidence" ack.reason)

/-- The handshake, in which an incarnation takes on the epoch and, without an identity of its own,
the one that it is assigned. -/
def introduce (options : WorkerOptions) (reply : Result Frame) :
    Procedure Error (Agent β) Unit := do
  let a ← get
  let hello : HelloMessage :=
    { knownEpoch := a.epoch
      worker := a.id
      workerBoot := a.boot
      backend := backend.name
      agentVersion := versionString
      instanceName := options.description }
  send env (a.request .hello (packPayload .hello hello a.limits))
  let ack : HelloAckMessage ← lift (acknowledged .helloAck .helloAck
    "coordinator did not answer the handshake" reply)
  require ack.accepted (makeError .fenced "coordinator refused the worker handshake" ack.reason)
  modify fun a ↦ { a with toWorker := a.toWorker.welcomed ack }
  let a ← get
  require (valid a.id) (makeError .staleWorker "coordinator did not assign a worker identity")

def register (options : WorkerOptions) (reply : Result Frame) : Procedure Error (Agent β) Unit := do
  let devices ← discovered backend env
  let a ← get
  let registration : RegisterWorkerMessage :=
    { worker :=
        { id := a.id
          boot := a.boot
          backend := backend.name
          endpoint := options.description
          deviceCount := devices.length.toUInt32
          alive := true }
      devices := devices
      startedAtMs := env.now }
  send env (a.request .registerWorker (packPayload .registerWorker registration a.limits))
  let ack : RegisterAckMessage ← lift (acknowledged .registerAck .registerAck
    "coordinator did not answer registration" reply)
  require ack.accepted (makeError .fenced "coordinator refused the worker registration" ack.reason)
  modify fun a ↦ { a with connected := true }

/-- A failure is what the caller is told. -/
def returning {α : Type} (m : Procedure Error (Agent β) α) : AgentM β α := fun a ↦
  ((m a).1, (m a).2.mapError fun e ↦ .returned (.error e))

/-- Saving whose failure is what the caller is told. -/
def demandCheckpoint : AgentM β Unit := fun a ↦
  match checkpoint backend env a with
  | (a, .error .died) => (a, .error .died)
  | (a, .error (.failed e)) => (a, .error (.returned (.error e)))
  | (a, .ok _) => (a, .ok ())

/-- Connects, introduces the incarnation, registers it with its hardware and publishes what the
hardware looks like. -/
def start (options : WorkerOptions) (met : Reception) : AgentM β Unit := do
  let a ← get
  require (!a.connected)
    (.returned (failure .alreadyExists "worker is already connected"))
  lift (met.connects.mapError fun e ↦ .returned (.error e))
  modify fun a ↦ { a with channelOpen := true }
  returning (introduce backend env options met.hello)
  returning (register backend env options met.registration)
  demandCheckpoint backend env
  returning (republishEvidence backend env met.evidence)
  require (!options.dieAfterRegister) (.exited 23)

def stop : AgentM β Unit := do
  let a ← get
  if a.connected then do
    modify fun a ↦ { a with connected := false, shutdown := true }
    tryCheckpoint backend env
    modify fun a ↦ { a with channelOpen := false }
  else pure ()

end Agent

end PartitionFabric
