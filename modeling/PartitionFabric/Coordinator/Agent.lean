import PartitionFabric.Coordinator.Worker
import PartitionFabric.Persistence.Files
import PartitionFabric.Synthetic.Calls

/-!
The worker process: one incarnation that serves the frames of its coordinator over one connection
with the hardware it owns.

What goes out over the connection and what was asked of the hardware is kept as a history. How
sending ends, what the operating system makes of the file and the time are given with every turn
of the loop. The process may die while it saves the model of its hardware.
-/

namespace PartitionFabric

open Procedure

/-- The hardware behind a worker, as the calls that it answers at a time. -/
structure AcceleratorBackend (β : Type) where
  name : Text
  discover : UInt64 → Procedure Error β (List BackendAccelerator)
  queryLayout : UInt64 → Text → Procedure Error β BackendLayout
  createPartitions : UInt64 → PartitionMutationRequest → Procedure Error β BackendMutationResult
  destroyPartitions : UInt64 → PartitionMutationRequest → Procedure Error β BackendMutationResult
  reconfigureLayout : UInt64 → PartitionMutationRequest → Procedure Error β BackendMutationResult
  /-- Only a synthetic backend publishes a model of its hardware, and takes one on. -/
  exportState : Option (β → Result Text) := none
  importState : Option (Text → Procedure Error β Unit) := none

def AcceleratorBackend.mutate {β : Type} (backend : AcceleratorBackend β) (kind : AttemptKind) :
    UInt64 → PartitionMutationRequest → Procedure Error β BackendMutationResult :=
  match kind with
  | .createPartition => backend.createPartitions
  | .destroyPartition => backend.destroyPartitions
  | .reconfigureLayout => backend.reconfigureLayout

/-- A worker incarnation with its side of the connection. -/
structure Agent (β : Type) extends Worker where
  sequence : UInt64 := 0
  applied : UInt64 := 0
  shutdown : Bool := false
  connected : Bool := true
  channelOpen : Bool := true
  ambiguousNext : Bool := false
  deviceStatePath : Text := []
  files : Files := {}
  hardware : β
  sent : List Frame := []
  performed : List MutationRequestMessage := []

/-- What a turn of the loop meets: the time, how sending ends, what the operating system makes of
the file, and how many effects on it the process lives to see. -/
structure Surroundings where
  now : UInt64 := 0
  link : Status := success
  os : Filing := {}
  life : ℕ := 64

/-- How serving ends: with a status, or because the process is gone. -/
inductive Ending where
  | returned (status : Status)
  | exited (code : ℕ)
  | died

abbrev AgentM (β : Type) := Procedure Ending (Agent β)

namespace Agent

variable {β : Type} (backend : AcceleratorBackend β) (env : Surroundings)

/-- A frame without a sequence number takes the next one of the connection. -/
def numbered (frame : Frame) (a : Agent β) : Agent β × Frame :=
  if frame.sequence = 0 then
    ({ a with sequence := a.sequence + 1 }, { frame with sequence := a.sequence + 1 })
  else (a, frame)

def send (frame : Frame) : Procedure Error (Agent β) Unit := fun a ↦
  if a.channelOpen then
    match env.link with
    | .ok _ =>
      ({ (numbered frame a).1 with sent := a.sent ++ [(numbered frame a).2] }, .ok ())
    | .error e => ((numbered frame a).1, .error e)
  else (a, .error (makeError .closed "worker is not connected to a coordinator"))

/-- Saves the model of the hardware, where there is one and a place for it. -/
def checkpoint : Procedure (Halt Error) (Agent β) Unit := fun a ↦
  if a.deviceStatePath.isEmpty then (a, .ok ())
  else
    match backend.exportState with
    | none => (a, .ok ())
    | some exportState =>
      match exportState a.hardware with
      | .error e => (a, .error (.failed e))
      | .ok state =>
        let saved := Mortal.returning (writeFileAtomic env.os a.deviceStatePath state)
          ⟨a.files, env.life⟩
        ({ a with files := saved.1.state }, saved.2)

/-- Saving whose failure is disregarded. -/
def tryCheckpoint : AgentM β Unit := fun a ↦
  match checkpoint backend env a with
  | (a, .error .died) => (a, .error .died)
  | (a, _) => (a, .ok ())

/-- Calls the hardware. -/
def onHardware {ε α : Type} (m : Procedure Error β α) : Procedure ε (Agent β) (Result α) := fun a ↦
  ({ a with hardware := (m a.hardware).1 }, .ok (m a.hardware).2)

/-- What cannot be understood ends serving. -/
def expect {α : Type} (r : Result α) : AgentM β α :=
  match r with
  | .ok message => pure message
  | .error e => throw (.returned (.error e))

/-- Sends an answer; where that fails the connection is gone. -/
def deliver (frame : Frame) : AgentM β Unit := fun a ↦
  match send env frame a with
  | (a, .ok _) => (a, .ok ())
  | (a, .error e) => ({ a with connected := false }, .error (.returned (.error e)))

/-- The call of the hardware for a mutation. -/
def callMutation (request : MutationRequestMessage) : AgentM β (Result BackendMutationResult) :=
  fun a ↦
    let called := backend.mutate request.kind env.now request.request a.hardware
    ({ a with
        hardware := called.1
        applied := a.applied + 1
        performed := a.performed ++ [request] }, .ok called.2)

/-- An incarnation that was told to vanish does so before it answers. -/
def vanish : AgentM β Unit := fun a ↦
  if a.ambiguousNext then ({ a with ambiguousNext := false }, .error (.exited 24)) else (a, .ok ())

def performMutation (request : MutationRequestMessage) :
    AgentM β (Result BackendMutationResult) := do
  let reply ← callMutation backend env request
  tryCheckpoint backend env
  vanish
  pure reply

/-- An incarnation that is fenced, or that is asked under another epoch, leaves the hardware
alone; its report does not depend on a reply. -/
def serveMutationRequest (frame : Frame) (request : MutationRequestMessage) : AgentM β Unit := do
  let a ← get
  if a.fenced || frame.coordinatorEpoch != a.epoch then
    deliver env (a.serveMutation frame request (.ok {}))
  else do
    let reply ← performMutation backend env request
    deliver env (a.serveMutation frame request reply)

/-- The answer to a question about the hardware. -/
def answerQuery (request : QueryRequestMessage) : AgentM β QueryResponseMessage :=
  match request.kind with
  | .layout => do
    match ← onHardware (backend.queryLayout env.now request.key) with
    | .ok layout => pure { kind := .layout, found := true, layout := layout }
    | .error e => pure { kind := .layout, detail := e.toText }
  | .accelerators => do
    match ← onHardware (backend.discover env.now) with
    | .ok devices => pure { kind := .accelerators, found := true, devices := devices }
    | .error e => pure { kind := .accelerators, detail := e.toText }
  | kind => pure
      { kind := kind, detail := "worker only answers layout and accelerator queries" }

/-- An answer of the incarnation; a sequence of zero takes a number of its own. -/
def response (a : Agent β) (type : MessageType) (sequence : UInt64) (payload : List UInt8) :
    Frame :=
  { type := type
    flags := responseFlag
    sequence := sequence
    coordinatorEpoch := a.epoch
    worker := a.id
    workerBoot := a.boot
    payload := payload }

/-- The sequence of the request is echoed, so that the answer can be correlated with it. -/
def serveQueryRequest (frame : Frame) (request : QueryRequestMessage) : AgentM β Unit := do
  let answer ← answerQuery backend env request
  let a ← get
  deliver env
    (a.response .queryResponse frame.sequence (packPayload .queryResponse answer a.limits))

def fencedBy (fence : FenceMessage) (a : Agent β) : Agent β :=
  if fence.workerBoot = a.boot then { a with fenced := true } else a

def fenceAck (fence : FenceMessage) (a : Agent β) : Frame :=
  let acknowledged := fence.workerBoot = a.boot
  let ack : FenceAckMessage :=
    { acknowledged := acknowledged
      reason := if acknowledged then "incarnation fenced" else "fence targets another incarnation" }
  a.response .fenceAck 0 (packPayload .fenceAck ack a.limits)

def serveFence (fence : FenceMessage) : AgentM β Unit := do
  modify (fencedBy fence)
  let a ← get
  deliver env (fenceAck fence a)

def heartbeatAck (a : Agent β) : Frame :=
  let ack : HeartbeatAckMessage :=
    { epoch := a.epoch, receivedAtMs := env.now, allowedAttempts := a.applied }
  a.response .heartbeatAck 0 (packPayload .heartbeatAck ack a.limits)

/-- An acknowledgement that cannot be sent is disregarded. -/
def serveHeartbeat : AgentM β Unit := fun a ↦ ((send env (heartbeatAck env a) a).1, .ok ())

def serveShutdown : AgentM β Unit := do
  modify fun a ↦ { a with shutdown := true }
  tryCheckpoint backend env
  modify fun a ↦ { a with connected := false, channelOpen := false }
  throw (.returned success)

/-- One frame of the coordinator. -/
def serveFrame (frame : Frame) : AgentM β Unit :=
  match frame.type with
  | .mutationRequest =>
    expect (unpackPayload .mutationRequest frame.payload) >>= serveMutationRequest backend env frame
  | .queryRequest =>
    expect (unpackPayload .queryRequest frame.payload) >>= serveQueryRequest backend env frame
  | .fenceWorker => expect (unpackPayload .fence frame.payload) >>= serveFence env
  | .heartbeat => expect (unpackPayload .heartbeat frame.payload) >>= fun _ ↦ serveHeartbeat env
  | .shutdown => serveShutdown backend env
  -- a failure that the coordinator reports is classified there
  | .errorResponse => expect (unpackPayload .errorResponse frame.payload) >>= fun _ ↦ pure ()
  | .invalid | .count =>
    throw (.returned (failure .protocolViolation "invalid message type"))
  | type =>
    throw (.returned (failure .protocolViolation
      "the worker does not accept this message type" type.toText))

/-- The end of the connection ends the incarnation, which is not an error. -/
def serveLost (e : Error) : AgentM β Unit := do
  modify fun a ↦ { a with connected := false }
  if e.code = .closed || e.code = .deviceUnavailable then do
    tryCheckpoint backend env
    throw (.returned success)
  else throw (.returned (.error e))

/-- What is received over the connection. -/
def serve (received : Result Frame) : AgentM β Unit :=
  match received with
  | .ok frame => serveFrame backend env frame
  | .error e => serveLost backend env e

/-- The loop over what is received; it waits when nothing is left. -/
def serveAll : List (Surroundings × Result Frame) → AgentM β Unit
  | [] => pure ()
  | (env, received) :: rest => do
    let a ← get
    if a.shutdown then do
      modify fun a ↦ { a with connected := false }
      throw (.returned success)
    else do
      serve backend env received
      serveAll rest

def serveForever (received : List (Surroundings × Result Frame)) : AgentM β Unit := do
  let a ← get
  if a.connected then serveAll backend received
  else throw (.returned (failure .closed "worker is not connected"))

end Agent

/-- A property of the hardware that questions do not change. -/
structure AcceleratorBackend.Spares {β : Type} (backend : AcceleratorBackend β) (P : β → Prop) :
    Prop where
  discover : ∀ now s, P s → P (backend.discover now s).1
  queryLayout : ∀ now key s, P s → P (backend.queryLayout now key s).1

namespace Agent

variable {β : Type} {backend : AcceleratorBackend β} {env : Surroundings} {a b c : Agent β}
  {frame : Frame}

/-- What an incarnation never gives up. -/
def identity (a : Agent β) := (a.id, a.boot, a.epoch, a.limits)

lemma same_of_identity (h : b.identity = a.identity) :
    b.id = a.id ∧ b.boot = a.boot ∧ b.epoch = a.epoch ∧ b.limits = a.limits := by
  simpa [identity] using h

/-- What an incarnation does in one go: it sends frames and has the hardware perform mutations. -/
structure Turn (backend : AcceleratorBackend β) (a b : Agent β) (out : List Frame)
    (new : List MutationRequestMessage) : Prop where
  identity : b.identity = a.identity
  sent : b.sent = a.sent ++ out
  performed : b.performed = a.performed ++ new
  applied : b.applied = a.applied + UInt64.ofNat new.length
  fenced : a.fenced = true → b.fenced = true
  hardware : new = [] → ∀ P, backend.Spares P → P a.hardware → P b.hardware

lemma Turn.refl (a : Agent β) : Turn backend a a [] [] :=
  ⟨rfl, (List.append_nil _).symm, (List.append_nil _).symm, (UInt64.add_zero _).symm, id,
    fun _ _ _ h ↦ h⟩

lemma Turn.trans {out out' : List Frame} {new new' : List MutationRequestMessage}
    (h : Turn backend a b out new) (h' : Turn backend b c out' new') :
    Turn backend a c (out ++ out') (new ++ new') where
  identity := h'.identity.trans h.identity
  sent := by rw [h'.sent, h.sent, List.append_assoc]
  performed := by rw [h'.performed, h.performed, List.append_assoc]
  applied := by
    rw [h'.applied, h.applied, List.length_append, UInt64.ofNat_add, UInt64.add_assoc]
  fenced hf := h'.fenced (h.fenced hf)
  hardware hnew P hP ha := by
    obtain ⟨hfirst, hsecond⟩ := List.append_eq_nil_iff.mp hnew
    exact h'.hardware hsecond P hP (h.hardware hfirst P hP ha)

/-- A rewrite of what is not recorded. -/
lemma Turn.quiet (hidentity : b.identity = a.identity) (hsent : b.sent = a.sent)
    (hperformed : b.performed = a.performed) (happlied : b.applied = a.applied)
    (hfenced : a.fenced = true → b.fenced = true) (hhardware : b.hardware = a.hardware) :
    Turn backend a b [] [] where
  identity := hidentity
  sent := by rw [hsent, List.append_nil]
  performed := by rw [hperformed, List.append_nil]
  applied := by rw [happlied]; exact (UInt64.add_zero _).symm
  fenced := hfenced
  hardware _ P _ ha := by rw [hhardware]; exact ha

lemma turn_numbered (backend : AcceleratorBackend β) (frame : Frame) (a : Agent β) :
    Turn backend a (numbered frame a).1 [] [] := by
  unfold numbered
  split
  · exact .quiet rfl rfl rfl rfl id rfl
  · exact .refl a

/-- Sending adds a frame to the history or fails. -/
lemma send_cases (backend : AcceleratorBackend β) (env : Surroundings) (frame : Frame)
    (a : Agent β) :
    (∃ b, send env frame a = (b, .ok ()) ∧ Turn backend a b [(numbered frame a).2] []) ∨
      ∃ b e, send env frame a = (b, .error e) ∧ Turn backend a b [] [] := by
  have hnumbered := turn_numbered backend frame a
  unfold send
  split
  · cases env.link with
    | ok u =>
      refine .inl ⟨_, rfl, ?_⟩
      exact ⟨hnumbered.identity, rfl, hnumbered.performed, hnumbered.applied, hnumbered.fenced,
        hnumbered.hardware⟩
    | error e => exact .inr ⟨_, e, rfl, hnumbered⟩
  · exact .inr ⟨a, _, rfl, .refl a⟩

lemma deliver_cases (backend : AcceleratorBackend β) (env : Surroundings) (frame : Frame)
    (a : Agent β) :
    (∃ b, deliver env frame a = (b, .ok ()) ∧ Turn backend a b [(numbered frame a).2] []) ∨
      ∃ b e, deliver env frame a = (b, .error e) ∧ Turn backend a b [] [] := by
  unfold deliver
  obtain ⟨b, hsend, hturn⟩ | ⟨b, e, hsend, hturn⟩ := send_cases backend env frame a
  · rw [hsend]
    exact .inl ⟨b, rfl, hturn⟩
  · rw [hsend]
    exact .inr ⟨_, _, rfl, hturn.trans (.quiet rfl rfl rfl rfl id rfl)⟩

lemma turn_checkpoint (env : Surroundings) (a : Agent β) :
    Turn backend a (checkpoint backend env a).1 [] [] := by
  unfold checkpoint
  split
  · exact .refl a
  · split
    · exact .refl a
    · split
      · exact .refl a
      · exact .quiet rfl rfl rfl rfl id rfl

/-- Saving goes on unless the process dies. -/
lemma tryCheckpoint_cases (backend : AcceleratorBackend β) (env : Surroundings) (a : Agent β) :
    ∃ b, Turn backend a b [] [] ∧
      (tryCheckpoint backend env a = (b, .ok ()) ∨
        tryCheckpoint backend env a = (b, .error .died)) := by
  have hturn : Turn backend a (checkpoint backend env a).1 [] [] := turn_checkpoint env a
  unfold tryCheckpoint
  rcases hrun : checkpoint backend env a with ⟨b, (_ | e) | u⟩
  · rw [hrun] at hturn
    exact ⟨b, hturn, .inr rfl⟩
  · rw [hrun] at hturn
    exact ⟨b, hturn, .inl rfl⟩
  · rw [hrun] at hturn
    exact ⟨b, hturn, .inl rfl⟩

lemma vanish_cases (a : Agent β) :
    vanish a = (a, .ok ()) ∨
      vanish a = ({ a with ambiguousNext := false }, .error (.exited 24)) := by
  unfold vanish
  split
  · exact .inr rfl
  · exact .inl rfl

lemma callMutation_turn (backend : AcceleratorBackend β) (env : Surroundings)
    (request : MutationRequestMessage) (a : Agent β) :
    ∃ b reply, callMutation backend env request a = (b, .ok reply) ∧
      Turn backend a b [] [request] :=
  ⟨_, _, rfl, rfl, (List.append_nil _).symm, rfl, rfl, id, fun h ↦ by cases h⟩

/-- The call of the hardware is recorded whatever becomes of the answer. -/
lemma performMutation_turn (backend : AcceleratorBackend β) (env : Surroundings)
    (request : MutationRequestMessage) (a : Agent β) :
    Turn backend a (performMutation backend env request a).1 [] [request] := by
  obtain ⟨b, reply, hcall, hturn⟩ := callMutation_turn backend env request a
  obtain ⟨c, hsaved, hsave | hsave⟩ := tryCheckpoint_cases backend env b
  · rw [performMutation, bind_ok hcall, bind_ok hsave]
    rcases vanish_cases c with hvanish | hvanish
    · rw [bind_ok hvanish]
      exact hturn.trans hsaved
    · rw [bind_error hvanish]
      exact (hturn.trans hsaved).trans (.quiet rfl rfl rfl rfl id rfl)
  · rw [performMutation, bind_ok hcall, bind_error hsave]
    exact hturn.trans hsaved

/-- A question to the hardware. -/
lemma onHardware_turn (backend : AcceleratorBackend β) {α : Type} {m : Procedure Error β α}
    (hm : ∀ P, backend.Spares P → ∀ s, P s → P (m s).1) (a : Agent β) :
    ∃ b, (onHardware m : AgentM β (Result α)) a = (b, .ok (m a.hardware).2) ∧
      Turn backend a b [] [] :=
  ⟨_, rfl, rfl, (List.append_nil _).symm, (List.append_nil _).symm, (UInt64.add_zero _).symm, id,
    fun _ P hP ha ↦ hm P hP a.hardware ha⟩

/-- The answer to a question is of its kind. -/
lemma answerQuery_turn (backend : AcceleratorBackend β) (env : Surroundings)
    (request : QueryRequestMessage) (a : Agent β) :
    ∃ b answer, answerQuery backend env request a = (b, .ok answer) ∧ answer.kind = request.kind ∧
      Turn backend a b [] [] := by
  obtain ⟨b, hlayout, hb⟩ := onHardware_turn backend
    (m := backend.queryLayout env.now request.key) (fun P hP s hs ↦ hP.queryLayout _ _ s hs) a
  obtain ⟨c, hdevices, hc⟩ := onHardware_turn backend
    (m := backend.discover env.now) (fun P hP s hs ↦ hP.discover _ s hs) a
  unfold answerQuery
  cases hkind : request.kind with
  | layout =>
    dsimp only
    rw [bind_ok hlayout]
    cases (backend.queryLayout env.now request.key a.hardware).2 with
    | ok layout => exact ⟨b, _, rfl, rfl, hb⟩
    | error e => exact ⟨b, _, rfl, rfl, hb⟩
  | accelerators =>
    dsimp only
    rw [bind_ok hdevices]
    cases (backend.discover env.now a.hardware).2 with
    | ok devices => exact ⟨c, _, rfl, rfl, hc⟩
    | error e => exact ⟨c, _, rfl, rfl, hc⟩
  | _ => exact ⟨a, _, rfl, rfl, .refl a⟩

/-- The frames that ask for an answer. -/
def asks (frame : Frame) : Bool :=
  frame.type = .mutationRequest || frame.type = .queryRequest || frame.type = .fenceWorker

/-- The frames that answer. -/
def answers (frame : Frame) : Bool :=
  frame.type = .mutationResult || frame.type = .queryResponse || frame.type = .fenceAck

/-- An answer to a frame: it comes from the incarnation, and it carries the sequence of the frame and
names the attempt and the token, or the kind of the question, or whether the fence was meant for
the incarnation. -/
structure Answers (a : Agent β) (frame answer : Frame) : Prop where
  sender : answer.worker = a.id ∧ answer.workerBoot = a.boot ∧ answer.coordinatorEpoch = a.epoch
  sequence : frame.type ≠ .fenceWorker → frame.sequence ≠ 0 → answer.sequence = frame.sequence
  mutation : frame.type = .mutationRequest → answer.type = .mutationResult ∧
    ∃ request result, unpackPayload .mutationRequest frame.payload = .ok request ∧
      answer.payload = packPayload .mutationResult
        { attempt := request.attempt
          idempotencyToken := request.request.idempotencyToken
          result := result } a.limits
  query : frame.type = .queryRequest → answer.type = .queryResponse ∧
    ∃ request response, unpackPayload .queryRequest frame.payload = .ok request ∧
      response.kind = request.kind ∧
      answer.payload = packPayload .queryResponse response a.limits
  fence : frame.type = .fenceWorker → answer.type = .fenceAck ∧
    ∃ fence, unpackPayload .fence frame.payload = .ok fence ∧
      answer.payload = (fenceAck fence a).payload

/-- The mutation request that a frame carries. -/
def carried (frame : Frame) : Option MutationRequestMessage :=
  (unpackPayload .mutationRequest frame.payload : Result MutationRequestMessage).toOption

/-- The request of a frame under which the hardware is asked for a mutation. -/
def requestOf (epoch : CoordinatorEpoch) (frame : Frame) : Option MutationRequestMessage :=
  if frame.type = .mutationRequest ∧ frame.coordinatorEpoch = epoch then carried frame else none

/-- What a turn does with what it received: the hardware is asked at most once, for what the frame
requests under the incarnation's epoch, and a frame that asks gets one answer when serving goes
on. -/
structure Responds (a : Agent β) (received : Result Frame) (r : Except Ending Unit)
    (out : List Frame) (new : List MutationRequestMessage) : Prop where
  requested : new = [] ∨ ∃ frame request, received = .ok frame ∧ a.fenced = false ∧
    requestOf a.epoch frame = some request ∧ new = [request]
  answered : (out.filter answers = [] ∧
      (r = .ok () → ∀ frame, received = .ok frame → asks frame = false)) ∨
    ∃ frame answer, received = .ok frame ∧ asks frame = true ∧ out.filter answers = [answer] ∧
      Answers a frame answer

lemma numbered_sequence {frame : Frame} (h : frame.sequence ≠ 0) (a : Agent β) :
    numbered frame a = (a, frame) := by
  rw [numbered, if_neg h]

/-- Numbering a frame changes nothing but its sequence. -/
lemma numbered_eq (frame : Frame) (a : Agent β) :
    ∃ sequence, (numbered frame a).2 = { frame with sequence := sequence } := by
  unfold numbered
  split
  · exact ⟨_, rfl⟩
  · exact ⟨frame.sequence, rfl⟩

lemma answers_numbered (frame : Frame) (a : Agent β) :
    answers (numbered frame a).2 = answers frame := by
  obtain ⟨sequence, h⟩ := numbered_eq frame a
  rw [h]
  rfl

lemma Answers.numbered {answer : Frame} (h : Answers a frame answer) (b : Agent β) :
    Answers a frame (numbered answer b).2 := by
  by_cases hsequence : answer.sequence = 0
  · obtain ⟨sequence, heq⟩ := numbered_eq answer b
    rw [heq]
    refine ⟨h.sender, fun htype hframe ↦ absurd ((h.sequence htype hframe).symm.trans hsequence) hframe,
      h.mutation, h.query, h.fence⟩
  · rw [numbered_sequence hsequence]
    exact h

/-- A frame that does not ask, and what is sent for it does not answer. -/
lemma Responds.quiet {r : Except Ending Unit} {out : List Frame} {received : Result Frame}
    (hasks : ∀ frame, received = .ok frame → asks frame = false)
    (hout : ∀ answer ∈ out, answers answer = false) : Responds a received r out [] :=
  ⟨.inl rfl, .inl ⟨List.filter_eq_nil_iff.mpr fun answer h ↦ by simp [hout answer h],
    fun _ ↦ hasks⟩⟩

/-- Serving ends before an answer is sent. -/
lemma Responds.ended {e : Ending} {new : List MutationRequestMessage} {received : Result Frame}
    (h : new = [] ∨ ∃ frame request, received = .ok frame ∧ a.fenced = false ∧
      requestOf a.epoch frame = some request ∧ new = [request]) :
    Responds a received (.error e) [] new :=
  ⟨h, .inl ⟨rfl, fun hok ↦ by cases hok⟩⟩

/-- The answer is the last thing that a turn does. -/
lemma deliver_responds (env : Surroundings) {answer : Frame} {new : List MutationRequestMessage}
    (hturn : Turn backend a b [] new) (hasks : asks frame = true) (hanswers : answers answer = true)
    (hanswer : Answers a frame answer)
    (hnew : new = [] ∨ ∃ frame' request, (.ok frame : Result Frame) = .ok frame' ∧
      a.fenced = false ∧ requestOf a.epoch frame' = some request ∧ new = [request]) :
    ∃ out, Turn backend a (deliver env answer b).1 out new ∧
      Responds a (.ok frame) (deliver env answer b).2 out new := by
  obtain ⟨c, hdeliver, hc⟩ | ⟨c, e, hdeliver, hc⟩ :=
    deliver_cases backend env answer b
  · rw [hdeliver]
    have hboth := hturn.trans hc
    rw [List.append_nil, List.nil_append] at hboth
    refine ⟨_, hboth, hnew, .inr ⟨frame, _, rfl, hasks, ?_, hanswer.numbered b⟩⟩
    rw [List.filter_cons_of_pos (by rw [answers_numbered, hanswers]), List.filter_nil]
  · rw [hdeliver]
    have hboth := hturn.trans hc
    rw [List.append_nil, List.append_nil] at hboth
    exact ⟨[], hboth, .ended hnew⟩

/-- What cannot be understood is not served. -/
lemma expect_responds {α : Type} {r : Result α} {serve : α → AgentM β Unit}
    {received : Result Frame}
    (h : ∀ message, r = .ok message → ∃ out new, Turn backend a (serve message a).1 out new ∧
      Responds a received (serve message a).2 out new) :
    ∃ out new, Turn backend a ((expect r >>= serve) a).1 out new ∧
      Responds a received ((expect r >>= serve) a).2 out new := by
  cases r with
  | error e => exact ⟨[], [], .refl a, .ended (.inl rfl)⟩
  | ok message => exact h message rfl

lemma serveMutationRequest_turn {request : MutationRequestMessage}
    (htype : frame.type = .mutationRequest)
    (hunpack : unpackPayload .mutationRequest frame.payload = .ok request) (a : Agent β) :
    ∃ out new, Turn backend a (serveMutationRequest backend env frame request a).1 out new ∧
      Responds a (.ok frame) (serveMutationRequest backend env frame request a).2 out new := by
  have hasks : asks frame = true := by rw [asks, htype]; rfl
  have hanswer (reply : Result BackendMutationResult) :
      Answers a frame (a.serveMutation frame request reply) := by
    refine ⟨⟨rfl, rfl, rfl⟩, fun _ _ ↦ rfl, fun _ ↦ ⟨rfl, request, _, hunpack, rfl⟩, fun h ↦ ?_,
      fun h ↦ ?_⟩
    all_goals
      rw [htype] at h
      cases h
  unfold serveMutationRequest
  rw [get_bind]
  split
  · obtain ⟨out, hturn, hresponds⟩ := deliver_responds env (.refl a) hasks rfl
      (hanswer (.ok {})) (.inl rfl)
    exact ⟨out, [], hturn, hresponds⟩
  · rename_i hserves
    obtain ⟨hfenced, hepoch⟩ : a.fenced = false ∧ frame.coordinatorEpoch = a.epoch := by
      simpa using hserves
    have hnew : [request] = [] ∨ ∃ frame' request', (.ok frame : Result Frame) = .ok frame' ∧
        a.fenced = false ∧ requestOf a.epoch frame' = some request' ∧ [request] = [request'] := by
      refine .inr ⟨frame, request, rfl, hfenced, ?_, rfl⟩
      exact (if_pos ⟨htype, hepoch⟩).trans (congrArg Except.toOption hunpack)
    have hturn := performMutation_turn backend env request a
    rcases hperform : performMutation backend env request a with ⟨b, e | reply⟩
    · rw [hperform] at hturn
      rw [bind_error hperform]
      exact ⟨[], [request], hturn, .ended hnew⟩
    · rw [hperform] at hturn
      rw [bind_ok hperform]
      obtain ⟨out, hboth, hresponds⟩ := deliver_responds env hturn hasks rfl
        (hanswer reply) hnew
      exact ⟨out, [request], hboth, hresponds⟩

lemma serveQueryRequest_turn (env : Surroundings) {request : QueryRequestMessage}
    (htype : frame.type = .queryRequest)
    (hunpack : unpackPayload .queryRequest frame.payload = .ok request) (a : Agent β) :
    ∃ out, Turn backend a (serveQueryRequest backend env frame request a).1 out [] ∧
      Responds a (.ok frame) (serveQueryRequest backend env frame request a).2 out [] := by
  have hasks : asks frame = true := by rw [asks, htype]; rfl
  obtain ⟨b, answer, hanswer, hkind, hturn⟩ :=
    answerQuery_turn backend env request a
  unfold serveQueryRequest
  rw [bind_ok hanswer, get_bind]
  obtain ⟨hid, hboot, hepoch, hlimits⟩ := same_of_identity hturn.identity
  refine deliver_responds env hturn hasks rfl ?_ (.inl rfl)
  refine ⟨⟨hid, hboot, hepoch⟩, fun _ _ ↦ rfl, fun h ↦ ?_, fun _ ↦
    ⟨rfl, request, answer, hunpack, hkind, congrArg (packPayload .queryResponse answer) hlimits⟩,
    fun h ↦ ?_⟩
  all_goals
    rw [htype] at h
    cases h

lemma serveFence_turn (env : Surroundings) {fence : FenceMessage}
    (htype : frame.type = .fenceWorker)
    (hunpack : unpackPayload .fence frame.payload = .ok fence) (a : Agent β) :
    ∃ out, Turn backend a (serveFence env fence a).1 out [] ∧
      Responds a (.ok frame) (serveFence env fence a).2 out [] := by
  have hasks : asks frame = true := by rw [asks, htype]; rfl
  have hturn : Turn backend a (fencedBy fence a) [] [] := by
    unfold fencedBy
    split
    · exact .quiet rfl rfl rfl rfl (fun _ ↦ rfl) rfl
    · exact .refl a
  obtain ⟨hid, hboot, hepoch, hlimits⟩ := same_of_identity hturn.identity
  unfold serveFence
  rw [modify_bind, get_bind]
  refine deliver_responds env hturn hasks rfl ?_ (.inl rfl)
  refine ⟨⟨hid, hboot, hepoch⟩, fun h ↦ absurd htype h, fun h ↦ ?_, fun h ↦ ?_, fun _ ↦
    ⟨rfl, fence, hunpack, ?_⟩⟩
  · rw [htype] at h
    cases h
  · rw [htype] at h
    cases h
  · change packPayload .fenceAck _ (fencedBy fence a).limits = packPayload .fenceAck _ a.limits
    rw [hboot, hlimits]

lemma serveHeartbeat_turn (env : Surroundings) (hasks : asks frame = false) (a : Agent β) :
    ∃ out, Turn backend a (serveHeartbeat env a).1 out [] ∧
      Responds a (.ok frame) (serveHeartbeat env a).2 out [] := by
  have hquiet : ∀ other, (.ok frame : Result Frame) = .ok other → asks other = false := by
    rintro other ⟨⟩
    exact hasks
  unfold serveHeartbeat
  obtain ⟨b, hsend, hb⟩ | ⟨b, e, hsend, hb⟩ :=
    send_cases backend env (heartbeatAck env a) a
  · rw [hsend]
    refine ⟨_, hb, .quiet hquiet fun answer hmem ↦ ?_⟩
    rw [List.mem_singleton.mp hmem, answers_numbered]
    rfl
  · rw [hsend]
    exact ⟨[], hb, .quiet hquiet (List.forall_mem_nil _)⟩

lemma serveShutdown_turn (received : Result Frame) (a : Agent β) :
    Turn backend a (serveShutdown backend env a).1 [] [] ∧
      Responds a received (serveShutdown backend env a).2 [] [] := by
  have hstopping : Turn backend a { a with shutdown := true } [] [] :=
    .quiet rfl rfl rfl rfl id rfl
  unfold serveShutdown
  rw [modify_bind]
  obtain ⟨b, hsaved, hsave | hsave⟩ := tryCheckpoint_cases backend env { a with shutdown := true }
  · rw [bind_ok hsave]
    exact ⟨(hstopping.trans hsaved).trans (.quiet rfl rfl rfl rfl id rfl), .ended (.inl rfl)⟩
  · rw [bind_error hsave]
    exact ⟨hstopping.trans hsaved, .ended (.inl rfl)⟩

lemma serveLost_turn (received : Result Frame) (e : Error) (a : Agent β) :
    Turn backend a (serveLost backend env e a).1 [] [] ∧
      Responds a received (serveLost backend env e a).2 [] [] := by
  have hlost : Turn backend a { a with connected := false } [] [] := .quiet rfl rfl rfl rfl id rfl
  unfold serveLost
  rw [modify_bind]
  split
  · obtain ⟨b, hsaved, hsave | hsave⟩ :=
      tryCheckpoint_cases backend env { a with connected := false }
    · rw [bind_ok hsave]
      exact ⟨hlost.trans hsaved, .ended (.inl rfl)⟩
    · rw [bind_error hsave]
      exact ⟨hlost.trans hsaved, .ended (.inl rfl)⟩
  · exact ⟨hlost, .ended (.inl rfl)⟩

/-- What one turn of the loop does. -/
theorem serve_turn (backend : AcceleratorBackend β) (env : Surroundings)
    (received : Result Frame) (a : Agent β) :
    ∃ out new, Turn backend a (serve backend env received a).1 out new ∧
      Responds a received (serve backend env received a).2 out new := by
  cases received with
  | error e => exact ⟨[], [], serveLost_turn _ e a⟩
  | ok frame =>
    change ∃ out new, Turn backend a (serveFrame backend env frame a).1 out new ∧
      Responds a (.ok frame) (serveFrame backend env frame a).2 out new
    unfold serveFrame
    cases htype : frame.type
    case mutationRequest =>
      exact expect_responds fun request h ↦ serveMutationRequest_turn htype h a
    case queryRequest =>
      refine expect_responds fun request h ↦ ?_
      obtain ⟨out, hturn, hresponds⟩ := serveQueryRequest_turn env htype h a
      exact ⟨out, [], hturn, hresponds⟩
    case shutdown => exact ⟨[], [], serveShutdown_turn _ a⟩
    case fenceWorker =>
      refine expect_responds fun fence h ↦ ?_
      obtain ⟨out, hturn, hresponds⟩ := serveFence_turn env htype h a
      exact ⟨out, [], hturn, hresponds⟩
    all_goals
      have hasks : asks frame = false := by rw [asks, htype]; rfl
    case heartbeat =>
      refine expect_responds fun _ _ ↦ ?_
      obtain ⟨out, hturn, hresponds⟩ := serveHeartbeat_turn env hasks a
      exact ⟨out, [], hturn, hresponds⟩
    case errorResponse =>
      refine expect_responds fun _ _ ↦ ⟨[], [], .refl a, .quiet ?_ (List.forall_mem_nil _)⟩
      rintro other ⟨⟩
      exact hasks
    all_goals exact ⟨[], [], .refl a, .ended (.inl rfl)⟩

/-- The frames among what is received. -/
def arrivals (received : List (Surroundings × Result Frame)) : List Frame :=
  received.filterMap fun (_, frame) ↦ frame.toOption

/-- What the loop does with all it receives. -/
structure Serving (a : Agent β) (received : List (Surroundings × Result Frame))
    (r : Except Ending Unit) (out asked : List Frame) (new : List MutationRequestMessage) :
    Prop where
  requested : new.Sublist ((arrivals received).filterMap (requestOf a.epoch))
  spared : a.fenced = true → new = []
  front : asked <+: (arrivals received).filter asks
  all : r = .ok () → asked = (arrivals received).filter asks
  answered : List.Forall₂ (Answers a) asked (out.filter answers)

lemma Answers.of_identity (hidentity : b.identity = a.identity) {answer : Frame}
    (h : Answers b frame answer) : Answers a frame answer := by
  obtain ⟨hid, hboot, hepoch, hlimits⟩ := same_of_identity hidentity
  obtain ⟨hsender, hsequence, hmutation, hquery, hfence⟩ := h
  rw [hid, hboot, hepoch] at hsender
  rw [hlimits] at hmutation hquery
  refine ⟨hsender, hsequence, hmutation, hquery, fun htype ↦ ?_⟩
  obtain ⟨hack, fence, hunpack, hpayload⟩ := hfence htype
  refine ⟨hack, fence, hunpack, hpayload.trans ?_⟩
  change packPayload .fenceAck _ b.limits = packPayload .fenceAck _ a.limits
  rw [hboot, hlimits]

lemma Serving.waiting (a : Agent β) (r : Except Ending Unit) : Serving a [] r [] [] [] :=
  ⟨List.Sublist.refl [], fun _ ↦ rfl, List.prefix_refl [], fun _ ↦ rfl, .nil⟩

/-- Serving that ends leaves the rest alone. -/
lemma Serving.stopped {received : List (Surroundings × Result Frame)} {e : Ending} :
    Serving a received (.error e) [] [] [] :=
  ⟨List.nil_sublist _, fun _ ↦ rfl, List.nil_prefix, fun h ↦ (by cases h), .nil⟩

lemma arrivals_cons (env : Surroundings) (received : Result Frame)
    (rest : List (Surroundings × Result Frame)) :
    arrivals ((env, received) :: rest) = received.toOption.toList ++ arrivals rest := by
  unfold arrivals
  cases received <;> rfl

section Responding

variable {received : Result Frame} {r : Except Ending Unit} {out : List Frame}
  {new : List MutationRequestMessage}

/-- What the hardware is asked for was requested by the frame received. -/
lemma Responds.sublist (h : Responds a received r out new) :
    new.Sublist (received.toOption.toList.filterMap (requestOf a.epoch)) := by
  rcases h.requested with rfl | ⟨frame, request, rfl, -, hrequest, rfl⟩
  · exact List.nil_sublist _
  · rw [Except.toOption, Option.toList_some, List.filterMap_cons_some hrequest]
    exact List.Sublist.refl _

lemma Responds.spared (h : Responds a received r out new) (hfenced : a.fenced = true) :
    new = [] := by
  rcases h.requested with rfl | ⟨frame, request, rfl, hclear, -, -⟩
  · rfl
  · rw [hfenced] at hclear
    cases hclear

/-- While serving goes on, there is one answer if the frame received asks for one. -/
lemma Responds.matched (h : Responds a received (.ok ()) out new) :
    List.Forall₂ (Answers a) (received.toOption.toList.filter asks) (out.filter answers) := by
  rcases h.answered with ⟨hnone, hquiet⟩ | ⟨frame, answer, rfl, hasks, hone, hanswer⟩
  · rw [hnone]
    cases received with
    | error e => exact .nil
    | ok frame =>
      rw [Except.toOption, Option.toList_some, List.filter_cons_of_neg (by simp [hquiet])]
      exact .nil
  · rw [hone, Except.toOption, Option.toList_some, List.filter_cons_of_pos hasks]
    exact .cons hanswer .nil

end Responding

/-- One turn, and what the loop does with the rest if serving goes on. -/
lemma Responds.serving (env : Surroundings) {received : Result Frame}
    {rest : List (Surroundings × Result Frame)}
    {out out' asked : List Frame} {new new' : List MutationRequestMessage}
    {r : Except Ending Unit} (hturn : Turn backend a b out new)
    (hresponds : Responds a received (.ok ()) out new) (hrest : Serving b rest r out' asked new') :
    ∃ asked', Serving a ((env, received) :: rest) r (out ++ out') asked' (new ++ new') := by
  obtain ⟨-, -, hepoch, -⟩ := same_of_identity hturn.identity
  refine ⟨received.toOption.toList.filter asks ++ asked, ?_, ?_, ?_, fun hr ↦ ?_, ?_⟩
  · rw [arrivals_cons, List.filterMap_append]
    exact hresponds.sublist.append (hepoch ▸ hrest.requested)
  · intro hfenced
    rw [hresponds.spared hfenced, hrest.spared (hturn.fenced hfenced)]
    rfl
  · rw [arrivals_cons, List.filter_append]
    exact (List.prefix_append_right_inj _).mpr hrest.front
  · rw [arrivals_cons, List.filter_append, hrest.all hr]
  · rw [List.filter_append]
    exact List.rel_append hresponds.matched (hrest.answered.imp fun _ _ h ↦ h.of_identity hturn.identity)

/-- A turn that ends serving may have answered what it received. -/
lemma Responds.ending (env : Surroundings) (rest : List (Surroundings × Result Frame))
    {received : Result Frame} {out : List Frame} {new : List MutationRequestMessage} {e : Ending}
    (hresponds : Responds a received (.error e) out new) :
    ∃ asked, Serving a ((env, received) :: rest) (.error e) out asked new := by
  have hrequested : new.Sublist
      ((arrivals ((env, received) :: rest)).filterMap (requestOf a.epoch)) := by
    rw [arrivals_cons, List.filterMap_append]
    exact hresponds.sublist.trans (List.sublist_append_left _ _)
  rcases hresponds.answered with ⟨hnone, -⟩ | ⟨frame, answer, rfl, hasks, hone, hanswer⟩
  · exact ⟨[], hrequested, hresponds.spared, List.nil_prefix, fun h ↦ (by cases h),
      by rw [hnone]; exact .nil⟩
  · refine ⟨[frame], hrequested, hresponds.spared, ?_, fun h ↦ (by cases h), ?_⟩
    · rw [arrivals_cons, Except.toOption, Option.toList_some, List.singleton_append,
        List.filter_cons_of_pos hasks]
      exact List.prefix_append [frame] _
    · rw [hone]
      exact .cons hanswer .nil

theorem serveAll_serving (backend : AcceleratorBackend β)
    (received : List (Surroundings × Result Frame)) (a : Agent β) :
    ∃ out asked new, Turn backend a (serveAll backend received a).1 out new ∧
      Serving a received (serveAll backend received a).2 out asked new := by
  induction received generalizing a with
  | nil => exact ⟨[], [], [], .refl a, .waiting a _⟩
  | cons first rest ih =>
    obtain ⟨env, received⟩ := first
    rw [serveAll, get_bind]
    split
    · exact ⟨[], [], [], .quiet rfl rfl rfl rfl id rfl, .stopped⟩
    · obtain ⟨out, new, hturn, hresponds⟩ := serve_turn backend env received a
      rcases hserve : serve backend env received a with ⟨b, e | u⟩
      · rw [hserve] at hturn hresponds
        rw [bind_error hserve]
        obtain ⟨asked, hserving⟩ := hresponds.ending env rest
        exact ⟨out, asked, new, hturn, hserving⟩
      · rw [hserve] at hturn hresponds
        rw [bind_ok hserve]
        obtain ⟨out', asked, new', hturn', hserving⟩ := ih b
        obtain ⟨asked', hboth⟩ := hresponds.serving env hturn hserving
        exact ⟨out ++ out', asked', new ++ new', hturn.trans hturn', hboth⟩

lemma serveForever_serving (backend : AcceleratorBackend β)
    (received : List (Surroundings × Result Frame)) (a : Agent β) :
    ∃ out asked new, Turn backend a (serveForever backend received a).1 out new ∧
      Serving a received (serveForever backend received a).2 out asked new := by
  unfold serveForever
  rw [get_bind]
  split
  · exact serveAll_serving backend received a
  · exact ⟨[], [], [], .refl a, .stopped⟩

/-- Whatever a worker receives and however sending, saving and its hardware end: its mutation
results, query responses and fence acknowledgements correspond in order to a front of the frames
that ask for one, one to each, and to all of them while serving goes on. -/
theorem requests_answered_in_order (received : List (Surroundings × Result Frame)) (a : Agent β) :
    ∃ out asked, (serveForever backend received a).1.sent = a.sent ++ out ∧
      asked <+: (arrivals received).filter asks ∧
      List.Forall₂ (Answers a) asked (out.filter answers) ∧
      ((serveForever backend received a).2 = .ok () →
        asked = (arrivals received).filter asks) := by
  obtain ⟨out, asked, new, hturn, hserving⟩ := serveForever_serving backend received a
  exact ⟨out, asked, hturn.sent, hserving.front, hserving.answered, hserving.all⟩

/-- The mutations that the hardware is asked for are the ones that were requested under the
incarnation's epoch, in order and each at most once; they are counted. -/
theorem performed_as_requested (received : List (Surroundings × Result Frame)) (a : Agent β) :
    ∃ new, (serveForever backend received a).1.performed = a.performed ++ new ∧
      new.Sublist ((arrivals received).filterMap (requestOf a.epoch)) ∧
      (serveForever backend received a).1.applied = a.applied + UInt64.ofNat new.length := by
  obtain ⟨out, asked, new, hturn, hserving⟩ := serveForever_serving backend received a
  exact ⟨new, hturn.performed, hserving.requested, hturn.applied⟩

lemma serveAll_append (first rest : List (Surroundings × Result Frame)) :
    serveAll backend (first ++ rest) =
      serveAll backend first >>= fun _ ↦ serveAll backend rest := by
  induction first with
  | nil => rfl
  | cons head tail ih =>
    obtain ⟨env, received⟩ := head
    funext a
    rw [List.cons_append, serveAll, serveAll, bind_assoc, get_bind, get_bind, ih]
    split
    · rfl
    · rw [bind_assoc]

lemma serveFence_fenced (backend : AcceleratorBackend β) {fence : FenceMessage}
    (hboot : fence.workerBoot = a.boot) : (serveFence env fence a).1.fenced = true := by
  have hfenced : (fencedBy fence a).fenced = true := by rw [fencedBy, if_pos hboot]
  unfold serveFence
  rw [modify_bind, get_bind]
  obtain ⟨c, hdeliver, hc⟩ | ⟨c, e, hdeliver, hc⟩ := deliver_cases backend env
    (fenceAck fence (fencedBy fence a)) (fencedBy fence a)
  · rw [hdeliver]
    exact hc.fenced hfenced
  · rw [hdeliver]
    exact hc.fenced hfenced

/-- A fence that names the incarnation is kept. -/
lemma serve_fence (backend : AcceleratorBackend β) (env : Surroundings) {fence : FenceMessage}
    (htype : frame.type = .fenceWorker)
    (hunpack : unpackPayload .fence frame.payload = .ok fence) (hboot : fence.workerBoot = a.boot) :
    (serve backend env (.ok frame) a).1.fenced = true := by
  have hserve : serve backend env (.ok frame) a = serveFence env fence a := by
    change serveFrame backend env frame a = _
    unfold serveFrame
    rw [htype]
    exact bind_ok (congrArg (fun r : Result FenceMessage ↦ (expect r : AgentM β _) a) hunpack)
  rw [hserve]
  exact serveFence_fenced backend hboot

/-- The end states of two runs between which the hardware was at most asked questions. -/
def Unmoved (backend : AcceleratorBackend β) (a b : Agent β) : Prop :=
  b.performed = a.performed ∧ ∀ P, backend.Spares P → P a.hardware → P b.hardware

lemma Turn.unmoved {out : List Frame} (h : Turn backend a b out []) : Unmoved backend a b :=
  ⟨by rw [h.performed, List.append_nil], h.hardware rfl⟩

/-- A frame of another type asks the hardware for nothing. -/
lemma Responds.none {r : Except Ending Unit} {out : List Frame} {new : List MutationRequestMessage}
    (h : Responds a (.ok frame) r out new) (htype : frame.type ≠ .mutationRequest) : new = [] := by
  rcases h.requested with rfl | ⟨other, request, ⟨⟩, -, hrequest, -⟩
  · rfl
  · rw [requestOf, if_neg fun h ↦ htype h.1] at hrequest
    cases hrequest

/-- Once a worker was sent a fence that names its incarnation, its hardware performs no mutation
and is only asked questions, whatever the worker receives behind it. -/
theorem fenced_performs_nothing (before after : List (Surroundings × Result Frame)) (a : Agent β)
    {fence : FenceMessage} (htype : frame.type = .fenceWorker)
    (hunpack : unpackPayload .fence frame.payload = .ok fence) (hboot : fence.workerBoot = a.boot) :
    Unmoved backend (serveForever backend before a).1
      (serveForever backend (before ++ (env, .ok frame) :: after) a).1 := by
  unfold serveForever
  rw [get_bind, get_bind]
  split
  · rw [serveAll_append]
    obtain ⟨out, asked, new, hturn, -⟩ := serveAll_serving backend before a
    rcases hfirst : serveAll backend before a with ⟨b, e | u⟩
    · rw [bind_error hfirst]
      exact (Turn.refl b).unmoved
    · rw [bind_ok hfirst, serveAll, get_bind]
      rw [hfirst] at hturn
      obtain ⟨-, hb, -, -⟩ := same_of_identity hturn.identity
      split
      · exact (Turn.quiet rfl rfl rfl rfl id rfl).unmoved
      · obtain ⟨out', new', hturn', hresponds⟩ :=
          serve_turn backend env (.ok frame) b
        have hfenced := serve_fence backend env htype hunpack
          (hboot.trans hb.symm)
        obtain rfl := hresponds.none (by rw [htype]; decide)
        rcases hserve : serve backend env (.ok frame) b with ⟨c, e | v⟩
        · rw [hserve] at hturn'
          rw [bind_error hserve]
          exact hturn'.unmoved
        · rw [hserve] at hturn' hfenced
          rw [bind_ok hserve]
          obtain ⟨out'', asked'', new'', hturn'', hserving⟩ :=
            serveAll_serving backend after c
          obtain rfl := hserving.spared hfenced
          exact (hturn'.trans hturn'').unmoved
  · exact (Turn.refl a).unmoved

end Agent

section Synthetic

open SyntheticBackend

/-- The synthetic backend behind a worker; what it discovers is read off its devices. -/
def SyntheticBackend.hardware
    (devices : UInt64 → SyntheticBackend → Result (List BackendAccelerator)) :
    AcceleratorBackend SyntheticBackend where
  name := "synthetic"
  discover now := fun backend ↦ (backend, devices now backend)
  queryLayout := SyntheticBackend.queryLayout
  createPartitions := SyntheticBackend.createPartitions
  destroyPartitions := SyntheticBackend.destroyPartitions
  reconfigureLayout := SyntheticBackend.reconfigureLayout
  exportState := some SyntheticBackend.exportState
  importState := some SyntheticBackend.importState

end Synthetic

namespace Sample

/-- Synthetic hardware that does not tell of its devices. -/
abbrev hardware : AcceleratorBackend SyntheticBackend := SyntheticBackend.hardware fun _ _ ↦ .ok []

/-- A worker over a synthetic backend without devices. -/
def agent : Agent SyntheticBackend where
  toWorker := executor
  hardware := SyntheticBackend.constructed

/-- Nothing goes wrong. -/
def calm : Surroundings := {}

/-- A fence for the incarnation of the worker. -/
def fencing : Frame :=
  { type := .fenceWorker
    payload := packPayload .fence ({ worker := 7, workerBoot := 8 } : FenceMessage) {} }

/-- The request for the creation. -/
def requesting : Frame := { asking with payload := packPayload .mutationRequest creation {} }

lemma unpack_fencing : (unpackPayload .fence fencing.payload : Result FenceMessage) =
    .ok { worker := 7, workerBoot := 8 } := by
  refine (unpack_ok_iff (t := .fence) ?_ trivial ?_ _).mpr ⟨?_, Nat.zero_le _, rfl⟩
  · decide +kernel
  · decide +kernel
  · decide +kernel

end Sample

namespace Agent

theorem fenced_performs_nothing_synthetic :
    Unmoved Sample.hardware (serveForever Sample.hardware [] Sample.agent).1
      (serveForever Sample.hardware
        ([] ++ (Sample.calm, .ok Sample.fencing) :: [(Sample.calm, .ok Sample.requesting)])
        Sample.agent).1 :=
  fenced_performs_nothing [] [(Sample.calm, .ok Sample.requesting)] Sample.agent rfl
    Sample.unpack_fencing rfl

end Agent

end PartitionFabric
