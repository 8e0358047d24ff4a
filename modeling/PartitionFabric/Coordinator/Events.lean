import PartitionFabric.Coordinator.Session

/-!
The coordinator as a system: connections, frames, the ends of connections, the callers that wait
for workers, and the operations of other clients on the fabric, in any order.
-/

namespace PartitionFabric

open CoordinatorState

/-- What happens at a running coordinator. -/
inductive Event where
  | accept
  | receive (i : SessionId) (frame : Frame) (now : UInt64)
  | hangUp (i : SessionId)
  | leave (i : SessionId) (now : UInt64)
  | lookUp (worker : WorkerId) (boot : WorkerBootId) (stableKey : Text)
  | query (query : LayoutQuery)
  | forget (sequence : UInt64)
  | await (attempt : PartitionAttemptId) (worker : WorkerId) (boot : WorkerBootId)
  | collect (attempt : PartitionAttemptId)
  | operate (op : Op)

/-- The request that a layout query sends. -/
def LayoutQuery.request (query : LayoutQuery) : QueryRequestMessage :=
  { kind := .layout, key := query.stableKey }

namespace CoordinatorState

/-- Accepts a connection unless the table of sessions is full. -/
def accept (c : CoordinatorState) : CoordinatorState :=
  if c.sessions.length ≥ c.limits.maxWorkers then c
  else { c with sessions := c.sessions ++ [{}] }

/-- The reader of a session leaves its loop. -/
def stopReading (i : SessionId) (c : CoordinatorState) : CoordinatorState :=
  c.modifySession i fun session ↦ { session with reader := .stopped }

/-- One turn of the reader loop with the frame it received. -/
def receive (i : SessionId) (frame : Frame) (now : UInt64) (c : CoordinatorState) :
    CoordinatorState :=
  match c.sessions[i]? with
  | none => c
  | some session =>
    if session.reader = .reading ∧ ¬session.closed then
      let handled := handleSessionFrame i frame now c
      match handled.2 with
      | .ok _ => handled.1
      | .error e => if fatal e.code then handled.1.stopReading i else handled.1
    else c

/-- The connection is gone or the loop was left: the session is closed and its queries fail. -/
def hangUp (i : SessionId) (c : CoordinatorState) : CoordinatorState :=
  match c.sessions[i]? with
  | none => c
  | some session =>
    if session.reader = .reading ∨ session.reader = .stopped then
      failPendingQueries i "the worker connection closed before answering"
        (c.modifySession i fun session ↦ { session with closed := true, reader := .closing })
    else c

/-- The reader fences the incarnation that the session is bound to and ends. -/
def leave (i : SessionId) (now : UInt64) (c : CoordinatorState) : CoordinatorState :=
  match c.sessions[i]? with
  | none => c
  | some session =>
    if session.reader = .closing then
      let ended := c.modifySession i fun session ↦ { session with reader := .ended }
      if session.workerSession then
        abandonWorker session.worker session.workerBoot
          "worker incarnation disconnected before acknowledging"
          { ended with
            fabric := (PartitionFabric.fenceWorker session.worker session.workerBoot
              "worker connection closed" now ended.fabric).1 }
      else ended
    else c

/-- The first part of a layout query: the open session of the worker incarnation. -/
def lookUp (worker : WorkerId) (boot : WorkerBootId) (stableKey : Text) (c : CoordinatorState) :
    CoordinatorState :=
  match c.findSession worker boot with
  | none => c
  | some i => { c with queries := c.queries ++ [⟨i, worker, boot, stableKey⟩] }

/-- The second part of a layout query: it takes a sequence number, registers a waiter under it and
addresses the request to the session. -/
def sendQuery (query : LayoutQuery) (c : CoordinatorState) : CoordinatorState :=
  if query ∈ c.queries then
    let sequence := c.nextQuerySequence
    let c :=
      { c with queries := c.queries.erase query, nextQuerySequence := sequence + 1 }
    if c.pendingQueries.size ≥ c.limits.maxMessageQueue then c
    else
      { c.modifySession query.session (·.ask sequence query.request) with
        pendingQueries := c.pendingQueries.insert sequence { session := query.session } }
  else c

/-- A caller has its answer, or its request could not be sent. -/
def forget (sequence : UInt64) (c : CoordinatorState) : CoordinatorState :=
  { c with pendingQueries := c.pendingQueries.erase sequence }

/-- A caller registers to wait for the outcome of an attempt. -/
def await (attempt : PartitionAttemptId) (worker : WorkerId) (boot : WorkerBootId)
    (c : CoordinatorState) : CoordinatorState :=
  if c.waiting.size ≥ c.limits.maxPendingAttempts * 4 then c
  else
    { c with
      waiting := c.waiting.insert attempt
        { attempt := attempt, worker := worker, workerBoot := boot } }

/-- A caller has the outcome of its attempt. -/
def collect (attempt : PartitionAttemptId) (c : CoordinatorState) : CoordinatorState :=
  { c with waiting := c.waiting.erase attempt }

variable {c : CoordinatorState} {i : SessionId} {frame : Frame} {now : UInt64}

/-- A frame is handled by an open session whose reader reads; a fatal failure stops the reader. -/
lemma receive_cases (i : SessionId) (frame : Frame) (now : UInt64) (c : CoordinatorState) :
    c.receive i frame now = c ∨
      ∃ session, c.sessions[i]? = some session ∧ session.reader = .reading ∧
        session.closed = false ∧
        (c.receive i frame now = (handleSessionFrame i frame now c).1 ∨
          c.receive i frame now = (handleSessionFrame i frame now c).1.stopReading i) := by
  unfold receive
  split
  · exact .inl rfl
  · rename_i session hsession
    split
    · rename_i hopen
      refine .inr ⟨session, hsession, hopen.1, by simpa using hopen.2, ?_⟩
      dsimp only
      cases (handleSessionFrame i frame now c).2 with
      | ok _ => exact .inl rfl
      | error e =>
        by_cases he : fatal e.code
        · exact .inr (if_pos he)
        · exact .inl (if_neg he)
    · exact .inl rfl

lemma hangUp_cases (i : SessionId) (c : CoordinatorState) :
    c.hangUp i = c ∨
      ∃ session, c.sessions[i]? = some session ∧
        (session.reader = .reading ∨ session.reader = .stopped) ∧
        c.hangUp i = failPendingQueries i "the worker connection closed before answering"
          (c.modifySession i fun session ↦ { session with closed := true, reader := .closing }) := by
  unfold hangUp
  split
  · exact .inl rfl
  · rename_i session hsession
    split
    · exact .inr ⟨session, hsession, ‹_›, rfl⟩
    · exact .inl rfl

end CoordinatorState

/-- The state that an event leaves behind. -/
def Event.step : Event → CoordinatorState → CoordinatorState
  | .accept => CoordinatorState.accept
  | .receive i frame now => CoordinatorState.receive i frame now
  | .hangUp i => CoordinatorState.hangUp i
  | .leave i now => CoordinatorState.leave i now
  | .lookUp worker boot stableKey => CoordinatorState.lookUp worker boot stableKey
  | .query request => sendQuery request
  | .forget sequence => CoordinatorState.forget sequence
  | .await attempt worker boot => CoordinatorState.await attempt worker boot
  | .collect attempt => CoordinatorState.collect attempt
  | .operate op => fun c ↦ { c with fabric := op.step c.fabric }

/-- A coordinator over a newly constructed fabric. -/
def CoordinatorState.created (options : FabricOptions) (now : UInt64) : CoordinatorState :=
  { limits := options.limits
    fabric := FabricState.opened { options with requireWorkerForMutation := true } now }

/-- The coordinator as a system over its events. -/
def coordinator : System CoordinatorState Event where
  initial c := ∃ options now, c = CoordinatorState.created options now
  step := Event.step

namespace Sample

/-- The registration of a worker in the first epoch. -/
def registration (worker : WorkerId) (boot : WorkerBootId) : Frame :=
  { type := .registerWorker
    coordinatorEpoch := 1
    payload := packPayload .registerWorker { worker := { id := worker, boot := boot } } {} }

end Sample

end PartitionFabric
