import PartitionFabric.Coordinator.Events

/-!
What the handlers of a session change besides the fabric: the session itself and the pending
queries.
-/

namespace PartitionFabric

open CoordinatorState

open Procedure

/-- A relation that every operation of the handlers on the fabric respects, the registration of
workers and their heartbeats apart. -/
structure Serves (R : CoordinatorState → CoordinatorState → Prop) : Prop where
  allocate : ∀ c, Advances R (onFabric allocateId) c
  snapshot : ∀ c, Advances R (onFabric PartitionFabric.snapshot) c
  report : ∀ device now c, Advances R (onFabric (registerBackendAccelerator device now)) c
  bind : ∀ id worker boot c,
    Advances R (onFabric (PartitionFabric.bindAcceleratorWorker id worker boot)) c
  reconcile : ∀ layout now c, Advances R (onFabric (reconcileWithBackendKey layout now)) c
  apply : ∀ attempt result observed now c,
    Advances R (onFabric (applyMutationResult attempt result observed now)) c
  settle : ∀ attempt outcome c, R c (settle attempt outcome c)

section Serving

variable {R : CoordinatorState → CoordinatorState → Prop} [Std.Refl R]
  [IsTrans CoordinatorState R] {c : CoordinatorState} {i : SessionId} {frame : Frame} {now : UInt64}

lemma advances_acknowledgeHello (hR : Serves R) (hello : HelloMessage) :
    Advances R (acknowledgeHello hello) c := by
  apply advances_get_bind
  apply advances_ite
  · intro _
    exact advances_pure ..
  · intro _
    apply advances_ite
    · intro _
      exact advances_pure ..
    · intro _
      refine advances_bind (advances_attempt (hR.allocate _)) fun t allocated _ ↦ ?_
      cases allocated <;> exact advances_pure ..

lemma advances_handleHello (hR : Serves R) (hello : HelloMessage) :
    Advances R (handleHello hello) c := by
  apply advances_require_bind
  intro _
  refine advances_bind (advances_acknowledgeHello hR hello) fun t ack _ ↦ ?_
  apply advances_get_bind
  exact advances_pure ..

lemma advances_registerDevices (hR : Serves R) (devices : List BackendAccelerator)
    (ack : RegisterAckMessage) (c : CoordinatorState) :
    Advances R (registerDevices now devices ack) c := by
  induction devices generalizing ack c with
  | nil => exact advances_pure ..
  | cons device rest ih =>
    refine advances_bind (advances_attempt (hR.report ..)) fun t registered _ ↦ ?_
    exact ih _ t

lemma advances_publishEvidence (hR : Serves R) (worker : WorkerId) (boot : WorkerBootId)
    (devices : List BackendAccelerator) (layouts : List BackendLayout) :
    Advances R (publishEvidence worker boot devices layouts now) c := by
  refine advances_bind (hR.snapshot _) fun t _ _ ↦ ?_
  apply advances_get_bind
  apply advances_require_bind
  intro _
  refine advances_bind (advances_forM fun device _ u _ ↦ ?_) fun u _ _ ↦ ?_
  · exact advances_bind (hR.report ..) fun u id _ ↦ hR.bind ..
  · refine advances_forM fun layout _ v _ ↦ ?_
    exact advances_bind (hR.reconcile ..) fun w _ _ ↦ advances_pure ..

lemma advances_handleEvidence (hR : Serves R) (message : EvidencePublishMessage) :
    Advances R (handleEvidence i frame message now) c := by
  apply advances_get_bind
  apply advances_require_bind
  intro _
  apply advances_require_bind
  intro _
  refine advances_bind (advances_attempt (advances_publishEvidence hR ..)) fun t published _ ↦ ?_
  apply advances_get_bind
  exact advances_pure ..

lemma advances_handleMutationResult (hR : Serves R) :
    Advances R (handleMutationResult frame now) c := by
  apply advances_lift_bind
  intro message _
  apply advances_get_bind
  dsimp only
  cases c.fabric.findAttempt message.attempt with
  | none => exact advances_throw ..
  | some attempt =>
    apply advances_require_bind
    intro _
    apply advances_require_bind
    intro _
    refine advances_bind (hR.apply ..) fun t outcome _ ↦ ?_
    exact advances_modify (hR.settle ..)

lemma advances_handleHeartbeat (heartbeat : HeartbeatMessage)
    (h : (sessionAt c i).workerSession = true → Advances R (onFabric
      (PartitionFabric.noteWorkerSeen (sessionAt c i).worker (sessionAt c i).workerBoot
        heartbeat.sentAtMs)) c) :
    Advances R (handleHeartbeat i heartbeat) c := by
  apply advances_get_bind
  apply advances_ite
  · intro hsession
    refine advances_bind (advances_ignore (h hsession)) fun t _ _ ↦ ?_
    apply advances_get_bind
    exact advances_pure ..
  · intro _
    exact advances_pure ..

lemma advances_handled {α β : Type} {m : CoordinatorM α} {f : α → β} (h : Advances R m c) :
    Advances R (f <$> m) c := by
  refine advances_bind h fun t a _ ↦ ?_
  exact advances_pure ..

/-- The types of the frames whose handlers change a session or a pending query. -/
def concernsConnections : MessageType → Bool
  | .registerWorker | .shutdown | .queryResponse => true
  | _ => false

/-- The other frames work on the fabric only. -/
theorem advances_handleSessionFrame (hR : Serves R)
    (hseen : frame.type = .heartbeat → ∀ worker boot atMs,
      Advances R (onFabric (PartitionFabric.noteWorkerSeen worker boot atMs)) c)
    (h : concernsConnections frame.type = false) :
    Advances R (handleSessionFrame i frame now) c := by
  unfold handleSessionFrame
  cases htype : frame.type <;> simp only [htype, concernsConnections] at h ⊢ <;>
    first | contradiction | exact advances_throw .. | exact advances_pure .. | skip
  case hello =>
    apply advances_lift_bind
    intro hello _
    exact advances_handled (advances_handleHello hR hello)
  case evidencePublish =>
    apply advances_lift_bind
    intro message _
    exact advances_handled (advances_handleEvidence hR message)
  case mutationResult =>
    refine advances_bind (advances_handleMutationResult hR) fun t _ _ ↦ ?_
    exact advances_pure ..
  case heartbeat =>
    apply advances_lift_bind
    intro heartbeat _
    exact advances_handleHeartbeat heartbeat fun _ ↦ hseen htype ..
  all_goals
    apply advances_lift_bind
    intro _ _
    exact advances_pure ..

end Serving

/-- The state of the connections, without the fabric and the callers that wait for attempts. -/
def connections (c : CoordinatorState) : CoordinatorState := { c with fabric := {}, waiting := ∅ }

lemma serves_connections : Serves (Keeps connections) := by
  constructor <;> intros <;> rfl

variable {c : CoordinatorState} {i : SessionId} {frame : Frame} {now : UInt64}

theorem handleSessionFrame_keeps (h : concernsConnections frame.type = false) :
    Advances (Keeps connections) (handleSessionFrame i frame now) c :=
  advances_handleSessionFrame serves_connections (fun _ _ _ _ ↦ rfl) h

variable {message : RegisterWorkerMessage} {epoch : CoordinatorEpoch} {s : FabricState}

lemma bound_session (i : SessionId) (c : CoordinatorState) (worker : WorkerRecord) :
    (Procedure.modify fun c ↦ c.modifySession i (·.bind worker) : CoordinatorM Unit) c =
      (c.modifySession i (·.bind worker), .ok ()) := rfl

/-- A refused worker leaves its identity on the session. -/
lemma admitWorker_of_error {e : Error}
    (h : noteWorker (message.record epoch) now c.fabric = (s, .error e)) :
    (admitWorker i epoch message now c).1 =
      { c.modifySession i (·.bind message.worker) with fabric := s } := by
  have hnoted : attempt (onFabric (noteWorker (message.record epoch) now))
      (c.modifySession i (·.bind message.worker)) =
        ({ c.modifySession i (·.bind message.worker) with fabric := s }, .ok (.error e)) := by
    simp only [attempt, onFabric, modifySession, h]
  unfold admitWorker
  rw [bind_ok (bound_session i c message.worker), bind_ok hnoted]
  rfl

/-- An accepted worker is noted on the session before its devices are registered. -/
lemma admitWorker_of_ok {u : Unit}
    (h : noteWorker (message.record epoch) now c.fabric = (s, .ok u)) :
    ∃ ack, (admitWorker i epoch message now c).1 =
      (registerDevices now message.devices ack
        ({ c.modifySession i (·.bind message.worker) with fabric := s }.modifySession i
          (·.accept message.worker))).1 := by
  have hnoted : attempt (onFabric (noteWorker (message.record epoch) now))
      (c.modifySession i (·.bind message.worker)) =
        ({ c.modifySession i (·.bind message.worker) with fabric := s }, .ok (.ok u)) := by
    simp only [attempt, onFabric, modifySession, h]
  unfold admitWorker
  rw [bind_ok (bound_session i c message.worker), bind_ok hnoted]
  exact ⟨_, rfl⟩

/-- What a registration does to a session: it binds it and, if the fabric accepts the worker,
notes the acceptance. -/
lemma admitWorker_connections :
    connections (admitWorker i epoch message now c).1 =
        connections (c.modifySession i (·.bind message.worker)) ∨
      connections (admitWorker i epoch message now c).1 =
        connections ((c.modifySession i (·.bind message.worker)).modifySession i
          (·.accept message.worker)) := by
  rcases h : noteWorker (message.record epoch) now c.fabric with ⟨s, e | u⟩
  · rw [admitWorker_of_error h]
    exact .inl rfl
  · obtain ⟨ack, hack⟩ := admitWorker_of_ok (i := i) h
    rw [hack]
    exact .inr (advances_registerDevices serves_connections ..)

/-- A response to a query does nothing but answer the query under its sequence. -/
theorem handleSessionFrame_queryResponse (h : frame.type = .queryResponse) :
    (handleSessionFrame i frame now c).1 = c ∨
      ∃ response, unpackPayload .queryResponse frame.payload = .ok response ∧
        (handleSessionFrame i frame now c).1 = answerQuery frame.sequence response c := by
  unfold handleSessionFrame
  simp only [h]
  cases hr : (unpackPayload .queryResponse frame.payload : Result QueryResponseMessage) with
  | error e => exact .inl rfl
  | ok response => exact .inr ⟨response, rfl, rfl⟩

/-- A shutdown closes the session. -/
theorem handleSessionFrame_shutdown (h : frame.type = .shutdown) :
    (handleSessionFrame i frame now c).1 =
      c.modifySession i fun session ↦ { session with closed := true } := by
  unfold handleSessionFrame
  simp only [h]
  rfl

/-- A registration is refused before it does anything, or it is admitted over the session. -/
lemma handleRegister_cases (i : SessionId) (frame : Frame) (message : RegisterWorkerMessage)
    (now : UInt64) (c : CoordinatorState) :
    (handleRegister i frame message now c).1 = c ∨
      (valid message.worker.id && valid message.worker.boot) = true ∧
        frame.coordinatorEpoch = c.fabric.coordinatorEpoch ∧
        (handleRegister i frame message now c).1 =
          (admitWorker i frame.coordinatorEpoch message now c).1 := by
  unfold handleRegister
  rw [require_bind]
  split
  · rename_i hvalid
    rw [get_bind, require_bind]
    split
    · rename_i hepoch
      refine .inr ⟨hvalid, by simpa using hepoch, ?_⟩
      rcases hadmit : admitWorker i frame.coordinatorEpoch message now c with ⟨t, e | ack⟩
      · rw [bind_error hadmit]
      · rw [bind_ok hadmit]
        rfl
    · exact .inl rfl
  · exact .inl rfl

lemma map_fst {α β : Type} (m : CoordinatorM α) (f : α → β) (c : CoordinatorState) :
    ((f <$> m) c).1 = (m c).1 := by
  change ((m >>= fun a ↦ pure (f a)) c).1 = (m c).1
  rw [bind_apply]
  rcases m c with ⟨t, e | a⟩
  · rfl
  · rfl

/-- A registration is refused before it does anything, or it is admitted over the session. -/
theorem handleSessionFrame_register (h : frame.type = .registerWorker) :
    (handleSessionFrame i frame now c).1 = c ∨
      ∃ message : RegisterWorkerMessage, unpackPayload .registerWorker frame.payload = .ok message ∧
        (valid message.worker.id && valid message.worker.boot) = true ∧
        frame.coordinatorEpoch = c.fabric.coordinatorEpoch ∧
        (handleSessionFrame i frame now c).1 =
          (admitWorker i frame.coordinatorEpoch message now c).1 := by
  unfold handleSessionFrame
  simp only [h]
  cases hm : (unpackPayload .registerWorker frame.payload : Result RegisterWorkerMessage) with
  | error e => exact .inl rfl
  | ok message =>
    have hmap : ((lift (.ok message) >>= fun message : RegisterWorkerMessage ↦
        some <$> handleRegister i frame message now : CoordinatorM (Option Frame)) c).1 =
          (handleRegister i frame message now c).1 := map_fst ..
    rcases handleRegister_cases i frame message now c with hc | ⟨hvalid, hepoch, hc⟩
    · exact .inl (hmap.trans hc)
    · exact .inr ⟨message, rfl, hvalid, hepoch, hmap.trans hc⟩

end PartitionFabric
