import PartitionFabric.Coordinator.Agent
import PartitionFabric.Coordinator.Connections
import PartitionFabric.Coordinator.InFlight
import PartitionFabric.Foundation.Tickets
import PartitionFabric.Invariants.Dispatching

/-!
The coordinator and its workers as one system: frames travel down one connection for each worker,
and everything else may happen in any order.

What arrives at the coordinator is not restricted at all. A client is a peer that never takes a
frame.
-/

namespace PartitionFabric

open Procedure CoordinatorState

/-- A connection from the coordinator to a worker: the frames that were taken from it, those that
were not, and the worker. -/
structure Link (β : Type) where
  taken : List Frame := []
  pending : List Frame := []
  ended : Bool := false
  sequence : UInt64 := 0
  agent : Agent β

namespace Link

variable {β : Type}

/-- Everything that was sent. -/
def log (l : Link β) : List Frame := l.taken ++ l.pending

/-- Sends a frame; one without a sequence number takes the next one of the session. -/
def send (frame : Frame) (l : Link β) : Link β :=
  if frame.sequence = 0 then
    { l with
      sequence := l.sequence + 1
      pending := l.pending ++ [{ frame with sequence := l.sequence + 1 }] }
  else { l with pending := l.pending ++ [frame] }

/-- The worker receives something; the first turn that ends serving is its last. -/
def turn (backend : AcceleratorBackend β) (env : Surroundings) (received : Result Frame)
    (l : Link β) : Link β :=
  let served := Agent.serveAll backend [(env, received)] l.agent
  { l with ended := !served.2.isOk, agent := served.1 }

/-- The worker takes the next frame. -/
def serve (backend : AcceleratorBackend β) (env : Surroundings) (l : Link β) : Link β :=
  match l.ended, l.pending with
  | false, frame :: rest =>
    turn backend env (.ok frame) { l with taken := l.taken ++ [frame], pending := rest }
  | _, _ => l

/-- The connection ends for the worker, which takes nothing more. -/
def lose (backend : AcceleratorBackend β) (env : Surroundings) (e : Error) (l : Link β) : Link β :=
  match l.ended with
  | false => { turn backend env (.error e) l with ended := true }
  | true => l

end Link

/-- An attempt that was registered for a dispatch whose request is not yet sent. -/
structure Registration where
  id : PartitionReservationId
  kind : AttemptKind
  reservation : PartitionReservation
  attempt : PartitionAttempt

/-- A coordinator with the attempts that wait for their dispatch, every attempt it ever registered
for one, and its connections. -/
structure Cluster (β : Type) where
  coordinator : CoordinatorState
  registered : List Registration := []
  history : List Registration := []
  links : List (Link β) := []

/-- What happens in a cluster. -/
inductive Action (β : Type) where
  | connect (agent : Agent β)
  | event (event : Event)
  | register (id : PartitionReservationId) (kind : AttemptKind) (now : UInt64)
  | dispatch (position : ℕ) (sends : Transport) (now : UInt64)
  | post (i : SessionId) (frame : Frame) (other : frame.type ≠ .mutationRequest)
  | serve (i : SessionId) (env : Surroundings)
  | lose (i : SessionId) (env : Surroundings) (e : Error)

namespace Cluster

variable {β : Type}

/-- A worker connects, unless the table of sessions is full. -/
def connect (agent : Agent β) (k : Cluster β) : Cluster β :=
  if k.coordinator.sessions.length ≥ k.coordinator.limits.maxWorkers then k
  else
    { k with
      coordinator := k.coordinator.accept
      links := k.links ++ [{ agent := { agent with sent := [], performed := [] } }] }

/-- The first half of a dispatch: an attempt is registered for a reservation that is bound. -/
def register (id : PartitionReservationId) (kind : AttemptKind) (now : UInt64) (k : Cluster β) :
    Cluster β :=
  match k.coordinator.fabric.findReservation id with
  | none => k
  | some reservation =>
    if valid reservation.worker && valid reservation.workerBoot then
      let registered := registerAttempt id kind reservation.worker reservation.workerBoot now
        k.coordinator.fabric
      let k := { k with coordinator := { k.coordinator with fabric := registered.1 } }
      match registered.2 with
      | .error _ => k
      | .ok attempt =>
        { k with
          registered := k.registered ++ [⟨id, kind, reservation, attempt⟩]
          history := k.history ++ [⟨id, kind, reservation, attempt⟩] }
    else k

/-- The second half of a dispatch: the request of a registered attempt is sent. -/
def dispatch (position : ℕ) (sends : Transport) (now : UInt64) (k : Cluster β) : Cluster β :=
  match k.registered[position]? with
  | none => k
  | some ⟨id, kind, reservation, attempt⟩ =>
    let sent := dispatchAttempt sends id kind reservation attempt now k.coordinator
    let k := { k with coordinator := sent.1, registered := k.registered.eraseIdx position }
    match sent.2 with
    | .ok (.awaiting i frame) => { k with links := k.links.modify i (·.send frame) }
    | _ => k

/-- The two halves, one right after the other, are what the coordinator does to dispatch. -/
lemma dispatch_register (id : PartitionReservationId) (kind : AttemptKind) (sends : Transport)
    (now : UInt64) (k : Cluster β) :
    ((k.register id kind now).dispatch k.registered.length sends now).coordinator =
      (Coordinator.dispatchMutation sends id kind now k.coordinator).1 := by
  have hidle (k' : Cluster β) (h : k'.registered = k.registered) :
      k'.dispatch k.registered.length sends now = k' := by
    unfold dispatch
    rw [h, List.getElem?_eq_none le_rfl]
  unfold register Coordinator.dispatchMutation
  rw [get_bind]
  cases k.coordinator.fabric.findReservation id with
  | none => exact congrArg Cluster.coordinator (hidle k rfl)
  | some reservation =>
    dsimp only
    rw [require_bind]
    split
    · rcases hrun : registerAttempt id kind reservation.worker reservation.workerBoot now
        k.coordinator.fabric with ⟨t, e | attempt⟩
      · rw [bind_error (onFabric_error hrun)]
        exact congrArg Cluster.coordinator
          (hidle { k with coordinator := { k.coordinator with fabric := t } } rfl)
      · rw [bind_ok (onFabric_ok hrun)]
        unfold dispatch
        rw [List.getElem?_append_right le_rfl, Nat.sub_self]
        dsimp only [List.getElem?_cons_zero]
        split
        · rfl
        · rfl
    · exact congrArg Cluster.coordinator (hidle k rfl)

variable (backend : AcceleratorBackend β)

/-- The state that an action leaves behind. Sessions are accepted for connections only. -/
def step : Action β → Cluster β → Cluster β
  | .connect agent, k => k.connect agent
  | .event .accept, k => k
  | .event event, k => { k with coordinator := event.step k.coordinator }
  | .register id kind now, k => k.register id kind now
  | .dispatch position sends now, k => k.dispatch position sends now
  | .post i frame _, k => { k with links := k.links.modify i (·.send frame) }
  | .serve i env, k => { k with links := k.links.modify i (·.serve backend env) }
  | .lose i env e, k => { k with links := k.links.modify i (·.lose backend env e) }

end Cluster

/-- A coordinator over a newly constructed fabric, to which workers connect. -/
def cluster {β : Type} (backend : AcceleratorBackend β) : System (Cluster β) (Action β) where
  initial k := ∃ options now, k = { coordinator := CoordinatorState.created options now }
  step := Cluster.step backend

section Allocation

variable {s t : FabricState} {key : PartitionReservationId} {reservation : PartitionReservation}
  {kind : AttemptKind} {worker : WorkerId} {boot : WorkerBootId} {now : UInt64}
  {a : PartitionAttempt}

lemma forward_recordAttempt {id : PartitionAttemptId} :
    Advances Forward (recordAttempt key reservation kind worker boot id now) s := by
  refine advances_get_bind (advances_lift_bind fun _ _ ↦ ?_)
  refine advances_modify_bind (refl_of Forward s) (advances_modify_bind (refl_of Forward _) ?_)
  exact advances_modify_bind (Forward.of_keeps bump_ids) (advances_pure _ _)

/-- A registered attempt has the next identity, and the allocator has passed it. -/
lemma registerAttemptLocked_ids
    (h : registerAttemptLocked key reservation kind worker boot now s = (t, .ok a)) :
    a.id = s.ids.next ∧ s.ids.next < t.ids.next := by
  refine ⟨(registeredAs_of_ok h).id, ?_⟩
  rcases @registerAttemptLocked_eq s now reservation kind key worker boot with
    ⟨hadmitted, hrun⟩ | ⟨-, t', e, hrun, -⟩
  · obtain ⟨u, x, hmoved, hrecorded⟩ := bind_eq_ok.mp (hrun.symm.trans h)
    obtain ⟨ledgers, partitions, hu⟩ :=
      (forM_beginEntry_begun (transient_moving kind) hmoved).relocates
    have hpassed : s.ids.next < s.roomed.ids.next :=
      (allocateId_eq_ok (allocateId_eq hadmitted.identity)).2.1
    have hforward : u.ids.next ≤ t.ids.next := forward_recordAttempt.of_run hrecorded
    rw [hu] at hforward
    exact lt_of_lt_of_le hpassed hforward
  · cases (Prod.mk.inj (hrun.symm.trans h)).2

lemma registerAttempt_ids (h : registerAttempt key kind worker boot now s = (t, .ok a)) :
    a.id = s.ids.next ∧ s.ids.next < t.ids.next := by
  unfold registerAttempt at h
  rw [get_bind] at h
  cases hr : s.findReservation key with
  | none =>
    rw [hr] at h
    cases h
  | some reservation =>
    rw [hr] at h
    dsimp only at h
    rw [require_bind] at h
    split at h
    · exact registerAttemptLocked_ids h
    · cases h

end Allocation

section Coordinating

variable {c c' : CoordinatorState} {i : SessionId} {frame : Frame} {now : UInt64}

/-- The allocator of the coordinator does not fall back. -/
def Onward (c c' : CoordinatorState) : Prop := Forward c.fabric c'.fabric

instance : Std.Refl Onward := ⟨fun c ↦ refl_of Forward c.fabric⟩

instance : IsTrans CoordinatorState Onward :=
  ⟨fun _ _ _ h h' ↦ trans_of Forward h h'⟩

/-- What the coordinator does on its fabric is an operation. -/
lemma onward_onFabric {α : Type} {m : FabricM α} (op : Op)
    (h : op.step c.fabric = (m c.fabric).1) : Advances Onward (onFabric m) c := by
  change Forward c.fabric (m c.fabric).1
  rw [← h]
  exact forward_step op c.fabric

lemma serves_onward : Serves Onward where
  allocate c := onward_onFabric .allocateWorkerId rfl
  snapshot c := onward_onFabric .snapshot rfl
  report device now c := onward_onFabric (.registerBackendAccelerator device now) rfl
  bind id worker boot c := onward_onFabric (.bindAcceleratorWorker id worker boot) rfl
  reconcile layout now c := by
    change Forward c.fabric (reconcileWithBackendKey layout now c.fabric).1
    unfold reconcileWithBackendKey
    rw [get_bind]
    cases c.fabric.keyIndex.find? layout.stableKey with
    | none => exact refl_of Forward c.fabric
    | some id => exact forward_step (.reconcile id layout now) c.fabric
  apply attempt result observed now c :=
    onward_onFabric (.applyMutationResult attempt (.ok result) observed now) rfl
  settle _ _ c := refl_of Onward c

/-- A registration only notes the worker and registers its devices. -/
lemma onward_admitWorker (i : SessionId) (epoch : CoordinatorEpoch)
    (message : RegisterWorkerMessage) (now : UInt64) (c : CoordinatorState) :
    Advances Onward (admitWorker i epoch message now) c := by
  refine advances_modify_bind (refl_of Forward _) ?_
  refine advances_bind (advances_attempt (onward_onFabric (.noteWorker (message.record epoch) now)
    rfl)) fun t noted _ ↦ ?_
  apply advances_get_bind
  cases noted with
  | error e => exact advances_pure _ _
  | ok u =>
    refine advances_modify_bind (refl_of Forward _) ?_
    exact advances_registerDevices serves_onward message.devices _ _

lemma onward_handleSessionFrame (i : SessionId) (frame : Frame) (now : UInt64)
    (c : CoordinatorState) : Onward c (handleSessionFrame i frame now c).1 := by
  cases hkind : concernsConnections frame.type with
  | false =>
    refine advances_handleSessionFrame serves_onward (fun _ worker boot atMs ↦ ?_) hkind
    exact onward_onFabric (.noteWorkerSeen worker boot atMs) rfl
  | true =>
    cases htype : frame.type <;> simp only [htype, concernsConnections, Bool.false_eq_true] at hkind
    · rcases handleSessionFrame_register htype with h | ⟨message, -, -, -, h⟩
      · rw [h]
        exact refl_of Onward c
      · rw [h]
        exact onward_admitWorker i _ message now c
    · rcases handleSessionFrame_queryResponse htype with h | ⟨response, -, h⟩
      · rw [h]
        exact refl_of Onward c
      · rw [h]
        exact refl_of Forward c.fabric
    · rw [handleSessionFrame_shutdown htype]
      exact refl_of Forward c.fabric

lemma onward_receive (i : SessionId) (frame : Frame) (now : UInt64) (c : CoordinatorState) :
    Onward c (c.receive i frame now) := by
  rcases receive_cases i frame now c with h | ⟨session, -, -, -, h | h⟩
  · rw [h]
    exact refl_of Onward c
  · rw [h]
    exact onward_handleSessionFrame i frame now c
  · rw [h]
    exact onward_handleSessionFrame i frame now c

lemma onward_hangUp (i : SessionId) (c : CoordinatorState) : Onward c (c.hangUp i) := by
  rcases hangUp_cases i c with h | ⟨_, _, _, h⟩
  · rw [h]
    exact refl_of Onward c
  · rw [h]
    exact refl_of Forward c.fabric

lemma onward_leave (i : SessionId) (now : UInt64) (c : CoordinatorState) :
    Onward c (c.leave i now) := by
  unfold leave
  cases c.sessions[i]? with
  | none => exact refl_of Onward c
  | some session =>
    dsimp only
    split
    · split
      · exact forward_step (.fenceWorker session.worker session.workerBoot _ now) c.fabric
      · exact refl_of Forward c.fabric
    · exact refl_of Onward c

/-- Nothing that happens at the coordinator sets its allocator back. -/
theorem onward_step (event : Event) (c : CoordinatorState) : Onward c (event.step c) := by
  cases event with
  | receive i frame now => exact onward_receive i frame now c
  | hangUp i => exact onward_hangUp i c
  | leave i now => exact onward_leave i now c
  | operate op => exact forward_step op c.fabric
  | accept | lookUp | query | await =>
    simp only [Event.step, accept, lookUp, sendQuery, await]
    repeat' split
    all_goals exact refl_of Forward c.fabric
  | forget | collect => exact refl_of Forward c.fabric

end Coordinating

section Dispatches

variable {c : CoordinatorState} {limits : Limits} {message request : MutationRequestMessage}
  {frame : Frame}

/-- The attempt that a frame requests a mutation for. -/
def ticket (frame : Frame) : Option PartitionAttemptId :=
  if frame.type = .mutationRequest then
    (Agent.carried frame).map fun request : MutationRequestMessage ↦ request.attempt
  else none

/-- A request is understood under the attempt that it was made for. -/
lemma attempt_of_carried (hpayload : frame.payload = packPayload .mutationRequest message limits)
    (h : Agent.carried frame = some request) : request.attempt = message.attempt := by
  unfold Agent.carried at h
  rw [hpayload] at h
  have hunpack : unpackPayload .mutationRequest (packPayload .mutationRequest message limits) =
      .ok request := by
    cases hresult : (unpackPayload .mutationRequest (packPayload .mutationRequest message limits) :
        Result MutationRequestMessage) with
    | error e =>
      rw [hresult] at h
      cases h
    | ok other =>
      rw [hresult] at h
      exact congrArg Except.ok (Option.some.inj h)
  obtain ⟨bytes, left, hnext⟩ := front_of_unpack (t := .mutationRequest) (m := message) rfl rfl
    hunpack
  obtain ⟨_, reservation, -, hnext⟩ := bind_eq_ok.mp hnext
  obtain ⟨_, kind, -, hnext⟩ := bind_eq_ok.mp hnext
  obtain ⟨_, mutation, -, hnext⟩ := bind_eq_ok.mp hnext
  obtain rfl := Except.ok.inj (Prod.mk.inj hnext).2
  rfl

/-- A frame that requests a mutation for an attempt. -/
structure Requests (frame : Frame) (id : PartitionAttemptId) : Prop where
  type : frame.type = .mutationRequest
  payload : ∃ message limits, frame.payload = packPayload .mutationRequest message limits ∧
    message.attempt = id

lemma ticket_of_requests {id : PartitionAttemptId} (h : Requests frame id) :
    ticket frame = none ∨ ticket frame = some id := by
  obtain ⟨message, limits, hpayload, hattempt⟩ := h.payload
  unfold ticket
  rw [if_pos h.type]
  cases hcarried : Agent.carried frame with
  | none => exact .inl rfl
  | some request =>
    refine .inr (congrArg some ?_)
    exact (attempt_of_carried hpayload hcarried).trans hattempt

/-- What a dispatch sends is a request for its attempt. -/
lemma dispatchAttempt_requests (sends : Transport) (id : PartitionReservationId)
    (kind : AttemptKind) (reservation : PartitionReservation) (attempt : PartitionAttempt)
    (now : UInt64) :
    Ensures (fun d _ ↦ ∀ i frame, d = .awaiting i frame → Requests frame attempt.id)
      (dispatchAttempt sends id kind reservation attempt now) c := by
  have hunsent (outcome : MutationOutcome) (i : SessionId) (frame : Frame)
      (h : Dispatch.unsent outcome = .awaiting i frame) : Requests frame attempt.id := by cases h
  have habandon (reason : Text) (outcome : MutationOutcome) :
      Ensures (fun d _ ↦ ∀ i frame, d = .awaiting i frame → Requests frame attempt.id)
        (abandonAttempt attempt reason now outcome) c :=
    ensures_bind fun _ _ _ ↦ ensures_pure (hunsent outcome)
  refine ensures_get_bind ?_
  cases c.findSession reservation.worker reservation.workerBoot with
  | none => exact habandon _ _
  | some i =>
    dsimp only
    cases c.fabric.stableKeys.find? reservation.accelerator with
    | none => exact habandon _ _
    | some stableKey =>
      dsimp only
      cases c.fabric.plans.find? reservation.plan with
      | none => exact habandon _ _
      | some plan =>
        refine ensures_get_bind (ensures_bind fun _ _ _ ↦ ensures_modify_bind ?_)
        cases sends i with
        | error e => exact ensures_bind fun _ _ _ ↦ ensures_modify_bind (ensures_pure (hunsent _))
        | ok u =>
          refine ensures_pure fun j frame h ↦ ?_
          obtain ⟨-, rfl⟩ := Dispatch.awaiting.inj h
          exact ⟨rfl, _, _, rfl, rfl⟩

lemma onward_dispatchAttempt (sends : Transport) (id : PartitionReservationId)
    (kind : AttemptKind) (reservation : PartitionReservation) (attempt : PartitionAttempt)
    (now : UInt64) :
    Advances Onward (dispatchAttempt sends id kind reservation attempt now) c := by
  have hlost (reason : Text) (c : CoordinatorState) :
      Advances Onward (ignore (onFabric (markAttemptOutcomeUnknown attempt.id reason now))) c :=
    advances_ignore (onward_onFabric (.markAttemptOutcomeUnknown attempt.id reason now) rfl)
  have habandon (reason : Text) (outcome : MutationOutcome) :
      Advances Onward (abandonAttempt attempt reason now outcome) c :=
    advances_bind (hlost reason c) fun _ _ _ ↦ advances_pure _ _
  refine advances_get_bind ?_
  cases c.findSession reservation.worker reservation.workerBoot with
  | none => exact habandon _ _
  | some i =>
    dsimp only
    cases c.fabric.stableKeys.find? reservation.accelerator with
    | none => exact habandon _ _
    | some stableKey =>
      dsimp only
      cases c.fabric.plans.find? reservation.plan with
      | none => exact habandon _ _
      | some plan =>
        refine advances_get_bind (advances_require_bind fun _ ↦ ?_)
        refine advances_modify_bind (refl_of Forward c.fabric) ?_
        cases sends i with
        | error e =>
          refine advances_bind (hlost _ _) fun t _ _ ↦ ?_
          exact advances_modify_bind (refl_of Forward t.fabric) (advances_pure _ _)
        | ok u => exact advances_pure _ _

end Dispatches

namespace Link

variable {β : Type} {l : Link β} {backend : AcceleratorBackend β}

/-- The attempts that mutations were requested for over a link. -/
def tickets (l : Link β) : List PartitionAttemptId := l.log.filterMap ticket

/-- The hardware of the worker was asked for what was taken and requested under its epoch, in this
order. -/
def Sound (l : Link β) : Prop :=
  l.agent.performed.Sublist (l.taken.filterMap (Agent.requestOf l.agent.epoch))

lemma tickets_send (frame : Frame) (l : Link β) :
    (l.send frame).tickets = l.tickets ++ (ticket frame).toList := by
  have hadds (frame' : Frame) (h : ticket frame' = ticket frame) :
      (l.taken ++ (l.pending ++ [frame'])).filterMap ticket = l.tickets ++ (ticket frame).toList := by
    rw [← List.append_assoc, List.filterMap_append, ← h]
    cases hticket : ticket frame' with
    | none => rw [List.filterMap_cons_none hticket]; rfl
    | some id => rw [List.filterMap_cons_some hticket]; rfl
  unfold send
  split
  · exact hadds _ rfl
  · exact hadds frame rfl

lemma sound_send (frame : Frame) (h : l.Sound) : (l.send frame).Sound := by
  unfold send
  split
  · exact h
  · exact h

/-- What a worker does with a frame that it took. -/
lemma sound_turn (env : Surroundings) (received : Result Frame) {front : List Frame}
    (hfront : l.taken = front ++ received.toOption.toList)
    (h : l.agent.performed.Sublist (front.filterMap (Agent.requestOf l.agent.epoch))) :
    (turn backend env received l).Sound := by
  obtain ⟨out, asked, new, hturn, hserving⟩ :=
    Agent.serveAll_serving backend [(env, received)] l.agent
  obtain ⟨-, -, hepoch, -⟩ := Agent.same_of_identity hturn.identity
  have hrequested := hserving.requested
  rw [Agent.arrivals_cons, show Agent.arrivals [] = [] from rfl, List.append_nil] at hrequested
  unfold Sound turn
  rw [hepoch, hturn.performed, hfront, List.filterMap_append]
  exact h.append hrequested

lemma sound_serve (env : Surroundings) (h : l.Sound) : (l.serve backend env).Sound := by
  unfold serve
  split
  · exact sound_turn env _ rfl h
  · exact h

lemma sound_lose (env : Surroundings) (e : Error) (h : l.Sound) : (l.lose backend env e).Sound := by
  unfold lose
  split
  · exact sound_turn env (.error e) (List.append_nil _).symm h
  · exact h

/-- Taking a frame moves it. -/
lemma log_serve (env : Surroundings) (l : Link β) : (l.serve backend env).log = l.log := by
  unfold serve
  split
  · rename_i frame rest _ hpending
    change l.taken ++ [frame] ++ rest = l.taken ++ l.pending
    rw [hpending, List.append_assoc]
    rfl
  · rfl

lemma log_lose (env : Surroundings) (e : Error) (l : Link β) :
    (l.lose backend env e).log = l.log := by
  unfold lose
  split
  · rfl
  · rfl

/-- What a worker performed is part of what was requested over its link. -/
lemma performed_sublist (h : l.Sound) :
    (l.agent.performed.map fun request ↦ request.attempt).Sublist l.tickets := by
  have hticket : ∀ frame request, Agent.requestOf l.agent.epoch frame = some request →
      ticket frame = some request.attempt := by
    intro frame request hrequest
    unfold Agent.requestOf at hrequest
    split at hrequest
    · rename_i htype
      unfold ticket
      rw [if_pos htype.1, hrequest]
      rfl
    · cases hrequest
  refine (h.map _).trans ((List.map_filterMap_sublist hticket l.taken).trans ?_)
  exact (List.sublist_append_left l.taken l.pending).filterMap ticket

end Link

namespace Cluster

variable {β : Type} {k : Cluster β} {backend : AcceleratorBackend β}

/-- The attempts that are registered for a dispatch, or for which a request was sent. -/
def tickets (k : Cluster β) : List PartitionAttemptId :=
  k.registered.map (fun entry ↦ entry.attempt.id) ++ k.links.flatMap Link.tickets

/-- Every attempt is dispatched once and was registered, and workers perform what they took. -/
structure Sound (k : Cluster β) : Prop where
  issued : Issued k.coordinator.fabric.ids.next k.tickets
  registered : k.tickets ⊆ k.history.map fun entry ↦ entry.attempt.id
  links : ∀ l ∈ k.links, l.Sound

/-- An action that registers nothing. -/
lemma Sound.pass {k' : Cluster β} (hk : k.Sound) (htickets : k'.tickets.Subperm k.tickets)
    (hforward : k.coordinator.fabric.ids.next ≤ k'.coordinator.fabric.ids.next)
    (hhistory : k'.history = k.history) (hlinks : ∀ l ∈ k'.links, l.Sound) : k'.Sound :=
  ⟨hk.issued.pass htickets hforward,
    fun _ hticket ↦ hhistory ▸ hk.registered (htickets.subset hticket), hlinks⟩

/-- A link may change in a way that is sound for it. -/
lemma forall_modify {P : Link β → Prop} {f : Link β → Link β} (hf : ∀ l, P l → P (f l))
    {links : List (Link β)} (h : ∀ l ∈ links, P l) (i : SessionId) :
    ∀ l ∈ links.modify i f, P l := by
  intro l hl
  obtain ⟨j, hj⟩ := List.mem_iff_getElem?.mp hl
  rw [List.getElem?_modify] at hj
  obtain ⟨l', hl', rfl⟩ := Option.map_eq_some_iff.mp hj
  have hmem := h l' (List.mem_of_getElem? hl')
  split
  · exact hf l' hmem
  · exact hmem

/-- A change of a link that keeps what was sent over it. -/
lemma Sound.modify {f : Link β → Link β} (hk : k.Sound) (hlog : ∀ l : Link β, (f l).log = l.log)
    (hf : ∀ l : Link β, l.Sound → (f l).Sound) (i : SessionId) :
    Sound { k with links := k.links.modify i f } := by
  have htickets : (k.links.modify i f).flatMap Link.tickets = k.links.flatMap Link.tickets :=
    List.flatMap_modify_of_eq (fun l ↦ by rw [Link.tickets, Link.tickets, hlog]) k.links i
  refine hk.pass ?_ le_rfl rfl (forall_modify hf hk.links i)
  unfold tickets
  rw [htickets]

lemma sound_connect (agent : Agent β) (hk : k.Sound) : (k.connect agent).Sound := by
  unfold connect
  split
  · exact hk
  · refine hk.pass (List.Perm.subperm ?_) (onward_step .accept k.coordinator) rfl
      (List.forall_mem_append.mpr ⟨hk.links, List.forall_mem_singleton.mpr (List.Sublist.refl [])⟩)
    unfold tickets
    rw [List.flatMap_append]
    simp [Link.tickets, Link.log]

lemma sound_event (event : Event) (hk : k.Sound) :
    Sound { k with coordinator := event.step k.coordinator } :=
  hk.pass (List.Subperm.refl _) (onward_step event k.coordinator) rfl hk.links

lemma sound_register (id : PartitionReservationId) (kind : AttemptKind) (now : UInt64)
    (hk : k.Sound) : (k.register id kind now).Sound := by
  unfold register
  cases k.coordinator.fabric.findReservation id with
  | none => exact hk
  | some reservation =>
    dsimp only
    split
    · have hforward : k.coordinator.fabric.ids.next ≤ (registerAttempt id kind reservation.worker
          reservation.workerBoot now k.coordinator.fabric).1.ids.next :=
        forward_step (.registerAttempt id kind reservation.worker reservation.workerBoot now) _
      rcases hrun : registerAttempt id kind reservation.worker reservation.workerBoot now
        k.coordinator.fabric with ⟨t, e | attempt⟩
      · rw [hrun] at hforward
        exact hk.pass (List.Subperm.refl _) hforward rfl hk.links
      · obtain ⟨hid, hpassed⟩ := registerAttempt_ids hrun
        have hperm : List.Perm
            (((k.registered ++ [(⟨id, kind, reservation, attempt⟩ : Registration)]).map
              fun entry ↦ entry.attempt.id) ++ k.links.flatMap Link.tickets)
            (attempt.id :: k.tickets) := by
          unfold tickets
          rw [List.map_append, List.append_assoc]
          exact List.perm_middle
        refine ⟨(hk.issued.handOut hid.ge (hid.trans_lt hpassed)).pass hperm.subperm le_rfl,
          fun ticket hticket ↦ ?_, hk.links⟩
        rw [List.map_append, List.mem_append]
        rcases List.mem_cons.mp (hperm.subset hticket) with rfl | hbefore
        · exact Or.inr (List.mem_singleton.mpr rfl)
        · exact Or.inl (hk.registered hbefore)
    · exact hk

/-- The ticket of a registered attempt is one of the tickets, and the others are those without
it. -/
lemma perm_tickets {position : ℕ} {entry : Registration}
    (hentry : k.registered[position]? = some entry) :
    k.tickets.Perm (entry.attempt.id ::
      ((k.registered.eraseIdx position).map (fun entry ↦ entry.attempt.id) ++
        k.links.flatMap Link.tickets)) := by
  obtain ⟨hposition, hget⟩ := List.getElem?_eq_some_iff.mp hentry
  have hperm := (List.getElem_cons_eraseIdx_perm hposition).symm.map
    fun entry : Registration ↦ entry.attempt.id
  rw [hget] at hperm
  exact hperm.append_right _

lemma sound_dispatch (position : ℕ) (sends : Transport) (now : UInt64) (hk : k.Sound) :
    (k.dispatch position sends now).Sound := by
  unfold dispatch
  cases hentry : k.registered[position]? with
  | none => exact hk
  | some entry =>
    obtain ⟨id, kind, reservation, attempt⟩ := entry
    have honward : Forward k.coordinator.fabric (dispatchAttempt sends id kind reservation attempt
        now k.coordinator).1.fabric := onward_dispatchAttempt sends id kind reservation attempt now
    have hrequests := @dispatchAttempt_requests k.coordinator sends id kind reservation attempt now
    have hrest := perm_tickets hentry
    dsimp only
    rcases hrun : dispatchAttempt sends id kind reservation attempt now k.coordinator with
      ⟨c, e | d⟩
    · rw [hrun] at honward
      exact hk.pass ((List.sublist_cons_self _ _).subperm.trans hrest.symm.subperm) honward rfl
        hk.links
    · rw [hrun] at honward
      cases d with
      | unsent outcome =>
        exact hk.pass ((List.sublist_cons_self _ _).subperm.trans hrest.symm.subperm) honward rfl
          hk.links
      | awaiting i frame =>
        have hticket := ticket_of_requests (hrequests c _ hrun i frame rfl)
        refine hk.pass ?_ honward rfl
          (forall_modify (P := Link.Sound) (fun _ ↦ Link.sound_send frame) hk.links i)
        have hsent : ((k.links.modify i (·.send frame)).flatMap Link.tickets).Subperm
            ((ticket frame).toList ++ k.links.flatMap Link.tickets) :=
          List.flatMap_modify_subperm (fun l ↦ Link.tickets_send frame l) k.links i
        refine List.Subperm.trans ?_ hrest.symm.subperm
        unfold tickets
        refine ((List.Subperm.refl _).append hsent).trans ?_
        rcases hticket with h | h
        · rw [h]
          exact (List.sublist_cons_self _ _).subperm
        · rw [h]
          exact List.perm_middle.subperm

lemma sound_post (i : SessionId) {frame : Frame} (hother : frame.type ≠ .mutationRequest)
    (hk : k.Sound) : Sound { k with links := k.links.modify i (·.send frame) } := by
  have hticket : ticket frame = none := if_neg hother
  refine hk.pass ?_ le_rfl rfl
    (forall_modify (P := Link.Sound) (fun _ ↦ Link.sound_send frame) hk.links i)
  have hsent : (k.links.modify i (·.send frame)).flatMap Link.tickets =
      k.links.flatMap Link.tickets :=
    List.flatMap_modify_of_eq (fun l ↦ by
      rw [Link.tickets_send, hticket]
      exact List.append_nil _) k.links i
  unfold tickets
  rw [hsent]

/-- One action keeps a cluster sound. -/
theorem sound_step (action : Action β) (hk : k.Sound) : (step backend action k).Sound := by
  cases action with
  | connect agent => exact sound_connect agent hk
  | event event =>
    cases event with
    | accept => exact hk
    | _ => exact sound_event _ hk
  | register id kind now => exact sound_register id kind now hk
  | dispatch position sends now => exact sound_dispatch position sends now hk
  | post i frame hother => exact sound_post i hother hk
  | serve i env =>
    exact hk.modify (fun l ↦ l.log_serve env) (fun l ↦ Link.sound_serve env) i
  | lose i env e =>
    exact hk.modify (fun l ↦ l.log_lose env e) (fun l ↦ Link.sound_lose env e) i

theorem sound_of_reachable (h : (cluster backend).Reachable (fun _ _ ↦ True) k) : k.Sound := by
  refine h.invariant ?_ fun _ action hk _ ↦ sound_step action hk
  rintro _ ⟨options, now, rfl⟩
  exact ⟨Issued.nil _, List.nil_subset _, List.forall_mem_nil _⟩

/-- However the actions of the coordinator, of its clients and of the workers interleave, and
wherever connections are lost: each worker performs what was requested of it, in the order of the
requests, no mutation is performed twice, by whatever workers, and each is one whose attempt the
coordinator registered. -/
theorem performed_at_most_once (h : (cluster backend).Reachable (fun _ _ ↦ True) k) :
    (∀ l ∈ k.links, l.agent.performed.Sublist
      (l.log.filterMap (Agent.requestOf l.agent.epoch))) ∧
    (k.links.flatMap fun l ↦ l.agent.performed.map fun request ↦ request.attempt).Nodup ∧
    ∀ l ∈ k.links, ∀ request ∈ l.agent.performed,
      ∃ entry ∈ k.history, entry.attempt.id = request.attempt := by
  have hk := sound_of_reachable h
  have hlinks : (k.links.flatMap fun l ↦
      l.agent.performed.map fun request ↦ request.attempt).Sublist
        (k.links.flatMap Link.tickets) :=
    List.Sublist.flatMap_right k.links fun l hl ↦ Link.performed_sublist (hk.links l hl)
  have hall := hlinks.trans (List.sublist_append_right _ _ : (k.links.flatMap Link.tickets).Sublist
    k.tickets)
  refine ⟨fun l hl ↦ ?_, hall.nodup hk.issued.once, fun l hl request hrequest ↦ ?_⟩
  · exact (hk.links l hl).trans ((List.sublist_append_left l.taken l.pending).filterMap _)
  · refine List.mem_map.mp (hk.registered (hall.subset (List.mem_flatMap.mpr ⟨l, hl, ?_⟩)))
    exact List.mem_map_of_mem hrequest

end Cluster

namespace Sample

/-- A slice is reserved for a worker, its creation is dispatched, and the worker takes it. -/
def served : List (Action SyntheticBackend) :=
  [.connect agent, .event (.receive 0 (registration 7 8) 1),
    .event (.operate (.registerBackendAccelerator device 1)),
    .event (.operate (.plan { profile := profile.id } 2)), .event (.operate (.reserve 2 3)),
    .event (.operate (.bindReservation 3 7 8 1 3)), .register 3 .createPartition 4,
    .dispatch 0 (fun _ ↦ success) 4, .serve 0 calm]

end Sample

namespace Cluster

theorem performed_at_most_once_served :
    let k := (cluster Sample.hardware).run Sample.served
      { coordinator := CoordinatorState.created {} 0 }
    (k.links.flatMap fun l ↦ l.agent.performed.map fun request ↦ request.attempt) = [5] ∧
      (∀ l ∈ k.links, l.agent.performed.Sublist
        (l.log.filterMap (Agent.requestOf l.agent.epoch))) ∧
      (k.links.flatMap fun l ↦ l.agent.performed.map fun request ↦ request.attempt).Nodup ∧
      ∀ l ∈ k.links, ∀ request ∈ l.agent.performed,
        ∃ entry ∈ k.history, entry.attempt.id = request.attempt := by
  intro k
  have hk : (cluster Sample.hardware).Reachable (fun _ _ ↦ True) k :=
    .run (.initial ⟨_, _, rfl⟩) ⟨trivial, trivial, trivial, trivial, trivial, trivial, trivial,
      trivial, trivial, trivial⟩
  exact ⟨by decide +kernel, performed_at_most_once hk⟩

end Cluster

end PartitionFabric
