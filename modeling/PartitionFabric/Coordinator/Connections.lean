import PartitionFabric.Coordinator.Handlers
import PartitionFabric.Invariants.Fencing

/-!
Which worker incarnations are in authority when connections end.

Every unfenced incarnation is held by a session that has not ended and is still bound to it; a
session that is bound anew lets go of what it held before.
-/

namespace PartitionFabric

open Procedure CoordinatorState

section Workers

/-- No incarnation comes into authority. -/
def NoneEnters (c c' : CoordinatorState) : Prop :=
  ∀ w b, InAuthority c'.fabric w b → InAuthority c.fabric w b

instance : Std.Refl NoneEnters := ⟨fun _ _ _ h ↦ h⟩

instance : IsTrans CoordinatorState NoneEnters := ⟨fun _ _ _ h h' w b hin ↦ h w b (h' w b hin)⟩

variable {c c' : CoordinatorState} {s : FabricState} {w : WorkerId} {b : WorkerBootId}

lemma NoneEnters.of_workers (h : c'.fabric.workers = c.fabric.workers) : NoneEnters c c' := by
  rintro w b ⟨r, hr, hin⟩
  rw [FabricState.findWorker, h] at hr
  exact ⟨r, hr, hin⟩

lemma noneEnters_onFabric {α : Type} {m : FabricM α} {π : Scope} (hπ : ¬π.workers)
    (h : Advances (Evolves π 0) m c.fabric) : Advances NoneEnters (onFabric m) c :=
  .of_workers (keeps_workers hπ h)

lemma keeps_workers_reconcileWithBackendKey (layout : BackendLayout) (now : UInt64) (s : FabricState) :
    Advances (Keeps FabricState.workers) (reconcileWithBackendKey layout now) s := by
  unfold reconcileWithBackendKey
  apply advances_get_bind
  cases s.keyIndex.find? layout.stableKey with
  | none => exact advances_throw ..
  | some id =>
    have hwithin : (Op.reconcile id layout now).Within (Op.reconcile id layout now).scope s :=
      within_scope rfl s
    obtain ⟨hnatives, hactivates, hdecides, hreset⟩ := hwithin
    have hfloor : 0 ≤ s.ids.next := UInt64.zero_le
    exact keeps_workers (fun h ↦ h) (advances_reconcile hnatives hactivates hdecides
      ⟨fun _ _ _ _ _ _ _ _ ↦ trivial, fun _ _ _ _ _ ↦ trivial⟩ hfloor hreset
      (fun _ _ ↦ trivial) fun _ _ ↦ trivial)

/-- Only registrations bring an incarnation into authority. -/
lemma serves_noneEnters : Serves NoneEnters where
  allocate c := noneEnters_onFabric (π := {}) id advances_allocateId
  snapshot c := noneEnters_onFabric (π := {}) id advances_snapshot
  report device now c := by
    have hwithin : (Op.registerBackendAccelerator device now).Within
        (Op.registerBackendAccelerator device now).scope c.fabric := within_scope rfl c.fabric
    exact noneEnters_onFabric id (advances_registerBackendAccelerator hwithin
      ⟨trivial, fun _ _ _ ↦ trivial, trivial⟩)
  bind id worker boot c := noneEnters_onFabric (π := {}) (fun h ↦ h) advances_bindAcceleratorWorker
  reconcile layout now c := .of_workers (keeps_workers_reconcileWithBackendKey layout now c.fabric)
  apply attempt result observed now c := by
    have hwithin : (Op.applyMutationResult attempt (.ok result) observed now).Within
        (Op.applyMutationResult attempt (.ok result) observed now).scope c.fabric :=
      within_scope rfl c.fabric
    obtain ⟨hnatives, hactivates, hsettle⟩ := hwithin
    have hfloor : 0 ≤ c.fabric.ids.next := UInt64.zero_le
    exact noneEnters_onFabric id
      (advances_applyMutationResultLocked hnatives hactivates hfloor
        (fun a ha ↦ ⟨⟨trivial, fun _ _ _ ↦ trivial⟩, hsettle a ha⟩) fun _ _ ↦ trivial)
  settle attempt outcome c := .of_workers rfl

/-- A heartbeat leaves authority as it is. -/
lemma inAuthority_of_noteWorkerSeen {worker : WorkerId} {boot : WorkerBootId} {atMs : UInt64}
    (h : InAuthority (noteWorkerSeen worker boot atMs s).1 w b) : InAuthority s w b := by
  rcases noteWorkerSeen_cases worker boot atMs s with hs | ⟨_, _, _, hs⟩
  · rwa [hs] at h
  · rw [hs] at h
    obtain ⟨r', hr', hin⟩ := h
    rw [FabricState.findWorker, KeyedMap.find?_modify] at hr'
    split at hr'
    · obtain ⟨r, hr, rfl⟩ := Option.map_eq_some_iff.mp hr'
      exact ⟨r, hr, hin⟩
    · exact ⟨r', hr', hin⟩

/-- An incarnation that is fenced loses its authority and the others keep what they had. -/
lemma inAuthority_of_fenceWorkerLocked {worker : WorkerId} {boot : WorkerBootId} {now : UInt64}
    {reason : Text} (h : InAuthority (fenceWorkerLocked worker boot now reason s).1 w b) :
    InAuthority s w b ∧ ¬(w = worker ∧ b = boot) := by
  obtain ⟨r', hr', hboot', hin⟩ := h
  rcases workers_fenceWorkerLocked worker boot now reason s with ⟨hs, hother⟩ | ⟨-, hs⟩
  · rw [FabricState.findWorker, hs] at hr'
    refine ⟨⟨r', hr', hboot', hin⟩, ?_⟩
    rintro ⟨rfl, rfl⟩
    exact hother r' hr' hboot'
  · rw [FabricState.findWorker, hs, KeyedMap.find?_modify] at hr'
    split at hr'
    · obtain ⟨r, hr, rfl⟩ := Option.map_eq_some_iff.mp hr'
      cases hin
    · rename_i hw
      exact ⟨⟨r', hr', hboot', hin⟩, fun h ↦ hw h.1⟩

/-- The operations of clients bring no incarnation into authority. -/
lemma inAuthority_of_step {op : Op} (hop : ∀ worker now, op ≠ .noteWorker worker now)
    (himport : op.isImport = false) (h : InAuthority (op.step s) w b) : InAuthority s w b := by
  by_cases hseen : ∃ worker boot atMs, op = .noteWorkerSeen worker boot atMs
  · obtain ⟨worker, boot, atMs, rfl⟩ := hseen
    exact inAuthority_of_noteWorkerSeen h
  · have hspares : SparesBoot w b s op := by
      cases op with
      | noteWorker worker now => exact absurd rfl (hop worker now)
      | noteWorkerSeen worker boot atMs => exact absurd ⟨worker, boot, atMs, rfl⟩ hseen
      | importDurableState d now => cases himport
      | _ => trivial
    have hyields : Yields fun r ↦ r.fenced = true ∨ InAuthority s w b :=
      ⟨fun _ hf _ ↦ .inl hf, fun _ hr ↦ hr⟩
    have hs : Incarnation (fun r ↦ r.fenced = true ∨ InAuthority s w b) w b s := by
      intro r hr hb
      cases hf : r.fenced with
      | true => exact .inl rfl
      | false => exact .inr ⟨r, hr, hb, hf⟩
    obtain ⟨r, hr, hb, hf⟩ := h
    rcases incarnation_step hyields hspares hs r hr hb with hfenced | hin
    · rw [hf] at hfenced
      cases hfenced
    · exact hin

end Workers

section Holding

/-- A session that has not ended is bound to an incarnation that was accepted over it. -/
structure Session.Holds (session : Session) (w : WorkerId) (b : WorkerBootId) : Prop where
  reader : session.reader ≠ .ended
  workerSession : session.workerSession = true
  worker : session.worker = w
  boot : session.workerBoot = b
  accepted : (w, b) ∈ session.accepted

/-- Some session holds an incarnation. -/
def Holder (c : CoordinatorState) (w : WorkerId) (b : WorkerBootId) : Prop :=
  ∃ (j : SessionId) (session : Session), c.sessions[j]? = some session ∧ session.Holds w b

/-- Every incarnation in authority has a holder. -/
def Held (c : CoordinatorState) : Prop := ∀ w b, InAuthority c.fabric w b → Holder c w b

/-- A session whose incarnation is in authority registers no other worker, and workers register
over sessions only. -/
def KeepsWorker (c : CoordinatorState) : Event → Prop
  | .receive i frame _ => frame.type = .registerWorker →
      frame.coordinatorEpoch = c.fabric.coordinatorEpoch →
      ∀ message : RegisterWorkerMessage, unpackPayload .registerWorker frame.payload = .ok message →
        ∀ w b, (sessionAt c i).Holds w b → InAuthority c.fabric w b → message.worker.id = w
  | .operate op => op.isImport = false ∧ ∀ worker now, op ≠ .noteWorker worker now
  | _ => True

variable {c c' : CoordinatorState} {i : SessionId} {frame : Frame} {now : UInt64} {w : WorkerId}
  {b : WorkerBootId}

lemma Holder.of_sessions (h : c'.sessions = c.sessions) (hc : Holder c w b) : Holder c' w b := by
  obtain ⟨j, session, hj, hholds⟩ := hc
  exact ⟨j, session, h ▸ hj, hholds⟩

lemma Holder.of_connections (h : connections c' = connections c) (hc : Holder c w b) :
    Holder c' w b :=
  hc.of_sessions (congrArg (·.sessions) h)

/-- A session may be rewritten as long as it still holds what it held. -/
lemma Holder.modify {f : Session → Session}
    (h : ∀ session, c.sessions[i]? = some session → session.Holds w b → (f session).Holds w b)
    (hc : Holder c w b) : Holder (c.modifySession i f) w b := by
  obtain ⟨j, session, hj, hholds⟩ := hc
  by_cases hij : i = j
  · subst hij
    exact ⟨i, f session, by simp [modifySession, hj], h session hj hholds⟩
  · exact ⟨j, session, by simp [modifySession, hij, hj], hholds⟩

lemma Held.mono (hc : Held c) (hw : NoneEnters c c')
    (hh : ∀ w b, Holder c w b → Holder c' w b) : Held c' :=
  fun w b hin ↦ hh w b (hc w b (hw w b hin))

lemma held_stopReading (hc : Held c) : Held (c.stopReading i) := by
  refine hc.mono (.of_workers rfl) fun w b ↦ Holder.modify fun session _ h ↦ ?_
  exact { h with reader := by simp }

lemma sessionAt_of_some {session : Session} (h : c.sessions[i]? = some session) :
    sessionAt c i = session := by
  simp [sessionAt, h]

/-- A registration takes from the session only a worker that has no incarnation in authority. -/
lemma held_admitWorker {message : RegisterWorkerMessage} {epoch : CoordinatorEpoch}
    {session : Session} (hi : c.sessions[i]? = some session) (hreader : session.reader ≠ .ended)
    (hvalid : (valid message.worker.id && valid message.worker.boot) = true)
    (hkeeps : ∀ w b, session.Holds w b → InAuthority c.fabric w b → message.worker.id = w)
    (hc : Held c) : Held (admitWorker i epoch message now c).1 := by
  -- an incarnation of another worker is held elsewhere
  have helse (w : WorkerId) (b : WorkerBootId) (f : Session → Session) (hne : message.worker.id ≠ w)
      (hin : InAuthority c.fabric w b) : Holder (c.modifySession i f) w b := by
    refine (hc w b hin).modify fun session' hi' hholds ↦ ?_
    obtain rfl := Option.some.inj (hi.symm.trans hi')
    exact absurd (hkeeps w b hholds hin) hne
  rcases noteWorker_cases (message.record epoch) now c.fabric with ⟨⟨e, h⟩, hnone⟩ | ⟨hok, hfind⟩
  · rw [admitWorker_of_error h]
    intro w b hin
    refine Holder.of_sessions rfl (helse w b (·.bind message.worker) ?_ hin)
    rintro rfl
    obtain ⟨r, hr, -⟩ := hin
    exact Option.some_ne_none r (hr.symm.trans (hnone hvalid))
  · obtain ⟨ack, hack⟩ := admitWorker_of_ok (i := i) (Prod.ext rfl hok)
    rw [hack]
    have henters (d : CoordinatorState) :
        Advances NoneEnters (registerDevices now message.devices ack) d :=
      advances_registerDevices serves_noneEnters message.devices ack d
    have hkept (d : CoordinatorState) :
        Advances (Keeps connections) (registerDevices now message.devices ack) d :=
      advances_registerDevices serves_connections message.devices ack d
    refine Held.mono ?_ (henters _) fun w b ↦ Holder.of_connections (hkept _)
    rintro w b ⟨r, hr, hboot, hin⟩
    replace hr := (hfind w).symm.trans hr
    split at hr
    · rename_i hw
      obtain rfl := Option.some.inj hr
      refine ⟨i, (session.bind message.worker).accept message.worker, ?_, ?_⟩
      · simp [modifySession, hi]
      · refine ⟨hreader, rfl, hw.symm, hboot, ?_⟩
        rw [hw, ← hboot]
        exact List.mem_append_right _ (List.mem_singleton_self _)
    · rename_i hw
      have hholder := helse w b (fun session ↦ (session.bind message.worker).accept message.worker)
        (fun h ↦ hw h.symm) ⟨r, hr, hboot, hin⟩
      refine hholder.of_sessions ?_
      simp [modifySession, List.modify_modify_eq, Function.comp_def]

/-- A frame that a session handles leaves every incarnation in authority with a holder. -/
lemma held_handleSessionFrame {session : Session} (hi : c.sessions[i]? = some session)
    (hreader : session.reader ≠ .ended) (he : KeepsWorker c (.receive i frame now)) (hc : Held c) :
    Held (handleSessionFrame i frame now c).1 := by
  cases hkind : concernsConnections frame.type with
  | false =>
    have henters : NoneEnters c (handleSessionFrame i frame now c).1 := by
      refine advances_handleSessionFrame serves_noneEnters (fun _ _ _ _ w b h ↦ ?_) hkind
      exact inAuthority_of_noteWorkerSeen h
    exact hc.mono henters fun w b ↦ Holder.of_connections (handleSessionFrame_keeps hkind)
  | true =>
    cases htype : frame.type <;> simp only [htype, concernsConnections, Bool.false_eq_true] at hkind
    · -- a registration
      rcases handleSessionFrame_register htype with h | ⟨message, hmessage, hvalid, hepoch, h⟩
      · rw [h]
        exact hc
      · rw [h]
        refine held_admitWorker hi hreader hvalid ?_ hc
        rw [← sessionAt_of_some hi]
        exact he htype hepoch message hmessage
    · -- a response
      rcases handleSessionFrame_queryResponse htype with h | ⟨response, -, h⟩
      · rw [h]
        exact hc
      · rw [h]
        exact hc.mono (.of_workers rfl) fun w b ↦ Holder.of_sessions rfl
    · -- a shutdown
      rw [handleSessionFrame_shutdown htype]
      refine hc.mono (.of_workers rfl) fun w b ↦ Holder.modify fun session _ h ↦ ?_
      exact { h with }

lemma held_receive (he : KeepsWorker c (.receive i frame now)) (hc : Held c) :
    Held (c.receive i frame now) := by
  rcases receive_cases i frame now c with h | ⟨session, hi, hreading, -, h | h⟩
  · rw [h]
    exact hc
  · rw [h]
    exact held_handleSessionFrame hi (by simp [hreading]) he hc
  · rw [h]
    exact held_stopReading (held_handleSessionFrame hi (by simp [hreading]) he hc)

lemma held_accept (hc : Held c) : Held c.accept := by
  unfold accept
  split
  · exact hc
  · refine hc.mono (.of_workers rfl) fun w b hholder ↦ ?_
    obtain ⟨j, session, hj, hholds⟩ := hholder
    refine ⟨j, session, ?_, hholds⟩
    rw [List.getElem?_append_left (List.getElem?_eq_some_iff.mp hj).1]
    exact hj

lemma held_hangUp (hc : Held c) : Held (c.hangUp i) := by
  rcases hangUp_cases i c with h | ⟨_, _, _, h⟩
  · rw [h]
    exact hc
  · rw [h]
    refine hc.mono (.of_workers rfl) fun w b hholder ↦ ?_
    refine Holder.of_sessions rfl (hholder.modify (i := i) (f := fun session ↦
      { session with closed := true, reader := .closing }) fun session _ hholds ↦ ?_)
    exact { hholds with reader := by simp }

/-- A session that ends fences what it holds. -/
lemma held_leave (hc : Held c) : Held (c.leave i now) := by
  unfold leave
  cases hi : c.sessions[i]? with
  | none => exact hc
  | some session =>
    dsimp only
    -- what the session does not hold is held after it has ended
    have helse (w : WorkerId) (b : WorkerBootId) (hnot : ¬session.Holds w b)
        (hin : InAuthority c.fabric w b) :
        Holder (c.modifySession i fun session ↦ { session with reader := .ended }) w b := by
      refine (hc w b hin).modify fun session' hi' hholds ↦ ?_
      obtain rfl := Option.some.inj (hi.symm.trans hi')
      exact absurd hholds hnot
    split
    · split
      · intro w b hin
        obtain ⟨hin, hother⟩ := inAuthority_of_fenceWorkerLocked hin
        refine Holder.of_sessions rfl (helse w b (fun hholds ↦ hother ?_) hin)
        exact ⟨hholds.worker.symm, hholds.boot.symm⟩
      · rename_i hsession
        exact fun w b hin ↦ helse w b (fun hholds ↦ hsession hholds.workerSession) hin
    · exact hc

lemma held_sendQuery {query : LayoutQuery} (hc : Held c) : Held (c.sendQuery query) := by
  unfold sendQuery
  split
  · dsimp only
    split
    · exact hc.mono (.of_workers rfl) fun w b ↦ Holder.of_sessions rfl
    · refine hc.mono (.of_workers rfl) fun w b hholder ↦ ?_
      refine Holder.of_sessions rfl (hholder.modify (i := query.session)
        (f := (·.ask c.nextQuerySequence query.request)) fun session _ hholds ↦ ?_)
      exact { hholds with }
  · exact hc

theorem held_step {e : Event} (he : KeepsWorker c e) (hc : Held c) : Held (e.step c) := by
  cases e with
  | accept => exact held_accept hc
  | receive i frame now => exact held_receive he hc
  | hangUp i => exact held_hangUp hc
  | leave i now => exact held_leave hc
  | lookUp worker boot stableKey =>
    change Held (c.lookUp worker boot stableKey)
    unfold lookUp
    split
    · exact hc
    · exact hc.mono (.of_workers rfl) fun w b ↦ Holder.of_sessions rfl
  | query query => exact held_sendQuery hc
  | forget sequence => exact hc.mono (.of_workers rfl) fun w b ↦ Holder.of_sessions rfl
  | await attempt worker boot =>
    change Held (c.await attempt worker boot)
    unfold await
    split
    · exact hc
    · exact hc.mono (.of_workers rfl) fun w b ↦ Holder.of_sessions rfl
  | collect attempt => exact hc.mono (.of_workers rfl) fun w b ↦ Holder.of_sessions rfl
  | operate op =>
    refine hc.mono (fun w b hin ↦ ?_) fun w b ↦ Holder.of_sessions rfl
    exact inAuthority_of_step he.2 he.1 hin

/-- An incarnation was accepted over a session that has ended. -/
def EndedOver (c : CoordinatorState) (i : SessionId) (w : WorkerId) (b : WorkerBootId) : Prop :=
  ∃ session, c.sessions[i]? = some session ∧ session.reader = .ended ∧ (w, b) ∈ session.accepted

/-- An incarnation was accepted over another session, which has not ended. -/
def OpenElsewhere (c : CoordinatorState) (i : SessionId) (w : WorkerId) (b : WorkerBootId) : Prop :=
  ∃ j session, j ≠ i ∧ c.sessions[j]? = some session ∧ session.reader ≠ .ended ∧
    (w, b) ∈ session.accepted

/-- When no session registers a second worker while its own is in authority, an incarnation that
was accepted over a session that has ended is out of authority unless it registered over another
session, which has not ended. -/
theorem ended_session_fences (hc : coordinator.Reachable KeepsWorker c) (h : EndedOver c i w b)
    (hin : InAuthority c.fabric w b) : OpenElsewhere c i w b := by
  have hinit : ∀ c, coordinator.initial c → Held c := by
    rintro _ ⟨options, now, rfl⟩ w b ⟨r, hr, -⟩
    cases hr
  have hheld : Held c := hc.invariant hinit fun _ _ hc he ↦ held_step he hc
  obtain ⟨ended, hended, hreader, -⟩ := h
  obtain ⟨j, session, hj, hholds⟩ := hheld w b hin
  refine ⟨j, session, ?_, hj, hholds.reader, hholds.accepted⟩
  rintro rfl
  obtain rfl := Option.some.inj (hended.symm.trans hj)
  exact hholds.reader hreader

/-- What the events of connections have left: the sessions that have ended with the incarnations
accepted over each session, and whether an incarnation is in authority. -/
def connectionSummary (c : CoordinatorState) (w : WorkerId) :
    List (Bool × List (WorkerId × WorkerBootId)) × Option (WorkerBootId × Bool) :=
  (c.sessions.map fun session ↦ (session.reader = .ended, session.accepted),
    (c.fabric.findWorker w).map fun r ↦ (r.boot, r.fenced))

lemma inAuthority_of_summary {ended : List (Bool × List (WorkerId × WorkerBootId))}
    (h : connectionSummary c w = (ended, some (b, false))) : InAuthority c.fabric w b := by
  obtain ⟨r, hr, hstate⟩ := Option.map_eq_some_iff.mp (congrArg Prod.snd h)
  exact ⟨r, hr, (Prod.mk.inj hstate).1, (Prod.mk.inj hstate).2⟩

lemma session_of_summary {ended : List (Bool × List (WorkerId × WorkerBootId))}
    {worker : Option (WorkerBootId × Bool)} {isEnded : Bool}
    {accepted : List (WorkerId × WorkerBootId)} (h : connectionSummary c w = (ended, worker))
    (hi : ended[i]? = some (isEnded, accepted)) :
    ∃ session, c.sessions[i]? = some session ∧ (session.reader = .ended ↔ isEnded = true) ∧
      session.accepted = accepted := by
  rw [← show c.sessions.map _ = ended from congrArg Prod.fst h, List.getElem?_map] at hi
  obtain ⟨session, hsession, hstate⟩ := Option.map_eq_some_iff.mp hi
  obtain ⟨hended, haccepted⟩ := Prod.mk.inj hstate
  refine ⟨session, hsession, ?_, haccepted⟩
  rw [← hended, decide_eq_true_iff]

lemma keepsWorker_of_fresh (h : (sessionAt c i).accepted = []) :
    KeepsWorker c (.receive i frame now) := by
  intro _ _ message _ w b hholds
  have hmem := hholds.accepted
  rw [h] at hmem
  cases hmem

/-- The worker of a session that has ended registers over a second one. -/
theorem ended_session_fences_sample :
    ∃ c, coordinator.Reachable KeepsWorker c ∧ EndedOver c 0 7 8 ∧ InAuthority c.fabric 7 8 ∧
      OpenElsewhere c 0 7 8 := by
  let c := coordinator.run [.accept, .receive 0 (Sample.registration 7 8) 5, .hangUp 0, .leave 0 6,
    .accept, .receive 1 (Sample.registration 7 8) 7] (CoordinatorState.created {} 0)
  have hc : coordinator.Reachable KeepsWorker c := by
    refine .run (.initial ⟨_, _, rfl⟩)
      ⟨trivial, keepsWorker_of_fresh rfl, trivial, trivial, trivial, keepsWorker_of_fresh ?_,
        trivial⟩
    decide +kernel
  have hsummary : connectionSummary c 7 = ([(true, [(7, 8)]), (false, [(7, 8)])], some (8, false)) := by
    decide +kernel
  clear_value c
  obtain ⟨session, hsession, hended, haccepted⟩ := session_of_summary (i := 0) hsummary rfl
  have hover : EndedOver c 0 7 8 :=
    ⟨session, hsession, hended.mpr rfl, haccepted ▸ List.mem_singleton_self _⟩
  have hin : InAuthority c.fabric 7 8 := inAuthority_of_summary hsummary
  exact ⟨c, hc, hover, hin, ended_session_fences hc hover hin⟩

/-- The events of connections: they begin, workers register, send heartbeats and shut down, and
they end. -/
def Event.isConnection : Event → Bool
  | .accept | .hangUp _ | .leave _ _ => true
  | .receive _ frame _ =>
    frame.type = .registerWorker || frame.type = .heartbeat || frame.type = .shutdown
  | _ => false

/-- A session registers two workers; when it ends, the first one stays in authority. -/
theorem ended_session_fences_last_only :
    ¬∀ c i w b, coordinator.Reachable (fun _ e ↦ e.isConnection = true) c → EndedOver c i w b →
      InAuthority c.fabric w b → OpenElsewhere c i w b := by
  intro h
  let c := coordinator.run [.accept, .receive 0 (Sample.registration 7 8) 5,
    .receive 0 (Sample.registration 9 10) 6, .hangUp 0, .leave 0 7] (CoordinatorState.created {} 0)
  have hc : coordinator.Reachable (fun _ e ↦ e.isConnection = true) c :=
    .run (.initial ⟨_, _, rfl⟩) (by decide)
  have hsummary : connectionSummary c 7 = ([(true, [(7, 8), (9, 10)])], some (8, false)) := by
    decide +kernel
  clear_value c
  obtain ⟨session, hsession, hended, haccepted⟩ := session_of_summary (i := 0) hsummary rfl
  have hover : EndedOver c 0 7 8 :=
    ⟨session, hsession, hended.mpr rfl, haccepted ▸ List.mem_cons_self⟩
  obtain ⟨j, other, hj, hother, -⟩ := h c 0 7 8 hc hover (inAuthority_of_summary hsummary)
  have hlength : c.sessions.length = 1 := by
    simpa [connectionSummary] using congrArg (fun p ↦ p.1.length) hsummary
  have hlt : j < c.sessions.length := (List.getElem?_eq_some_iff.mp hother).1
  rw [hlength] at hlt
  exact hj (Nat.lt_one_iff.mp hlt)

end Holding

end PartitionFabric
