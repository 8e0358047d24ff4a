import PartitionFabric.Coordinator.Handlers

/-!
Which frames settle the layout queries of the coordinator.

The table of pending queries is keyed by the sequence number alone, so what keeps an answer with
its query is that no peer answers a request that went to another session.
-/

namespace PartitionFabric

open Procedure CoordinatorState

section Settling

/-- A query that is changed keeps its session and is not answered by the change. -/
def Unanswered (q q' : PendingQuery) : Prop := q'.session = q.session ∧ (q'.ok = true → q' = q)

lemma Unanswered.refl (q : PendingQuery) : Unanswered q q := ⟨rfl, fun _ ↦ rfl⟩

lemma Unanswered.trans {q q' q'' : PendingQuery} (h : Unanswered q q') (h' : Unanswered q' q'') :
    Unanswered q q'' := by
  refine ⟨h'.1.trans h.1, fun hok ↦ ?_⟩
  obtain rfl := h'.2 hok
  exact h.2 hok

lemma find?_foldl_modify {f : PendingQuery → PendingQuery} (hf : ∀ q, Unanswered q (f q))
    (keys : List UInt64) (queries : KeyedMap UInt64 PendingQuery) {sequence : UInt64}
    {q' : PendingQuery}
    (h : (keys.foldl (fun queries key ↦ queries.modify key f) queries).find? sequence = some q') :
    ∃ q, queries.find? sequence = some q ∧ Unanswered q q' := by
  induction keys generalizing queries with
  | nil => exact ⟨q', h, .refl q'⟩
  | cons key keys ih =>
    obtain ⟨q, hq, hqq'⟩ := ih _ h
    rw [KeyedMap.find?_modify] at hq
    split at hq
    · obtain ⟨q₀, hq₀, rfl⟩ := Option.map_eq_some_iff.mp hq
      exact ⟨q₀, by simpa [*] using hq₀, (hf q₀).trans hqq'⟩
    · exact ⟨q, hq, hqq'⟩

variable {c : CoordinatorState} {i : SessionId} {sequence : UInt64} {q' : PendingQuery}

/-- The end of a session answers no query. -/
lemma find?_failPendingQueries {reason : Text}
    (h : (failPendingQueries i reason c).pendingQueries.find? sequence = some q') :
    ∃ q, c.pendingQueries.find? sequence = some q ∧ Unanswered q q' := by
  refine find?_foldl_modify (fun q ↦ ?_) _ _ h
  split
  · exact ⟨rfl, fun hok ↦ by cases hok⟩
  · exact .refl q

/-- A response changes at most the query under its own sequence. -/
lemma find?_answerQuery {response : QueryResponseMessage} {own : UInt64}
    (h : (answerQuery own response c).pendingQueries.find? sequence = some q') :
    ∃ q, c.pendingQueries.find? sequence = some q ∧ q'.session = q.session ∧
      (q' = q ∨ sequence = own) := by
  rw [answerQuery, KeyedMap.find?_modify] at h
  split at h
  · obtain ⟨q, hq, rfl⟩ := Option.map_eq_some_iff.mp h
    refine ⟨q, hq, ?_, .inr ‹_›⟩
    split <;> rfl
  · exact ⟨q', h, rfl, .inl rfl⟩

end Settling

section Frames

/-- What the correlation of queries depends on. -/
def queryPart (c : CoordinatorState) :
    List (List (UInt64 × QueryRequestMessage)) × List LayoutQuery × KeyedMap UInt64 PendingQuery :=
  (c.sessions.map Session.asked, c.queries, c.pendingQueries)

variable {c c' : CoordinatorState} {i : SessionId} {frame : Frame} {now : UInt64}

lemma queryPart_of_connections (h : connections c' = connections c) :
    queryPart c' = queryPart c := by
  change queryPart (connections c') = queryPart (connections c)
  rw [h]

lemma map_modify_of_eq {α β : Type} {g : α → β} {f : α → α} (h : ∀ a, g (f a) = g a) (i : ℕ)
    (l : List α) : (l.modify i f).map g = l.map g := by
  apply List.ext_getElem?
  intro j
  simp only [List.getElem?_map, List.getElem?_modify]
  by_cases hj : i = j <;> cases l[j]? <;> simp [hj, h]

lemma queryPart_modifySession (i : SessionId) (c : CoordinatorState) (f : Session → Session)
    (h : ∀ session, (f session).asked = session.asked) :
    queryPart (c.modifySession i f) = queryPart c := by
  simp only [queryPart, modifySession, map_modify_of_eq h]

/-- A frame answers the query under its sequence or leaves the queries alone. -/
theorem queryPart_handleSessionFrame (i : SessionId) (frame : Frame) (now : UInt64)
    (c : CoordinatorState) :
    queryPart (handleSessionFrame i frame now c).1 = queryPart c ∨
      frame.type = .queryResponse ∧
        ∃ response, unpackPayload .queryResponse frame.payload = .ok response ∧
          queryPart (handleSessionFrame i frame now c).1 =
            queryPart (answerQuery frame.sequence response c) := by
  cases hkind : concernsConnections frame.type with
  | false => exact .inl (queryPart_of_connections (handleSessionFrame_keeps hkind))
  | true =>
    cases htype : frame.type <;> simp only [htype, concernsConnections, Bool.false_eq_true] at hkind
    · -- a registration
      rcases handleSessionFrame_register htype with hc | ⟨message, -, -, -, hc⟩
      · exact .inl (congrArg queryPart hc)
      · rw [hc]
        rcases admitWorker_connections with ha | ha
        · refine .inl ((queryPart_of_connections ha).trans ?_)
          exact queryPart_modifySession _ _ _ fun _ ↦ rfl
        · refine .inl ((queryPart_of_connections ha).trans ?_)
          rw [queryPart_modifySession _ _ (·.accept message.worker) fun _ ↦ rfl]
          exact queryPart_modifySession _ _ _ fun _ ↦ rfl
    · rcases handleSessionFrame_queryResponse htype with hc | ⟨response, hr, hc⟩
      · exact .inl (congrArg queryPart hc)
      · exact .inr ⟨rfl, response, hr, congrArg queryPart hc⟩
    · rw [handleSessionFrame_shutdown htype]
      exact .inl (queryPart_modifySession _ _ _ fun _ ↦ rfl)

theorem queryPart_receive (i : SessionId) (frame : Frame) (now : UInt64) (c : CoordinatorState) :
    queryPart (c.receive i frame now) = queryPart c ∨
      frame.type = .queryResponse ∧
        ∃ response, unpackPayload .queryResponse frame.payload = .ok response ∧
          queryPart (c.receive i frame now) = queryPart (answerQuery frame.sequence response c) := by
  have hstop (c : CoordinatorState) : queryPart (c.stopReading i) = queryPart c :=
    queryPart_modifySession _ _ _ fun _ ↦ rfl
  have hhandled := queryPart_handleSessionFrame i frame now c
  rcases receive_cases i frame now c with hc | ⟨_, _, _, _, hc | hc⟩
  · exact .inl (congrArg queryPart hc)
  · rw [hc]
    exact hhandled
  · rw [hc, hstop]
    exact hhandled

lemma queryPart_leave (i : SessionId) (now : UInt64) (c : CoordinatorState) :
    queryPart (c.leave i now) = queryPart c := by
  have hended : queryPart (c.modifySession i fun session ↦ { session with reader := .ended }) =
      queryPart c := queryPart_modifySession _ _ _ fun _ ↦ rfl
  unfold leave
  split
  · rfl
  · split
    · dsimp only
      split
      · exact hended
      · exact hended
    · rfl

end Frames

section Correlation

/-- A request was addressed to a session under a sequence number. -/
def CoordinatorState.Asked (c : CoordinatorState) (j : SessionId) (sequence : UInt64)
    (request : QueryRequestMessage) : Prop :=
  ∃ asked, (c.sessions.map Session.asked)[j]? = some asked ∧ (sequence, request) ∈ asked

/-- Every pending query was addressed to its session as a query for a layout. -/
structure Addressed (c : CoordinatorState) : Prop where
  queries : ∀ query ∈ c.queries, query.session < (c.sessions.map Session.asked).length
  pending : ∀ sequence q, c.pendingQueries.find? sequence = some q →
    ∃ request, c.Asked q.session sequence request ∧ request.kind = .layout

variable {c c' : CoordinatorState} {sequence : UInt64}

lemma Asked.of_queryPart {j : SessionId} {request : QueryRequestMessage}
    (h : queryPart c' = queryPart c) (hasked : c.Asked j sequence request) :
    c'.Asked j sequence request := by
  have hs : c'.sessions.map Session.asked = c.sessions.map Session.asked := congrArg Prod.fst h
  rw [CoordinatorState.Asked, hs]
  exact hasked

lemma Addressed.of_queryPart (h : queryPart c' = queryPart c) (hc : Addressed c) :
    Addressed c' := by
  simp only [queryPart, Prod.mk.injEq] at h
  obtain ⟨hs, hq, hp⟩ := h
  constructor
  · rw [hq, hs]
    exact hc.queries
  · intro sequence q hfind
    rw [hp] at hfind
    simp only [CoordinatorState.Asked, hs]
    exact hc.pending sequence q hfind

/-- Pending queries may be settled or removed. -/
lemma Addressed.of_pending {pending : KeyedMap UInt64 PendingQuery} (hc : Addressed c)
    (h : ∀ sequence q', pending.find? sequence = some q' →
      ∃ q, c.pendingQueries.find? sequence = some q ∧ q'.session = q.session) :
    Addressed { c with pendingQueries := pending } := by
  refine ⟨hc.queries, fun sequence q' hq' ↦ ?_⟩
  obtain ⟨q, hq, hsession⟩ := h sequence q' hq'
  rw [hsession]
  exact hc.pending sequence q hq

lemma addressed_accept (hc : Addressed c) : Addressed c.accept := by
  unfold accept
  split
  · exact hc
  · constructor
    · intro query hquery
      have := hc.queries query hquery
      simp only [List.length_map, List.length_append] at this ⊢
      exact Nat.lt_add_right _ this
    · intro sequence q hq
      obtain ⟨request, ⟨asked, hasked, hmem⟩, hkind⟩ := hc.pending sequence q hq
      refine ⟨request, ⟨asked, ?_, hmem⟩, hkind⟩
      simp only [List.map_append]
      rw [List.getElem?_append_left (List.getElem?_eq_some_iff.mp hasked).1]
      exact hasked

lemma addressed_lookUp {worker : WorkerId} {boot : WorkerBootId} {stableKey : Text}
    (hc : Addressed c) : Addressed (c.lookUp worker boot stableKey) := by
  unfold lookUp
  split
  · exact hc
  · rename_i i hi
    refine ⟨fun query hquery ↦ ?_, hc.pending⟩
    rcases List.mem_append.mp hquery with hq | hq
    · exact hc.queries query hq
    · obtain rfl := List.mem_singleton.mp hq
      rw [List.length_map]
      exact (List.findIdx?_eq_some_iff_getElem.mp hi).1

lemma asked_iff {j : SessionId} {request : QueryRequestMessage} :
    c.Asked j sequence request ↔
      ∃ session, c.sessions[j]? = some session ∧ (sequence, request) ∈ session.asked := by
  simp [CoordinatorState.Asked, List.getElem?_map]

lemma asked_modify_of_asked {j : SessionId} {request : QueryRequestMessage} (i : SessionId)
    (sequence' : UInt64) (request' : QueryRequestMessage) (h : c.Asked j sequence request) :
    (c.modifySession i (·.ask sequence' request')).Asked j sequence request := by
  obtain ⟨session, hsession, hmem⟩ := asked_iff.mp h
  rw [asked_iff, modifySession]
  simp only [List.getElem?_modify]
  by_cases hj : i = j
  · refine ⟨session.ask sequence' request', by simp [hj, hsession], ?_⟩
    exact List.mem_append_left _ hmem
  · exact ⟨session, by simp [hj, hsession], hmem⟩

lemma asked_modify_self {i : SessionId} (h : i < c.sessions.length) (sequence : UInt64)
    (request : QueryRequestMessage) :
    (c.modifySession i (·.ask sequence request)).Asked i sequence request := by
  rw [asked_iff, modifySession]
  simp only [List.getElem?_modify]
  refine ⟨c.sessions[i].ask sequence request, by simp [h], ?_⟩
  exact List.mem_append_right _ (List.mem_singleton_self _)

/-- A new query is addressed to its session when it becomes pending. -/
lemma addressed_sendQuery {query : LayoutQuery} (hc : Addressed c) :
    Addressed (c.sendQuery query) := by
  unfold sendQuery
  split
  · rename_i hmem
    have hkept : Addressed
        { c with queries := c.queries.erase query, nextQuerySequence := c.nextQuerySequence + 1 } :=
      ⟨fun q hq ↦ hc.queries q (List.mem_of_mem_erase hq), hc.pending⟩
    dsimp only
    split
    · exact hkept
    · constructor
      · intro q hq
        have := hkept.queries q hq
        simp only [modifySession, List.length_map, List.length_modify] at this ⊢
        exact this
      · intro sequence q hq
        rw [KeyedMap.find?_insert] at hq
        split at hq
        · obtain rfl := Option.some.inj hq
          obtain rfl := ‹sequence = c.nextQuerySequence›
          refine ⟨query.request, ?_, rfl⟩
          exact asked_modify_self (List.length_map Session.asked ▸ hc.queries query hmem) _ _
        · obtain ⟨request, hasked, hkind⟩ := hc.pending sequence q hq
          exact ⟨request, asked_modify_of_asked _ _ _ hasked, hkind⟩
  · exact hc

theorem addressed_step (e : Event) (hc : Addressed c) : Addressed (e.step c) := by
  cases e with
  | accept => exact addressed_accept hc
  | receive i frame now =>
    rcases queryPart_receive i frame now c with hq | ⟨-, response, -, hq⟩
    · exact hc.of_queryPart hq
    · refine Addressed.of_queryPart hq (hc.of_pending fun sequence q' hq' ↦ ?_)
      obtain ⟨q, hfind, hsession, -⟩ := find?_answerQuery (c := c) hq'
      exact ⟨q, hfind, hsession⟩
  | hangUp i =>
    change Addressed (c.hangUp i)
    rcases hangUp_cases i c with hh | ⟨_, _, _, hh⟩
    · rw [hh]
      exact hc
    · rw [hh]
      have hclosed : Addressed (c.modifySession i fun session ↦
          { session with closed := true, reader := .closing }) :=
        hc.of_queryPart (queryPart_modifySession _ _ _ fun _ ↦ rfl)
      refine hclosed.of_pending fun sequence q' hq' ↦ ?_
      obtain ⟨q, hfind, hun⟩ := find?_failPendingQueries hq'
      exact ⟨q, hfind, hun.1⟩
  | leave i now => exact hc.of_queryPart (queryPart_leave i now c)
  | lookUp worker boot stableKey => exact addressed_lookUp hc
  | query query => exact addressed_sendQuery hc
  | forget sequence =>
    refine hc.of_pending fun key q' hq' ↦ ⟨q', ?_, rfl⟩
    rw [KeyedMap.find?_erase] at hq'
    split at hq'
    · cases hq'
    · exact hq'
  | await attempt worker boot =>
    change Addressed (c.await attempt worker boot)
    unfold await
    split
    · exact hc
    · exact ⟨hc.queries, hc.pending⟩
  | collect attempt => exact ⟨hc.queries, hc.pending⟩
  | operate op => exact ⟨hc.queries, hc.pending⟩

/-- A query that is answered after an event was answered before it, or the event is a response
under its sequence. -/
theorem answered_of_step {e : Event} {q' : PendingQuery}
    (h : (e.step c).pendingQueries.find? sequence = some q') (hok : q'.ok = true) :
    c.pendingQueries.find? sequence = some q' ∨
      ∃ i frame now response, e = .receive i frame now ∧ frame.type = .queryResponse ∧
        frame.sequence = sequence ∧ unpackPayload .queryResponse frame.payload = .ok response := by
  cases e with
  | accept =>
    change c.accept.pendingQueries.find? sequence = some q' at h
    unfold accept at h
    split at h <;> exact .inl h
  | receive i frame now =>
    rcases queryPart_receive i frame now c with hq | ⟨htype, response, hr, hq⟩
    · exact .inl ((congrArg (·.2.2.find? sequence) hq).symm.trans h)
    · have ha := (congrArg (·.2.2.find? sequence) hq).symm.trans h
      obtain ⟨q, hfind, -, rfl | rfl⟩ := find?_answerQuery (c := c) ha
      · exact .inl hfind
      · exact .inr ⟨i, frame, now, response, rfl, htype, rfl, hr⟩
  | hangUp i =>
    change (c.hangUp i).pendingQueries.find? sequence = some q' at h
    rcases hangUp_cases i c with hh | ⟨_, _, _, hh⟩
    · exact .inl (hh ▸ h)
    · rw [hh] at h
      obtain ⟨q, hfind, hun⟩ := find?_failPendingQueries h
      obtain rfl := hun.2 hok
      exact .inl hfind
  | leave i now => exact .inl ((congrArg (·.2.2.find? sequence) (queryPart_leave i now c)).symm.trans h)
  | lookUp worker boot stableKey =>
    change (c.lookUp worker boot stableKey).pendingQueries.find? sequence = some q' at h
    unfold lookUp at h
    split at h <;> exact .inl h
  | query query =>
    change (c.sendQuery query).pendingQueries.find? sequence = some q' at h
    unfold sendQuery at h
    split at h
    · dsimp only at h
      split at h
      · exact .inl h
      · change (c.pendingQueries.insert _ _).find? sequence = some q' at h
        rw [KeyedMap.find?_insert] at h
        split at h
        · obtain rfl := Option.some.inj h
          cases hok
        · exact .inl h
    · exact .inl h
  | forget key =>
    change (c.pendingQueries.erase key).find? sequence = some q' at h
    rw [KeyedMap.find?_erase] at h
    split at h
    · cases h
    · exact .inl h
  | await attempt worker boot =>
    change (c.await attempt worker boot).pendingQueries.find? sequence = some q' at h
    unfold await at h
    split at h <;> exact .inl h
  | collect attempt => exact .inl h
  | operate op => exact .inl h

end Correlation

namespace Sample

/-- The answer to the first query. -/
def answer : Frame :=
  { type := .queryResponse
    sequence := 1
    payload := packPayload .queryResponse { kind := .layout, found := true } {} }

lemma packPayload_answer (m : QueryResponseMessage) (limits : Limits) :
    packPayload .queryResponse m limits =
      (Payload.queryResponse.encodePayload limits m).emitted limits.maxFrameBytes :=
  packPayload_eq ..

/-- Two sessions, and a layout query to the first. -/
def asked : List Event :=
  [.accept, .accept, .receive 0 (registration 7 8) 5, .lookUp 7 8 "GPU-0", .query ⟨0, 7, 8, "GPU-0"⟩]

end Sample

section Answers

/-- An event settles a pending query successfully. -/
def CoordinatorState.Answers (c : CoordinatorState) (e : Event) (sequence : UInt64)
    (q : PendingQuery) : Prop :=
  c.pendingQueries.find? sequence = some q ∧ q.settled = false ∧
    ∃ q', (e.step c).pendingQueries.find? sequence = some q' ∧ q'.settled = true ∧ q'.ok = true

/-- A response of the kind of layout queries, received on a session under a sequence. -/
def IsLayoutResponse (e : Event) (i : SessionId) (sequence : UInt64) : Prop :=
  ∃ frame now response, e = .receive i frame now ∧ frame.type = .queryResponse ∧
    frame.sequence = sequence ∧ unpackPayload .queryResponse frame.payload = .ok response ∧
    response.kind = .layout

/-- A response comes on the session that the requests under its sequence were addressed to, and
has their kind. -/
def AnswersAsked (c : CoordinatorState) : Event → Prop
  | .receive i frame _ => frame.type = .queryResponse →
      ∀ response : QueryResponseMessage, unpackPayload .queryResponse frame.payload = .ok response →
        ∀ j request, c.Asked j frame.sequence request → j = i ∧ request.kind = response.kind
  | _ => True

variable {c : CoordinatorState} {e : Event} {sequence : UInt64} {q : PendingQuery}

lemma Answers.isResponse (h : c.Answers e sequence q) :
    ∃ i frame now response, e = .receive i frame now ∧ frame.type = .queryResponse ∧
      frame.sequence = sequence ∧ unpackPayload .queryResponse frame.payload = .ok response := by
  obtain ⟨hq, hunsettled, q', hq', hsettled, hok⟩ := h
  rcases answered_of_step hq' hok with hbefore | hresponse
  · rw [hq] at hbefore
    obtain rfl := Option.some.inj hbefore
    rw [hunsettled] at hsettled
    cases hsettled
  · exact hresponse

/-- When peers answer only requests that were addressed to them, a query is settled successfully
only by a response of its kind on its own session, and a response settles at most one query. -/
theorem query_answered_on_own_session (hc : coordinator.Reachable AnswersAsked c)
    (he : AnswersAsked c e) (h : c.Answers e sequence q) :
    IsLayoutResponse e q.session sequence ∧
      ∀ sequence' q', c.Answers e sequence' q' → sequence' = sequence := by
  have hinit : ∀ c, coordinator.initial c → Addressed c := by
    rintro _ ⟨options, now, rfl⟩
    refine ⟨fun query hquery ↦ ?_, fun sequence q hq ↦ ?_⟩
    · cases hquery
    · cases hq
  have haddressed : Addressed c := hc.invariant hinit fun _ e hc _ ↦ addressed_step e hc
  obtain ⟨i, frame, now, response, rfl, htype, rfl, hresponse⟩ := Answers.isResponse h
  obtain ⟨request, hasked, hkind⟩ := haddressed.pending _ _ h.1
  obtain ⟨rfl, hsame⟩ := he htype response hresponse _ _ hasked
  refine ⟨⟨frame, now, response, rfl, htype, rfl, hresponse, hsame ▸ hkind⟩, ?_⟩
  intro sequence' q' h'
  obtain ⟨_, _, _, _, heq, _, rfl, _⟩ := Answers.isResponse h'
  rw [(Event.receive.inj heq).2.1]

/-- The first session answers its query. -/
theorem query_answered_on_own_session_sample :
    ∃ c q, coordinator.Reachable AnswersAsked c ∧ c.Answers (.receive 0 Sample.answer 9) 1 q ∧
      IsLayoutResponse (.receive 0 Sample.answer 9) q.session 1 := by
  let c := coordinator.run Sample.asked (CoordinatorState.created {} 0)
  have hc : coordinator.Reachable AnswersAsked c := by
    refine .run (.initial ⟨_, _, rfl⟩) ⟨trivial, trivial, ?_, trivial, trivial, trivial⟩
    intro htype
    cases htype
  have hsessions : c.sessions.map (fun session ↦ session.asked.map fun p ↦ (p.1, p.2.kind)) =
      [[(1, .layout)], []] := by
    decide +kernel
  have hkind : (unpackPayload .queryResponse Sample.answer.payload).toOption.map
      (fun r : QueryResponseMessage ↦ r.kind) = some .layout := by
    simp only [Sample.answer, Sample.packPayload_answer]
    decide +kernel
  have hq : (c.pendingQueries.find? 1).map (fun q ↦ q.settled) = some false := by
    decide +kernel
  have hq' : (((Event.receive 0 Sample.answer 9).step c).pendingQueries.find? 1).map
      (fun q ↦ (q.settled, q.ok)) = some (true, true) := by
    simp only [Sample.answer, Sample.packPayload_answer]
    decide +kernel
  clear_value c
  have he : AnswersAsked c (.receive 0 Sample.answer 9) := by
    intro _ response hresponse j request hasked
    rw [hresponse] at hkind
    obtain ⟨session, hsession, hmem⟩ := asked_iff.mp hasked
    have hj := congrArg (·[j]?) hsessions
    simp only [List.getElem?_map, hsession, Option.map_some] at hj
    have hmem' := List.mem_map_of_mem (f := fun p : UInt64 × QueryRequestMessage ↦ (p.1, p.2.kind))
      hmem
    rcases j with _ | _ | j
    · rw [Option.some.inj hj, List.mem_singleton] at hmem'
      exact ⟨rfl, (Prod.mk.inj hmem').2.trans (Option.some.inj hkind).symm⟩
    · rw [Option.some.inj hj] at hmem'
      cases hmem'
    · cases hj
  obtain ⟨q, hfind, hsettled⟩ := Option.map_eq_some_iff.mp hq
  obtain ⟨q', hfind', heq'⟩ := Option.map_eq_some_iff.mp hq'
  have hanswers : c.Answers (.receive 0 Sample.answer 9) 1 q :=
    ⟨hfind, hsettled, q', hfind', (Prod.mk.inj heq').1, (Prod.mk.inj heq').2⟩
  exact ⟨c, q, hc, hanswers, (query_answered_on_own_session hc he hanswers).1⟩

/-- A query to the first of two sessions is answered by the second. -/
theorem query_answered_on_foreign_session :
    ¬∀ c e sequence q, coordinator.Reachable (fun _ _ ↦ True) c → c.Answers e sequence q →
      IsLayoutResponse e q.session sequence := by
  intro h
  let c := coordinator.run Sample.asked (CoordinatorState.created {} 0)
  have hc : coordinator.Reachable (fun _ _ ↦ True) c :=
    .run (.initial ⟨_, _, rfl⟩) (by decide)
  have hq : (c.pendingQueries.find? 1).map (fun q ↦ (q.settled, q.session)) = some (false, 0) := by
    decide +kernel
  have hq' : (((Event.receive 1 Sample.answer 9).step c).pendingQueries.find? 1).map
      (fun q ↦ (q.settled, q.ok)) = some (true, true) := by
    simp only [Sample.answer, Sample.packPayload_answer]
    decide +kernel
  clear_value c
  obtain ⟨q, hfind, heq⟩ := Option.map_eq_some_iff.mp hq
  obtain ⟨q', hfind', heq'⟩ := Option.map_eq_some_iff.mp hq'
  obtain ⟨hsettled, hsession⟩ := Prod.mk.inj heq
  obtain ⟨hsettled', hok⟩ := Prod.mk.inj heq'
  obtain ⟨_, _, _, hreceive, _⟩ :=
    h c (.receive 1 Sample.answer 9) 1 q hc ⟨hfind, hsettled, q', hfind', hsettled', hok⟩
  have hforeign : (1 : SessionId) = q.session := (Event.receive.inj hreceive).1
  rw [hsession] at hforeign
  cases hforeign

end Answers

end PartitionFabric
