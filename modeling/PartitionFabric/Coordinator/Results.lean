import PartitionFabric.Coordinator.Events
import PartitionFabric.Invariants.Absorbing

/-!
Which frames settle the attempts that the coordinator has dispatched.

The handler of a result compares the boot identity and the token that the frame carries with those
of the attempt; it does not look at the session the frame arrived on or at its epoch.
-/

namespace PartitionFabric

open Procedure CoordinatorState

section Handling

/-- A frame agrees with an attempt on the boot identity and on the token. -/
def Agrees (frame : Frame) (message : MutationResultMessage) (a : PartitionAttempt) : Prop :=
  (valid a.workerBoot && a.workerBoot = frame.workerBoot) = true ∧ a.token = message.idempotencyToken

/-- The layout that a result carries as evidence. -/
def MutationResultMessage.observed (message : MutationResultMessage) : Option BackendLayout :=
  if message.result.observedLayout.devicePresent then some message.result.observedLayout else none

variable {c : CoordinatorState} {i : SessionId} {frame : Frame} {now : UInt64}
  {message : MutationResultMessage} {a : PartitionAttempt} {r : PartitionReservation}

lemma fabric_onFabric_bind {α β : Type} {m : FabricM α} {f : α → CoordinatorM β}
    (hf : ∀ x c, (f x c).1.fabric = c.fabric) :
    ((onFabric m >>= f) c).1.fabric = (m c.fabric).1 := by
  rw [bind_apply, onFabric]
  rcases m c.fabric with ⟨t, e | x⟩
  · rfl
  · exact hf x _

lemma handleMutationResult_apply (frame : Frame) (now : UInt64) (c : CoordinatorState)
    (hmessage : unpackPayload .mutationResult frame.payload = .ok message) :
    handleMutationResult frame now c = applyReport frame message now c := by
  unfold handleMutationResult
  rw [hmessage]
  rfl

/-- A frame that agrees with its attempt has its result applied. -/
lemma fabric_applyReport_of_agrees (ha : c.fabric.findAttempt message.attempt = some a)
    (h : Agrees frame message a) :
    (applyReport frame message now c).1.fabric =
      (applyMutationResult message.attempt message.result message.observed now c.fabric).1 := by
  unfold applyReport
  rw [get_bind]
  simp only [ha]
  rw [require_bind, if_pos h.1, require_bind, if_pos (decide_eq_true h.2)]
  exact fabric_onFabric_bind fun _ _ ↦ rfl

lemma fabric_applyReport_cases (frame : Frame) (message : MutationResultMessage) (now : UInt64)
    (c : CoordinatorState) :
    (applyReport frame message now c).1.fabric = c.fabric ∨
      ∃ a, c.fabric.findAttempt message.attempt = some a ∧ Agrees frame message a := by
  unfold applyReport
  rw [get_bind]
  cases ha : c.fabric.findAttempt message.attempt with
  | none => exact .inl rfl
  | some a =>
    by_cases h : Agrees frame message a
    · exact .inr ⟨a, rfl, h⟩
    · refine .inl ?_
      simp only [require_bind]
      split
      · rename_i hboot
        rw [if_neg fun htoken ↦ h ⟨hboot, of_decide_eq_true htoken⟩]
      · rfl

/-- The handler of a result leaves the fabric alone unless the frame agrees with its attempt. -/
lemma fabric_handleMutationResult_cases (frame : Frame) (now : UInt64) (c : CoordinatorState) :
    (handleMutationResult frame now c).1.fabric = c.fabric ∨
      ∃ (message : MutationResultMessage) (a : PartitionAttempt),
        unpackPayload .mutationResult frame.payload = .ok message ∧
        c.fabric.findAttempt message.attempt = some a ∧ Agrees frame message a := by
  cases hmessage : (unpackPayload .mutationResult frame.payload : Result MutationResultMessage) with
  | error e =>
    refine .inl ?_
    unfold handleMutationResult
    rw [hmessage]
    rfl
  | ok message =>
    rw [handleMutationResult_apply frame now c hmessage]
    rcases fabric_applyReport_cases frame message now c with h | ⟨a, ha, h⟩
    · exact .inl h
    · exact .inr ⟨message, a, rfl, ha, h⟩

lemma fabric_handleSessionFrame (h : frame.type = .mutationResult) :
    (handleSessionFrame i frame now c).1.fabric = (handleMutationResult frame now c).1.fabric := by
  unfold handleSessionFrame
  simp only [h]
  rw [bind_apply]
  rcases handleMutationResult frame now c with ⟨t, e | u⟩
  · rfl
  · rfl

end Handling

section Owners

/-- A frame that an open session reads as the result of an attempt in flight, and that agrees with
the attempt. -/
structure SettlesAttempt (c : CoordinatorState) (i : SessionId) (frame : Frame)
    (message : MutationResultMessage) (a : PartitionAttempt) (r : PartitionReservation) : Prop where
  session : ∃ session, c.sessions[i]? = some session ∧ session.reader = .reading ∧
    session.closed = false
  payload : unpackPayload .mutationResult frame.payload = .ok message
  attempt : c.fabric.findAttempt message.attempt = some a
  agrees : Agrees frame message a
  inFlight : a.state.inFlight = true
  reservation : c.fabric.findReservation a.reservation = some r

/-- A session is registered for the worker incarnation of an attempt, and a frame carries the
current epoch. -/
def IsOwner (c : CoordinatorState) (i : SessionId) (frame : Frame) (a : PartitionAttempt) : Prop :=
  (sessionAt c i).workerSession = true ∧ (sessionAt c i).worker = a.worker ∧
    (sessionAt c i).workerBoot = a.workerBoot ∧ frame.coordinatorEpoch = c.fabric.coordinatorEpoch

/-- A frame reports on an attempt whose owner sent it. -/
def FromOwner (c : CoordinatorState) (i : SessionId) (frame : Frame) : Prop :=
  ∃ (message : MutationResultMessage) (a : PartitionAttempt),
    unpackPayload .mutationResult frame.payload = .ok message ∧
    c.fabric.findAttempt message.attempt = some a ∧ IsOwner c i frame a

variable {c : CoordinatorState} {i : SessionId} {frame : Frame} {now : UInt64}
  {message : MutationResultMessage} {a : PartitionAttempt} {r : PartitionReservation}

/-- A result that agrees with an attempt in flight changes the fabric. -/
lemma fabric_receive_ne (htype : frame.type = .mutationResult)
    (h : SettlesAttempt c i frame message a r) : (c.receive i frame now).fabric ≠ c.fabric := by
  have happlied : (c.receive i frame now).fabric =
      (applyMutationResult message.attempt message.result message.observed now c.fabric).1 := by
    rw [← fabric_applyReport_of_agrees h.attempt h.agrees,
      ← handleMutationResult_apply frame now c h.payload,
      ← fabric_handleSessionFrame (i := i) htype]
    obtain ⟨session, hsession, hreader, hopen⟩ := h.session
    unfold receive
    simp only [hsession, hreader, hopen, Bool.false_eq_true, not_false_eq_true, and_self, if_true]
    cases (handleSessionFrame i frame now c).2 with
    | ok _ => rfl
    | error e =>
      simp only
      split <;> rfl
  have hsettled := settled_applyMutationResultLocked h.attempt h.reservation h.inFlight
    (.ok message.result) message.observed now
  obtain ⟨a', ha', hstate⟩ := hsettled.attempt
  intro hsame
  rw [happlied, applyMutationResult] at hsame
  rw [hsame] at ha'
  obtain rfl := Option.some.inj (h.attempt.symm.trans ha')
  rw [h.inFlight] at hstate
  cases hstate

/-- A result that changes the fabric agrees with an attempt in flight. -/
lemma settles_of_fabric_ne (htype : frame.type = .mutationResult)
    (h : (c.receive i frame now).fabric ≠ c.fabric) :
    ∃ message a r, SettlesAttempt c i frame message a r := by
  obtain ⟨session, hsession, hreader, hopen, hfabric⟩ : ∃ session, c.sessions[i]? = some session ∧
      session.reader = .reading ∧ session.closed = false ∧
      (c.receive i frame now).fabric = (handleMutationResult frame now c).1.fabric := by
    rw [← fabric_handleSessionFrame (i := i) htype]
    rcases receive_cases i frame now c with hc | ⟨session, hsession, hreader, hopen, hc | hc⟩
    · exact absurd (congrArg CoordinatorState.fabric hc) h
    · exact ⟨session, hsession, hreader, hopen, congrArg CoordinatorState.fabric hc⟩
    · exact ⟨session, hsession, hreader, hopen, (congrArg CoordinatorState.fabric hc).trans rfl⟩
  rw [hfabric] at h
  rcases fabric_handleMutationResult_cases frame now c with hsame | ⟨message, a, hmessage, ha, hagrees⟩
  · exact absurd hsame h
  · rw [handleMutationResult_apply frame now c hmessage, fabric_applyReport_of_agrees ha hagrees] at h
    rcases applyMutationResultLocked_idle message.attempt (.ok message.result) message.observed now
      c.fabric with hidle | ⟨a', r, ha', hr, hflight⟩
    · exact absurd hidle h
    · obtain rfl := Option.some.inj (ha.symm.trans ha')
      exact ⟨message, a, r, ⟨session, hsession, hreader, hopen⟩, hmessage, ha, hagrees, hflight, hr⟩

/-- A result changes the fabric only when its owner sent it, if and only if every frame that agrees
with an attempt in flight was sent by the owner of the attempt. -/
theorem mutation_result_from_owner_iff (htype : frame.type = .mutationResult) :
    ((c.receive i frame now).fabric ≠ c.fabric → FromOwner c i frame) ↔
      ∀ message a r, SettlesAttempt c i frame message a r → IsOwner c i frame a := by
  constructor
  · intro h message a r hsettles
    obtain ⟨message', a', hmessage', ha', howner⟩ := h (fabric_receive_ne htype hsettles)
    obtain rfl := Except.ok.inj (hmessage'.symm.trans hsettles.payload)
    obtain rfl := Option.some.inj (ha'.symm.trans hsettles.attempt)
    exact howner
  · intro h hchanged
    obtain ⟨message, a, r, hsettles⟩ := settles_of_fabric_ne htype hchanged
    exact ⟨message, a, hsettles.payload, hsettles.attempt, h message a r hsettles⟩

end Owners

namespace Sample

/-- The result of the fifth attempt as a worker incarnation reports it. -/
def result (epoch : CoordinatorEpoch) (boot : WorkerBootId) : Frame :=
  { type := .mutationResult
    coordinatorEpoch := epoch
    workerBoot := boot
    payload := packPayload .mutationResult
      { attempt := 5
        idempotencyToken := 5
        result := { accepted := true, observedLayout := layout ["a"] } } {} }

lemma packPayload_result (m : MutationResultMessage) (limits : Limits) :
    packPayload .mutationResult m limits =
      (Payload.mutationResult.encodePayload limits m).emitted limits.maxFrameBytes :=
  packPayload_eq ..

/-- Two sessions; a worker registers over the first and is given the creation of a slice. -/
def assigned : List Event :=
  [.accept, .accept, .receive 0 (registration 7 8) 1,
    .operate (.registerBackendAccelerator device 1), .operate (.plan { profile := profile.id } 2),
    .operate (.reserve 2 3), .operate (.bindReservation 3 7 8 1 3),
    .operate (.registerAttempt 3 .createPartition 7 8 4)]

end Sample

lemma ne_of_attemptState {s t : FabricState} (key : PartitionAttemptId)
    (h : (s.findAttempt key).map PartitionAttempt.state ≠
      (t.findAttempt key).map PartitionAttempt.state) : s ≠ t := by
  rintro rfl
  exact h rfl

/-- The worker of an attempt reports its result over its own session. -/
theorem mutation_result_from_owner_sample :
    ∃ c : CoordinatorState, (Sample.result 1 8).type = .mutationResult ∧
      (c.receive 0 (Sample.result 1 8) 5).fabric ≠ c.fabric ∧ FromOwner c 0 (Sample.result 1 8) := by
  let c := coordinator.run Sample.assigned (CoordinatorState.created {} 0)
  have hsession : (sessionAt c 0).workerSession = true ∧ (sessionAt c 0).worker = 7 ∧
      (sessionAt c 0).workerBoot = 8 := by
    decide +kernel
  have hepoch : (Sample.result 1 8).coordinatorEpoch = c.fabric.coordinatorEpoch := by
    decide +kernel
  have hattempt : (c.fabric.findAttempt 5).map (fun a ↦ (a.worker, a.workerBoot)) = some (7, 8) := by
    decide +kernel
  have hmessage : (unpackPayload .mutationResult (Sample.result 1 8).payload).toOption.map
      (fun m : MutationResultMessage ↦ m.attempt) = some 5 := by
    simp only [Sample.result, Sample.packPayload_result]
    decide +kernel
  have hchanged : (c.receive 0 (Sample.result 1 8) 5).fabric ≠ c.fabric := by
    apply ne_of_attemptState 5
    simp only [Sample.result, Sample.packPayload_result]
    decide +kernel
  clear_value c
  refine ⟨c, rfl, hchanged, (mutation_result_from_owner_iff rfl).mpr (fun message a r h ↦ ?_) hchanged⟩
  have hkey : message.attempt = 5 := by
    rw [h.payload] at hmessage
    exact Option.some.inj hmessage
  have ha := h.attempt
  rw [hkey] at ha
  rw [ha] at hattempt
  obtain ⟨hworker, hboot⟩ := Prod.mk.inj (Option.some.inj hattempt)
  obtain ⟨hbound, hw, hb⟩ := hsession
  exact ⟨hbound, hw.trans hworker.symm, hb.trans hboot.symm, hepoch⟩

/-- A session that never registered settles the attempt of another one's worker under an epoch
that was never current. -/
theorem mutation_result_from_stranger :
    ¬∀ c i frame now, coordinator.Reachable (fun _ _ ↦ True) c → frame.type = .mutationResult →
      (c.receive i frame now).fabric ≠ c.fabric → FromOwner c i frame := by
  intro h
  let c := coordinator.run Sample.assigned (CoordinatorState.created {} 0)
  have hc : coordinator.Reachable (fun _ _ ↦ True) c := .run (.initial ⟨_, _, rfl⟩) (by decide)
  have hsession : (sessionAt c 1).workerSession = false := by
    decide +kernel
  have hchanged : (c.receive 1 (Sample.result 0 8) 5).fabric ≠ c.fabric := by
    apply ne_of_attemptState 5
    simp only [Sample.result, Sample.packPayload_result]
    decide +kernel
  clear_value c
  obtain ⟨_, _, -, -, hbound, -⟩ := h c 1 (Sample.result 0 8) 5 hc rfl hchanged
  rw [hsession] at hbound
  cases hbound

end PartitionFabric
