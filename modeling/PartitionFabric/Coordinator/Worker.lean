import PartitionFabric.Coordinator.Results
import PartitionFabric.Invariants.Classification

/-!
A worker incarnation as the executor of dispatched mutations: how it reports the reply of its
backend, and when the coordinator classifies the attempt as a local execution would.
-/

namespace PartitionFabric

open Procedure

/-- What a worker incarnation answers mutation requests with. -/
structure Worker where
  id : WorkerId
  boot : WorkerBootId
  epoch : CoordinatorEpoch
  fenced : Bool
  limits : Limits
  /-- An incarnation is created under valid limits only. -/
  bounded : limits.validate = success

namespace Worker

/-- The result that is reported for a mutation request, given the reply of the backend that was
called for it. -/
def report (w : Worker) (frame : Frame) (reply : Result BackendMutationResult) :
    BackendMutationResult :=
  if w.fenced then { detail := "worker incarnation is fenced and applies no mutation" }
  else if frame.coordinatorEpoch ≠ w.epoch then
    { detail := "mutation request arrived under a superseded coordinator epoch" }
  else
    match reply with
    | .ok result => result
    | .error e => { detail := e.toText }

/-- The report on a mutation request. -/
def answer (w : Worker) (frame : Frame) (request : MutationRequestMessage)
    (reply : Result BackendMutationResult) : MutationResultMessage :=
  { attempt := request.attempt
    idempotencyToken := request.request.idempotencyToken
    result := w.report frame reply }

/-- The frame that carries the report. -/
def serveMutation (w : Worker) (frame : Frame) (request : MutationRequestMessage)
    (reply : Result BackendMutationResult) : Frame :=
  { type := .mutationResult
    flags := responseFlag
    sequence := frame.sequence
    coordinatorEpoch := w.epoch
    worker := w.id
    workerBoot := w.boot
    payload := packPayload .mutationResult (w.answer frame request reply) w.limits }

/-- A request that reaches the backend of the incarnation its attempt was dispatched to. -/
structure Serves (w : Worker) (frame : Frame) (request : MutationRequestMessage)
    (key : PartitionAttemptId) (a : PartitionAttempt) : Prop where
  unfenced : w.fenced = false
  current : frame.coordinatorEpoch = w.epoch
  attempt : request.attempt = key
  token : request.request.idempotencyToken = a.token
  bound : valid a.workerBoot = true
  boot : a.workerBoot = w.boot

end Worker

/-- The layout that a local execution observes: it asks only after an accepted mutation. -/
def localObservation (reply : Result BackendMutationResult) (query : Result BackendLayout) :
    Option BackendLayout :=
  match reply, query with
  | .ok result, .ok layout => if result.accepted then some layout else none
  | _, _ => none

/-- A report that the writer accepts, that fits a frame and that the reader accepts. -/
structure MutationResultMessage.Travels (message : MutationResultMessage) (limits : Limits) :
    Prop where
  written : AllWithin (message.texts limits)
  fits : (message.encodePayload limits).content.length ≤ limits.maxFrameBytes
  readable : MutationResultMessage.Readable message

section Transport

variable {limits : Limits} {message : MutationResultMessage}

/-- A report arrives as it was sent, or it is not understood. -/
lemma unpack_report (hlimits : limits.validate = success)
    (hcounted : (message.encodePayload limits).Counted) :
    message.Travels limits ∧
        unpackPayload .mutationResult (packPayload .mutationResult message limits) = .ok message ∨
      ¬ message.Travels limits ∧ ∃ e, (unpackPayload .mutationResult
        (packPayload .mutationResult message limits) : Result MutationResultMessage) = .error e := by
  have hiff := unpack_ok_iff hlimits (t := .mutationResult) (m := message) trivial hcounted
  have haccepted := Payload.accepted_encodePayload limits .mutationResult message
  by_cases htravels : message.Travels limits
  · exact .inl ⟨htravels, (hiff message).mpr
      ⟨⟨haccepted.mpr htravels.1, htravels.2⟩, htravels.3, rfl⟩⟩
  · refine .inr ⟨htravels, ?_⟩
    cases hunpack : (unpackPayload .mutationResult
        (packPayload .mutationResult message limits) : Result MutationResultMessage) with
    | error e => exact ⟨e, rfl⟩
    | ok other =>
      obtain ⟨⟨hwritten, hfits⟩, hreadable, -⟩ := (hiff other).mp hunpack
      exact absurd ⟨haccepted.mp hwritten, hfits, hreadable⟩ htravels

lemma travels_of_unpack (hlimits : limits.validate = success)
    (hcounted : (message.encodePayload limits).Counted)
    (h : (unpackPayload .mutationResult (packPayload .mutationResult message limits) :
      Result MutationResultMessage).isOk = true) : message.Travels limits := by
  rcases unpack_report hlimits hcounted with ⟨htravels, -⟩ | ⟨-, e, hgarbled⟩
  · exact htravels
  · rw [hgarbled] at h
    cases h

end Transport

section Agreement

variable {c : CoordinatorState} {w : Worker} {frame : Frame} {request : MutationRequestMessage}
  {key : PartitionAttemptId} {a : PartitionAttempt} {r : PartitionReservation}
  {reply : Result BackendMutationResult} {query : Result BackendLayout} {now : UInt64}

/-- The state of the fabric after a report that was understood. -/
lemma fabric_of_report (ha : c.fabric.findAttempt key = some a)
    (hserves : w.Serves frame request key a)
    (hunpack : unpackPayload .mutationResult (packPayload .mutationResult
      (w.answer frame request reply) w.limits) = .ok (w.answer frame request reply)) :
    (handleMutationResult (w.serveMutation frame request reply) now c).1.fabric =
      (applyMutationResultLocked key (.ok (w.report frame reply))
        (w.answer frame request reply).observed now c.fabric).1 := by
  have hpayload : unpackPayload .mutationResult (w.serveMutation frame request reply).payload =
    .ok (w.answer frame request reply) := hunpack
  rw [handleMutationResult_apply (w.serveMutation frame request reply) now c hpayload]
  have hagrees : Agrees (w.serveMutation frame request reply) (w.answer frame request reply) a := by
    refine ⟨Bool.and_eq_true_iff.mpr ⟨hserves.bound, ?_⟩, hserves.token.symm⟩
    exact decide_eq_true hserves.boot
  have ha' : c.fabric.findAttempt (w.answer frame request reply).attempt = some a := by
    rw [show (w.answer frame request reply).attempt = key from hserves.attempt]
    exact ha
  rw [fabric_applyReport_of_agrees ha' hagrees]
  rw [show (w.answer frame request reply).attempt = key from hserves.attempt]
  rfl

/-- A report that is not understood leaves the fabric alone. -/
lemma fabric_of_garbled {e : Error} (h : (unpackPayload .mutationResult (packPayload
    .mutationResult (w.answer frame request reply) w.limits) : Result MutationResultMessage) =
      .error e) :
    (handleMutationResult (w.serveMutation frame request reply) now c).1.fabric = c.fabric := by
  have hpayload : (unpackPayload .mutationResult (w.serveMutation frame request reply).payload :
    Result MutationResultMessage) = .error e := h
  unfold handleMutationResult
  rw [hpayload]
  rfl

lemma report_of_serves (hserves : w.Serves frame request key a) (result : BackendMutationResult) :
    w.report frame (.ok result) = result := by
  unfold Worker.report
  rw [hserves.unfenced, if_neg Bool.false_ne_true, if_neg (not_not.mpr hserves.current)]

lemma refused_of_serves (hserves : w.Serves frame request key a) (e : Error) :
    (w.report frame (.error e)).accepted = false ∧ (w.report frame (.error e)).ambiguous = false := by
  unfold Worker.report
  rw [hserves.unfenced, if_neg Bool.false_ne_true, if_neg (not_not.mpr hserves.current)]
  exact ⟨rfl, rfl⟩

/-- Whatever settles an attempt takes it out of flight. -/
lemma verdict_landed (s : FabricState) (a : PartitionAttempt) (r : PartitionReservation)
    (v : Verification) : (verdict s a r v).inFlight = false := by
  unfold verdict reconfigurationVerdict
  split
  · split
    · split
      · split <;> rfl
      · rfl
    · rfl
  · split <;> rfl

/-- Both executions apply the same result when the reply is a result; an error is reported as a
refusal. -/
lemma verdicts_agree_iff (s : FabricState) (hserves : w.Serves frame request key a) :
    verdict s a r (verifyMutation s a r (mutationReport reply) (localObservation reply query)) =
        verdict s a r (verifyMutation s a r (w.report frame reply)
          (w.answer frame request reply).observed) ↔
      ∃ result, reply = .ok result ∧ (result.accepted = true →
        Confirms s a r result (localObservation reply query) =
          Confirms s a r result (w.answer frame request reply).observed) := by
  cases reply with
  | error e =>
    obtain ⟨haccepted, hambiguous⟩ := refused_of_serves hserves e
    refine iff_of_false ?_ ?_
    · obtain ⟨hfirst, hunknown⟩ := verify_refused (s := s) (a := a) (r := r)
        (localObservation (.error e) query) (show (mutationReport (.error e)).accepted = false from rfl)
      obtain ⟨hsecond, hclear⟩ := verify_refused (s := s) (a := a) (r := r)
        (w.answer frame request (.error e)).observed haccepted
      unfold verdict
      rw [hfirst, hunknown, hsecond, hclear, hambiguous]
      simp [mutationReport]
    · rintro ⟨result, heq, -⟩
      cases heq
  | ok result =>
    rw [report_of_serves hserves result]
    change verdict s a r (verifyMutation s a r result _) = _ ↔ _
    cases haccepted : result.accepted with
    | false =>
      refine iff_of_true ?_ ⟨result, rfl, fun h ↦ absurd (haccepted.symm.trans h) (by decide)⟩
      obtain ⟨hfirst, hunknown⟩ := verify_refused (s := s) (a := a) (r := r)
        (localObservation (.ok result) query) haccepted
      obtain ⟨hsecond, hclear⟩ := verify_refused (s := s) (a := a) (r := r)
        (w.answer frame request (.ok result)).observed haccepted
      unfold verdict
      rw [hfirst, hunknown, hsecond, hclear]
    | true =>
      rw [verdict_eq_iff haccepted]
      constructor
      · exact fun h ↦ ⟨result, rfl, fun _ ↦ h⟩
      · rintro ⟨other, heq, h⟩
        obtain rfl := Except.ok.inj heq
        exact h haccepted

/-- An attempt that no result settles: it is not in flight, or its reservation is gone. -/
def Idle (s : FabricState) (a : PartitionAttempt) : Prop :=
  a.state.inFlight = false ∨ s.findReservation a.reservation = none

lemma Idle.unchanged {s : FabricState} (h : Idle s a) (ha : s.findAttempt key = some a)
    (mutation : Result BackendMutationResult) (observed : Option BackendLayout) (now : UInt64) :
    (applyMutationResultLocked key mutation observed now s).1 = s := by
  rcases applyMutationResultLocked_idle key mutation observed now s with
    hsame | ⟨a', r, ha', hr, hflight⟩
  · exact hsame
  · obtain rfl := Option.some.inj (ha.symm.trans ha')
    rcases h with hlanded | hgone
    · rw [hflight] at hlanded
      cases hlanded
    · rw [hr] at hgone
      cases hgone

/-- Executing a mutation locally and executing it through its worker classify the attempt alike
exactly when no result settles it, or the report travels and the device is gone or the backend
returned a result that, if accepted, both observations confirm or neither does. -/
theorem local_worker_agree_iff (ha : c.fabric.findAttempt key = some a)
    (hserves : w.Serves frame request key a)
    (hcounted : ((w.answer frame request reply).encodePayload w.limits).Counted) :
    (applyMutationResultLocked key reply (localObservation reply query) now
          c.fabric).1.classified key =
        (handleMutationResult (w.serveMutation frame request reply) now c).1.fabric.classified key ↔
      Idle c.fabric a ∨ (w.answer frame request reply).Travels w.limits ∧
        (c.fabric.findAccelerator a.accelerator = none ∨ ∃ result, reply = .ok result ∧
          (result.accepted = true → ∀ r, c.fabric.findReservation a.reservation = some r →
            Confirms c.fabric a r result (localObservation reply query) =
              Confirms c.fabric a r result (w.answer frame request reply).observed)) := by
  have hpayload : _ ∨ _ := unpack_report w.bounded hcounted
  by_cases hidle : Idle c.fabric a
  · refine iff_of_true ?_ (.inl hidle)
    rw [hidle.unchanged ha]
    rcases hpayload with ⟨-, hunpack⟩ | ⟨-, e, hunpack⟩
    · rw [fabric_of_report ha hserves hunpack, hidle.unchanged ha]
    · rw [fabric_of_garbled hunpack]
  · have hflight : a.state.inFlight = true := by
      simpa using fun h ↦ hidle (.inl h)
    obtain ⟨r, hr⟩ := Option.ne_none_iff_exists'.mp fun h ↦ hidle (.inr h)
    rcases hpayload with ⟨htravels, hunpack⟩ | ⟨hlost, e, hunpack⟩
    · rw [fabric_of_report ha hserves hunpack]
      cases hdevice : c.fabric.findAccelerator a.accelerator with
      | none =>
        refine iff_of_true ?_ (.inr ⟨htravels, .inl rfl⟩)
        rw [classified_of_missing ha hr hflight hdevice, classified_of_missing ha hr hflight hdevice]
      | some accelerator =>
        rw [classified_applyMutationResultLocked ha hr hflight hdevice,
          classified_applyMutationResultLocked ha hr hflight hdevice, Option.some.injEq]
        refine (verdicts_agree_iff c.fabric hserves).trans ?_
        constructor
        · rintro ⟨result, hresult, hconfirms⟩
          refine .inr ⟨htravels, .inr ⟨result, hresult, fun haccepted r' hr' ↦ ?_⟩⟩
          obtain rfl := Option.some.inj (hr.symm.trans hr')
          exact hconfirms haccepted
        · rintro (h | ⟨-, h | ⟨result, hresult, hconfirms⟩⟩)
          · exact absurd h hidle
          · cases h
          · exact ⟨result, hresult, fun haccepted ↦ hconfirms haccepted r hr⟩
    · -- the attempt stays in flight, while a local execution settles it
      rw [fabric_of_garbled hunpack]
      refine iff_of_false ?_ (by tauto)
      have hstays : c.fabric.classified key = some a.state := by
        rw [FabricState.classified, ha]
        rfl
      rw [hstays]
      cases hdevice : c.fabric.findAccelerator a.accelerator with
      | none =>
        rw [classified_of_missing ha hr hflight hdevice, Option.some.injEq]
        rintro h
        rw [← h] at hflight
        cases hflight
      | some accelerator =>
        rw [classified_applyMutationResultLocked ha hr hflight hdevice, Option.some.injEq]
        rintro h
        rw [← h, verdict_landed] at hflight
        cases hflight

/-- An error of the backend leaves the outcome of an attempt in flight unknown where the mutation is
executed locally. Through a worker the attempt fails, or it stays in flight when the report of the
error does not travel: its outcome is never unknown there. -/
theorem error_outcomes {e : Error} (ha : c.fabric.findAttempt key = some a)
    (hr : c.fabric.findReservation a.reservation = some r) (hflight : a.state.inFlight = true)
    (hdevice : (c.fabric.findAccelerator a.accelerator).isSome = true)
    (hserves : w.Serves frame request key a)
    (hcounted : ((w.answer frame request (.error e)).encodePayload w.limits).Counted) :
    (applyMutationResultLocked key (.error e) (localObservation (.error e) query) now
        c.fabric).1.classified key = some .outcomeUnknown ∧
      ((w.answer frame request (.error e)).Travels w.limits ∧
          (handleMutationResult (w.serveMutation frame request (.error e)) now
            c).1.fabric.classified key = some .failed ∨
        ¬(w.answer frame request (.error e)).Travels w.limits ∧
          (handleMutationResult (w.serveMutation frame request (.error e)) now
            c).1.fabric.classified key = some a.state) := by
  obtain ⟨accelerator, hdevice⟩ := Option.isSome_iff_exists.mp hdevice
  constructor
  · obtain ⟨hverified, hambiguous⟩ := verify_refused (s := c.fabric) (a := a) (r := r)
      (localObservation (.error e) query) (show (mutationReport (.error e)).accepted = false from rfl)
    rw [classified_applyMutationResultLocked ha hr hflight hdevice]
    unfold verdict
    rw [hverified, hambiguous]
    rfl
  · have hpayload : _ ∨ _ := unpack_report w.bounded hcounted
    rcases hpayload with ⟨htravels, hunpack⟩ | ⟨hlost, e', hunpack⟩
    · obtain ⟨haccepted, hrefused⟩ := refused_of_serves hserves e
      obtain ⟨hverified, hambiguous⟩ := verify_refused (s := c.fabric) (a := a) (r := r)
        (w.answer frame request (.error e)).observed
        (show (mutationReport (.ok (w.report frame (.error e)))).accepted = false from haccepted)
      refine .inl ⟨htravels, ?_⟩
      rw [fabric_of_report ha hserves hunpack,
        classified_applyMutationResultLocked ha hr hflight hdevice]
      unfold verdict
      rw [hverified, hambiguous]
      exact congrArg (fun unknown : Bool ↦ some (if unknown then _ else _)) hrefused
    · refine .inr ⟨hlost, ?_⟩
      rw [fabric_of_garbled hunpack, FabricState.classified, ha]
      rfl

end Agreement

namespace Sample

/-- The incarnation that the creation of the slice was dispatched to. -/
def executor : Worker :=
  { id := 7
    boot := 8
    epoch := 1
    fenced := false
    limits := {}
    bounded := by decide +kernel }

/-- The dispatched creation. -/
def creation : MutationRequestMessage :=
  { attempt := 5
    reservation := 3
    request := { idempotencyToken := 5 } }

/-- The frame of its request. -/
def asking : Frame := { type := .mutationRequest, coordinatorEpoch := 1 }

/-- The slice was created and is observed. -/
def done : BackendMutationResult := { accepted := true, observedLayout := layout ["a"] }

end Sample

/-- The creation succeeds both ways when the backend reports it and both see it. -/
theorem local_worker_agree_sample :
    let c := coordinator.run Sample.assigned (CoordinatorState.created {} 0)
    let reply : Result BackendMutationResult := .ok Sample.done
    (applyMutationResultLocked 5 reply (localObservation reply (.ok (Sample.layout ["a"]))) 5
        c.fabric).1.classified 5 =
      (handleMutationResult (Sample.executor.serveMutation Sample.asking Sample.creation reply) 5
        c).1.fabric.classified 5 := by
  intro c reply
  have hattempt : (c.fabric.findAttempt 5).map (fun a ↦ (a.token, a.workerBoot)) = some (5, 8) := by
    decide +kernel
  have hcounted : ((Sample.executor.answer Sample.asking Sample.creation reply).encodePayload
      Sample.executor.limits).Counted := by
    decide +kernel
  have harrives : (unpackPayload .mutationResult (packPayload .mutationResult
      (Sample.executor.answer Sample.asking Sample.creation reply) Sample.executor.limits)).isOk =
        true := by
    decide +kernel
  clear_value c
  obtain ⟨a, ha, hfields⟩ := Option.map_eq_some_iff.mp hattempt
  obtain ⟨htoken, hboot⟩ := Prod.mk.inj hfields
  have hserves : Sample.executor.Serves Sample.asking Sample.creation 5 a :=
    ⟨rfl, rfl, rfl, htoken.symm, (congrArg valid hboot).trans (by decide), hboot⟩
  have htravels := travels_of_unpack Sample.executor.bounded hcounted harrives
  exact (local_worker_agree_iff ha hserves hcounted).mpr
    (.inr ⟨htravels, .inr ⟨Sample.done, rfl, fun _ r _ ↦ rfl⟩⟩)

/-- An error of the backend leaves the outcome unknown locally and fails the attempt when a worker
reports it. -/
theorem worker_reports_error_as_failure :
    ¬ ∀ (c : CoordinatorState) (w : Worker) frame request key a reply query now,
      coordinator.Reachable (fun _ _ ↦ True) c → c.fabric.findAttempt key = some a →
      w.Serves frame request key a →
      (applyMutationResultLocked key reply (localObservation reply query) now
          c.fabric).1.classified key =
        (handleMutationResult (w.serveMutation frame request reply) now
          c).1.fabric.classified key := by
  intro h
  let c := coordinator.run Sample.assigned (CoordinatorState.created {} 0)
  let reply : Result BackendMutationResult := failure .backendFailure "lost"
  have hc : coordinator.Reachable (fun _ _ ↦ True) c := .run (.initial ⟨_, _, rfl⟩) (by decide)
  have hattempt : (c.fabric.findAttempt 5).map (fun a ↦ (a.token, a.workerBoot)) = some (5, 8) := by
    decide +kernel
  have hunknown : (applyMutationResultLocked 5 reply (localObservation reply
      (.ok (Sample.layout []))) 5 c.fabric).1.classified 5 = some .outcomeUnknown := by
    decide +kernel
  have hfailed : (handleMutationResult
      (Sample.executor.serveMutation Sample.asking Sample.creation reply) 5
        c).1.fabric.classified 5 = some .failed := by
    decide +kernel
  clear_value c
  obtain ⟨a, ha, hfields⟩ := Option.map_eq_some_iff.mp hattempt
  obtain ⟨htoken, hboot⟩ := Prod.mk.inj hfields
  have hserves : Sample.executor.Serves Sample.asking Sample.creation 5 a :=
    ⟨rfl, rfl, rfl, htoken.symm, (congrArg valid hboot).trans (by decide), hboot⟩
  have hagree := h c Sample.executor Sample.asking Sample.creation 5 a reply
    (.ok (Sample.layout [])) 5 hc ha hserves
  exact absurd (hunknown.symm.trans (hagree.trans hfailed)) (by decide)

end PartitionFabric
