import PartitionFabric.Coordinator.Results
import PartitionFabric.Invariants.AttemptAtomicity

/-!
The coordinator's dispatch of a mutation to the worker that a reservation is bound to, and the
destruction of a partition through it.
-/

namespace PartitionFabric

open CoordinatorState Procedure

section Definitions

/-- How a dispatch leaves its caller: with an outcome although nothing was sent, or waiting for
the answer to a request. -/
inductive Dispatch where
  | unsent (outcome : MutationOutcome)
  | awaiting (i : SessionId) (frame : Frame)

/-- Whether a frame goes through over a session. -/
abbrev Transport := SessionId → Status

/-- The flag of a request frame. -/
def requestFlag : UInt32 := 1

/-- The partitions that a mutation asks the worker for. -/
def requestedSpecs (kind : AttemptKind) (reservation : PartitionReservation)
    (plan : PartitionPlan) : List NativePartitionSpec :=
  match kind with
  | .createPartition => (plan.plannedPartitions.zip reservation.partitions).map fun (planned, p) ↦
      { planned.spec with logicalPartition := p }
  | .reconfigureLayout => plan.plannedPartitions.map PlannedPartition.spec
  | .destroyPartition => []

/-- The physical partitions that a mutation takes away. -/
def removedNativeIds (s : FabricState) (kind : AttemptKind) (reservation : PartitionReservation) :
    List Text :=
  match kind with
  | .createPartition => []
  | .destroyPartition | .reconfigureLayout => reservation.partitions.filterMap fun p ↦
      (s.findPartition p).bind fun record ↦
        if record.nativeIdentity.nativeId.isEmpty then none
        else some record.nativeIdentity.nativeId

/-- The request of a registered attempt, under the authority of its reservation. -/
def mutationRequest (s : FabricState) (kind : AttemptKind) (reservation : PartitionReservation)
    (attempt : PartitionAttempt) (stableKey : Text) (plan : PartitionPlan) :
    PartitionMutationRequest :=
  { stableKey := stableKey
    expectedBoot := reservation.acceleratorBoot
    expectedAcceleratorGeneration := reservation.acceleratorGeneration
    expectedCapabilityGeneration := reservation.capabilityGeneration
    coordinatorEpoch := s.coordinatorEpoch
    worker := reservation.worker
    workerBoot := reservation.workerBoot
    attempt := attempt.id
    idempotencyToken := attempt.token
    destructive := kind ≠ .createPartition
    fullDeviceReconfiguration := kind = .reconfigureLayout
    desired := requestedSpecs kind reservation plan
    removeNativeIds := removedNativeIds s kind reservation }

def mutationFrame (limits : Limits) (id : PartitionReservationId) (kind : AttemptKind)
    (request : PartitionMutationRequest) : Frame :=
  { type := .mutationRequest
    flags := requestFlag
    coordinatorEpoch := request.coordinatorEpoch
    worker := request.worker
    workerBoot := request.workerBoot
    payload := packPayload .mutationRequest
      { attempt := request.attempt, reservation := id, kind := kind, request := request } limits }

/-- The outcome of an attempt that was registered and not sent. -/
def lostOutcome (id : PartitionReservationId) (attempt : PartitionAttempt) (message : Text) :
    MutationOutcome :=
  { attempt := attempt.id
    reservation := id
    accelerator := attempt.accelerator
    partitions := attempt.partitions
    state := .outcomeUnknown
    outcomeUnknown := true
    message := message }

/-- Gives up an attempt whose request cannot be built. -/
def abandonAttempt (attempt : PartitionAttempt) (reason : Text) (now : UInt64)
    (outcome : MutationOutcome) : CoordinatorM Dispatch := do
  Procedure.ignore (onFabric (markAttemptOutcomeUnknown attempt.id reason now))
  pure (.unsent outcome)

/-- Registers the caller and sends the request; where it does not go through, the caller is
settled and stays registered. -/
def sendMutation (sends : Transport) (i : SessionId) (id : PartitionReservationId)
    (kind : AttemptKind) (reservation : PartitionReservation) (attempt : PartitionAttempt)
    (stableKey : Text) (plan : PartitionPlan) (now : UInt64) : CoordinatorM Dispatch := do
  let c ← Procedure.get
  let request := mutationRequest c.fabric kind reservation attempt stableKey plan
  Procedure.require (c.waiting.size < c.limits.maxPendingAttempts * 4)
    (makeError .limitExceeded "too many in-flight dispatches")
  let waiter : Waiting :=
    { attempt := attempt.id, worker := reservation.worker, workerBoot := reservation.workerBoot }
  Procedure.modify fun c ↦ { c with waiting := c.waiting.insert attempt.id waiter }
  match sends i with
  | .ok _ => pure (.awaiting i (mutationFrame c.limits id kind request))
  | .error e => do
    Procedure.ignore (onFabric (markAttemptOutcomeUnknown attempt.id
      (("dispatch failed: " : Text) ++ e.toText) now))
    let outcome : MutationOutcome :=
      { attempt := attempt.id
        reservation := id
        state := .outcomeUnknown
        outcomeUnknown := true
        reconciliationRequired := true
        message := "dispatch failed before the mutation was acknowledged" }
    Procedure.modify fun c ↦
      { c with
        waiting := c.waiting.insert attempt.id { waiter with settled := true, outcome := outcome } }
    pure (.unsent outcome)

/-- Looks up what the request of a registered attempt needs; what is missing loses the attempt. -/
def dispatchAttempt (sends : Transport) (id : PartitionReservationId) (kind : AttemptKind)
    (reservation : PartitionReservation) (attempt : PartitionAttempt) (now : UInt64) :
    CoordinatorM Dispatch := do
  let c ← Procedure.get
  match c.findSession reservation.worker reservation.workerBoot with
  | none =>
    let reason : Text := "no live worker incarnation owns this reservation"
    abandonAttempt attempt reason now
      { lostOutcome id attempt reason with reconciliationRequired := true }
  | some i =>
    match c.fabric.stableKeys.find? reservation.accelerator with
    | none =>
      let reason : Text := "accelerator has no backend key"
      abandonAttempt attempt reason now (lostOutcome id attempt reason)
    | some stableKey =>
      match c.fabric.plans.find? reservation.plan with
      | none =>
        let reason : Text := "plan behind the reservation is gone"
        abandonAttempt attempt reason now (lostOutcome id attempt reason)
      | some plan => sendMutation sends i id kind reservation attempt stableKey plan now

namespace Coordinator

/-- Registers an attempt for a reservation and sends its request to the worker, up to the point
where the caller waits for the answer. -/
def dispatchMutation (sends : Transport) (id : PartitionReservationId) (kind : AttemptKind)
    (now : UInt64) : CoordinatorM Dispatch := do
  let c ← Procedure.get
  match c.fabric.findReservation id with
  | none => Procedure.throw (makeError .notFound "reservation is not known" (decimal id.toNat))
  | some reservation => do
    Procedure.require (valid reservation.worker && valid reservation.workerBoot)
      (makeError .staleWorker "reservation is not bound to a worker incarnation")
    let attempt ← onFabric
      (registerAttempt id kind reservation.worker reservation.workerBoot now)
    dispatchAttempt sends id kind reservation attempt now

/-- Reserves the destruction of a partition and dispatches it; saving the state afterwards does
not change it. -/
def destroyPartition (sends : Transport) (p : PartitionId) (now : UInt64) :
    CoordinatorM Dispatch := do
  let c ← Procedure.get
  match c.fabric.findPartition p with
  | none => Procedure.throw (makeError .notFound "partition is not known" (decimal p.toNat))
  | some _ => do
    let reservation ← onFabric (createDestructionReservation p now)
    dispatchMutation sends reservation.id .destroyPartition now

end Coordinator

end Definitions

section Fabric

variable {c : CoordinatorState} {α β : Type}

lemma onFabric_ok {m : FabricM α} {t : FabricState} {a : α} (h : m c.fabric = (t, .ok a)) :
    onFabric m c = ({ c with fabric := t }, .ok a) := by
  unfold onFabric
  rw [h]

lemma onFabric_error {m : FabricM α} {t : FabricState} {e : Error}
    (h : m c.fabric = (t, .error e)) : onFabric m c = ({ c with fabric := t }, .error e) := by
  unfold onFabric
  rw [h]

end Fabric

section Destruction

variable {s t : FabricState} {c : CoordinatorState} {p : PartitionId} {now : UInt64}
  {sends : Transport}

/-- A destruction may be reserved: the instance is open, the partition has a physical identity
and nothing occupies it, its device is still the one it was made on, and there are identities for
a plan and a reservation. -/
structure CanReserveDestruction (s : FabricState) (p : PartitionId) (record : PartitionRecord)
    (accelerator : AcceleratorRecord) : Prop where
  opened : s.closed = false
  found : s.findPartition p = some record
  live : isTerminalState record.state = false
  native : record.nativeIdentity.nativeId.isEmpty = false
  safe : destructionSafe s record = true
  device : s.findAccelerator record.accelerator = some accelerator
  current : accelerator.generation = record.acceleratorGeneration
  planned : s.ids.next ≠ uint64Max
  reserved : s.ids.next + 1 ≠ uint64Max
  ledger : (s.findLedger accelerator.id).isSome = true

/-- A destructive reservation starts without a worker and without an attempt. -/
lemma createDestructiveReservationLocked_fresh {accelerator : AcceleratorRecord}
    {affected : List PartitionRecord} {hold : ResourceVector} :
    Ensures (fun r _ ↦ r.worker = 0 ∧ r.attempt = 0)
      (createDestructiveReservationLocked accelerator affected hold now) s := by
  refine ensures_bind fun t planId _ ↦ ensures_bind fun u id _ ↦ ensures_get_bind ?_
  refine ensures_modify_bind (ensures_bind fun v _ _ ↦ ensures_bind fun w _ _ ↦ ?_)
  exact ensures_modify_bind (ensures_modify_bind (ensures_pure ⟨rfl, rfl⟩))

/-- What a destruction that was just reserved is like. -/
structure ReservedOnly (t : FabricState) (r : PartitionReservation) : Prop where
  stored : t.findReservation r.id = some r
  active : r.lifecycle = .active
  worker : r.worker = 0
  attempt : r.attempt = 0

/-- A destruction is reserved without a worker, or its reservation is refused. -/
lemma reserveDestruction_cases (s : FabricState) (p : PartitionId) (now : UInt64) (stale : Text) :
    (∃ record accelerator t r, CanReserveDestruction s p record accelerator ∧
      reserveDestruction p now stale s = (t, .ok (accelerator, record, r)) ∧ ReservedOnly t r) ∨
    (∃ t e, reserveDestruction p now stale s = (t, .error e)) ∧
      ∀ record accelerator, ¬CanReserveDestruction s p record accelerator := by
  unfold reserveDestruction
  rcases Bool.eq_false_or_eq_true s.closed with hclosed | hclosed
  · rw [bind_error (checkOpen_closed hclosed)]
    refine .inr ⟨⟨s, _, rfl⟩, fun record accelerator h ↦ ?_⟩
    cases hclosed.symm.trans h.opened
  rw [bind_ok (checkOpen_opened hclosed), get_bind]
  cases hr : s.findPartition p with
  | none => exact .inr ⟨⟨s, _, rfl⟩, fun record accelerator h ↦ (by cases hr.symm.trans h.found)⟩
  | some record =>
    have hthis {record' : PartitionRecord} {accelerator : AcceleratorRecord}
        (h : CanReserveDestruction s p record' accelerator) : record' = record :=
      Option.some.inj (h.found.symm.trans hr)
    simp only [require_bind]
    cases hlive : isTerminalState record.state with
    | true =>
      refine .inr ⟨⟨s, _, rfl⟩, fun record' accelerator h ↦ ?_⟩
      obtain rfl := hthis h
      cases hlive.symm.trans h.live
    | false =>
      rw [Bool.not_false, if_pos rfl]
      cases hnative : record.nativeIdentity.nativeId.isEmpty with
      | true =>
        refine .inr ⟨⟨s, _, rfl⟩, fun record' accelerator h ↦ ?_⟩
        obtain rfl := hthis h
        cases hnative.symm.trans h.native
      | false =>
        rw [Bool.not_false, if_pos rfl]
        cases hsafe : destructionSafe s record with
        | false =>
          refine .inr ⟨⟨s, _, rfl⟩, fun record' accelerator h ↦ ?_⟩
          obtain rfl := hthis h
          cases hsafe.symm.trans h.safe
        | true =>
          rw [if_pos rfl]
          cases ha : s.findAccelerator record.accelerator with
          | none =>
            refine .inr ⟨⟨s, _, rfl⟩, fun record' accelerator h ↦ ?_⟩
            obtain rfl := hthis h
            cases ha.symm.trans h.device
          | some accelerator =>
            simp only
            by_cases hcurrent : accelerator.generation = record.acceleratorGeneration
            · rw [if_neg (not_not_intro hcurrent)]
              rcases createDestructiveReservationLocked_cases s accelerator [record] {} now with
                ⟨t, e, hrun, -, hnever⟩ | ⟨l, l', r, t, hcan, hrun, ht⟩
              · rw [bind_error hrun]
                refine .inr ⟨⟨t, e, rfl⟩, fun record' accelerator' h ↦ ?_⟩
                obtain rfl := hthis h
                obtain rfl := Option.some.inj (h.device.symm.trans ha)
                obtain ⟨l, hl⟩ := Option.isSome_iff_exists.mp h.ledger
                exact hnever l l ⟨h.planned, h.reserved, hl, .inl ⟨rfl, rfl⟩⟩
              · rw [bind_ok hrun]
                obtain ⟨hworker, hattempt⟩ := createDestructiveReservationLocked_fresh t r hrun
                refine .inl ⟨record, accelerator, t, r, ⟨hclosed, hr, hlive, hnative, hsafe, ha,
                  hcurrent, hcan.planned, hcan.reserved, ?_⟩, rfl, ?_, ht.active, hworker, hattempt⟩
                · rw [hcan.ledger]
                  rfl
                · rw [FabricState.findReservation, ht.reservations, KeyedMap.find?_insert_self]
            · rw [if_pos hcurrent]
              refine .inr ⟨⟨_, _, rfl⟩, fun record' accelerator' h ↦ ?_⟩
              obtain rfl := hthis h
              obtain rfl := Option.some.inj (h.device.symm.trans ha)
              exact hcurrent h.current

lemma createDestructionReservation_cases (s : FabricState) (p : PartitionId) (now : UInt64) :
    (∃ record accelerator t r, CanReserveDestruction s p record accelerator ∧
      createDestructionReservation p now s = (t, .ok r) ∧ ReservedOnly t r) ∨
    (∃ t e, createDestructionReservation p now s = (t, .error e)) ∧
      ∀ record accelerator, ¬CanReserveDestruction s p record accelerator := by
  unfold createDestructionReservation
  rcases reserveDestruction_cases s p now "device generation changed before destruction was registered"
    with ⟨record, accelerator, t, r, hcan, hrun, hr⟩ | ⟨⟨t, e, hrun⟩, hnever⟩
  · rw [bind_ok hrun]
    exact .inl ⟨record, accelerator, t, r, hcan, rfl, hr⟩
  · rw [bind_error hrun]
    exact .inr ⟨⟨t, e, rfl⟩, hnever⟩

/-- A reservation without a worker is not dispatched. -/
lemma dispatchMutation_unbound {id : PartitionReservationId} {r : PartitionReservation}
    (hr : c.fabric.findReservation id = some r) (hunbound : valid r.worker = false)
    (sends : Transport) (kind : AttemptKind) (now : UInt64) :
    ∃ e, Coordinator.dispatchMutation sends id kind now c = (c, .error e) := by
  unfold Coordinator.dispatchMutation
  rw [get_bind]
  simp only [hr, require_bind, hunbound, Bool.false_and, Bool.false_eq_true, if_false]
  exact ⟨_, rfl⟩

/-- A destruction never reaches a worker: its reservation is refused, or it is not bound to one. -/
lemma destroyPartition_fails (sends : Transport) (p : PartitionId) (now : UInt64)
    (c : CoordinatorState) :
    (∃ t r e, createDestructionReservation p now c.fabric = (t, .ok r) ∧ ReservedOnly t r ∧
      Coordinator.destroyPartition sends p now c = ({ c with fabric := t }, .error e)) ∨
    (∃ c' e, Coordinator.destroyPartition sends p now c = (c', .error e)) ∧
      ∀ record accelerator, ¬CanReserveDestruction c.fabric p record accelerator := by
  unfold Coordinator.destroyPartition
  rw [get_bind]
  cases hr : c.fabric.findPartition p with
  | none => exact .inr ⟨⟨c, _, rfl⟩, fun record accelerator h ↦ (by cases hr.symm.trans h.found)⟩
  | some record =>
    simp only
    rcases createDestructionReservation_cases c.fabric p now with
      ⟨-, -, t, r, -, hrun, hreserved⟩ | ⟨⟨t, e, hrun⟩, hnever⟩
    · rw [bind_ok (onFabric_ok hrun)]
      have hunbound : valid r.worker = false := by rw [hreserved.worker]; rfl
      obtain ⟨e, hdispatch⟩ := dispatchMutation_unbound (c := { c with fabric := t })
        hreserved.stored hunbound sends .destroyPartition now
      exact .inl ⟨t, r, e, hrun, hreserved, hdispatch⟩
    · rw [bind_error (onFabric_error hrun)]
      exact .inr ⟨⟨_, e, rfl⟩, hnever⟩

/-- A reservation is in the hands of an attempt, or it is over. -/
def ReservationSettled (s : FabricState) (id : PartitionReservationId) : Prop :=
  ∀ r, s.findReservation id = some r → valid r.attempt = true ∨ reservationIsTerminal r.lifecycle = true

/-- A device is owned by a live worker: the incarnation is the current one, it was not fenced, and
its session is open. -/
structure LiveOwner (c : CoordinatorState) (id : AcceleratorId) (owner : WorkerRecord)
    (i : SessionId) : Prop where
  owns : c.fabric.acceleratorOwner.find? id = some owner
  current : ∃ record, c.fabric.findWorker owner.id = some record ∧ record.boot = owner.boot ∧
    record.alive = true ∧ record.fenced = false
  session : c.findSession owner.id owner.boot = some i

/-- A partition is drained on a device that a live worker owns. -/
def DrainedUnderOwner (c : CoordinatorState) (p : PartitionId) (i : SessionId) : Prop :=
  ∃ record owner, c.fabric.findPartition p = some record ∧ record.drain.destructiveSafe = true ∧
    LiveOwner c record.accelerator owner i

/-- What a destruction is to do: the reservation that it makes is settled, and a drained partition
of a live worker is destroyed by that worker. -/
structure DestroysThroughWorker (c : CoordinatorState) (sends : Transport) (p : PartitionId)
    (now : UInt64) : Prop where
  settled : ∀ t r, createDestructionReservation p now c.fabric = (t, .ok r) →
    ReservationSettled (Coordinator.destroyPartition sends p now c).1.fabric r.id
  dispatched : ∀ i, DrainedUnderOwner c p i →
    ∃ frame, (Coordinator.destroyPartition sends p now c).2 = .ok (.awaiting i frame)

/-- A destruction does what it is to do exactly where there is nothing to do: no destruction can be
reserved, and the partition is not drained on the device of a live worker. -/
theorem destroys_through_worker_iff : DestroysThroughWorker c sends p now ↔
    (∀ record accelerator, ¬CanReserveDestruction c.fabric p record accelerator) ∧
      ∀ i, ¬DrainedUnderOwner c p i := by
  obtain ⟨c', e, hrun, hreserved⟩ : ∃ c' e,
      Coordinator.destroyPartition sends p now c = (c', .error e) ∧
        ((∃ t r, createDestructionReservation p now c.fabric = (t, .ok r) ∧ ReservedOnly t r ∧
            c'.fabric = t) ∨
          ∀ record accelerator, ¬CanReserveDestruction c.fabric p record accelerator) := by
    rcases destroyPartition_fails sends p now c with
      ⟨t, r, e, hmade, hreserved, hrun⟩ | ⟨⟨c', e, hrun⟩, hnever⟩
    · exact ⟨_, e, hrun, .inl ⟨t, r, hmade, hreserved, rfl⟩⟩
    · exact ⟨c', e, hrun, .inr hnever⟩
  constructor
  · rintro ⟨hsettled, hdispatched⟩
    refine ⟨?_, fun i hi ↦ ?_⟩
    · rcases hreserved with ⟨t, r, hmade, hr, ht⟩ | hnever
      · have hover := hsettled t r hmade r (by rw [hrun, ht]; exact hr.stored)
        rw [hr.attempt, hr.active] at hover
        exact absurd hover (by decide)
      · exact hnever
    · obtain ⟨frame, hsent⟩ := hdispatched i hi
      rw [hrun] at hsent
      cases hsent
  · rintro ⟨hnever, hidle⟩
    refine ⟨fun t r hmade ↦ ?_, fun i hi ↦ absurd hi (hidle i)⟩
    rcases createDestructionReservation_cases c.fabric p now with
      ⟨record, accelerator, -, -, hcan, -, -⟩ | ⟨⟨t', e', hrefused⟩, -⟩
    · exact absurd hcan (hnever record accelerator)
    · cases (Prod.mk.inj (hrefused.symm.trans hmade)).2

end Destruction

namespace Sample

/-- The slice is created by the worker that owns the device, and drained. -/
def drainedByWorker : List Event :=
  assigned ++ [.operate (.bindAcceleratorWorker 1 7 8), .receive 0 (result 1 8) 5,
    .operate (.beginDrain 4 [] 6), .operate (.completeDrain 4 7)]

end Sample

/-- The worker that owns the device never hears of the destruction. -/
theorem drained_not_dispatched : ¬∀ c sends p now, coordinator.Reachable (fun _ _ ↦ True) c →
    (∀ i, sends i = success) → DestroysThroughWorker c sends p now := by
  intro h
  let c := coordinator.run Sample.drainedByWorker (CoordinatorState.created {} 0)
  have hc : coordinator.Reachable (fun _ _ ↦ True) c := .run (.initial ⟨_, _, rfl⟩) (by decide)
  obtain ⟨hdrained, howner, hcurrent, hsession⟩ :
      (c.fabric.findPartition 4).any (fun record ↦ record.drain.destructiveSafe &&
        record.accelerator = 1) = true ∧
      (c.fabric.acceleratorOwner.find? 1).any (fun owner ↦
        owner.id = 7 && owner.boot = 8) = true ∧
      (c.fabric.findWorker 7).any (fun record ↦
        record.boot = 8 && record.alive && !record.fenced) = true ∧
      c.findSession 7 8 = some 0 := by
    simp only [c, Sample.drainedByWorker, Sample.result, Sample.packPayload_result]
    decide +kernel
  have hdispatched := (h c (fun _ ↦ success) 4 8 hc fun _ ↦ rfl).dispatched 0
  clear_value c
  obtain ⟨record, hr, hdrained⟩ := (Option.any_eq_true _ _).mp hdrained
  obtain ⟨owner, howns, hid⟩ := (Option.any_eq_true _ _).mp howner
  obtain ⟨worker, hw, hlive⟩ := (Option.any_eq_true _ _).mp hcurrent
  simp only [Bool.and_eq_true, decide_eq_true_eq, Bool.not_eq_true'] at hdrained hid hlive
  obtain ⟨hsafe, hdevice⟩ := hdrained
  obtain ⟨hid, hboot⟩ := hid
  obtain ⟨⟨hwboot, halive⟩, hfenced⟩ := hlive
  rw [← hdevice] at howns
  rw [← hid] at hw
  rw [← hid, ← hboot] at hsession
  obtain ⟨frame, hsent⟩ := hdispatched ⟨record, owner, hr, hsafe, howns,
    ⟨worker, hw, hwboot.trans hboot.symm, halive, hfenced⟩, hsession⟩
  rcases destroyPartition_fails (fun _ ↦ success) 4 8 c with
    ⟨t, r, e, -, -, hrun⟩ | ⟨⟨c', e, hrun⟩, -⟩
  · rw [hrun] at hsent
    cases hsent
  · rw [hrun] at hsent
    cases hsent

end PartitionFabric
