import PartitionFabric.Invariants.Operations

/-!
Mutations evolve the registry: registration of attempts, application of results and dispatch.
-/

namespace PartitionFabric

open Procedure

variable {π : Scope} {floor : UInt64} {s : FabricState}

lemma advances_makeAttemptRoom : Advances (Evolves π floor) makeAttemptRoom s := by
  refine advances_get_bind (advances_when fun _ ↦ ?_)
  refine advances_modify_bind evolves_pruneAttempts (advances_get_bind ?_)
  exact refl_of _ _

lemma advances_beginCreating {reservation : PartitionReservation} {now : UInt64}
    {p : PartitionId} {index : ℕ} (henters : π.enters .creating) :
    Advances (Evolves π floor) (beginCreating reservation now p index) s := by
  refine advances_get_bind ?_
  cases s.findPartition p with
  | none => exact advances_throw _ _
  | some record => exact advances_require_bind fun _ ↦ advances_transition henters (by decide)

lemma advances_beginDestroying {now : UInt64} {p : PartitionId} (henters : π.enters .destroying) :
    Advances (Evolves π floor) (beginDestroying now p) s := by
  refine advances_get_bind ?_
  cases s.findPartition p with
  | none => exact advances_throw _ _
  | some record => exact advances_transition henters (by decide)

/-- The state that the partitions of an attempt are led to when it is registered. -/
def AttemptKind.begun : AttemptKind → List PartitionState
  | .createPartition => [.creating]
  | .destroyPartition => [.destroying]
  | .reconfigureLayout => []

lemma advances_beginMutation {reservation : PartitionReservation} {kind : AttemptKind}
    {now : UInt64} (henters : ∀ a ∈ kind.begun, π.enters a) :
    Advances (Evolves π floor) (beginMutation reservation kind now) s := by
  cases kind with
  | createPartition =>
      exact advances_forM fun _ _ _ _ ↦ advances_beginCreating (henters _ (by simp [AttemptKind.begun]))
  | destroyPartition =>
      exact advances_forM fun _ _ _ _ ↦
        advances_beginDestroying (henters _ (by simp [AttemptKind.begun]))
  | reconfigureLayout => exact advances_pure _ _

/-- An attempt as it is registered for a reservation on behalf of a worker incarnation. -/
structure IssuedFor (reservation : PartitionReservation) (kind : AttemptKind) (worker : WorkerId)
    (boot : WorkerBootId) (a : PartitionAttempt) : Prop where
  kind : a.kind = kind
  partitions : a.partitions = reservation.partitions
  coordinatorEpoch : a.coordinatorEpoch = reservation.coordinatorEpoch
  worker : a.worker = if valid worker then worker else reservation.worker
  workerBoot : a.workerBoot = if valid boot then boot else reservation.workerBoot
  identity : a.reservation = reservation.id
  device : (a.accelerator, a.acceleratorGeneration, a.acceleratorBoot, a.capabilityGeneration) =
    (reservation.accelerator, reservation.acceleratorGeneration, reservation.acceleratorBoot,
      reservation.capabilityGeneration)

lemma advances_registerAttemptLocked {key : PartitionReservationId}
    {reservation : PartitionReservation} {kind : AttemptKind} {worker : WorkerId}
    {boot : WorkerBootId} {now : UInt64} (hfloor : floor ≤ s.ids.next)
    (henters : ∀ a ∈ kind.begun, π.enters a)
    (hreg : ∀ a, IssuedFor reservation kind worker boot a → π.registers a) :
    Advances (Evolves π floor) (registerAttemptLocked key reservation kind worker boot now) s := by
  refine advances_bind_of advances_makeAttemptRoom fun t _ _ hst ↦ advances_get_bind ?_
  refine advances_require_bind fun _ ↦ ?_
  refine advances_bind advances_allocateId fun u id hid ↦ ?_
  obtain ⟨rfl, hlt, -⟩ := allocateId_eq_ok hid
  refine advances_bind_of (advances_beginMutation henters) fun v _ _ huv ↦ advances_get_bind ?_
  refine advances_lift_bind fun _ _ ↦ ?_
  refine advances_modify_bind (evolves_attempts fun k a ha ↦ ?_) ?_
  · rw [KeyedMap.find?_insert] at ha
    split at ha
    · rename_i hk
      obtain rfl := Option.some.inj ha
      subst hk
      exact Or.inl ⟨hfloor.trans hst.ids, rfl, lt_of_lt_of_le hlt huv.ids,
        hreg _ ⟨rfl, rfl, rfl, rfl, rfl, rfl, rfl⟩⟩
    · exact Or.inr ⟨a, ha, .refl a⟩
  · refine advances_modify_bind (evolves_modifyReservation fun r _ ↦
      ⟨rfl, Or.inr ⟨rfl, rfl, rfl⟩, Or.inr (Or.inr rfl), Or.inr (Or.inr rfl), Or.inr rfl⟩) ?_
    exact advances_bind advances_bump fun _ _ _ ↦ advances_pure _ _

lemma RecordEvolves.bindNative (r : PartitionRecord) (backend : Text) (layout : BackendLayout)
    (native : BackendNativePartition) (hn : π.natives) :
    RecordEvolves π r (r.bindNative backend layout native) :=
  ⟨rfl, rfl, rfl, le_refl _, Legal.refl _, Or.inl hn, Or.inr (Or.inl rfl), ⟨rfl, rfl⟩, Or.inr⟩

lemma evolves_bindFound {p : PartitionId} {backend : Text}
    {found : Option (BackendLayout × BackendNativePartition)} (hn : π.natives) :
    Evolves π floor s (bindFound p backend found s) := by
  unfold bindFound
  cases found with
  | none => exact refl_of _ s
  | some pair => exact evolves_modifyPartition fun r _ ↦ .bindNative r _ _ _ hn

lemma evolves_stamp {now : UInt64} {p : PartitionId} {accelerator : AcceleratorRecord}
    {provenance : EvidenceProvenance} {source : Text} :
    Evolves π floor s (stampPartitionEvidence now p accelerator provenance source s) := by
  have hrecord : ∀ (t : FabricState) (e : EvidenceStamp), Evolves π floor t
      (t.modifyPartition p fun r ↦ { r with evidence := e, provenance := provenance }) :=
    fun t e ↦ evolves_modifyPartition fun r _ ↦
      ⟨rfl, rfl, rfl, le_refl _, Legal.refl _, Or.inr rfl, Or.inr (Or.inl rfl), ⟨rfl, rfl⟩, Or.inr⟩
  unfold stampPartitionEvidence
  cases next s.evidenceGeneration with
  | error e => exact hrecord _ _
  | ok g =>
      exact trans_of _ (.of_eq rfl rfl rfl rfl rfl rfl rfl rfl (fun _ ↦ .of_keeps rfl)
        (.of_keeps rfl)) (hrecord _ _)

lemma evolves_dropAssignments_of {test : PartitionId → Bool} :
    Evolves π floor s (dropAssignments test s) := by
  unfold dropAssignments
  generalize (s.assignments.values.filter fun a ↦ test a.partition).map PartitionAssignment.id = l
  induction l generalizing s with
  | nil => exact refl_of _ s
  | cons id rest ih =>
      rw [List.foldl_cons]
      refine trans_of _ (evolves_dropAssignments fun k a ha ↦ ?_) ih
      rw [KeyedMap.find?_erase] at ha
      split at ha
      · exact absurd ha (by simp)
      · exact ha

lemma evolves_retireReplaced {now : UInt64} {p : PartitionId} (hretires : π.enters .retired) :
    Evolves π floor s (retireReplaced now p s) := by
  refine evolves_modifyPartition fun r _ ↦ ?_
  have h := RecordEvolves.retire r now "superseded by a verified device reconfiguration" hretires
  exact ⟨h.id, h.accelerator, h.resources, h.generation, h.legal, h.native, Or.inr (Or.inr rfl),
    h.incarnation, h.active⟩

lemma advances_recordReconfigured {e : CommitEvidence} {l : List PlannedPartition}
    {claimed : List Text} {ids : List PartitionId} (hn : π.natives) (hactive : π.activates)
    (hfloor : floor ≤ s.ids.next) :
    Advances (Evolves π floor) (recordReconfigured e l claimed ids) s := by
  induction l generalizing s claimed ids with
  | nil => exact advances_pure _ _
  | cons planned rest ih =>
      unfold recordReconfigured
      refine advances_get_bind ?_
      cases s.findProfile planned.profile with
      | none => exact ih hfloor
      | some profile =>
          refine advances_bind_of (advances_attempt advances_allocateId) fun t status halloc hst ↦ ?_
          cases status with
          | error e => exact advances_pure _ _
          | ok id =>
              obtain ⟨rfl, hlt, -⟩ := allocateId_eq_ok (attempt_eq_ok halloc)
              refine advances_modify_bind_of
                (evolves_insertPartition hfloor hlt rfl (fresh_default rfl rfl fun _ ↦ hactive))
                fun htu ↦ ?_
              refine advances_modify_bind_of (evolves_bindFound hn) fun huv ↦ ?_
              refine advances_modify_bind_of evolves_stamp fun hvw ↦ ih ?_
              calc floor ≤ s.ids.next := hfloor
                _ ≤ t.ids.next := hst.ids
                _ ≤ _ := htu.ids
                _ ≤ _ := huv.ids
                _ ≤ _ := hvw.ids

section KeepsCommitments

/-- What the fabric has promised and begun. -/
def commitments (s : FabricState) : KeyedMap PartitionAttemptId PartitionAttempt ×
    KeyedMap PartitionReservationId PartitionReservation := (s.attempts, s.reservations)

lemma keeps_transition {now : UInt64} {key : PartitionId} {target : PartitionState}
    {reason : Text} :
    Advances (Keeps commitments) (transitionPartition now key target reason) s := by
  unfold Advances Keeps
  rcases transitionPartition_cases now key target reason s with
    h | ⟨record, ledger, ledger', held, -, -, -, -, -, h⟩
  · rw [h]
  · rw [h]
    rfl

lemma keeps_stamp {now : UInt64} {p : PartitionId} {accelerator : AcceleratorRecord}
    {provenance : EvidenceProvenance} {source : Text} :
    Keeps commitments s
      (stampPartitionEvidence now p accelerator provenance source s) := by
  unfold Keeps stampPartitionEvidence
  cases next s.evidenceGeneration with
  | error e => rfl
  | ok g => rfl

lemma keeps_bindFound {p : PartitionId} {backend : Text}
    {found : Option (BackendLayout × BackendNativePartition)} :
    Keeps commitments s (bindFound p backend found s) := by
  unfold Keeps bindFound
  cases found with
  | none => rfl
  | some pair => rfl

lemma keeps_dropAssignments {test : PartitionId → Bool} :
    Keeps commitments s (dropAssignments test s) := by
  unfold Keeps dropAssignments
  generalize (s.assignments.values.filter fun a ↦ test a.partition).map PartitionAssignment.id = l
  induction l generalizing s with
  | nil => rfl
  | cons id rest ih =>
      rw [List.foldl_cons, ih]
      rfl

lemma keeps_recordReconfigured {e : CommitEvidence} {l : List PlannedPartition}
    {claimed : List Text} {ids : List PartitionId} :
    Advances (Keeps commitments) (recordReconfigured e l claimed ids) s := by
  induction l generalizing s claimed ids with
  | nil => exact advances_pure _ _
  | cons planned rest ih =>
      unfold recordReconfigured
      refine advances_get_bind ?_
      cases s.findProfile planned.profile with
      | none => exact ih
      | some profile =>
          refine advances_bind (advances_attempt (advances_allocateId_of fun _ ↦ rfl))
            fun t status _ ↦ ?_
          cases status with
          | error e => exact advances_pure _ _
          | ok id =>
              refine advances_modify_bind rfl (advances_modify_bind keeps_bindFound ?_)
              exact advances_modify_bind keeps_stamp ih

lemma keeps_publishCreated {e : CommitEvidence} {desired : List PlannedPartition}
    {l : List (PartitionId × ℕ)} {claimed : List Text} :
    Advances (Keeps commitments) (publishCreated e desired l claimed) s := by
  induction l generalizing s claimed with
  | nil => exact advances_pure _ _
  | cons entry rest ih =>
      obtain ⟨p, index⟩ := entry
      unfold publishCreated
      refine advances_get_bind ?_
      cases s.findPartition p with
      | none => exact ih
      | some record =>
          refine advances_modify_bind keeps_bindFound (advances_modify_bind keeps_stamp ?_)
          refine advances_bind (advances_ignore keeps_transition) fun _ _ _ ↦ ?_
          exact advances_modify_bind rfl ih

lemma keeps_retireDestroyed {now : UInt64} {p : PartitionId} :
    Advances (Keeps commitments) (retireDestroyed now p) s := by
  refine advances_bind (advances_attempt keeps_transition) fun t status _ ↦ ?_
  cases status with
  | error e => exact advances_pure _ _
  | ok u => exact advances_modify rfl

lemma keeps_commitPartitions {e : CommitEvidence} {attempt : PartitionAttempt} :
    Advances (Keeps commitments) (commitPartitions e attempt) s := by
  unfold commitPartitions
  cases attempt.kind with
  | createPartition => exact keeps_publishCreated
  | destroyPartition => exact advances_forM fun _ _ _ _ ↦ keeps_retireDestroyed
  | reconfigureLayout => exact advances_pure _ _

lemma keeps_replaceRecords {e : CommitEvidence} {attempt : PartitionAttempt}
    {plan : PartitionPlan} {working : CapacityLedger} :
    Advances (Keeps commitments) (replaceRecords e attempt plan working) s := by
  refine advances_modify_bind rfl ?_
  refine advances_bind (advances_forM fun _ _ _ _ ↦ advances_modify rfl) fun _ _ _ ↦ ?_
  exact advances_modify_bind keeps_dropAssignments keeps_recordReconfigured

/-- What is in flight before a procedure that keeps the attempts is in flight after it. -/
lemma inFlight_of_keeps {α : Type} {m : FabricM α} {t : FabricState} {a : α}
    {key : PartitionAttemptId} (hm : Advances (Keeps commitments) m s)
    (ht : m s = (t, .ok a))
    (hflight : ∀ a, s.attempts.find? key = some a → a.state.inFlight = true) :
    ∀ a, t.attempts.find? key = some a → a.state.inFlight = true := by
  intro a ha
  have hkeep : t.attempts = s.attempts := (Prod.mk.inj (hm.of_run ht)).1
  exact hflight a (hkeep ▸ ha)

end KeepsCommitments

lemma advances_publishCreated {e : CommitEvidence} {desired : List PlannedPartition}
    {l : List (PartitionId × ℕ)} {claimed : List Text} (hn : π.natives) (hactive : π.activates)
    (henters : π.enters .active) :
    Advances (Evolves π floor) (publishCreated e desired l claimed) s := by
  induction l generalizing s claimed with
  | nil => exact advances_pure _ _
  | cons entry rest ih =>
      obtain ⟨p, index⟩ := entry
      unfold publishCreated
      refine advances_get_bind ?_
      cases s.findPartition p with
      | none => exact ih
      | some record =>
          refine advances_modify_bind (evolves_bindFound hn) (advances_modify_bind evolves_stamp ?_)
          refine advances_bind (advances_ignore
            (advances_transition_of henters fun _ ↦ hactive)) fun _ _ _ ↦ ?_
          refine advances_modify_bind (evolves_modifyPartition fun r _ ↦ ?_) ih
          exact ⟨rfl, rfl, rfl, le_refl _, Legal.refl _, Or.inr rfl, Or.inr (Or.inl rfl), ⟨rfl, rfl⟩,
            Or.inr⟩

lemma advances_retireDestroyed {now : UInt64} {p : PartitionId} (hretires : π.enters .retired) :
    Advances (Evolves π floor) (retireDestroyed now p) s := by
  refine advances_bind (advances_attempt (advances_transition hretires (by decide)))
    fun t status _ ↦ ?_
  cases status with
  | error e => exact advances_pure _ _
  | ok u => exact advances_modify (evolves_modifyPartition fun r _ ↦ .supersede r)

/-- The states that a verified mutation leads existing partitions to. -/
def AttemptKind.committed : AttemptKind → List PartitionState
  | .createPartition => [.active]
  | .destroyPartition => [.retired]
  | .reconfigureLayout => [.retired, .revalidationRequired]

lemma advances_commitPartitions {e : CommitEvidence} {attempt : PartitionAttempt}
    (hn : π.natives) (hactive : π.activates) (henters : ∀ a ∈ attempt.kind.committed, π.enters a) :
    Advances (Evolves π floor) (commitPartitions e attempt) s := by
  unfold commitPartitions
  cases hkind : attempt.kind with
  | createPartition =>
      exact advances_publishCreated hn hactive (henters _ (by simp [hkind, AttemptKind.committed]))
  | destroyPartition =>
      exact advances_forM fun _ _ _ _ ↦
        advances_retireDestroyed (henters _ (by simp [hkind, AttemptKind.committed]))
  | reconfigureLayout => exact advances_pure _ _

/-- An attempt that is still in flight may be settled in any way. -/
lemma evolves_settleAttempt {key : PartitionAttemptId} {state : AttemptState} {detail : Text}
    {now : UInt64} (hanswers : π.answers) (hstate : state.inFlight = false)
    (h : ∀ a, s.attempts.find? key = some a → a.state.inFlight = true) :
    Evolves π floor s (settleAttempt key state detail now s) :=
  evolves_modifyAttempt fun a ha ↦ ⟨rfl, rfl, rfl, rfl, rfl, rfl, Or.inr (Or.inl (h a ha)),
    fun hflight ↦ absurd (hstate.symm.trans hflight) Bool.false_ne_true, Or.inl hanswers⟩

/-- What a scope has to allow for an attempt that is answered under a reservation. -/
structure Concludes (π : Scope) (k : PartitionReservationId) : Prop where
  answers : π.answers
  settles : ∀ a w b, π.settles k a w b

/-- What a scope has to allow for a result that may settle a reservation once more. -/
structure Resolves (π : Scope) (k : PartitionReservationId) : Prop extends Concludes π k where
  resettles : π.resettles k

lemma evolves_commitReservation {key : PartitionReservationId} {now : UInt64}
    (h : Resolves π key) : Evolves π floor s (commitReservation key now s) :=
  evolves_modifyReservation fun _ _ ↦
    ⟨rfl, Or.inr ⟨rfl, rfl, rfl⟩, Or.inl h.resettles, Or.inr (Or.inl (h.settles _ _ _)), Or.inr rfl⟩

lemma balanced_freeReplaced {p : PartitionId} {l : CapacityLedger} (hl : l.Balanced) :
    (freeReplaced s p l).1.Balanced := by
  unfold freeReplaced
  cases (s.findPartition p).bind fun record ↦ record.heldBucket.map fun b ↦ (record, b) with
  | none => exact hl
  | some pair => exact CapacityLedger.moveBetween_balanced _ _ _ hl

/-- The accounting of a reconfiguration keeps a balanced ledger balanced. -/
lemma balanced_replaceLayout (s : FabricState) (attempt : PartitionAttempt)
    (reservation : PartitionReservation) (plan : PartitionPlan) {l : CapacityLedger}
    (hl : l.Balanced) :
    (replaceLayout s attempt reservation plan l).1.Balanced := by
  let R : CapacityLedger → CapacityLedger → Prop := fun l l' ↦ l.Balanced → l'.Balanced
  have : Std.Refl R := ⟨fun _ ↦ id⟩
  have : IsTrans CapacityLedger R := ⟨fun _ _ _ h h' ↦ h' ∘ h⟩
  suffices h : Advances R (replaceLayout s attempt reservation plan) l from h hl
  refine advances_bind (advances_attempt (advances_when fun _ ↦ ?_)) fun t released _ ↦ ?_
  · exact CapacityLedger.transfer_balanced (by decide) _
  · refine advances_bind (advances_forM fun p _ t _ ↦ balanced_freeReplaced) fun t _ _ ↦ ?_
    refine advances_lift_bind fun _ _ ↦ ?_
    refine advances_bind (advances_forM fun planned _ t _ ↦ ?_) fun t _ _ ↦ ?_
    · exact CapacityLedger.moveBetween_balanced _ _ _
    · exact advances_get_bind (advances_lift _ _)

lemma advances_replaceRecords {e : CommitEvidence} {attempt : PartitionAttempt}
    {plan : PartitionPlan} {ledger working : CapacityLedger} (hn : π.natives)
    (hactive : π.activates) (hretires : π.enters .retired) (hfloor : floor ≤ s.ids.next)
    (hledger : s.ledgers.find? attempt.accelerator = some ledger)
    (hworking : ledger.Balanced → working.Balanced) :
    Advances (Evolves π floor) (replaceRecords e attempt plan working) s := by
  refine advances_modify_bind_of (evolves_setLedger hledger hworking) fun hst ↦ ?_
  refine advances_bind_of (advances_forM fun p _ t _ ↦ 
    advances_modify (evolves_retireReplaced hretires)) fun u _ _ htu ↦ ?_
  refine advances_modify_bind_of evolves_dropAssignments_of fun huv ↦ ?_
  refine advances_recordReconfigured hn hactive ?_
  calc floor ≤ s.ids.next := hfloor
    _ ≤ _ := hst.ids
    _ ≤ _ := htu.ids
    _ ≤ _ := huv.ids

lemma advances_commitReconfiguration {e : CommitEvidence} {key : PartitionAttemptId}
    {attempt : PartitionAttempt} {plan : PartitionPlan} {ledger working : CapacityLedger}
    {detail : Text} {outcome : MutationOutcome} (hn : π.natives) (hactive : π.activates)
    (hretires : π.enters .retired) (hfloor : floor ≤ s.ids.next)
    (hledger : s.ledgers.find? attempt.accelerator = some ledger)
    (hworking : ledger.Balanced → working.Balanced)
    (hsettle : Resolves π attempt.reservation)
    (hflight : ∀ a, s.attempts.find? key = some a → a.state.inFlight = true) :
    Advances (Evolves π floor)
      (commitReconfiguration e key attempt plan working detail outcome) s := by
  refine advances_bind (advances_replaceRecords hn hactive hretires hfloor hledger hworking)
    fun t ids ht ↦ ?_
  refine advances_modify_bind
    (evolves_settleAttempt hsettle.answers rfl (inFlight_of_keeps keeps_replaceRecords ht hflight)) ?_
  refine advances_modify_bind (evolves_commitReservation hsettle) ?_
  exact advances_bind advances_bump fun _ _ _ ↦ advances_pure _ _

lemma advances_failAttempt {key : PartitionAttemptId} {detail : Text} {now : UInt64}
    {outcome : MutationOutcome} (hanswers : π.answers)
    (hflight : ∀ a, s.attempts.find? key = some a → a.state.inFlight = true) :
    Advances (Evolves π floor) (failAttempt key detail now outcome) s :=
  advances_modify_bind (evolves_settleAttempt hanswers rfl hflight) (advances_pure _ _)

lemma advances_settleReconfiguration {e : CommitEvidence} {key : PartitionAttemptId}
    {attempt : PartitionAttempt} {reservation : PartitionReservation} {detail : Text}
    {outcome : MutationOutcome} (hn : π.natives) (hactive : π.activates)
    (henters : ∀ a ∈ AttemptKind.reconfigureLayout.committed, π.enters a)
    (hfloor : floor ≤ s.ids.next) (hsettle : Resolves π attempt.reservation)
    (hflight : ∀ a, s.attempts.find? key = some a → a.state.inFlight = true) :
    Advances (Evolves π floor)
      (settleReconfiguration e key attempt reservation detail outcome) s := by
  refine advances_get_bind ?_
  cases hledger : s.findLedger attempt.accelerator with
  | none => exact advances_failAttempt hsettle.answers hflight
  | some ledger =>
      cases hplan : s.plans.find? reservation.plan with
      | none => exact advances_failAttempt hsettle.answers hflight
      | some plan =>
          simp only
          cases hreplace : replaceLayout s attempt reservation plan ledger with
          | mk working status =>
              cases status with
              | ok u =>
                  refine advances_commitReconfiguration hn hactive
                    (henters _ (by simp [AttemptKind.committed])) hfloor hledger (fun hl ↦ ?_)
                    hsettle hflight
                  have hb := balanced_replaceLayout s attempt reservation plan hl
                  rwa [hreplace] at hb
              | error err =>
                  refine advances_bind (advances_failAttempt hsettle.answers hflight)
                    fun _ _ _ ↦ ?_
                  refine advances_bind (advances_forM fun _ _ _ _ ↦ advances_ignore
                    (advances_transition (henters _ (by simp [AttemptKind.committed]))
                      (by decide))) fun _ _ _ ↦ ?_
                  exact advances_bind advances_bump fun _ _ _ ↦ advances_pure _ _

lemma advances_commitMutation {e : CommitEvidence} {key : PartitionAttemptId}
    {attempt : PartitionAttempt} {detail : Text} {outcome : MutationOutcome} (hn : π.natives)
    (hactive : π.activates) (henters : ∀ a ∈ attempt.kind.committed, π.enters a)
    (hsettle : Resolves π attempt.reservation)
    (hflight : ∀ a, s.attempts.find? key = some a → a.state.inFlight = true) :
    Advances (Evolves π floor) (commitMutation e key attempt detail outcome) s := by
  refine advances_bind (advances_commitPartitions hn hactive henters) fun t _ ht ↦ ?_
  refine advances_modify_bind
    (evolves_settleAttempt hsettle.answers rfl (inFlight_of_keeps keeps_commitPartitions ht hflight)) ?_
  refine advances_modify_bind (evolves_commitReservation hsettle) ?_
  exact advances_bind advances_bump fun _ _ _ ↦ advances_pure _ _

lemma evolves_fenceUnknown {key : PartitionReservationId} {reason : Text} {now : UInt64}
    (hs : Concludes π key) : Evolves π floor s (fenceUnknown key reason now s) := by
  refine evolves_modifyReservation fun r _ ↦ ?_
  split
  · exact ⟨rfl, .refl key r⟩
  · rename_i hlive
    exact ⟨rfl, .settle (hs.settles _ _ _) (by simpa using hlive) rfl rfl rfl rfl⟩

lemma advances_loseMutation {key : PartitionAttemptId} {attempt : PartitionAttempt}
    {detail : Text} {now : UInt64} {outcome : MutationOutcome}
    (hs : Concludes π attempt.reservation) (henters : π.enters .revalidationRequired)
    (hflight : ∀ a, s.attempts.find? key = some a → a.state.inFlight = true) :
    Advances (Evolves π floor) (loseMutation key attempt detail now outcome) s := by
  refine advances_modify_bind (evolves_settleAttempt hs.answers rfl hflight) ?_
  refine advances_modify_bind (evolves_fenceUnknown hs) ?_
  refine advances_bind (advances_forM fun _ _ _ _ ↦ advances_revalidateUnknown henters)
    fun _ _ _ ↦ ?_
  exact advances_bind advances_bump fun _ _ _ ↦ advances_pure _ _

lemma advances_reclaimCreation {attempt : PartitionAttempt} {now : UInt64}
    (hsettle : Resolves π attempt.reservation) (henters : π.enters .reserved) :
    Advances (Evolves π floor) (reclaimCreation attempt now) s :=
  advances_bind (advances_forM fun _ _ _ _ ↦
    advances_ignore (advances_transition henters (by decide)))
    fun _ _ _ ↦ advances_modify (evolves_modifyReservation fun _ _ ↦
      ⟨rfl, Or.inr ⟨rfl, rfl, rfl⟩, Or.inl hsettle.resettles,
        Or.inr (Or.inl (hsettle.settles _ _ _)), Or.inr rfl⟩)

/-- The states that a mutation without effect leads its partitions to. -/
def AttemptKind.failed : AttemptKind → List PartitionState
  | .createPartition => [.reserved]
  | .destroyPartition => [.revalidationRequired]
  | .reconfigureLayout => []

lemma advances_failMutation {key : PartitionAttemptId} {attempt : PartitionAttempt}
    {reservation : PartitionReservation} {detail : Text} {now : UInt64}
    {outcome : MutationOutcome}
    (hsettle : Resolves π attempt.reservation) (henters : ∀ a ∈ attempt.kind.failed, π.enters a)
    (hflight : ∀ a, s.attempts.find? key = some a → a.state.inFlight = true) :
    Advances (Evolves π floor) (failMutation key attempt reservation detail now outcome) s := by
  refine advances_modify_bind (evolves_settleAttempt hsettle.answers rfl hflight) ?_
  refine advances_modify_bind
    (evolves_settleReservation (fun _ _ ↦ hsettle.settles _ _ _) (Or.inl hsettle.resettles)) ?_
  refine advances_bind (advances_when fun hcreates ↦ advances_reclaimCreation hsettle ?_)
    fun _ _ _ ↦ ?_
  · have hkind : attempt.kind = .createPartition := by
      simp only [Bool.and_eq_true, decide_eq_true_eq] at hcreates
      exact hcreates.1
    exact henters _ (by simp [hkind, AttemptKind.failed])
  refine advances_bind (advances_when fun hdestroys ↦ advances_forM fun _ _ _ _ ↦
    advances_ignore (advances_transition ?_ (by decide))) fun _ _ _ ↦ ?_
  · exact henters _ (by simp [of_decide_eq_true hdestroys, AttemptKind.failed])
  · exact advances_bind advances_bump fun _ _ _ ↦ advances_pure _ _

/-- The states that the result of a mutation leads the partitions of its attempt to. -/
def resultStates (s : FabricState) (key : PartitionAttemptId)
    (mutation : Result BackendMutationResult) (observed : Option BackendLayout) :
    List PartitionState :=
  match s.findAttempt key with
  | none => []
  | some attempt =>
    match s.findReservation attempt.reservation with
    | none => []
    | some reservation =>
      let v := verifyMutation s attempt reservation (mutationReport mutation) observed
      if v.verified then attempt.kind.committed
      else if v.ambiguous then [.revalidationRequired]
      else attempt.kind.failed

lemma advances_applyMutationResultLocked {key : PartitionAttemptId}
    {mutation : Result BackendMutationResult} {observed : Option BackendLayout} {now : UInt64}
    (hn : π.natives) (hactive : π.activates) (hfloor : floor ≤ s.ids.next)
    (hsettle : ∀ a, s.findAttempt key = some a → Resolves π a.reservation)
    (henters : ∀ a ∈ resultStates s key mutation observed, π.enters a) :
    Advances (Evolves π floor) (applyMutationResultLocked key mutation observed now) s := by
  refine advances_get_bind ?_
  unfold resultStates at henters
  cases hattempt : s.findAttempt key with
  | none => exact advances_pure _ _
  | some attempt =>
      simp only [hattempt] at henters ⊢
      have hresolves := hsettle attempt hattempt
      cases hreservation : s.findReservation attempt.reservation with
      | none => exact advances_pure _ _
      | some reservation =>
          simp only [hreservation] at henters
          refine advances_ite (fun _ ↦ advances_pure _ _) fun hopen ↦ ?_
          refine advances_ite (fun _ ↦ advances_pure _ _) fun hunknown ↦ ?_
          have hflight : ∀ a, s.attempts.find? key = some a → a.state.inFlight = true := by
            intro a ha
            obtain rfl := Option.some.inj (hattempt.symm.trans ha)
            exact (lost_inFlight (by simpa using hopen)).resolve_left hunknown
          cases s.findAccelerator attempt.accelerator with
          | none => exact advances_failAttempt hresolves.answers hflight
          | some accelerator =>
              refine advances_get_bind (advances_ite (fun hverified ↦ ?_) fun hunverified ↦ ?_)
              · rw [if_pos hverified] at henters
                refine advances_ite (fun hkind ↦ ?_) fun _ ↦ ?_
                · exact advances_settleReconfiguration hn hactive (hkind ▸ henters) hfloor
                    hresolves hflight
                · exact advances_commitMutation hn hactive henters hresolves hflight
              · rw [if_neg hunverified] at henters
                refine advances_ite (fun hambiguous ↦ ?_) fun hclear ↦ ?_
                · rw [if_pos hambiguous] at henters
                  exact advances_loseMutation hresolves.toConcludes (henters _ (by simp)) hflight
                · rw [if_neg hclear] at henters
                  exact advances_failMutation hresolves henters hflight

lemma advances_markAttemptOutcomeUnknown {key : PartitionAttemptId} {reason : Text}
    {now : UInt64} (hs : ∀ a, s.findAttempt key = some a → Concludes π a.reservation)
    (henters : π.enters .revalidationRequired) :
    Advances (Evolves π floor) (markAttemptOutcomeUnknown key reason now) s := by
  refine advances_get_bind ?_
  cases hattempt : s.findAttempt key with
  | none => exact advances_throw _ _
  | some attempt =>
      have hanswers := hs attempt hattempt
      refine advances_when fun hopen ↦ ?_
      refine advances_modify_bind (evolves_modifyAttempt fun a ha ↦ ?_) ?_
      · obtain rfl := Option.some.inj (hattempt.symm.trans ha)
        exact .lose hanswers.answers (by simpa using hopen) rfl
      · refine advances_modify_bind (evolves_fenceUnknown hanswers) ?_
        exact advances_bind (advances_when fun _ ↦ advances_forM fun _ _ _ _ ↦
          advances_revalidateUnknown henters) fun _ _ _ ↦ advances_bump

lemma advances_registerAttempt {id : PartitionReservationId} {kind : AttemptKind}
    {worker : WorkerId} {boot : WorkerBootId} {now : UInt64} (hfloor : floor ≤ s.ids.next)
    (henters : ∀ a ∈ kind.begun, π.enters a)
    (hreg : ∀ reservation, s.findReservation id = some reservation →
      reservation.lifecycle = .active → ∀ a, IssuedFor reservation kind worker boot a →
      π.registers a) :
    Advances (Evolves π floor) (registerAttempt id kind worker boot now) s := by
  refine advances_get_bind ?_
  cases hfind : s.findReservation id with
  | none => exact advances_throw _ _
  | some reservation =>
      refine advances_require_bind fun hactive ↦ advances_registerAttemptLocked hfloor henters ?_
      exact hreg reservation hfind (by simpa using hactive)

lemma advances_stableKeyOf {id : AcceleratorId} :
    Advances (Evolves π floor) (stableKeyOf id) s := by
  unfold Advances stableKeyOf
  cases s.stableKeys.find? id with
  | none => exact .of_eq rfl rfl rfl rfl rfl rfl rfl rfl (fun _ ↦ .of_keeps rfl) (.of_keeps rfl)
  | some key => exact refl_of _ s

lemma advances_fenceAndThrow {α : Type} {id : PartitionReservationId} {reason : Text}
    {now : UInt64} {e : Error} (hs : π.Settles s id) (hretires : π.enters .retired) :
    Advances (Evolves π floor) (fenceAndThrow id reason now e : FabricM α) s :=
  advances_bind (advances_ignore (advances_fenceReservationLocked hs hretires)) fun _ _ _ ↦
    advances_throw _ _

lemma advances_dispatchCreation {id : PartitionReservationId} {reservation : PartitionReservation}
    {plan : PartitionPlan} {accelerator : AcceleratorRecord} {now : UInt64}
    (hfloor : floor ≤ s.ids.next) (hcreates : π.enters .creating)
    (hreg : ∀ a, IssuedFor reservation .createPartition 0 0 a → π.registers a) :
    Advances (Evolves π floor) (dispatchCreation id reservation plan accelerator now) s := by
  refine advances_bind (advances_registerAttemptLocked hfloor (by simpa [AttemptKind.begun])
    hreg) fun _ _ _ ↦ ?_
  refine advances_bind advances_stableKeyOf fun _ _ _ ↦ advances_get_bind ?_
  exact advances_pure _ _

/-- The device and the policy still stand as a reservation was made, and it has not expired. -/
def PartitionReservation.standsOn (s : FabricState) (reservation : PartitionReservation)
    (now : UInt64) : Bool :=
  ((s.findAccelerator reservation.accelerator).all fun a ↦
    a.generation = reservation.acceleratorGeneration && a.bootId = reservation.acceleratorBoot &&
      a.capability.generation = reservation.capabilityGeneration) &&
    s.policyGeneration = reservation.policyGeneration &&
    !(reservation.expiresAtMs ≠ 0 && now > reservation.expiresAtMs)

lemma advances_executeBound {id : PartitionReservationId} {reservation : PartitionReservation}
    {plan : PartitionPlan} {now : UInt64} (hfloor : floor ≤ s.ids.next)
    (hs : reservation.standsOn s now = false → π.Settles s id) (hretires : π.enters .retired)
    (hcreates : π.enters .creating)
    (hreg : reservation.standsOn s now = true →
      ∀ a, IssuedFor reservation .createPartition 0 0 a → π.registers a) :
    Advances (Evolves π floor) (executeBound id reservation plan now) s := by
  refine advances_get_bind ?_
  unfold PartitionReservation.standsOn at hs hreg
  cases hfind : s.findAccelerator reservation.accelerator with
  | none => exact advances_throw _ _
  | some accelerator =>
      simp only [hfind, Option.all_some] at hs hreg
      refine advances_ite (fun hreset ↦ advances_fenceAndThrow (hs ?_) hretires) fun hkept ↦ ?_
      · grind
      refine advances_ite (fun hrenewed ↦ advances_fenceAndThrow (hs ?_) hretires) fun hsame ↦ ?_
      · grind
      refine advances_ite (fun hpolicy ↦ advances_fenceAndThrow (hs ?_) hretires) fun hruled ↦ ?_
      · grind
      refine advances_ite (fun hexpired ↦ ?_) fun hvalid ↦ ?_
      · refine advances_bind (advances_ignore
          (advances_releaseReservationLocked (hs (by grind)) hretires)) fun _ _ _ ↦ ?_
        exact advances_throw _ _
      · exact advances_require_bind fun _ ↦
          advances_dispatchCreation hfloor hcreates (hreg (by grind))

/-- The creation under a reservation passes the checks that settle the reservation otherwise. -/
def dispatchable (s : FabricState) (id : PartitionReservationId) (now : UInt64) : Bool :=
  (s.findReservation id).all fun reservation ↦
    ((s.plans.find? reservation.plan).all fun plan ↦
      (validatePlanBinding s plan now s.policy.requireFreshEvidence).isOk) &&
      reservation.standsOn s now

lemma advances_execute {id : PartitionReservationId} {now : UInt64}
    (hfloor : floor ≤ s.ids.next) (hs : dispatchable s id now = false → π.Settles s id)
    (hretires : π.enters .retired) (hcreates : π.enters .creating)
    (hreg : ∀ reservation, s.findReservation id = some reservation →
      reservation.lifecycle = .active → reservation.standsOn s now = true →
      ∀ a, IssuedFor reservation .createPartition 0 0 a → π.registers a) :
    Advances (Evolves π floor) (execute id now) s := by
  refine advances_bind_of advances_checkOpen fun t _ hopen hst ↦ advances_get_bind ?_
  obtain rfl : s = t := (Prod.mk.inj hopen).1
  unfold dispatchable at hs
  cases hfound : s.findReservation id with
  | none => exact advances_throw _ _
  | some reservation =>
      refine advances_require_bind fun hactive ↦ advances_require_bind fun _ ↦ ?_
      simp only [hfound, Option.all_some] at hs
      cases hplan : s.plans.find? reservation.plan with
      | none => exact advances_throw _ _
      | some plan =>
          simp only [hplan, Option.all_some] at hs ⊢
          cases hbinding : validatePlanBinding s plan now s.policy.requireFreshEvidence with
          | error e =>
              rw [hbinding] at hs
              exact advances_modify_bind evolves_terminatePlan
                (advances_fenceAndThrow (hs rfl) hretires)
          | ok u =>
              rw [hbinding] at hs
              have hlive : reservation.lifecycle = .active := by simpa using hactive
              exact advances_executeBound hfloor (fun hstands ↦ hs (by rw [hstands]; rfl)) hretires
                hcreates (hreg reservation hfound hlive)

lemma advances_holdCapacity {id : AcceleratorId} {hold : ResourceVector}
    {plan : PartitionPlanId} (hfloor : floor ≤ plan) :
    Advances (Evolves π floor) (holdCapacity id hold plan) s := by
  refine advances_when fun _ ↦ ?_
  refine advances_bind (advances_attempt (advances_onLedger fun _ ↦ reserve_balanced hold))
    fun t status _ ↦ ?_
  cases status with
  | ok u => exact advances_pure _ _
  | error e => exact advances_modify_bind (evolves_erasePlan hfloor) (advances_throw _ _)

/-- A scope allows the plan of a destructive mutation. -/
def Scope.AllowsDestructive (π : Scope) (s : FabricState) (accelerator : AcceleratorRecord)
    (affected : List PartitionRecord) (now : UInt64) : Prop :=
  ∀ ids planId, π.plans (destructivePlan { s with ids := ids } accelerator affected planId now)

lemma advances_createDestructiveReservationLocked {accelerator : AcceleratorRecord}
    {affected : List PartitionRecord} {hold : ResourceVector} {now : UInt64}
    (hreserves : π.reserves) (hfloor : floor ≤ s.ids.next)
    (hplan : π.AllowsDestructive s accelerator affected now) :
    Advances (Evolves π floor)
      (createDestructiveReservationLocked accelerator affected hold now) s := by
  refine advances_bind_of advances_allocateId fun t planId hplanId hst ↦ ?_
  refine advances_bind advances_allocateId fun u id hid ↦ advances_get_bind ?_
  obtain ⟨hnew, hplanned, ids, rfl⟩ := allocateId_eq_ok hplanId
  obtain ⟨rfl, hlt, ids', rfl⟩ := allocateId_eq_ok hid
  have hle : floor ≤ planId := hnew ▸ hfloor
  -- a destructive plan is never reserved as a creation
  refine advances_modify_bind (evolves_insertPlan (fun _ _ hne ↦ absurd rfl hne) hle
    rfl (hplanned.trans hlt) (hplan ids' planId)) ?_
  refine advances_require_bind fun _ ↦ ?_
  refine advances_bind_of (advances_holdCapacity hle) fun v _ _ huv ↦ ?_
  refine advances_modify_bind (evolves_insertReservation (hfloor.trans hst.ids) rfl
    (lt_of_lt_of_le hlt huv.ids) hreserves (Or.inr ⟨huv.tenure.epoch.imp_right Eq.symm, rfl, rfl⟩)) ?_
  exact advances_bind advances_bump fun _ _ _ ↦ advances_pure _ _

/-- A scope allows the destruction of the partition under a key. -/
def Scope.AllowsDestruction (π : Scope) (s : FabricState) (p : PartitionId) (now : UInt64) : Prop :=
  ∀ record accelerator, s.findPartition p = some record →
    s.findAccelerator record.accelerator = some accelerator →
    π.AllowsDestructive s accelerator [record] now

/-- The device of a partition has another generation than the partition was recorded under. -/
def outlived (s : FabricState) (p : PartitionId) : Bool :=
  (s.findPartition p).any fun record ↦ (s.findAccelerator record.accelerator).any fun a ↦
    a.generation ≠ record.acceleratorGeneration

lemma advances_reserveDestruction {p : PartitionId} {now : UInt64} {stale : Text}
    (hreserves : π.reserves) (hfloor : floor ≤ s.ids.next) (hplan : π.AllowsDestruction s p now)
    (henters : outlived s p = true → π.enters .revalidationRequired) :
    Advances (Evolves π floor) (reserveDestruction p now stale) s := by
  refine advances_bind advances_checkOpen fun t _ hopen ↦ advances_get_bind ?_
  obtain rfl : s = t := (Prod.mk.inj hopen).1
  cases hrecord : s.findPartition p with
  | none => exact advances_throw _ _
  | some record =>
      refine advances_require_bind fun _ ↦ advances_require_bind fun _ ↦ ?_
      refine advances_require_bind fun _ ↦ ?_
      cases haccelerator : s.findAccelerator record.accelerator with
      | none => exact advances_throw _ _
      | some accelerator =>
          refine advances_ite (fun houtlived ↦ ?_) fun _ ↦ ?_
          · refine advances_bind (advances_ignore (advances_transition (henters ?_) (by decide)))
              fun _ _ _ ↦ advances_throw _ _
            simpa [outlived, hrecord, haccelerator] using houtlived
          · exact advances_bind (advances_createDestructiveReservationLocked hreserves hfloor
              (hplan record accelerator hrecord haccelerator)) fun _ _ _ ↦ advances_pure _ _

/-- A reservation lists some partitions under the current epoch and is bound to no worker. -/
structure ReservedUnbound (s : FabricState) (partitions : List PartitionId)
    (reservation : PartitionReservation) : Prop where
  partitions : reservation.partitions = partitions
  coordinatorEpoch : reservation.coordinatorEpoch = s.coordinatorEpoch
  worker : reservation.worker = 0

/-- An attempt on some partitions is issued under the current epoch and to no worker. -/
structure IssuedUnbound (s : FabricState) (kind : AttemptKind) (partitions : List PartitionId)
    (a : PartitionAttempt) : Prop where
  kind : a.kind = kind
  partitions : a.partitions = partitions
  coordinatorEpoch : a.coordinatorEpoch = s.coordinatorEpoch
  worker : a.worker = 0

lemma ReservedUnbound.issued {partitions : List PartitionId} {reservation : PartitionReservation}
    {kind : AttemptKind} {a : PartitionAttempt} (h : ReservedUnbound s partitions reservation)
    (ha : IssuedFor reservation kind 0 0 a) : IssuedUnbound s kind partitions a :=
  ⟨ha.kind, ha.partitions.trans h.partitions, ha.coordinatorEpoch.trans h.coordinatorEpoch,
    ha.worker.trans h.worker⟩

/-- A destructive reservation lists the partitions it affects. -/
lemma createDestructiveReservationLocked_unbound {accelerator : AcceleratorRecord}
    {affected : List PartitionRecord} {hold : ResourceVector} {now : UInt64} :
    Ensures (fun r _ ↦ ReservedUnbound s (affected.map PartitionRecord.id) r)
      (createDestructiveReservationLocked accelerator affected hold now) s := by
  refine ensures_bind fun t planId hplanId ↦ ensures_bind fun u id hid ↦ ensures_get_bind ?_
  obtain ⟨-, -, ids, rfl⟩ := allocateId_eq_ok hplanId
  obtain ⟨-, -, ids', rfl⟩ := allocateId_eq_ok hid
  refine ensures_modify_bind (ensures_bind fun v _ _ ↦ ensures_bind fun w _ _ ↦ ?_)
  exact ensures_modify_bind (ensures_modify_bind (ensures_pure ⟨rfl, rfl, rfl⟩))

/-- A destruction is reserved for a partition that nothing occupies. -/
lemma reserveDestruction_safe {p : PartitionId} {now : UInt64} {stale : Text} :
    Ensures (fun entry _ ↦ s.findPartition p = some entry.2.1 ∧
        destructionSafe s entry.2.1 = true ∧ ReservedUnbound s [entry.2.1.id] entry.2.2)
      (reserveDestruction p now stale) s := by
  refine ensures_bind fun t _ hopen ↦ ensures_get_bind ?_
  obtain rfl : s = t := by
    have h : (checkOpen s).1 = t := by rw [hopen]
    exact h
  cases hrecord : s.findPartition p with
  | none => exact ensures_throw _ _
  | some record =>
      refine ensures_bind fun t _ ht ↦ ensures_bind fun u _ hu ↦ ensures_bind fun v _ hv ↦ ?_
      obtain ⟨rfl, -⟩ := require_eq_ok ht
      obtain ⟨rfl, -⟩ := require_eq_ok hu
      obtain ⟨rfl, hsafe⟩ := require_eq_ok hv
      cases s.findAccelerator record.accelerator with
      | none => exact ensures_throw _ _
      | some accelerator =>
          simp only
          split
          · exact ensures_bind fun _ _ _ ↦ ensures_throw _ _
          · refine ensures_bind fun w reservation hr ↦ ensures_pure ⟨rfl, hsafe, ?_⟩
            exact createDestructiveReservationLocked_unbound w reservation hr

/-- The states that a destruction of a partition leads it to. -/
def destructionStates (s : FabricState) (p : PartitionId) : List PartitionState :=
  if outlived s p then [.revalidationRequired] else [.destroying]

/-- A destruction that was reserved is one of a partition that its device has not outlived. -/
lemma reserveDestruction_current {p : PartitionId} {now : UInt64} {stale : Text} :
    Ensures (fun _ _ ↦ outlived s p = false) (reserveDestruction p now stale) s := by
  refine ensures_bind fun t _ hopen ↦ ensures_get_bind ?_
  obtain rfl : s = t := (Prod.mk.inj hopen).1
  unfold outlived
  cases hrecord : s.findPartition p with
  | none => exact ensures_throw _ _
  | some record =>
      refine ensures_bind fun t _ ht ↦ ensures_bind fun u _ hu ↦ ensures_bind fun v _ hv ↦ ?_
      obtain ⟨rfl, -⟩ := require_eq_ok ht
      obtain ⟨rfl, -⟩ := require_eq_ok hu
      obtain ⟨rfl, -⟩ := require_eq_ok hv
      cases haccelerator : s.findAccelerator record.accelerator with
      | none => exact ensures_throw _ _
      | some accelerator =>
          simp only [Option.any_some, haccelerator]
          split
          · exact ensures_bind fun _ _ _ ↦ ensures_throw _ _
          · rename_i hcurrent
            exact ensures_bind fun _ _ _ ↦ ensures_pure (decide_eq_false hcurrent)

lemma advances_destroyPartition {p : PartitionId} {now : UInt64} (hreserves : π.reserves)
    (hfloor : floor ≤ s.ids.next) (hplan : π.AllowsDestruction s p now)
    (henters : ∀ a ∈ destructionStates s p, π.enters a)
    (hreg : ∀ record, s.findPartition p = some record → destructionSafe s record = true →
      ∀ a, IssuedUnbound s .destroyPartition [record.id] a → π.registers a) :
    Advances (Evolves π floor) (destroyPartition p now) s := by
  unfold destructionStates at henters
  refine advances_bind_of (advances_reserveDestruction hreserves hfloor hplan
    fun houtlived ↦ henters _ (by rw [if_pos houtlived]; simp)) fun t entry hentry hst ↦ ?_
  have hcurrent := reserveDestruction_current t entry hentry
  rw [hcurrent] at henters
  obtain ⟨hrecord, hsafe, hunbound⟩ := reserveDestruction_safe t entry hentry
  obtain ⟨accelerator, record, reservation⟩ := entry
  refine advances_bind (advances_registerAttemptLocked (hfloor.trans hst.ids)
    (by simpa [AttemptKind.begun] using henters) fun a ha ↦
      hreg record hrecord hsafe a (hunbound.issued ha)) fun _ _ _ ↦ ?_
  refine advances_bind advances_stableKeyOf fun _ _ _ ↦ advances_get_bind ?_
  exact advances_pure _ _

lemma advances_createDestructionReservation {p : PartitionId} {now : UInt64}
    (hreserves : π.reserves) (hfloor : floor ≤ s.ids.next) (hplan : π.AllowsDestruction s p now)
    (henters : π.enters .revalidationRequired) :
    Advances (Evolves π floor) (createDestructionReservation p now) s :=
  advances_bind (advances_reserveDestruction hreserves hfloor hplan fun _ ↦ henters)
    fun _ _ _ ↦ advances_pure _ _

/-- A destructive reservation is stored as it is returned. -/
lemma createDestructiveReservationLocked_stored {accelerator : AcceleratorRecord}
    {affected : List PartitionRecord} {hold : ResourceVector} {now : UInt64} :
    Ensures (fun r t ↦ t.reservations.find? r.id = some r)
      (createDestructiveReservationLocked accelerator affected hold now) s := by
  refine ensures_bind fun t planId _ ↦ ensures_bind fun u id _ ↦ ensures_get_bind ?_
  refine ensures_modify_bind (ensures_bind fun v _ _ ↦ ensures_bind fun w _ _ ↦ ?_)
  refine ensures_modify_bind (ensures_modify_bind (ensures_pure ?_))
  rw [bump_reservations]
  exact KeyedMap.find?_insert_self _ _ _

/-- A destructive reservation stands under an identity that it was handed out. -/
lemma createDestructiveReservationLocked_numbered {accelerator : AcceleratorRecord}
    {affected : List PartitionRecord} {hold : ResourceVector} {now : UInt64} :
    Ensures (fun r _ ↦ s.ids.next ≤ r.id)
      (createDestructiveReservationLocked accelerator affected hold now) s := by
  refine ensures_bind fun t planId hplanId ↦ ensures_bind fun u id hid ↦ ensures_get_bind ?_
  obtain ⟨rfl, hplanned, ids, rfl⟩ := allocateId_eq_ok hplanId
  obtain ⟨rfl, -, ids', rfl⟩ := allocateId_eq_ok hid
  refine ensures_modify_bind (ensures_bind fun v _ _ ↦ ensures_bind fun w _ _ ↦ ?_)
  exact ensures_modify_bind (ensures_modify_bind (ensures_pure (le_of_lt hplanned)))

lemma advances_dispatchReconfiguration {planId : PartitionPlanId} {plan : PartitionPlan}
    {accelerator : AcceleratorRecord} {affected : List PartitionRecord} {hold : ResourceVector}
    {now : UInt64} (hreserves : π.reserves) (hfloor : floor ≤ s.ids.next)
    (hplan : π.AllowsDestructive s accelerator affected now)
    (henters : π.enters .reconfigurationRequired)
    (hreg : ∀ a, IssuedUnbound s .reconfigureLayout (affected.map PartitionRecord.id) a →
      π.registers a) :
    Advances (Evolves π floor)
      (dispatchReconfiguration planId plan accelerator affected hold now) s := by
  refine advances_bind_of (advances_createDestructiveReservationLocked hreserves hfloor hplan)
    fun t reservation hr hst ↦ ?_
  have hnew := createDestructiveReservationLocked_numbered t reservation hr
  have hstored := createDestructiveReservationLocked_stored t reservation hr
  have hunbound := createDestructiveReservationLocked_unbound t reservation hr
  refine advances_modify_bind_of (evolves_modifyReservation fun r hk ↦ ?_) fun htu ↦ ?_
  · obtain rfl := Option.some.inj (hstored.symm.trans hk)
    exact ⟨rfl, Or.inr ⟨rfl, rfl, rfl⟩, Or.inr (Or.inr rfl), Or.inr (Or.inr rfl),
      Or.inl (hfloor.trans hnew)⟩
  · refine advances_bind_of (advances_forM fun _ _ _ _ ↦ advances_transition henters (by decide))
      fun v _ _ huv ↦ ?_
    refine advances_bind (advances_registerAttemptLocked ?_ (by simp [AttemptKind.begun])
      fun a ha ↦ hreg a (hunbound.issued ⟨ha.kind, ha.partitions, ha.coordinatorEpoch, ha.worker,
        ha.workerBoot, ha.identity, ha.device⟩)) fun _ _ _ ↦ ?_
    · exact ((hfloor.trans hst.ids).trans htu.ids).trans huv.ids
    · refine advances_bind advances_stableKeyOf fun _ _ _ ↦ advances_get_bind ?_
      exact advances_modify_bind evolves_terminatePlan (advances_pure _ _)

lemma advances_executeReconfiguration {planId : PartitionPlanId} {now : UInt64}
    (hreserves : π.reserves) (hfloor : floor ≤ s.ids.next)
    (hplan : ∀ plan accelerator affected, s.plans.find? planId = some plan →
      s.findAccelerator plan.binding.accelerator = some accelerator →
      replacedBy s accelerator.id = .ok affected →
      π.AllowsDestructive s accelerator affected now)
    (henters : π.enters .reconfigurationRequired)
    (hreg : ∀ id affected, replacedBy s id = .ok affected →
      ∀ a, IssuedUnbound s .reconfigureLayout (affected.map PartitionRecord.id) a →
        π.registers a) :
    Advances (Evolves π floor) (executeReconfiguration planId now) s := by
  refine advances_bind_of advances_checkOpen fun t _ hopen hst ↦ advances_get_bind ?_
  obtain rfl : s = t := by
    have h : (checkOpen s).1 = t := by rw [hopen]
    exact h
  cases hfound : s.plans.find? planId with
  | none => exact advances_throw _ _
  | some plan =>
      refine advances_require_bind fun _ ↦ ?_
      cases validatePlanBinding s plan now s.policy.requireFreshEvidence with
      | error e => exact advances_modify_bind evolves_terminatePlan (advances_throw _ _)
      | ok u =>
          simp only
          cases haccelerator : s.findAccelerator plan.binding.accelerator with
          | none => exact advances_throw _ _
          | some accelerator =>
              refine advances_require_bind fun _ ↦ advances_lift_bind fun _ haffected ↦ ?_
              refine advances_lift_bind fun _ _ ↦ advances_lift_bind fun _ _ ↦ ?_
              refine advances_lift_bind fun _ _ ↦ ?_
              exact advances_dispatchReconfiguration hreserves (hfloor.trans hst.ids)
                (hplan _ _ _ hfound haccelerator haffected) henters (hreg _ _ haffected)

end PartitionFabric
