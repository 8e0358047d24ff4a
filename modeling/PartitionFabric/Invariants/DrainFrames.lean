import PartitionFabric.Invariants.ReconcileValidity
import PartitionFabric.Invariants.LayoutReplacement
import PartitionFabric.Invariants.Restart

/-!
What operations that are not about occupancy leave of a partition that drains: its progress and its
assignments, unless they take it out of its drain. None of them starts a drain.
-/

namespace PartitionFabric

open Procedure

variable {s t : FabricState} {now : UInt64}

/-- Partitions and assignments stand under their own identities. -/
structure Catalogued (s : FabricState) : Prop where
  partitions : ∀ k r, s.partitions.find? k = some r → r.id = k
  assignments : ∀ k a, s.assignments.find? k = some a → a.id = k

/-- A drain goes on: it was in progress with the same counts, over the same assignments. -/
def DrainsOn (s t : FabricState) (p : PartitionId) (r' : PartitionRecord) : Prop :=
  (∃ r, s.partitions.find? p = some r ∧ r.state = .draining ∧ r'.drain = r.drain) ∧
    ∀ k a, a.partition = p → (t.assignments.find? k = some a ↔ s.assignments.find? k = some a)

/-- A step starts no drain, and disturbs none that it does not end. -/
structure LeavesDrains (s t : FabricState) : Prop where
  catalogued : Catalogued s → Catalogued t
  draining : Catalogued s → ∀ p r', t.partitions.find? p = some r' → r'.state = .draining →
    DrainsOn s t p r'

section Steps

lemma LeavesDrains.of_records (hassignments : t.assignments = s.assignments)
    (h : ∀ p r', t.partitions.find? p = some r' → (∃ r, s.partitions.find? p = some r ∧
      r'.id = r.id ∧ (r'.state = .draining → r.state = .draining ∧ r'.drain = r.drain)) ∨
        r'.id = p ∧ r'.state ≠ .draining) : LeavesDrains s t := by
  refine ⟨fun hs ↦ ⟨fun p r' hr' ↦ ?_, ?_⟩, fun _ p r' hr' hdraining ↦ ⟨?_, fun k a _ ↦ ?_⟩⟩
  · rcases h p r' hr' with ⟨r, hr, hid, -⟩ | ⟨hid, -⟩
    · exact hid.trans (hs.partitions p r hr)
    · exact hid
  · rw [hassignments]
    exact hs.assignments
  · rcases h p r' hr' with ⟨r, hr, -, hkept⟩ | ⟨-, hnot⟩
    · exact ⟨r, hr, hkept hdraining⟩
    · exact absurd hdraining hnot
  · rw [hassignments]

instance : Apart LeavesDrains where
  refl s := .of_records rfl fun p r hr ↦ .inl ⟨r, hr, rfl, fun h ↦ ⟨h, rfl⟩⟩
  trans s t u h h' := by
    refine ⟨h'.catalogued ∘ h.catalogued, fun hs p r'' hr'' hdraining ↦ ?_⟩
    obtain ⟨⟨r', hr', hdraining', hdrain'⟩, hsame'⟩ :=
      h'.draining (h.catalogued hs) p r'' hr'' hdraining
    obtain ⟨⟨r, hr, hstate, hdrain⟩, hsame⟩ := h.draining hs p r' hr' hdraining'
    exact ⟨⟨r, hr, hstate, hdrain'.trans hdrain⟩, fun k a ha ↦
      (hsame' k a ha).trans (hsame k a ha)⟩
  apart hpartitions hassignments _ := .of_records hassignments fun p r hr ↦
    .inl ⟨r, hpartitions ▸ hr, rfl, fun h ↦ ⟨h, rfl⟩⟩

/-- A rewrite of one record that starts no drain and changes none. -/
lemma leaves_modifyPartition {key : PartitionId} {f : PartitionRecord → PartitionRecord}
    (h : ∀ r, s.partitions.find? key = some r → (f r).id = r.id ∧
      ((f r).state = .draining → r.state = .draining ∧ (f r).drain = r.drain)) :
    LeavesDrains s (s.modifyPartition key f) := by
  refine .of_records rfl fun p r' hr' ↦ .inl ?_
  rw [FabricState.modifyPartition, KeyedMap.find?_modify] at hr'
  split at hr'
  · rename_i hp
    subst hp
    obtain ⟨r, hr, rfl⟩ := Option.map_eq_some_iff.mp hr'
    exact ⟨r, hr, h r hr⟩
  · exact ⟨r', hr', rfl, fun h ↦ ⟨h, rfl⟩⟩

lemma leaves_insertPartition {key : PartitionId} {r : PartitionRecord} (hid : r.id = key)
    (hstate : r.state ≠ .draining) :
    LeavesDrains s { s with partitions := s.partitions.insert key r } := by
  refine .of_records rfl fun p r' hr' ↦ ?_
  rw [KeyedMap.find?_insert] at hr'
  split at hr'
  · rename_i hp
    obtain rfl := Option.some.inj hr'
    exact .inr ⟨hid.trans hp.symm, hstate⟩
  · exact .inl ⟨r', hr', rfl, fun h ↦ ⟨h, rfl⟩⟩

lemma leaves_erasePartition {key : PartitionId} :
    LeavesDrains s { s with partitions := s.partitions.erase key } := by
  refine .of_records rfl fun p r' hr' ↦ .inl ?_
  rw [KeyedMap.find?_erase] at hr'
  split at hr'
  · cases hr'
  · exact ⟨r', hr', rfl, fun h ↦ ⟨h, rfl⟩⟩

/-- A transition to another state starts no drain. -/
lemma leaves_transition {key : PartitionId} {target : PartitionState} {reason : Text}
    (htarget : target ≠ .draining) :
    Advances LeavesDrains (transitionPartition now key target reason) s := by
  unfold Advances
  rcases transitionPartition_cases now key target reason s with
    h | ⟨r, l, l', held, hr, -, -, -, -, h⟩
  · rw [h]
    exact refl_of _ s
  · rw [h]
    refine .of_records rfl fun p r' hr' ↦ .inl ?_
    change (s.partitions.insert key _).find? p = some r' at hr'
    rw [KeyedMap.find?_insert] at hr'
    split at hr'
    · rename_i hp
      obtain rfl := Option.some.inj hr'
      exact ⟨r, hp ▸ hr, rfl, fun h ↦ absurd h htarget⟩
    · exact ⟨r', hr', rfl, fun h ↦ ⟨h, rfl⟩⟩

/-- Assignments may be dropped with partitions that are not draining. -/
lemma leaves_dropAssignments {test : PartitionId → Bool}
    (h : Catalogued s → ∀ p r, s.partitions.find? p = some r → test p = true →
      r.state ≠ .draining) : LeavesDrains s (dropAssignments test s) := by
  have hpartitions : (dropAssignments test s).partitions = s.partitions :=
    untouched_dropAssignments.partitions
  refine ⟨fun hs ↦ ⟨?_, fun k a ha ↦ ?_⟩, fun hs p r hr hdraining ↦ ?_⟩
  · rw [hpartitions]
    exact hs.partitions
  · rw [find_dropAssignments] at ha
    split at ha
    · cases ha
    · exact hs.assignments k a ha
  · rw [hpartitions] at hr
    refine ⟨⟨r, hr, hdraining, rfl⟩, fun k a ha ↦ ?_⟩
    rw [find_dropAssignments]
    split
    · rename_i hdropped
      obtain ⟨b, hb, hid⟩ := List.mem_map.mp hdropped
      obtain ⟨hstored, htest⟩ := List.mem_filter.mp hb
      obtain ⟨j, hj⟩ := KeyedMap.mem_values.mp hstored
      obtain rfl : j = k := (hs.assignments j b hj).symm.trans hid
      refine iff_of_false (by simp) fun hsame ↦ ?_
      obtain rfl := Option.some.inj (hj.symm.trans hsame)
      exact h hs p r hr (ha ▸ htest) hdraining
    · exact Iff.rfl

lemma leaves_bump : LeavesDrains s s.bumpStateGeneration := apart_bump

/-- A step that writes neither records nor assignments. -/
lemma leaves_of_same (hpartitions : t.partitions = s.partitions)
    (hassignments : t.assignments = s.assignments) : LeavesDrains s t :=
  .of_records hassignments fun _ r hr ↦ .inl ⟨r, hpartitions ▸ hr, rfl, fun h ↦ ⟨h, rfl⟩⟩

lemma leaves_revalidateUnknown {p : PartitionId} {reason : Text} :
    Advances LeavesDrains (revalidateUnknown now reason p) s :=
  advances_get_bind (advances_when fun _ ↦ advances_ignore (leaves_transition (by decide)))

lemma leaves_stamp {key : PartitionId} {accelerator : AcceleratorRecord}
    {provenance : EvidenceProvenance} {source : Text} :
    LeavesDrains s (stampPartitionEvidence now key accelerator provenance source s) := by
  unfold stampPartitionEvidence
  cases next s.evidenceGeneration with
  | error e => exact leaves_modifyPartition fun r _ ↦ ⟨rfl, fun h ↦ ⟨h, rfl⟩⟩
  | ok g =>
    have hone : LeavesDrains s { s with evidenceGeneration := g } := leaves_of_same rfl rfl
    apply trans_of LeavesDrains hone
    apply leaves_modifyPartition
    exact fun r _ ↦ ⟨rfl, fun h ↦ ⟨h, rfl⟩⟩

lemma leaves_bindFound {p : PartitionId} {backend : Text}
    {found : Option (BackendLayout × BackendNativePartition)} :
    LeavesDrains s (bindFound p backend found s) := by
  unfold bindFound
  cases found with
  | none => exact refl_of _ s
  | some pair => exact leaves_modifyPartition fun r _ ↦ ⟨rfl, fun h ↦ ⟨h, rfl⟩⟩

end Steps

section Devices

variable {id : AcceleratorId}

lemma leaves_publishCapabilityLocked {capability : PartitionCapability} {force : Bool} :
    Advances LeavesDrains (publishCapabilityLocked id capability now force) s := by
  apply advances_get_bind
  cases s.findAccelerator id with
  | none => exact advances_throw _ _
  | some record =>
    refine advances_require_bind fun _ ↦ advances_lift_bind fun _ _ ↦ advances_ite (fun _ ↦ ?_)
      fun _ ↦ advances_lift_bind fun g _ ↦ ?_
    · exact advances_pure _ _
    · refine advances_modify_bind (leaves_of_same rfl rfl) ?_
      refine advances_bind (advances_forM fun key _ t _ ↦ apart_fenceOutdated) fun t _ _ ↦ ?_
      refine advances_bind (advances_forM fun key _ u _ ↦ ?_) fun u _ _ ↦
        advances_modify_bind leaves_bump (advances_pure _ _)
      apply advances_get_bind
      cases u.findPartition key with
      | none => exact advances_pure _ _
      | some partition =>
        exact advances_when fun _ ↦ advances_ignore (leaves_transition (by decide))

lemma leaves_registerAccelerator {record : AcceleratorRecord} :
    Advances LeavesDrains (registerAccelerator record now) s := by
  refine advances_bind apart_checkOpen fun t _ _ ↦ advances_get_bind ?_
  refine advances_lift_bind fun _ _ ↦ advances_require_bind fun _ ↦ advances_require_bind fun _ ↦ ?_
  refine advances_modify_bind (leaves_of_same rfl rfl) ?_
  apply advances_bind
  · apply apart_establishLedger
    intro t
    split
    · exact leaves_of_same rfl rfl
    · exact refl_of _ t
  · intro t _ _
    refine advances_bind (advances_when fun _ ↦ ?_) fun t _ _ ↦ advances_modify leaves_bump
    exact advances_bind leaves_publishCapabilityLocked fun _ _ _ ↦ advances_pure _ _

lemma leaves_registerBackendAccelerator {accelerator : BackendAccelerator} :
    Advances LeavesDrains (registerBackendAccelerator accelerator now) s := by
  refine advances_bind apart_checkOpen fun t _ _ ↦ advances_get_bind ?_
  refine advances_lift_bind fun _ _ ↦ advances_bind apart_identifyAccelerator fun u p _ ↦ ?_
  obtain ⟨id, existing⟩ := p
  refine advances_bind (advances_when fun _ ↦ advances_modify apart_touchAccelerator) fun v _ _ ↦ ?_
  refine advances_get_bind (advances_lift_bind fun _ _ ↦ advances_lift_bind fun _ _ ↦ ?_)
  refine advances_bind (advances_forM fun _ _ _ _ ↦ apart_registerBackendProfile) fun w _ _ ↦ ?_
  refine advances_modify_bind (leaves_of_same rfl rfl) ?_
  refine advances_bind (apart_establishLedger fun _ ↦ apart_undoRegistration) fun w _ _ ↦ ?_
  refine advances_bind leaves_publishCapabilityLocked fun w _ _ ↦ ?_
  refine advances_bind (advances_when fun _ ↦ advances_get_bind ?_) fun w _ _ ↦
    advances_modify_bind leaves_bump (advances_pure _ _)
  refine advances_bind (advances_forM fun key _ t _ ↦ ?_) fun t _ _ ↦
    advances_forM fun key _ t _ ↦ advances_modify (leaves_of_same rfl rfl)
  apply advances_get_bind
  cases t.findPartition key with
  | none => exact advances_pure _ _
  | some partition =>
    exact advances_when fun _ ↦ advances_ignore (leaves_transition (by decide))

end Devices

section Reservations

variable {id : PartitionReservationId} {reason : Text}

/-- A retired record does not drain. -/
lemma retire_state (record : PartitionRecord) (now : UInt64) (reason : Text) :
    (record.retire now reason).id = record.id ∧
      ((record.retire now reason).state = .draining →
        record.state = .draining ∧ (record.retire now reason).drain = record.drain) :=
  ⟨record.supersede_id, fun h ↦ by cases h⟩

lemma leaves_reserve {planId : PartitionPlanId} : Advances LeavesDrains (reserve planId now) s := by
  have hreserves (plan : PartitionPlan) (l : List PlannedPartition) (ids : List PartitionId)
      (t : FabricState) : Advances LeavesDrains (reservePartitions plan now l ids) t := by
    induction l generalizing t ids with
    | nil => exact advances_pure _ _
    | cons planned rest ih =>
      refine advances_bind (advances_attempt apart_allocateId) fun t status _ ↦ ?_
      cases status with
      | error e => exact advances_pure _ _
      | ok id =>
        apply advances_get_bind
        simp only
        split
        · exact advances_pure _ _
        · exact advances_modify_bind
            (leaves_insertPartition rfl (by simp [reservedRecord])) (ih _ _)
  have habandons (id : AcceleratorId) (needed : ResourceVector) (partitions : List PartitionId)
      (e : Error) (t : FabricState) :
      Advances LeavesDrains (abandonReservation id needed partitions e) t := by
    refine advances_bind (advances_forM fun p _ u _ ↦ advances_modify leaves_erasePartition)
      fun u _ _ ↦ ?_
    exact advances_bind (advances_ignore apart_onLedger) fun _ _ _ ↦ advances_throw _ _
  refine advances_bind apart_checkOpen fun t _ _ ↦ advances_get_bind ?_
  cases t.plans.find? planId with
  | none => exact advances_throw _ _
  | some plan =>
    apply advances_require_bind
    intro _
    split
    · exact advances_modify_bind (leaves_of_same rfl rfl) (advances_throw _ _)
    · refine advances_require_bind fun _ ↦ advances_require_bind fun _ ↦ ?_
      refine advances_bind apart_makeReservationRoom fun u _ _ ↦ advances_lift_bind fun needed _ ↦ ?_
      refine advances_modify_bind apart_touchLedger (advances_bind apart_onLedger fun u _ _ ↦ ?_)
      refine advances_bind (advances_attempt apart_allocateId) fun u status _ ↦ ?_
      cases status with
      | error e => exact advances_bind (advances_ignore apart_onLedger) fun _ _ _ ↦ advances_throw _ _
      | ok id =>
        refine advances_bind (hreserves _ _ _ _) fun v result _ ↦ advances_get_bind ?_
        obtain ⟨partitions, status⟩ := result
        simp only
        split
        · exact habandons _ _ _ _ _
        · exact habandons _ _ _ _ _
        · refine advances_modify_bind (leaves_of_same rfl rfl) ?_
          refine advances_modify_bind (leaves_of_same rfl rfl) ?_
          exact advances_modify_bind leaves_bump (advances_pure _ _)

lemma leaves_releaseReservationLocked :
    Advances LeavesDrains (releaseReservationLocked id reason now) s := by
  apply advances_get_bind
  cases s.findReservation id with
  | none => exact advances_pure _ _
  | some reservation =>
    refine advances_require_bind fun _ ↦ advances_require_bind fun _ ↦ ?_
    split
    · exact advances_throw _ _
    · refine advances_bind apart_onLedger fun t _ _ ↦ ?_
      refine advances_bind (advances_forM fun p _ u _ ↦ advances_modify ?_) fun u _ _ ↦
        advances_modify_bind (leaves_of_same rfl rfl) (advances_modify leaves_bump)
      refine leaves_modifyPartition fun r _ ↦ ?_
      split
      · exact retire_state r _ _
      · exact ⟨rfl, fun h ↦ ⟨h, rfl⟩⟩

lemma leaves_fenceReservationLocked :
    Advances LeavesDrains (fenceReservationLocked id reason now) s := by
  apply advances_get_bind
  cases s.findReservation id with
  | none => exact advances_pure _ _
  | some reservation =>
    refine advances_require_bind fun _ ↦ advances_bind (advances_when fun _ ↦ ?_) fun t _ _ ↦
      advances_modify_bind (leaves_of_same rfl rfl) (advances_modify leaves_bump)
    refine advances_bind apart_onLedger fun t _ _ ↦ advances_forM fun p _ u _ ↦ advances_modify ?_
    exact leaves_modifyPartition fun r _ ↦ retire_state r _ _

lemma leaves_fenceReservationWhen {lost : PartitionReservation → Bool} :
    Advances LeavesDrains (fenceReservationWhen now reason lost id) s := by
  apply advances_get_bind
  cases s.findReservation id with
  | none => exact advances_pure _ _
  | some reservation =>
    exact advances_when fun _ ↦ advances_ignore leaves_fenceReservationLocked

lemma leaves_loseAttempt {lost : PartitionAttempt → Bool} {key : PartitionAttemptId} :
    Advances LeavesDrains (loseAttempt now reason lost key) s := by
  apply advances_get_bind
  cases s.findAttempt key with
  | none => exact advances_pure _ _
  | some attempt =>
    refine advances_when fun _ ↦ advances_modify_bind (leaves_of_same rfl rfl) ?_
    exact advances_forM fun _ _ _ _ ↦ leaves_revalidateUnknown

lemma leaves_fenceWorkerLocked {worker : WorkerId} {boot : WorkerBootId} :
    Advances LeavesDrains (fenceWorkerLocked worker boot now reason) s := by
  apply advances_get_bind
  cases s.findWorker worker with
  | none => exact advances_throw _ _
  | some record =>
    refine advances_when fun _ ↦ advances_modify_bind (leaves_of_same rfl rfl) ?_
    refine advances_bind (advances_forM fun _ _ _ _ ↦ leaves_fenceReservationWhen) fun t _ _ ↦ ?_
    refine advances_bind (advances_forM fun _ _ _ _ ↦ leaves_loseAttempt) fun t _ _ ↦ ?_
    exact advances_modify leaves_bump

lemma leaves_noteWorker {worker : WorkerRecord} : Advances LeavesDrains (noteWorker worker now) s := by
  refine advances_require_bind fun _ ↦ advances_get_bind (advances_require_bind fun _ ↦ ?_)
  refine advances_bind ?_ fun t _ _ ↦
    advances_modify_bind (leaves_of_same rfl rfl) (advances_modify leaves_bump)
  unfold fencePrevious
  split
  · exact advances_pure _ _
  · refine advances_when fun _ ↦ advances_modify_bind (leaves_of_same rfl rfl) ?_
    exact advances_ignore leaves_fenceWorkerLocked

lemma leaves_advanceCoordinatorEpoch : Advances LeavesDrains (advanceCoordinatorEpoch now) s := by
  refine advances_get_bind (advances_lift_bind fun epoch _ ↦ ?_)
  refine advances_modify_bind (leaves_of_same rfl rfl) ?_
  refine advances_bind (advances_forM fun _ _ _ _ ↦ leaves_fenceReservationWhen) fun t _ _ ↦ ?_
  refine advances_bind (advances_forM fun _ _ _ _ ↦ leaves_loseAttempt) fun t _ _ ↦ ?_
  refine advances_bind (advances_forM fun _ _ _ _ ↦ advances_modify (leaves_of_same rfl rfl))
    fun t _ _ ↦ ?_
  exact advances_modify_bind leaves_bump (advances_pure _ _)

lemma leaves_close : Advances LeavesDrains (close now) s := by
  refine advances_get_bind (advances_when fun _ ↦ ?_)
  refine advances_bind (advances_forM fun _ _ _ _ ↦ apart_closeReservation) fun t _ _ ↦ ?_
  refine advances_bind (advances_forM fun key _ t _ ↦ ?_) fun t _ _ ↦ ?_
  · apply advances_get_bind
    cases t.findPartition key with
    | none => exact advances_pure _ _
    | some record =>
      refine advances_when fun _ ↦ advances_bind apart_releaseHeld fun _ _ _ ↦ advances_modify ?_
      exact leaves_modifyPartition fun r _ ↦ retire_state r _ _
  refine advances_bind (advances_forM fun _ _ _ _ ↦ advances_modify (leaves_of_same rfl rfl))
    fun t _ _ ↦ ?_
  refine advances_bind (advances_forM fun _ _ _ _ ↦ advances_modify (leaves_of_same rfl rfl))
    fun t _ _ ↦ ?_
  refine advances_modify_bind (leaves_of_same rfl rfl) (advances_modify_bind leaves_bump ?_)
  apply advances_get_bind
  split
  · exact advances_pure _ _
  · exact advances_throw _ _

lemma leaves_releaseReservation : Advances LeavesDrains (releaseReservation id reason now) s :=
  advances_get_bind (advances_require_bind fun _ ↦ leaves_releaseReservationLocked)

lemma leaves_fenceReservation : Advances LeavesDrains (fenceReservation id reason now) s :=
  advances_get_bind (advances_require_bind fun _ ↦ leaves_fenceReservationLocked)

end Reservations

section Dispatch

variable {id : PartitionReservationId} {reservation : PartitionReservation} {kind : AttemptKind}
  {p : PartitionId} {plan : PartitionPlan}

lemma leaves_beginCreating {index : ℕ} :
    Advances LeavesDrains (beginCreating reservation now p index) s := by
  apply advances_get_bind
  cases s.findPartition p with
  | none => exact advances_throw _ _
  | some record => exact advances_require_bind fun _ ↦ leaves_transition (by decide)

lemma leaves_beginDestroying : Advances LeavesDrains (beginDestroying now p) s := by
  apply advances_get_bind
  cases s.findPartition p with
  | none => exact advances_throw _ _
  | some record => exact leaves_transition (by decide)

lemma leaves_beginMutation : Advances LeavesDrains (beginMutation reservation kind now) s := by
  cases kind with
  | createPartition => exact advances_forM fun _ _ _ _ ↦ leaves_beginCreating
  | destroyPartition => exact advances_forM fun _ _ _ _ ↦ leaves_beginDestroying
  | reconfigureLayout => exact advances_pure _ _

lemma leaves_registerAttemptLocked {key : PartitionReservationId} {worker : WorkerId}
    {boot : WorkerBootId} : Advances LeavesDrains
      (registerAttemptLocked key reservation kind worker boot now) s := by
  refine advances_bind apart_makeAttemptRoom fun t _ _ ↦ advances_get_bind ?_
  refine advances_require_bind fun _ ↦ advances_bind apart_allocateId fun u id _ ↦ ?_
  refine advances_bind leaves_beginMutation fun v _ _ ↦ advances_get_bind ?_
  refine advances_lift_bind fun _ _ ↦ advances_modify_bind (leaves_of_same rfl rfl) ?_
  refine advances_modify_bind (leaves_of_same rfl rfl) ?_
  exact advances_modify_bind leaves_bump (advances_pure _ _)

lemma leaves_registerAttempt {worker : WorkerId} {boot : WorkerBootId} :
    Advances LeavesDrains (registerAttempt id kind worker boot now) s := by
  apply advances_get_bind
  cases s.findReservation id with
  | none => exact advances_throw _ _
  | some reservation => exact advances_require_bind fun _ ↦ leaves_registerAttemptLocked

lemma leaves_fenceAndThrow {α : Type} {reason : Text} {e : Error} :
    Advances LeavesDrains (fenceAndThrow id reason now e : FabricM α) s :=
  advances_bind (advances_ignore leaves_fenceReservationLocked) fun _ _ _ ↦ advances_throw _ _

lemma leaves_executeBound : Advances LeavesDrains (executeBound id reservation plan now) s := by
  apply advances_get_bind
  cases s.findAccelerator reservation.accelerator with
  | none => exact advances_throw _ _
  | some accelerator =>
    refine advances_ite (fun _ ↦ leaves_fenceAndThrow) fun _ ↦ ?_
    refine advances_ite (fun _ ↦ leaves_fenceAndThrow) fun _ ↦ ?_
    refine advances_ite (fun _ ↦ leaves_fenceAndThrow) fun _ ↦ ?_
    refine advances_ite (fun _ ↦ ?_) fun _ ↦ advances_require_bind fun _ ↦ ?_
    · exact advances_bind (advances_ignore leaves_releaseReservationLocked) fun _ _ _ ↦
        advances_throw _ _
    · refine advances_bind leaves_registerAttemptLocked fun t attempt _ ↦ ?_
      exact advances_bind apart_stableKeyOf fun _ _ _ ↦ advances_get_bind (advances_pure _ _)

lemma leaves_execute : Advances LeavesDrains (execute id now) s := by
  refine advances_bind apart_checkOpen fun t _ _ ↦ advances_get_bind ?_
  cases t.findReservation id with
  | none => exact advances_throw _ _
  | some reservation =>
    refine advances_require_bind fun _ ↦ advances_require_bind fun _ ↦ ?_
    cases t.plans.find? reservation.plan with
    | none => exact advances_throw _ _
    | some plan =>
      simp only
      cases validatePlanBinding t plan now t.policy.requireFreshEvidence with
      | error e => exact advances_modify_bind (leaves_of_same rfl rfl) leaves_fenceAndThrow
      | ok u => exact leaves_executeBound

lemma leaves_reserveDestruction {stale : Text} :
    Advances LeavesDrains (reserveDestruction p now stale) s := by
  refine advances_bind apart_checkOpen fun t _ _ ↦ advances_get_bind ?_
  cases t.findPartition p with
  | none => exact advances_throw _ _
  | some record =>
    refine advances_require_bind fun _ ↦ advances_require_bind fun _ ↦ ?_
    apply advances_require_bind
    intro _
    cases t.findAccelerator record.accelerator with
    | none => exact advances_throw _ _
    | some accelerator =>
      apply advances_ite
      · intro _
        exact advances_bind (advances_ignore (leaves_transition (by decide))) fun _ _ _ ↦
          advances_throw _ _
      · intro _
        exact advances_bind apart_createDestructiveReservationLocked fun _ _ _ ↦ advances_pure _ _

lemma leaves_destroyPartition : Advances LeavesDrains (destroyPartition p now) s := by
  refine advances_bind leaves_reserveDestruction fun t entry _ ↦ ?_
  refine advances_bind leaves_registerAttemptLocked fun u attempt _ ↦ ?_
  exact advances_bind apart_stableKeyOf fun _ _ _ ↦ advances_get_bind (advances_pure _ _)

lemma leaves_createDestructionReservation :
    Advances LeavesDrains (createDestructionReservation p now) s :=
  advances_bind leaves_reserveDestruction fun _ _ _ ↦ advances_pure _ _

lemma leaves_executeReconfiguration {planId : PartitionPlanId} :
    Advances LeavesDrains (executeReconfiguration planId now) s := by
  refine advances_bind apart_checkOpen fun t _ _ ↦ advances_get_bind ?_
  cases t.plans.find? planId with
  | none => exact advances_throw _ _
  | some plan =>
    apply advances_require_bind
    intro _
    cases validatePlanBinding t plan now t.policy.requireFreshEvidence with
    | error e => exact advances_modify_bind (leaves_of_same rfl rfl) (advances_throw _ _)
    | ok u =>
      simp only
      cases t.findAccelerator plan.binding.accelerator with
      | none => exact advances_throw _ _
      | some accelerator =>
        refine advances_require_bind fun _ ↦ advances_lift_bind fun affected _ ↦ ?_
        refine advances_lift_bind fun _ _ ↦ advances_lift_bind fun _ _ ↦ ?_
        refine advances_lift_bind fun hold _ ↦ ?_
        refine advances_bind apart_createDestructiveReservationLocked fun u reservation _ ↦ ?_
        refine advances_modify_bind (leaves_of_same rfl rfl) ?_
        refine advances_bind (advances_forM fun _ _ _ _ ↦ leaves_transition (by decide))
          fun v _ _ ↦ ?_
        refine advances_bind leaves_registerAttemptLocked fun v attempt _ ↦ ?_
        refine advances_bind apart_stableKeyOf fun w key _ ↦ advances_get_bind ?_
        exact advances_modify_bind (leaves_of_same rfl rfl) (advances_pure _ _)

end Dispatch

section Apply

variable {e : CommitEvidence} {key : PartitionAttemptId} {attempt : PartitionAttempt}
  {detail : Text} {outcome : MutationOutcome}

lemma leaves_settleAttempt {state : AttemptState} :
    LeavesDrains s (settleAttempt key state detail now s) := leaves_of_same rfl rfl

lemma leaves_failAttempt : Advances LeavesDrains (failAttempt key detail now outcome) s :=
  advances_modify_bind leaves_settleAttempt (advances_pure _ _)

lemma leaves_recordReconfigured {l : List PlannedPartition} {claimed : List Text}
    {ids : List PartitionId} : Advances LeavesDrains (recordReconfigured e l claimed ids) s := by
  induction l generalizing s claimed ids with
  | nil => exact advances_pure _ _
  | cons planned rest ih =>
    apply advances_get_bind
    cases s.findProfile planned.profile with
    | none => exact ih
    | some profile =>
      refine advances_bind (advances_attempt apart_allocateId) fun t status _ ↦ ?_
      cases status with
      | error err => exact advances_pure _ _
      | ok id =>
        refine advances_modify_bind (leaves_insertPartition rfl (by simp [reconfiguredRecord])) ?_
        exact advances_modify_bind leaves_bindFound (advances_modify_bind leaves_stamp ih)

/-- What a reconfiguration replaced does not drain any more. -/
lemma not_mem_of_draining {l : List PartitionId} {p : PartitionId} {r : PartitionRecord}
    (hr : (l.foldl (fun t p ↦ retireReplaced now p t) s).partitions.find? p = some r)
    (hdraining : r.state = .draining) : p ∉ l ∧ s.partitions.find? p = some r := by
  induction l generalizing s with
  | nil => exact ⟨List.not_mem_nil, hr⟩
  | cons q rest ih =>
    obtain ⟨hrest, hq⟩ := ih hr
    change (s.modifyPartition q _).partitions.find? p = some r at hq
    rw [FabricState.modifyPartition, KeyedMap.find?_modify] at hq
    split at hq
    · obtain ⟨r₀, -, rfl⟩ := Option.map_eq_some_iff.mp hq
      cases hdraining
    · rename_i hne
      exact ⟨fun hp ↦ (List.mem_cons.mp hp).elim hne hrest, hq⟩

/-- The replaced partitions are retired before their assignments are dropped. -/
lemma leaves_replaceRecords {plan : PartitionPlan} {working : CapacityLedger} :
    Advances LeavesDrains (replaceRecords e attempt plan working) s := by
  refine advances_modify_bind (leaves_of_same rfl rfl) ?_
  refine advances_bind (advances_forM fun p _ t _ ↦ advances_modify ?_) fun t _ ht ↦ ?_
  · exact leaves_modifyPartition fun r _ ↦ ⟨r.supersede_id, fun h ↦ by cases h⟩
  · rw [forM_modify fun p t ↦ retireReplaced e.now p t] at ht
    obtain rfl := (Prod.mk.inj ht).1
    refine advances_modify_bind (leaves_dropAssignments fun _ p r hr hlisted ↦ ?_)
      leaves_recordReconfigured
    exact fun hdraining ↦ (not_mem_of_draining hr hdraining).1 (List.contains_iff_mem.mp hlisted)

lemma leaves_revalidate {l : List PartitionId} {reason : Text} :
    Advances LeavesDrains (l.forM fun p ↦
      Procedure.ignore (transitionPartition now p .revalidationRequired reason)) s :=
  advances_forM fun _ _ _ _ ↦ advances_ignore (leaves_transition (by decide))

lemma leaves_settleReconfiguration {reservation : PartitionReservation} :
    Advances LeavesDrains (settleReconfiguration e key attempt reservation detail outcome) s := by
  apply advances_get_bind
  split
  · split
    · refine advances_bind leaves_replaceRecords fun t ids _ ↦ ?_
      refine advances_modify_bind leaves_settleAttempt ?_
      refine advances_modify_bind (leaves_of_same rfl rfl) ?_
      exact advances_modify_bind leaves_bump (advances_pure _ _)
    · refine advances_bind leaves_failAttempt fun t outcome _ ↦ ?_
      refine advances_bind leaves_revalidate fun u _ _ ↦ ?_
      exact advances_modify_bind leaves_bump (advances_pure _ _)
  · exact leaves_failAttempt

lemma leaves_publishCreated {desired : List PlannedPartition} {l : List (PartitionId × ℕ)}
    {claimed : List Text} : Advances LeavesDrains (publishCreated e desired l claimed) s := by
  induction l generalizing s claimed with
  | nil => exact advances_pure _ _
  | cons entry rest ih =>
    obtain ⟨p, index⟩ := entry
    apply advances_get_bind
    cases s.findPartition p with
    | none => exact ih
    | some record =>
      refine advances_modify_bind leaves_bindFound (advances_modify_bind leaves_stamp ?_)
      refine advances_bind (advances_ignore (leaves_transition (by decide))) fun t _ _ ↦ ?_
      exact advances_modify_bind
        (leaves_modifyPartition fun r _ ↦ ⟨rfl, fun h ↦ ⟨h, rfl⟩⟩) ih

lemma supersede_keeps (r : PartitionRecord) : r.supersede.id = r.id ∧
    (r.supersede.state = .draining → r.state = .draining ∧ r.supersede.drain = r.drain) :=
  ⟨r.supersede_id, fun h ↦ ⟨r.supersede_state ▸ h, r.supersede_drain⟩⟩

lemma leaves_retireDestroyed {p : PartitionId} :
    Advances LeavesDrains (retireDestroyed now p) s := by
  refine advances_bind (advances_attempt (leaves_transition (by decide))) fun t status _ ↦ ?_
  cases status with
  | error err => exact advances_pure _ _
  | ok u => exact advances_modify (leaves_modifyPartition fun r _ ↦ supersede_keeps r)

lemma leaves_commitMutation :
    Advances LeavesDrains (commitMutation e key attempt detail outcome) s := by
  apply advances_bind
  · unfold commitPartitions
    cases attempt.kind with
    | createPartition => exact leaves_publishCreated
    | destroyPartition => exact advances_forM fun _ _ _ _ ↦ leaves_retireDestroyed
    | reconfigureLayout => exact advances_pure _ _
  · intro t _ _
    refine advances_modify_bind leaves_settleAttempt ?_
    refine advances_modify_bind (leaves_of_same rfl rfl) ?_
    exact advances_modify_bind leaves_bump (advances_pure _ _)

lemma leaves_loseMutation :
    Advances LeavesDrains (loseMutation key attempt detail now outcome) s := by
  refine advances_modify_bind leaves_settleAttempt ?_
  refine advances_modify_bind (leaves_of_same rfl rfl) ?_
  refine advances_bind (advances_forM fun _ _ _ _ ↦ leaves_revalidateUnknown) fun t _ _ ↦ ?_
  exact advances_modify_bind leaves_bump (advances_pure _ _)

lemma leaves_failMutation {reservation : PartitionReservation} :
    Advances LeavesDrains (failMutation key attempt reservation detail now outcome) s := by
  refine advances_modify_bind leaves_settleAttempt ?_
  refine advances_modify_bind (leaves_of_same rfl rfl) ?_
  refine advances_bind (advances_when fun _ ↦ ?_) fun t _ _ ↦ ?_
  · refine advances_bind (advances_forM fun _ _ _ _ ↦ ?_) fun t _ _ ↦
      advances_modify (leaves_of_same rfl rfl)
    exact advances_ignore (leaves_transition (by decide))
  · refine advances_bind (advances_when fun _ ↦ leaves_revalidate) fun u _ _ ↦ ?_
    exact advances_modify_bind leaves_bump (advances_pure _ _)

lemma leaves_settleMutation {reservation : PartitionReservation} {accelerator : AcceleratorRecord}
    {report : BackendMutationResult} {observed : Option BackendLayout} :
    Advances LeavesDrains
      (settleMutation key attempt reservation accelerator report observed now outcome) s := by
  apply advances_get_bind
  refine advances_ite (fun _ ↦ ?_) fun _ ↦ ?_
  · exact advances_ite (fun _ ↦ leaves_settleReconfiguration) fun _ ↦ leaves_commitMutation
  · exact advances_ite (fun _ ↦ leaves_loseMutation) fun _ ↦ leaves_failMutation

lemma leaves_applyMutationResultLocked {mutation : Result BackendMutationResult}
    {observed : Option BackendLayout} :
    Advances LeavesDrains (applyMutationResultLocked key mutation observed now) s := by
  apply advances_get_bind
  cases s.findAttempt key with
  | none => exact advances_pure _ _
  | some attempt =>
    simp only
    cases s.findReservation attempt.reservation with
    | none => exact advances_pure _ _
    | some reservation =>
      refine advances_ite (fun _ ↦ advances_pure _ _) fun _ ↦ ?_
      refine advances_ite (fun _ ↦ advances_pure _ _) fun _ ↦ ?_
      cases s.findAccelerator attempt.accelerator with
      | none => exact leaves_failAttempt
      | some accelerator => exact leaves_settleMutation

lemma leaves_markAttemptOutcomeUnknown {reason : Text} :
    Advances LeavesDrains (markAttemptOutcomeUnknown key reason now) s := by
  apply advances_get_bind
  cases s.findAttempt key with
  | none => exact advances_throw _ _
  | some attempt =>
    refine advances_when fun _ ↦ advances_modify_bind leaves_settleAttempt ?_
    refine advances_modify_bind (leaves_of_same rfl rfl) ?_
    refine advances_bind (advances_when fun _ ↦ ?_) fun t _ _ ↦ advances_modify leaves_bump
    exact advances_forM fun _ _ _ _ ↦ leaves_revalidateUnknown

end Apply

section Reconcile

variable {o : Observation} {key : PartitionId} {pass : Pass} {record : PartitionRecord}
  {native : BackendNativePartition}

lemma leaves_stampMatched : LeavesDrains s (o.evidence.stamp key s) := leaves_stamp

/-- A missing partition is retired before its assignments are dropped. -/
lemma leaves_retireMissing (hrecord : s.partitions.find? key = some record) :
    Advances LeavesDrains (o.retireMissing key record pass) s := by
  refine advances_bind (advances_attempt apart_releaseMissing) fun t released ht ↦ ?_
  have hkept : t.partitions.find? key = some record := by
    have huntouched : Untouched s (o.releaseMissing record s).1 := apart_releaseMissing
    have hfst : t = (o.releaseMissing record s).1 := (Prod.mk.inj ht).1.symm
    rw [hfst, huntouched.partitions, hrecord]
  refine advances_modify_bind (leaves_modifyPartition fun r hr ↦ ?_) (advances_get_bind ?_)
  · obtain rfl := Option.some.inj (hkept.symm.trans hr)
    exact ⟨record.supersede_id, fun h ↦ by cases h⟩
  · refine advances_modify_bind (leaves_dropAssignments fun hcatalogued p r hr hnamed ↦ ?_)
      (advances_pure _ _)
    have hretired : (t.modifyPartition key fun _ ↦ o.missingRecord record).partitions.find? key =
        some (o.missingRecord record) := by
      rw [FabricState.modifyPartition, KeyedMap.find?_modify, if_pos rfl, hkept]
      rfl
    have hid : (o.missingRecord record).id = key :=
      hcatalogued.partitions key (o.missingRecord record) hretired
    have hsame : (o.missingRecord record).id = record.id := record.supersede_id
    obtain rfl : p = key := (of_decide_eq_true hnamed).trans (hsame.symm.trans hid)
    obtain rfl := Option.some.inj (hretired.symm.trans hr)
    exact fun h ↦ by cases h

lemma leaves_confirmMatched :
    Advances LeavesDrains (o.confirmMatched key record native pass) s := by
  refine advances_modify_bind leaves_stampMatched (advances_get_bind ?_)
  refine advances_ite (fun _ ↦ ?_) fun _ ↦ advances_ite (fun _ ↦ ?_) fun _ ↦ advances_pure _ _
  · exact advances_bind (advances_ignore (leaves_transition (by decide))) fun _ _ _ ↦
      advances_pure _ _
  · refine advances_ite (fun _ ↦ ?_) fun _ ↦ advances_pure _ _
    refine advances_bind (advances_attempt (leaves_transition (by decide))) fun t status _ ↦ ?_
    cases status with
    | error e => exact advances_pure _ _
    | ok u =>
      exact advances_modify_bind (leaves_modifyPartition fun r _ ↦ ⟨rfl, fun h ↦ ⟨h, rfl⟩⟩)
        (advances_pure _ _)

lemma leaves_matchRecord : Advances LeavesDrains (o.matchRecord pass key) s := by
  apply advances_get_bind
  cases hfilter : (s.findPartition key).filter fun r ↦ r.accelerator = o.id && inLayout r with
  | none => exact advances_pure _ _
  | some record =>
    refine advances_ite (fun _ ↦ ?_) fun _ ↦ ?_
    · refine advances_ite (fun _ ↦ ?_) fun _ ↦ advances_pure _ _
      exact advances_bind (advances_attempt (leaves_transition (by decide))) fun _ _ _ ↦
        advances_pure _ _
    · cases observedNative o.layout record.nativeIdentity.nativeId with
      | none => exact leaves_retireMissing (Option.filter_eq_some_iff.mp hfilter).1
      | some native =>
        refine advances_ite (fun _ ↦ leaves_confirmMatched) fun _ ↦ ?_
        refine advances_bind (advances_attempt (advances_when fun _ ↦ ?_)) fun _ _ _ ↦
          advances_pure _ _
        exact leaves_transition (by decide)

lemma leaves_settlePartition {kind : AttemptKind} :
    Advances LeavesDrains (o.settlePartition kind key record pass) s := by
  have htarget : Observation.settledTarget kind ≠ .draining := by
    unfold Observation.settledTarget
    split <;> decide
  refine advances_bind (advances_attempt (leaves_transition htarget)) fun t status _ ↦ ?_
  cases status with
  | error e => exact advances_get_bind (advances_pure _ _)
  | ok u =>
    refine advances_ite (fun _ ↦ ?_) fun _ ↦ advances_pure _ _
    exact advances_modify_bind (leaves_modifyPartition fun r _ ↦ supersede_keeps r)
      (advances_pure _ _)

lemma leaves_adoptProduced {attempt : PartitionAttempt} {entry : PartitionId × ℕ} :
    Advances LeavesDrains (o.adoptProduced attempt pass entry) s := by
  obtain ⟨p, index⟩ := entry
  apply advances_get_bind
  cases s.findPartition p with
  | none => exact advances_pure _ _
  | some record =>
    refine advances_modify_bind leaves_bindFound ?_
    exact advances_ite (fun _ ↦ leaves_settlePartition) fun _ ↦ advances_pure _ _

lemma leaves_withdrawPartition : Advances LeavesDrains (o.withdrawPartition key) s := by
  refine advances_get_bind (advances_when fun _ ↦ ?_)
  refine advances_bind (advances_attempt (leaves_transition (by decide))) fun t status _ ↦ ?_
  cases status with
  | error e => exact advances_pure _ _
  | ok u => exact advances_modify (leaves_modifyPartition fun r _ ↦ supersede_keeps r)

lemma leaves_resolveAttempt {key : PartitionAttemptId} :
    Advances LeavesDrains (o.resolveAttempt pass key) s := by
  apply advances_get_bind
  cases (s.findAttempt key).filter fun a ↦ a.accelerator = o.id && a.state = .outcomeUnknown with
  | none => exact advances_pure _ _
  | some attempt =>
    refine advances_ite (fun _ ↦ ?_) fun _ ↦ ?_
    · refine advances_modify_bind (leaves_of_same rfl rfl) ?_
      refine advances_bind (advances_foldlM fun _ _ _ _ _ ↦ leaves_adoptProduced) fun t _ _ ↦ ?_
      exact advances_modify_bind (leaves_of_same rfl rfl) (advances_pure _ _)
    · refine advances_modify_bind (leaves_of_same rfl rfl) ?_
      refine advances_bind (advances_forM fun _ _ _ _ ↦ leaves_withdrawPartition) fun t _ _ ↦ ?_
      exact advances_bind apart_releaseDecided fun _ _ _ ↦ advances_pure _ _

lemma leaves_recordUnexpected {claimed : List Text} {l : List BackendNativePartition}
    {report : ReconciliationReport} :
    Advances LeavesDrains (o.recordUnexpected claimed l report) s := by
  induction l generalizing s report with
  | nil => exact advances_pure _ _
  | cons native rest ih =>
    refine advances_ite (fun _ ↦ ih) fun _ ↦ ?_
    refine advances_bind (advances_attempt apart_allocateId) fun t status _ ↦ ?_
    cases status with
    | error e => exact advances_pure _ _
    | ok id =>
      apply advances_get_bind
      refine advances_bind (advances_holdUnexpected_of fun _ _ _ _ ↦ apart_onLedger)
        fun u entry hentry ↦ ?_
      obtain ⟨state, held, hsame⟩ := holdUnexpected_same u entry hentry
      have hid : entry.1.id = id := by
        rw [hsame]
        rfl
      have hstate : entry.1.state ≠ .draining := by
        rcases holdUnexpected_state u entry hentry with h | h
        · rw [h]
          change (if t.policy.allowExternalAdoption then PartitionState.active
            else .revalidationRequired) ≠ .draining
          split <;> decide
        · rw [h]
          decide
      obtain ⟨record, report⟩ := entry
      exact advances_modify_bind (leaves_insertPartition hid hstate)
        (advances_modify_bind leaves_stampMatched ih)

lemma leaves_takeOffline {report : ReconciliationReport} :
    Advances LeavesDrains (o.takeOffline report key) s := by
  apply advances_get_bind
  split
  · exact advances_pure _ _
  · exact advances_bind (advances_attempt (leaves_transition (by decide))) fun _ _ _ ↦
      advances_pure _ _

lemma leaves_reconcilePresent {report : ReconciliationReport} :
    Advances LeavesDrains (o.reconcilePresent report) s := by
  refine advances_bind ?_ fun t noted _ ↦ advances_bind ?_ fun u report _ ↦ ?_
  · refine advances_ite (fun _ ↦ advances_lift_bind fun _ _ ↦ ?_) fun _ ↦ advances_pure _ _
    exact advances_modify_bind (leaves_of_same rfl rfl) (advances_pure _ _)
  · apply advances_get_bind
    refine advances_bind (advances_foldlM fun _ _ _ _ _ ↦ leaves_matchRecord) fun u pass _ ↦ ?_
    apply advances_get_bind
    refine advances_bind (advances_foldlM fun _ _ _ _ _ ↦ leaves_resolveAttempt) fun v pass _ ↦ ?_
    exact leaves_recordUnexpected
  · refine advances_modify_bind (leaves_of_same rfl rfl) ?_
    exact advances_modify_bind leaves_bump (advances_pure _ _)

lemma leaves_reconcile {id : AcceleratorId} {observed : BackendLayout} :
    Advances LeavesDrains (reconcile id observed now) s := by
  apply advances_get_bind
  cases s.findAccelerator id with
  | none => exact advances_throw _ _
  | some accelerator =>
    refine advances_lift_bind fun _ _ ↦ advances_bind apart_allocateId fun t reportId _ ↦ ?_
    refine advances_ite (fun _ ↦ leaves_reconcilePresent) fun _ ↦ advances_get_bind ?_
    refine advances_bind (advances_foldlM fun _ _ _ _ _ ↦ leaves_takeOffline) fun u report _ ↦ ?_
    refine advances_modify_bind (leaves_of_same rfl rfl) ?_
    exact advances_modify_bind leaves_bump (advances_pure _ _)

end Reconcile

section Steps

/-- Nothing that an import restores drains, and no assignment survives it. -/
lemma leaves_import {d : DurableState} : Advances LeavesDrains (importDurableState d now) s := by
  unfold Advances
  cases hvalid : d.validateImport s.stateGeneration with
  | error e =>
    rw [import_refused hvalid]
    exact refl_of _ s
  | ok u =>
    have himported : Conservative (importDurableState d now s).1 := conservative_validated hvalid
    refine ⟨fun hs ↦ ⟨fun p r hr ↦ ?_, fun k a ha ↦ ?_⟩, fun _ p r hr hdraining ↦ ?_⟩
    · rcases import_cases d now s with hsame | hrestores
      · rw [hsame] at hr
        exact hs.partitions p r hr
      · exact ((hrestores.dormant (dormant_restoreRegistry d s)).partitions p r hr).1
    · rw [himported.assignments k] at ha
      cases ha
    · have hrestart := himported.partitions p r hr
      rw [hdraining] at hrestart
      cases hrestart

/-- An operation on the occupancy of partitions. -/
def Op.occupies : Op → Bool
  | .beginDrain .. | .beginDrainAccelerator .. | .completeDrain .. | .cancelDrain ..
  | .admitWorkload .. | .bindAssignment _ | .unbindAssignment .. => true
  | _ => false

/-- Every other operation starts no drain and disturbs none that it does not end. -/
theorem leavesDrains_step {op : Op} (h : op.occupies = false) : LeavesDrains s (op.step s) := by
  have hof : ∀ {α : Type} {m : FabricM α}, Advances LeavesDrains m s → LeavesDrains s (m s).1 :=
    fun hm ↦ hm
  cases op with
  | setPolicy policy => exact hof apart_setPolicy
  | registerProfile profile => exact hof apart_registerProfile
  | registerBackendAccelerator accelerator now => exact hof leaves_registerBackendAccelerator
  | registerAccelerator record now => exact hof leaves_registerAccelerator
  | publishCapability capability now =>
    exact hof (advances_bind apart_checkOpen fun _ _ _ ↦ leaves_publishCapabilityLocked)
  | updateHealth id health => exact hof apart_updateHealth
  | markEvidenceStale id => exact hof apart_markEvidenceStale
  | snapshot => exact hof apart_snapshot
  | allocateWorkerId => exact hof apart_allocateId
  | bindAcceleratorWorker id worker boot => exact hof apart_bindAcceleratorWorker
  | plan request now => exact hof apart_plan
  | planOn id request now => exact hof apart_planOn
  | planReconfiguration id desired context now => exact hof apart_planReconfiguration
  | discardPlan id => exact hof apart_discardPlan
  | reserve planId now => exact hof leaves_reserve
  | bindReservation id worker boot epoch now => exact hof apart_bindReservation
  | releaseReservation id reason now => exact hof leaves_releaseReservation
  | fenceReservation id reason now => exact hof leaves_fenceReservation
  | registerAttempt id kind worker boot now => exact hof leaves_registerAttempt
  | execute id now => exact hof leaves_execute
  | destroyPartition p now => exact hof leaves_destroyPartition
  | createDestructionReservation p now => exact hof leaves_createDestructionReservation
  | executeReconfiguration planId now => exact hof leaves_executeReconfiguration
  | applyMutationResult key mutation observed now => exact hof leaves_applyMutationResultLocked
  | markAttemptOutcomeUnknown key reason now => exact hof leaves_markAttemptOutcomeUnknown
  | noteWorker worker now => exact hof leaves_noteWorker
  | noteWorkerSeen worker boot atMs => exact hof apart_noteWorkerSeen
  | fenceWorker worker boot reason now => exact hof leaves_fenceWorkerLocked
  | advanceCoordinatorEpoch now => exact hof leaves_advanceCoordinatorEpoch
  | installCoordinatorEpoch epoch => exact hof apart_installCoordinatorEpoch
  | reconcile id observed now => exact hof leaves_reconcile
  | importDurableState d now => exact hof leaves_import
  | close now => exact hof leaves_close
  | reopen now => exact hof apart_reopen
  | _ => cases h

end Steps

end PartitionFabric
