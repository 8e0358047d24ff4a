import PartitionFabric.Invariants.Evidence

/-!
Partition records that pass their own check, and how the updates of a record keep them so.

The check is taken apart into what identifies a record, its generations, its bucket and its
drain; an update touches some of these parts and leaves the others alone.
-/

namespace PartitionFabric

open Procedure

/-- A bucket, or none, that the check allows in a lifecycle state. -/
def Housed (state : PartitionState) : Option CapacityBucket → Prop
  | some bucket => bucket ≠ .unavailable ∧ bucket ≠ .free ∧ holdsCapacity state = true
  | none => holdsCapacity state = true → state = .revalidationRequired

/-- Drain progress that the check allows in a lifecycle state. -/
structure Drained (state : PartitionState) (drain : DrainProgress) : Prop where
  running : drain.state = .draining → state = .draining
  completed : drain.state = .drainComplete → drain.completedAtMs ≠ 0
  bounded : drain.outstandingAssignments ≤ drain.totalAssignments
  finished : drain.state = .drainComplete → drain.outstandingAssignments = 0
  occupied : 0 < drain.outstandingAssignments → state = .draining ∨ state = .active

/-- No drain is in progress and none left work outstanding. -/
def DrainProgress.Settled (drain : DrainProgress) : Prop :=
  drain.state ≠ .draining ∧ drain.outstandingAssignments = 0

instance (drain : DrainProgress) : Decidable drain.Settled :=
  inferInstanceAs (Decidable (_ ∧ _))

namespace PartitionRecord

/-- What a record names is set. -/
def Identified (r : PartitionRecord) : Prop :=
  valid r.id = true ∧ known r.generation = true ∧ valid r.accelerator = true ∧
    known r.acceleratorGeneration = true ∧ valid r.profile = true ∧ r.resources.empty = false

/-- The superseded generations are known, older than the current one and distinct. -/
def Dated (r : PartitionRecord) : Prop :=
  (∀ g ∈ r.supersededGenerations, known g = true ∧ g < r.generation) ∧
    r.supersededGenerations.Nodup

/-- The parts of the check of a record. -/
structure Coherent (r : PartitionRecord) : Prop where
  identified : r.Identified
  dated : r.Dated
  housed : Housed r.state r.heldBucket
  drained : Drained r.state r.drain

lemma checkSuperseded_eq_ok {r : PartitionRecord} : r.checkSuperseded = .ok () ↔ r.Dated := by
  unfold checkSuperseded
  rw [check_bind_eq_ok, forM_eq_ok]
  constructor
  · rintro ⟨hold, hdistinct⟩
    refine ⟨fun g hg ↦ ?_, ?_⟩
    · have h := hold g hg
      split at h
      · exact absurd h (failure_ne_ok _ _ _ _)
      · rename_i hknown
        split at h
        · exact absurd h (failure_ne_ok _ _ _ _)
        · rename_i hlt
          exact ⟨by simpa using hknown, not_le.mp hlt⟩
    · split at hdistinct
      · assumption
      · exact absurd hdistinct (failure_ne_ok _ _ _ _)
  · intro h
    refine ⟨fun g hg ↦ ?_, ?_⟩
    · obtain ⟨hknown, hlt⟩ := h.1 g hg
      rw [if_neg (by simp [hknown]), if_neg (not_le.mpr hlt)]
      rfl
    · rw [if_pos h.2]
      rfl

lemma checkBucket_eq_ok {r : PartitionRecord} :
    r.checkBucket = .ok () ↔ Housed r.state r.heldBucket := by
  unfold checkBucket Housed
  cases r.heldBucket with
  | none =>
      simp only
      split
      · rename_i h
        simp only [Bool.and_eq_true, decide_eq_true_eq] at h
        simp [h.1, h.2]
      · rename_i h
        simp only [Bool.and_eq_true, decide_eq_true_eq, not_and, not_not] at h
        simpa [success] using h
  | some b =>
      simp only
      split
      · rename_i h
        simp only [Bool.or_eq_true, decide_eq_true_eq] at h
        simp only [failure_ne_ok, false_iff, not_and]
        exact fun hu hf ↦ absurd h (by simp [hu, hf])
      · rename_i h
        simp only [Bool.or_eq_true, decide_eq_true_eq, not_or] at h
        cases holdsCapacity r.state <;> simp [h.1, h.2, success]

lemma checkDrain_eq_ok {r : PartitionRecord} :
    r.checkDrain = .ok () ↔ Drained r.state r.drain := by
  unfold checkDrain
  constructor
  · intro h
    split at h
    · exact absurd h (failure_ne_ok _ _ _ _)
    rename_i hrunning
    split at h
    · exact absurd h (failure_ne_ok _ _ _ _)
    rename_i hcompleted
    split at h
    · exact absurd h (failure_ne_ok _ _ _ _)
    rename_i hbounded
    split at h
    · exact absurd h (failure_ne_ok _ _ _ _)
    rename_i hfinished
    split at h
    · exact absurd h (failure_ne_ok _ _ _ _)
    rename_i hoccupied
    simp only [Bool.and_eq_true, decide_eq_true_eq, not_and, not_not, gt_iff_lt,
      UInt32.not_lt, Bool.not_eq_true', allowsNewAssignment, decide_eq_false_iff_not] at *
    refine ⟨hrunning, hcompleted, hbounded, hfinished, fun hpos ↦ ?_⟩
    by_cases hd : r.state = .draining
    · exact Or.inl hd
    · exact Or.inr (hoccupied ⟨hpos, hd⟩)
  · intro h
    have hbounded := h.bounded
    rw [if_neg, if_neg, if_neg, if_neg, if_neg]
    · rfl
    · simp only [Bool.and_eq_true, decide_eq_true_eq, gt_iff_lt, Bool.not_eq_true',
        allowsNewAssignment, decide_eq_false_iff_not, not_and, not_not]
      rintro ⟨hpos, hd⟩
      exact (h.occupied hpos).resolve_left hd
    · simpa using h.finished
    · simpa using hbounded
    · simpa using h.completed
    · simpa using h.running

/-- A record passes its check when every part of it is in order. -/
theorem validate_eq_ok {r : PartitionRecord} : r.validate = .ok () ↔ r.Coherent := by
  unfold validate
  constructor
  · intro h
    iterate 6
      split at h
      · exact absurd h (failure_ne_ok _ _ _ _)
    rename_i hid hgeneration haccelerator hincarnation hprofile hresources
    simp only [check_bind_eq_ok] at h
    obtain ⟨hdated, hhoused, hdrained⟩ := h
    exact ⟨⟨by simpa using hid, by simpa using hgeneration, by simpa using haccelerator,
      by simpa using hincarnation, by simpa using hprofile, by simpa using hresources⟩,
      checkSuperseded_eq_ok.mp hdated, checkBucket_eq_ok.mp hhoused, checkDrain_eq_ok.mp hdrained⟩
  · intro h
    obtain ⟨hid, hgeneration, haccelerator, hincarnation, hprofile, hresources⟩ := h.identified
    simp only [hid, hgeneration, haccelerator, hincarnation, hprofile, hresources, Bool.not_true,
      Bool.false_eq_true, if_false, check_bind_eq_ok]
    exact ⟨checkSuperseded_eq_ok.mpr h.dated, checkBucket_eq_ok.mpr h.housed,
      checkDrain_eq_ok.mpr h.drained⟩

end PartitionRecord

lemma Drained.settled {state : PartitionState} {drain : DrainProgress} (h : Drained state drain)
    (hdraining : state ≠ .draining) (hactive : state ≠ .active) : drain.Settled := by
  refine ⟨mt h.running hdraining, ?_⟩
  by_contra hne
  have hpos : 0 < drain.outstandingAssignments := UInt32.pos_iff_ne_zero.mpr hne
  exact (h.occupied hpos).elim hdraining hactive

lemma DrainProgress.Settled.drained {state : PartitionState} {drain : DrainProgress}
    (h : drain.Settled) (hd : Drained state drain) (target : PartitionState) :
    Drained target drain :=
  ⟨fun hd ↦ absurd hd h.1, hd.completed, hd.bounded, hd.finished,
    fun hpos ↦ absurd h.2 (UInt32.pos_iff_ne_zero.mp hpos)⟩

/-- A drain that left nothing behind is in order in every state. -/
lemma drained_cleared (state : PartitionState) (drain : DrainProgress) :
    Drained state { drain with state := .notDraining, outstandingAssignments := 0 } :=
  ⟨fun h ↦ (by cases h), fun h ↦ (by cases h), UInt32.zero_le, fun h ↦ (by cases h),
    fun h ↦ absurd (show (0 : UInt32) < 0 from h) (by decide)⟩

/-- The record may be moved to a state: its drain is in order there, and a state that holds
capacity in whichever bucket has it finds one. -/
structure PartitionRecord.Movable (r : PartitionRecord) (target : PartitionState) : Prop where
  drained : Drained target r.drain
  held : target = .offline ∨ target = .destroying → r.heldBucket.isSome = true

lemma housed_bucketForState {target : PartitionState}
    (h : stateKeepsCurrentBucket target = false) : Housed target (bucketForState target) := by
  cases target <;> simp [stateKeepsCurrentBucket, Housed, bucketForState, holdsCapacity] at h ⊢

lemma Housed.keep {source target : PartitionState} {held : Option CapacityBucket}
    (h : Housed source held) (hkeep : stateKeepsCurrentBucket target = true)
    (hheld : target = .offline ∨ target = .destroying → held.isSome = true) :
    Housed target held := by
  have hholds : holdsCapacity target = true := by
    cases target <;> first | rfl | exact absurd hkeep (by decide)
  cases held with
  | some b => exact ⟨h.1, h.2.1, hholds⟩
  | none =>
      intro _
      cases target <;> simp [stateKeepsCurrentBucket] at hkeep hheld ⊢

lemma CapacityFollows.housed {r : PartitionRecord} {target : PartitionState}
    {ledger ledger' : CapacityLedger} {held : Option CapacityBucket}
    (h : CapacityFollows target r ledger ledger' held) (hr : Housed r.state r.heldBucket)
    (hmove : r.Movable target) : Housed target held := by
  cases hkeep : stateKeepsCurrentBucket target with
  | true =>
      rcases h with ⟨-, -, rfl⟩ | ⟨hno, -⟩
      · exact hr.keep hkeep hmove.held
      · exact absurd (hkeep.symm.trans hno) (by decide)
  | false =>
      have hheld : held = bucketForState target := by
        rcases h with ⟨hsame, -, rfl⟩ | ⟨-, hheld, -⟩
        · exact (hsame.resolve_left (by simp [hkeep])).symm
        · exact hheld
      rw [hheld]
      exact housed_bucketForState hkeep

namespace PartitionRecord

variable {r : PartitionRecord}

/-- The next generation is still to be had. -/
def Renewable (r : PartitionRecord) : Prop := r.generation ≠ uint64Max

lemma Coherent.supersede (h : r.Coherent) (hroom : r.Renewable) : r.supersede.Coherent := by
  have hnext : next r.generation = .ok (r.generation + 1) := by
    unfold next
    rw [if_neg hroom]
  have hlt : r.generation < r.generation + 1 := lt_add_one hroom
  have heq : r.supersede = { r with
      supersededGenerations := r.supersededGenerations ++ [r.generation]
      generation := r.generation + 1 } := by
    unfold PartitionRecord.supersede
    rw [hnext]
    simp [h.identified.2.1]
  rw [heq]
  obtain ⟨hid, hgeneration, haccelerator, hincarnation, hprofile, hresources⟩ := h.identified
  have hknown : known (r.generation + 1) = true := by
    have hpos : 0 < r.generation + 1 := lt_of_le_of_lt UInt64.zero_le hlt
    simpa [known] using (ne_of_gt hpos)
  refine ⟨⟨hid, hknown, haccelerator, hincarnation, hprofile, hresources⟩,
    ⟨fun g hg ↦ ?_, ?_⟩, h.housed, h.drained⟩
  · rcases List.mem_append.mp hg with hold | hnew
    · exact ⟨(h.dated.1 g hold).1, lt_trans (h.dated.1 g hold).2 hlt⟩
    · rw [List.mem_singleton.mp hnew]
      exact ⟨hgeneration, hlt⟩
  · refine List.Nodup.append h.dated.2 (List.nodup_singleton _) ?_
    intro g hg hnew
    have := (h.dated.1 g hg).2
    rw [List.mem_singleton.mp hnew] at this
    exact lt_irrefl _ this

/-- A state without capacity and a drain that is in order there. -/
lemma coherent_retired (hid : r.Identified) (hdated : r.Dated) (hstate : r.state = .retired)
    (hheld : r.heldBucket = none) (hdrain : Drained .retired r.drain) : r.Coherent := by
  refine ⟨hid, hdated, ?_, hstate ▸ hdrain⟩
  rw [hstate, hheld]
  exact fun h ↦ absurd h (by decide)

lemma Coherent.retire (h : r.Coherent) (hroom : r.Renewable) (hdrain : r.drain.Settled)
    (now : UInt64) (reason : Text) : (r.retire now reason).Coherent := by
  have hs := h.supersede hroom
  have hdrained : Drained .retired r.supersede.drain := by
    rw [r.supersede_drain]
    exact hdrain.drained h.drained .retired
  exact coherent_retired hs.identified hs.dated rfl rfl hdrained

/-- A record that was not live keeps a drain that is in order everywhere. -/
lemma Coherent.settled (h : r.Coherent) (hdraining : r.state ≠ .draining)
    (hactive : r.state ≠ .active) : r.drain.Settled :=
  h.drained.settled hdraining hactive

lemma Coherent.movable (h : r.Coherent) {target : PartitionState} (hdrain : r.drain.Settled)
    (htarget : target ≠ .offline ∧ target ≠ .destroying) : r.Movable target :=
  ⟨hdrain.drained h.drained target, fun ht ↦ absurd ht (by simp [htarget])⟩

end PartitionRecord

/-- The partition records stay as they are and no identity is handed out again. -/
structure Untouched (s t : FabricState) : Prop where
  partitions : t.partitions = s.partitions
  ids : s.ids.next ≤ t.ids.next

instance : Std.Refl Untouched := ⟨fun _ ↦ ⟨rfl, le_refl _⟩⟩

instance : IsTrans FabricState Untouched :=
  ⟨fun _ _ _ h h' ↦ ⟨h'.partitions.trans h.partitions, h.ids.trans h'.ids⟩⟩

/-- A relation that every step satisfies which leaves records and assignments alone. -/
class Apart (R : FabricState → FabricState → Prop) : Prop extends Std.Refl R,
    IsTrans FabricState R where
  apart : ∀ {s t : FabricState}, t.partitions = s.partitions → t.assignments = s.assignments →
    s.ids.next ≤ t.ids.next → R s t

instance : Apart Untouched where
  apart hpartitions _ hids := ⟨hpartitions, hids⟩

lemma untouched_dropAssignments {s : FabricState} {test : PartitionId → Bool} :
    Untouched s (dropAssignments test s) := by
  unfold dropAssignments
  generalize (s.assignments.values.filter fun a ↦ test a.partition).map PartitionAssignment.id = l
  induction l generalizing s with
  | nil => exact refl_of _ s
  | cons id rest ih =>
      have hone : Untouched s { s with assignments := s.assignments.erase id } := ⟨rfl, le_refl _⟩
      exact trans_of Untouched hone ih

section Apart

variable {R : FabricState → FabricState → Prop} [Apart R] {s : FabricState}

lemma apart_bump : R s s.bumpStateGeneration :=
  bump_of fun _ ↦ Apart.apart rfl rfl (le_refl _)

lemma apart_onLedger {id : AcceleratorId} {m : LedgerM Unit} :
    Advances R (onLedger id m) s := by
  unfold Advances onLedger
  cases s.findLedger id with
  | none => exact refl_of _ s
  | some l => exact Apart.apart rfl rfl (le_refl _)

lemma apart_allocateId : Advances R allocateId s := by
  unfold Advances
  rcases allocateId_cases s with ⟨e, h⟩ | ⟨ids, hlt, h⟩
  · rw [h]
    exact refl_of _ s
  · rw [h]
    exact Apart.apart rfl rfl (le_of_lt hlt)

lemma apart_checkOpen : Advances R checkOpen s := refl_of _ s

lemma apart_stableKeyOf {id : AcceleratorId} : Advances R (stableKeyOf id) s := by
  unfold Advances stableKeyOf
  cases s.stableKeys.find? id with
  | none => exact Apart.apart rfl rfl (le_refl _)
  | some key => exact refl_of _ s

lemma apart_setPolicy {policy : PlanningPolicy} : Advances R (setPolicy policy) s := by
  apply advances_lift_bind
  intro _ _
  apply advances_get_bind
  apply advances_lift_bind
  intro g _
  refine advances_modify_bind (Apart.apart rfl rfl (le_refl _)) ?_
  apply advances_bind
  · apply advances_forM
    intro key _ t _
    exact advances_modify (Apart.apart rfl rfl (le_refl _))
  · intro t _ _
    exact advances_modify apart_bump

lemma apart_registerProfile {profile : PartitionProfile} :
    Advances R (registerProfile profile) s := by
  refine advances_bind apart_checkOpen fun t _ _ ↦ advances_get_bind ?_
  refine advances_lift_bind fun _ _ ↦ advances_require_bind fun _ ↦ advances_require_bind fun _ ↦ ?_
  refine advances_modify_bind (Apart.apart rfl rfl (le_refl _)) ?_
  apply advances_bind
  · apply advances_forM
    intro key _ t _
    exact advances_modify (Apart.apart rfl rfl (le_refl _))
  · intro t _ _
    exact advances_modify apart_bump

lemma apart_fenceOutdated {id : AcceleratorId} {generation : CapabilityGeneration}
    {now : UInt64} {key : PartitionReservationId} :
    Advances R (fenceOutdated id generation now key) s := by
  apply advances_get_bind
  cases s.findReservation key with
  | none => exact advances_pure _ _
  | some r =>
      apply advances_when
      intro _
      refine advances_modify_bind (Apart.apart rfl rfl (le_refl _)) ?_
      exact advances_when fun _ ↦ advances_ignore apart_onLedger

lemma apart_identifyAccelerator {stableKey : Text} :
    Advances R (identifyAccelerator stableKey) s := by
  apply advances_get_bind
  cases s.keyIndex.find? stableKey with
  | some id => exact advances_pure _ _
  | none =>
      refine advances_require_bind fun _ ↦ advances_bind apart_allocateId fun t id _ ↦ ?_
      exact advances_modify_bind (Apart.apart rfl rfl (le_refl _)) (advances_pure _ _)

lemma apart_touchAccelerator {id : AcceleratorId} : R s (touchAccelerator id s) := by
  unfold touchAccelerator
  split
  · exact refl_of _ s
  · exact Apart.apart rfl rfl (le_refl _)

lemma apart_touchLedger {id : AcceleratorId} : R s (touchLedger id s) := by
  unfold touchLedger
  split
  · exact refl_of _ s
  · exact Apart.apart rfl rfl (le_refl _)

lemma apart_establishLedger {id : AcceleratorId} {existing : Bool} {totals : ResourceVector}
    {undo : FabricState → FabricState} (hundo : ∀ t, R t (undo t)) :
    Advances R (establishLedger id existing totals undo) s := by
  refine advances_modify_bind apart_touchLedger (advances_get_bind (advances_when fun _ ↦ ?_))
  refine advances_bind (advances_attempt apart_onLedger) fun t status _ ↦ ?_
  cases status with
  | ok _ => exact advances_pure _ _
  | error e => exact advances_modify_bind (hundo t) (advances_throw _ _)

lemma apart_undoRegistration {stableKey : Text} {id : AcceleratorId} {existing : Bool}
    {generation : AcceleratorGeneration} :
    R s (undoRegistration stableKey id existing generation s) := by
  unfold undoRegistration
  split
  · exact Apart.apart rfl rfl (le_refl _)
  · exact Apart.apart rfl rfl (le_refl _)

lemma apart_registerBackendProfile {profile : PartitionProfile} :
    Advances R (registerBackendProfile profile) s := by
  refine advances_get_bind (advances_lift_bind fun _ _ ↦ advances_require_bind fun _ ↦ ?_)
  exact advances_modify (Apart.apart rfl rfl (le_refl _))

lemma apart_updateHealth {id : AcceleratorId} {health : HealthEvidence} :
    Advances R (updateHealth id health) s := by
  refine advances_get_bind (advances_require_bind fun _ ↦ ?_)
  exact advances_modify_bind (Apart.apart rfl rfl (le_refl _)) (advances_modify apart_bump)

lemma apart_markEvidenceStale {id : AcceleratorId} :
    Advances R (markEvidenceStale id) s := by
  refine advances_get_bind (advances_require_bind fun _ ↦ ?_)
  refine advances_modify_bind (Apart.apart rfl rfl (le_refl _)) ?_
  apply advances_bind
  · apply advances_forM
    intro key _ t _
    exact advances_modify (Apart.apart rfl rfl (le_refl _))
  · intro t _ _
    exact advances_modify apart_bump

lemma apart_snapshot : Advances R snapshot s := by
  apply advances_modify
  cases next s.snapshotGeneration with
  | error e => exact refl_of _ s
  | ok g => exact Apart.apart rfl rfl (le_refl _)

lemma apart_bindAcceleratorWorker {id : AcceleratorId} {worker : WorkerId}
    {boot : WorkerBootId} : Advances R (bindAcceleratorWorker id worker boot) s := by
  apply advances_get_bind
  cases s.findWorker worker with
  | none => exact advances_throw _ _
  | some record =>
      refine advances_require_bind fun _ ↦ advances_require_bind fun _ ↦
        advances_require_bind fun _ ↦ ?_
      exact advances_modify (Apart.apart rfl rfl (le_refl _))

lemma apart_makePlanRoom : Advances R makePlanRoom s := by
  apply advances_get_bind
  apply advances_when
  intro _
  exact advances_modify_bind (Apart.apart rfl rfl (le_refl _)) (advances_get_bind (refl_of _ _))

lemma apart_registerPlan {plan : PartitionPlan} : Advances R (registerPlan plan) s := by
  refine advances_bind apart_allocateId fun t id _ ↦ ?_
  exact advances_modify_bind (Apart.apart rfl rfl (le_refl _)) (advances_pure _ _)

lemma apart_plan {request : PartitionRequest} {now : UInt64} :
    Advances R (plan request now) s := by
  refine advances_bind apart_checkOpen fun t _ _ ↦ advances_get_bind ?_
  simp only
  split
  · exact advances_pure _ _
  · refine advances_bind apart_makePlanRoom fun t _ _ ↦ advances_get_bind ?_
    exact apart_registerPlan

lemma apart_planOn {id : AcceleratorId} {request : PartitionRequest} {now : UInt64} :
    Advances R (planOn id request now) s :=
  advances_bind apart_plan fun _ _ _ ↦ advances_require_bind fun _ ↦ advances_pure _ _

lemma apart_planReconfiguration {id : AcceleratorId} {desired : List PlannedPartition}
    {context : PartitionRequest} {now : UInt64} :
    Advances R (planReconfiguration id desired context now) s := by
  refine advances_bind apart_checkOpen fun t _ _ ↦ ?_
  refine advances_bind apart_makePlanRoom fun t _ _ ↦ advances_get_bind ?_
  exact apart_registerPlan

lemma apart_discardPlan {id : PartitionPlanId} : Advances R (discardPlan id) s := by
  refine advances_get_bind (advances_require_bind fun _ ↦ ?_)
  exact advances_modify_bind (Apart.apart rfl rfl (le_refl _)) (advances_modify apart_bump)

lemma apart_bindReservation {id : PartitionReservationId} {worker : WorkerId}
    {boot : WorkerBootId} {epoch : CoordinatorEpoch} {now : UInt64} :
    Advances R (bindReservation id worker boot epoch now) s := by
  refine advances_get_bind (advances_require_bind fun _ ↦ ?_)
  exact advances_modify_bind (Apart.apart rfl rfl (le_refl _)) (advances_modify apart_bump)

lemma apart_noteWorkerSeen {worker : WorkerId} {boot : WorkerBootId} {atMs : UInt64} :
    Advances R (noteWorkerSeen worker boot atMs) s := by
  apply advances_get_bind
  cases s.findWorker worker with
  | none => exact advances_throw _ _
  | some record => exact advances_require_bind fun _ ↦ advances_modify (Apart.apart rfl rfl (le_refl _))

lemma apart_installCoordinatorEpoch {epoch : CoordinatorEpoch} :
    Advances R (installCoordinatorEpoch epoch) s := by
  refine advances_get_bind (advances_require_bind fun _ ↦ ?_)
  exact advances_modify_bind (Apart.apart rfl rfl (le_refl _)) (advances_modify apart_bump)

lemma apart_reopen {now : UInt64} : Advances R (reopen now) s := by
  have hone : R s { s with closed := false, openedAtMs := now } := Apart.apart rfl rfl (le_refl _)
  exact advances_modify_bind hone (advances_modify apart_bump)

lemma apart_makeReservationRoom : Advances R makeReservationRoom s := by
  apply advances_get_bind
  apply advances_when
  intro _
  exact advances_modify_bind (Apart.apart rfl rfl (le_refl _)) (advances_get_bind (refl_of _ _))

lemma apart_makeAttemptRoom : Advances R makeAttemptRoom s := by
  apply advances_get_bind
  apply advances_when
  intro _
  exact advances_modify_bind (Apart.apart rfl rfl (le_refl _)) (advances_get_bind (refl_of _ _))

lemma apart_holdCapacity {id : AcceleratorId} {hold : ResourceVector}
    {plan : PartitionPlanId} : Advances R (holdCapacity id hold plan) s := by
  apply advances_when
  intro _
  refine advances_bind (advances_attempt apart_onLedger) fun t status _ ↦ ?_
  cases status with
  | ok _ => exact advances_pure _ _
  | error e => exact advances_modify_bind (Apart.apart rfl rfl (le_refl _)) (advances_throw _ _)

lemma apart_createDestructiveReservationLocked {accelerator : AcceleratorRecord}
    {affected : List PartitionRecord} {hold : ResourceVector} {now : UInt64} :
    Advances R (createDestructiveReservationLocked accelerator affected hold now) s := by
  refine advances_bind apart_allocateId fun t planId _ ↦ ?_
  refine advances_bind apart_allocateId fun t id _ ↦ advances_get_bind ?_
  refine advances_modify_bind (Apart.apart rfl rfl (le_refl _)) (advances_require_bind fun _ ↦ ?_)
  refine advances_bind apart_holdCapacity fun t _ _ ↦ ?_
  refine advances_modify_bind (Apart.apart rfl rfl (le_refl _)) ?_
  exact advances_modify_bind apart_bump (advances_pure _ _)

end Apart

end PartitionFabric
