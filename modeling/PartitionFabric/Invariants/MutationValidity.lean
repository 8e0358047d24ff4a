import PartitionFabric.Invariants.RecordValidity

/-!
Dispatching a mutation and applying its result keep the partition records in order.

A mutation moves the records that its reservation lists. What has to hold of a listed record
before the step is said once for dispatch and once for the result.
-/

namespace PartitionFabric

open Procedure

variable {P Q : PartitionId → PartitionRecord → Prop} {s t : FabricState}

section Dispatch

variable {now : UInt64} {l : List PartitionId}

/-- The listed partitions may be moved to destruction where the lifecycle allows it. -/
def Removable (l : List PartitionId) (k : PartitionId) (r : PartitionRecord) : Prop :=
  k ∈ l → Allowed r.state .destroying →
    r.drain.Settled ∧ (r.state = .revalidationRequired → r.heldBucket.isSome = true)

lemma holdsCapacity_of_destroying {state : PartitionState} (h : Allowed state .destroying) :
    holdsCapacity state = true := by
  cases state <;> first | rfl | exact absurd h (by decide)

lemma eq_reserved_of_creating {state : PartitionState} (h : Allowed state .creating) :
    state = .reserved := by
  cases state <;> first | rfl | exact absurd h (by decide)

/-- A record without a bucket that may be destroyed is one that awaits revalidation. -/
lemma PartitionRecord.Coherent.held_of_destroying {r : PartitionRecord} (h : r.Coherent)
    (hallowed : Allowed r.state .destroying)
    (hheld : r.state = .revalidationRequired → r.heldBucket.isSome = true) :
    r.heldBucket.isSome = true := by
  cases hbucket : r.heldBucket with
  | some b => rfl
  | none =>
      have hhoused := h.housed
      rw [hbucket] at hhoused hheld
      exact hheld (hhoused (holdsCapacity_of_destroying hallowed))

lemma sound_beginDestroying {p : PartitionId} (hp : p ∈ l) :
    Advances (Preserves (Sound (Removable l))) (beginDestroying now p) s := by
  apply advances_get_bind
  cases s.findPartition p with
  | none => exact advances_throw _ _
  | some record =>
      apply sound_transition
      · intro r held _ _ hallowed
        exact absurd (show Allowed .destroying .destroying from hallowed) (by decide)
      · intro r _ hcoherent hremovable hallowed
        obtain ⟨hsettled, hheld⟩ := hremovable hp hallowed
        exact ⟨hsettled.drained hcoherent.drained _, fun _ ↦ hcoherent.held_of_destroying hallowed hheld⟩

lemma sound_beginCreating {reservation : PartitionReservation} {p : PartitionId} {index : ℕ}
    (hP : ∀ r held, P p r → P p { r with
      heldBucket := held
      state := .creating
      lastTransitionAtMs := now
      lastTransitionReason := "physical creation attempt registered" }) :
    Advances (Preserves (Sound P)) (beginCreating reservation now p index) s := by
  apply advances_get_bind
  cases s.findPartition p with
  | none => exact advances_throw _ _
  | some record =>
      apply advances_require_bind
      intro _
      apply sound_transition hP
      intro r _ hcoherent _ hallowed
      have hstate := eq_reserved_of_creating hallowed
      refine hcoherent.movable ?_ (by decide)
      exact hcoherent.settled (by rw [hstate]; decide) (by rw [hstate]; decide)

/-- What registering an attempt asks of the partitions of its reservation. -/
def Registrable (kind : AttemptKind) (l : List PartitionId) (k : PartitionId)
    (r : PartitionRecord) : Prop :=
  kind = .destroyPartition → Removable l k r

lemma sound_beginMutation {reservation : PartitionReservation} {kind : AttemptKind} :
    Advances (Preserves (Sound (Registrable kind reservation.partitions)))
      (beginMutation reservation kind now) s := by
  cases kind with
  | createPartition =>
      apply advances_forM
      rintro ⟨p, index⟩ _ t _
      exact sound_beginCreating fun _ _ _ h ↦ absurd h (by decide)
  | destroyPartition =>
      intro hs
      have hremovable : Sound (Removable reservation.partitions) s :=
        hs.mono fun _ _ _ _ h ↦ h rfl
      have hloop : Advances (Preserves (Sound (Removable reservation.partitions)))
          (reservation.partitions.forM (beginDestroying now)) s :=
        advances_forM fun p hp t _ ↦ sound_beginDestroying hp
      exact (hloop hremovable).mono fun _ _ _ _ h _ ↦ h
  | reconfigureLayout => exact advances_pure _ _

/-- Registering an attempt moves records only as its mutation begins. -/
lemma sound_registerAttemptLocked {key : PartitionReservationId}
    {reservation : PartitionReservation} {kind : AttemptKind} {worker : WorkerId}
    {boot : WorkerBootId}
    (hbegin : ∀ t, Advances (Preserves (Sound P)) (beginMutation reservation kind now) t) :
    Advances (Preserves (Sound P))
      (registerAttemptLocked key reservation kind worker boot now) s := by
  apply advances_bind (sound_of_untouched apart_makeAttemptRoom)
  intro t _ _
  apply advances_get_bind
  apply advances_require_bind
  intro _
  apply advances_bind (sound_of_untouched apart_allocateId)
  intro u id _
  apply advances_bind (hbegin u)
  intro v _ _
  apply advances_get_bind
  apply advances_lift_bind
  intro _ _
  refine advances_modify_bind (Untouched.sound ⟨rfl, le_refl _⟩) ?_
  refine advances_modify_bind (Untouched.sound ⟨rfl, le_refl _⟩) ?_
  exact advances_bind sound_bump fun _ _ _ ↦ advances_pure _ _

lemma sound_registerAttempt {id : PartitionReservationId} {kind : AttemptKind}
    {worker : WorkerId} {boot : WorkerBootId} (hs : Sound Any s)
    (h : ∀ reservation, s.findReservation id = some reservation →
      Sound (Registrable kind reservation.partitions) s) :
    Sound Any (registerAttempt id kind worker boot now s).1 := by
  unfold registerAttempt
  rw [get_bind]
  cases hfind : s.findReservation id with
  | none => exact hs
  | some reservation =>
      simp only
      rw [require_bind]
      split
      · exact (sound_registerAttemptLocked (fun _ ↦ sound_beginMutation) (h reservation hfind)).any
      · exact hs

lemma sound_dispatchCreation {id : PartitionReservationId} {reservation : PartitionReservation}
    {plan : PartitionPlan} {accelerator : AcceleratorRecord} :
    Advances (Preserves (Sound Any)) (dispatchCreation id reservation plan accelerator now) s := by
  apply advances_bind
  · apply sound_registerAttemptLocked
    intro t
    apply advances_forM
    rintro ⟨p, index⟩ _ u _
    exact sound_beginCreating fun _ _ _ ↦ trivial
  intro t attempt _
  apply advances_bind (sound_of_untouched apart_stableKeyOf)
  intro u key _
  exact advances_get_bind (advances_pure _ _)

/-- Judged on the room for supersessions, whatever else the operation goes on to do. -/
lemma sound_of_spacious {α β : Type} {m : FabricM α} {f : α → FabricM β}
    (hm : Advances (Preserves (Spacious (Calm fun _ ↦ False))) m s)
    (hf : ∀ a t, Advances (Preserves (Sound Any)) (f a) t)
    (hs : Spacious (Calm fun _ ↦ False) s) : Sound Any ((m >>= f) s).1 := by
  have hrun := hm hs
  apply bind_fst
  · intro t e ht
    rw [ht] at hrun
    exact hrun.sound.any
  · intro t a ht
    rw [ht] at hrun
    exact hf a t hrun.sound.any

lemma sound_fenceAndThrow {α : Type} {id : PartitionReservationId} {reason : Text} {e : Error}
    (hs : Spacious (Calm fun _ ↦ False) s) :
    Sound Any ((fenceAndThrow id reason now e : FabricM α) s).1 :=
  sound_of_spacious (advances_ignore spacious_fenceReservationLocked)
    (fun _ _ ↦ advances_throw _ _) hs

lemma sound_executeBound {id : PartitionReservationId} {reservation : PartitionReservation}
    {plan : PartitionPlan} (hs : Spacious (Calm fun _ ↦ False) s) :
    Sound Any (executeBound id reservation plan now s).1 := by
  unfold executeBound
  rw [get_bind]
  cases s.findAccelerator reservation.accelerator with
  | none => exact hs.sound.any
  | some accelerator =>
      simp only
      split
      · exact sound_fenceAndThrow hs
      split
      · exact sound_fenceAndThrow hs
      split
      · exact sound_fenceAndThrow hs
      split
      · exact sound_of_spacious (advances_ignore spacious_releaseReservationLocked)
          (fun _ _ ↦ advances_throw _ _) hs
      · rw [require_bind]
        split
        · exact sound_dispatchCreation hs.sound.any
        · exact hs.sound.any

lemma sound_execute {id : PartitionReservationId} (hs : Spacious (Calm fun _ ↦ False) s) :
    Sound Any (execute id now s).1 := by
  unfold execute
  apply bind_fst
  · intro t e ht
    obtain rfl := (Prod.mk.inj ht).1
    exact hs.sound.any
  intro t _ ht
  obtain rfl := (Prod.mk.inj ht).1
  rw [get_bind]
  cases s.findReservation id with
  | none => exact hs.sound.any
  | some reservation =>
      simp only
      rw [require_bind]
      split
      swap
      · exact hs.sound.any
      rw [require_bind]
      split
      swap
      · exact hs.sound.any
      cases s.plans.find? reservation.plan with
      | none => exact hs.sound.any
      | some plan =>
          simp only
          cases validatePlanBinding s plan now s.policy.requireFreshEvidence with
          | error e =>
              simp only
              rw [modify_bind]
              exact sound_fenceAndThrow (hs.of_untouched ⟨rfl, le_refl _⟩ rfl)
          | ok u => exact sound_executeBound hs

lemma sound_reserveDestruction {p : PartitionId} {stale : Text}
    (h : ∀ r, s.findPartition p = some r → destructionSafe s r = true → r.drain.Settled) :
    Advances (Preserves (Sound Any)) (reserveDestruction p now stale) s := by
  apply advances_bind (sound_of_untouched apart_checkOpen)
  intro t _ ht
  obtain rfl : s = t := (Prod.mk.inj ht).1
  apply advances_get_bind
  cases hfind : s.findPartition p with
  | none => exact advances_throw _ _
  | some record =>
      apply advances_require_bind
      intro _
      apply advances_require_bind
      intro _
      apply advances_require_bind
      intro hsafe
      cases s.findAccelerator record.accelerator with
      | none => exact advances_throw _ _
      | some accelerator =>
          apply advances_ite
          · intro _
            apply advances_bind
            · apply advances_ignore
              apply sound_transition fun _ _ _ ↦ trivial
              intro r hr hcoherent _ _
              obtain rfl := Option.some.inj (hfind.symm.trans hr)
              exact hcoherent.movable (h record hr hsafe) (by decide)
            · intro u _ _
              exact advances_throw _ _
          · intro _
            apply advances_bind (sound_of_untouched apart_createDestructiveReservationLocked)
            intro u _ _
            exact advances_pure _ _

/-- Reserving a destruction leaves the records alone when it succeeds. -/
lemma reserveDestruction_untouched {p : PartitionId} {stale : Text} :
    Ensures (fun _ t ↦ Untouched s t) (reserveDestruction p now stale) s := by
  apply ensures_bind
  intro t _ ht
  obtain rfl : s = t := (Prod.mk.inj ht).1
  apply ensures_get_bind
  cases s.findPartition p with
  | none => exact ensures_throw _ _
  | some record =>
      refine ensures_bind fun t _ ht ↦ ensures_bind fun u _ hu ↦ ensures_bind fun v _ hv ↦ ?_
      obtain ⟨rfl, -⟩ := require_eq_ok ht
      obtain ⟨rfl, -⟩ := require_eq_ok hu
      obtain ⟨rfl, -⟩ := require_eq_ok hv
      cases s.findAccelerator record.accelerator with
      | none => exact ensures_throw _ _
      | some accelerator =>
          simp only
          split
          · exact ensures_bind fun _ _ _ ↦ ensures_throw _ _
          · apply ensures_bind
            intro w reservation hr
            have huntouched : Untouched s
                (createDestructiveReservationLocked accelerator [record] {} now s).1 :=
              apart_createDestructiveReservationLocked
            rw [hr] at huntouched
            exact ensures_pure huntouched

lemma sound_destroyPartition {p : PartitionId}
    (h : ∀ r, s.findPartition p = some r → destructionSafe s r = true →
      r.drain.Settled ∧ (r.state = .revalidationRequired → r.heldBucket.isSome = true)) :
    Advances (Preserves (Sound Any)) (destroyPartition p now) s := by
  have hreserve : Advances (Preserves (Sound Any)) (reserveDestruction p now
      "device generation changed before destruction was dispatched") s :=
    sound_reserveDestruction fun r hr hsafe ↦ (h r hr hsafe).1
  intro hs
  apply bind_fst
  · intro t e ht
    have := hreserve hs
    rw [ht] at this
    exact this
  intro t entry ht
  obtain ⟨hrecord, hsafe, hunbound⟩ := reserveDestruction_safe t entry ht
  have huntouched := reserveDestruction_untouched t entry ht
  obtain ⟨accelerator, record, reservation⟩ := entry
  have hid : record.id = p := (hs.records p record hrecord).1
  -- the record is still as it was when its destruction was found to be safe
  have hregistrable : Sound (Registrable .destroyPartition reservation.partitions) t := by
    refine (hs.of_untouched huntouched).mono fun k r hr _ _ _ hk _ ↦ ?_
    rw [hunbound.partitions, List.mem_singleton, hid] at hk
    subst hk
    rw [huntouched.partitions] at hr
    obtain rfl := Option.some.inj (hrecord.symm.trans hr)
    exact h record hrecord hsafe
  have hrest : Advances (Preserves (Sound (Registrable .destroyPartition reservation.partitions)))
      (do
        let attempt ← registerAttemptLocked reservation.id reservation .destroyPartition 0 0 now
        let stableKey ← stableKeyOf accelerator.id
        let s ← Procedure.get
        pure { requestFor s accelerator attempt stableKey with
          destructive := true
          removeNativeIds := [record.nativeIdentity.nativeId] } : FabricM PartitionMutationRequest)
      t := by
    apply advances_bind (sound_registerAttemptLocked fun _ ↦ sound_beginMutation)
    intro u attempt _
    apply advances_bind (sound_of_untouched apart_stableKeyOf)
    intro v key _
    exact advances_get_bind (advances_pure _ _)
  exact (hrest hregistrable).any

lemma sound_createDestructionReservation {p : PartitionId}
    (h : ∀ r, s.findPartition p = some r → destructionSafe s r = true → r.drain.Settled) :
    Advances (Preserves (Sound Any)) (createDestructionReservation p now) s := by
  apply advances_bind (sound_reserveDestruction h)
  intro t entry _
  exact advances_pure _ _

lemma sound_dispatchReconfiguration {planId : PartitionPlanId} {plan : PartitionPlan}
    {accelerator : AcceleratorRecord} {affected : List PartitionRecord} {hold : ResourceVector} :
    Advances (Preserves (Sound (Calm fun k ↦ k ∈ affected.map PartitionRecord.id)))
      (dispatchReconfiguration planId plan accelerator affected hold now) s := by
  apply advances_bind (sound_of_untouched apart_createDestructiveReservationLocked)
  intro t reservation _
  refine advances_modify_bind (Untouched.sound ⟨rfl, le_refl _⟩) ?_
  apply advances_bind
  · apply advances_forM
    intro record hrecord u _
    apply sound_transition (steady_calm.lasting.transition _ _ _ _)
    intro r _ hcoherent hcalm _
    exact hcoherent.movable (hcalm (List.mem_map_of_mem hrecord)) (by decide)
  intro u _ _
  apply advances_bind (sound_registerAttemptLocked fun _ ↦ advances_pure _ _)
  intro v attempt _
  apply advances_bind (sound_of_untouched apart_stableKeyOf)
  intro w key _
  apply advances_get_bind
  exact advances_modify_bind (Untouched.sound ⟨rfl, le_refl _⟩) (advances_pure _ _)

/-- A reconfiguration replaces records of the layout that nothing occupies. -/
lemma replacedBy_ok {id : AcceleratorId} {affected : List PartitionRecord}
    (h : replacedBy s id = .ok affected) : ∀ r ∈ affected,
      r ∈ s.partitionsOf id ∧ inLayout r = true ∧ destructionSafe s r = true := by
  unfold replacedBy at h
  simp only at h
  split at h
  · exact absurd h (failure_ne_ok _ _ _ _)
  · rename_i hnone
    obtain rfl := Except.ok.inj h
    intro r hr
    obtain ⟨hof, hlayout⟩ := List.mem_filter.mp hr
    have hsafe := List.find?_eq_none.mp hnone r hr
    exact ⟨hof, hlayout, by simpa using hsafe⟩

lemma mem_partitionsOf {id : AcceleratorId} {r : PartitionRecord} :
    r ∈ s.partitionsOf id ↔ (∃ k, s.partitions.find? k = some r) ∧ r.accelerator = id := by
  unfold FabricState.partitionsOf
  rw [List.mem_filter, KeyedMap.mem_values, decide_eq_true_eq]

lemma sound_executeReconfiguration {planId : PartitionPlanId}
    (h : ∀ plan accelerator, s.plans.find? planId = some plan →
      s.findAccelerator plan.binding.accelerator = some accelerator →
      ∀ r ∈ s.partitionsOf accelerator.id, inLayout r = true → destructionSafe s r = true →
        r.drain.Settled) :
    Advances (Preserves (Sound Any)) (executeReconfiguration planId now) s := by
  apply advances_bind (sound_of_untouched apart_checkOpen)
  intro t _ ht
  obtain rfl : s = t := (Prod.mk.inj ht).1
  apply advances_get_bind
  cases hplan : s.plans.find? planId with
  | none => exact advances_throw _ _
  | some plan =>
      apply advances_require_bind
      intro _
      cases validatePlanBinding s plan now s.policy.requireFreshEvidence with
      | error e => exact advances_modify_bind (Untouched.sound ⟨rfl, le_refl _⟩) (advances_throw _ _)
      | ok u =>
          simp only
          cases haccelerator : s.findAccelerator plan.binding.accelerator with
          | none => exact advances_throw _ _
          | some accelerator =>
              apply advances_require_bind
              intro _
              apply advances_lift_bind
              intro affected haffected
              apply advances_lift_bind
              intro target _
              apply advances_lift_bind
              intro held _
              apply advances_lift_bind
              intro hold _ hs
              have hcalm : Sound (Calm fun k ↦ k ∈ affected.map PartitionRecord.id) s := by
                refine hs.mono fun k r hr _ _ hk ↦ ?_
                obtain ⟨r', hr', rfl⟩ := List.mem_map.mp hk
                obtain ⟨hof, hlayout, hsafe⟩ := replacedBy_ok haffected r' hr'
                -- the record stands under its own identity
                obtain ⟨⟨k', hk'⟩, -⟩ := mem_partitionsOf.mp hof
                have hid := (hs.records k' r' hk').1
                rw [hid] at hr
                obtain rfl := Option.some.inj (hk'.symm.trans hr)
                exact h plan accelerator hplan haccelerator r' hof hlayout hsafe
              exact (sound_dispatchReconfiguration hcalm).any

end Dispatch

section Apply

variable {now : UInt64} {e : CommitEvidence} {L : List PartitionId} {n : ℕ}

lemma Steady.room (h : Steady Q) : Steady (Room L n Q) := by
  intro k r r' hdrain hgeneration hr
  refine ⟨h k r r' hdrain hgeneration hr.1, fun hk ↦ ?_⟩
  rw [hgeneration]
  exact hr.2 hk

/-- Moves every listed partition to a state in which its drain is in order. -/
lemma sound_moveListed {target : PartitionState} {reason : Text} (hP : Steady P)
    (htarget : target ≠ .offline ∧ target ≠ .destroying)
    (h : ∀ p ∈ L, ∀ r, P p r → r.drain.Settled) :
    Advances (Preserves (Sound P))
      (L.forM fun p ↦ Procedure.ignore (transitionPartition now p target reason)) s := by
  apply advances_forM
  intro p hp t _
  apply advances_ignore
  apply sound_transition (hP.lasting.transition _ _ _ _)
  intro r _ hcoherent hr _
  exact hcoherent.movable (h p hp r hr) htarget

lemma sound_publishCreated {desired : List PlannedPartition} {l : List (PartitionId × ℕ)}
    {claimed : List Text} (hP : Steady P)
    (h : ∀ entry ∈ l, ∀ r, P entry.1 r → r.drain.Settled) :
    Advances (Preserves (Sound P)) (publishCreated e desired l claimed) s := by
  induction l generalizing s claimed with
  | nil => exact advances_pure _ _
  | cons entry rest ih =>
      obtain ⟨p, index⟩ := entry
      have hrest : ∀ entry ∈ rest, ∀ r, P entry.1 r → r.drain.Settled :=
        fun entry hentry ↦ h entry (List.mem_cons_of_mem _ hentry)
      unfold publishCreated
      apply advances_get_bind
      cases s.findPartition p with
      | none => exact ih hrest
      | some record =>
          refine advances_modify_bind (sound_bindFound hP) ?_
          refine advances_modify_bind (sound_stampPartitionEvidence hP.lasting) ?_
          apply advances_bind
          · apply advances_ignore
            apply sound_transition (hP.lasting.transition _ _ _ _)
            intro r _ hcoherent hr _
            exact hcoherent.movable (h (p, index) List.mem_cons_self r hr) (by decide)
          intro t _ _
          refine advances_modify_bind (sound_modifyPartition fun r _ hr hp ↦ ?_) (ih hrest)
          exact ⟨rfl, ⟨hr.identified, hr.dated, hr.housed, hr.drained⟩, hP p r _ rfl rfl hp⟩

lemma sound_retireDestroyed {p : PartitionId} (hQ : Steady Q) (hp : p ∈ L)
    (hcalm : ∀ r, Q p r → r.drain.Settled)
    (hsupersede : ∀ r, Q p r → Q p r.supersede) (hs : Sound (Room L (n + 1) Q) s) :
    Sound (Room L n Q) (retireDestroyed now p s).1 := by
  have hmove : Advances (Preserves (Sound (Room L (n + 1) Q)))
      (transitionPartition now p .retired "physical destruction verified") s := by
    apply sound_transition (hQ.room.lasting.transition _ _ _ _)
    intro r _ hcoherent hr _
    exact hcoherent.movable (hcalm r hr.1) (by decide)
  unfold retireDestroyed
  apply bind_fst
  · intro t e ht
    exact absurd (Prod.mk.inj ht).2 (by simp)
  intro t status ht
  have hsound := hmove hs
  obtain rfl : (transitionPartition now p .retired "physical destruction verified" s).1 = t :=
    (Prod.mk.inj ht).1
  cases status with
  | error e => exact hsound.room_mono (Nat.le_succ n)
  | ok u =>
      apply sound_renew hp _ hsound
      intro r hcoherent hq hroom
      exact ⟨r.supersede_id, hcoherent.supersede hroom, hsupersede r hq,
        le_of_eq (PartitionRecord.supersede_generation hroom)⟩

lemma Calm.supersede {A : PartitionId → Prop} {k : PartitionId} {r : PartitionRecord}
    (h : Calm A k r) : Calm A k r.supersede := by
  intro hk
  rw [r.supersede_drain]
  exact h hk

/-- What applying the result of an attempt asks of the partitions it lists. -/
def Applicable (attempt : PartitionAttempt) : PartitionId → PartitionRecord → Prop :=
  Room attempt.partitions attempt.partitions.length (Calm fun k ↦ k ∈ attempt.partitions)

lemma steady_applicable {attempt : PartitionAttempt} : Steady (Applicable attempt) :=
  steady_calm.room

lemma Applicable.settled {attempt : PartitionAttempt} {p : PartitionId}
    (hp : p ∈ attempt.partitions) (r : PartitionRecord) (h : Applicable attempt p r) :
    r.drain.Settled := h.1 hp

lemma sound_commitPartitions {attempt : PartitionAttempt} (hs : Sound (Applicable attempt) s) :
    Sound Any (commitPartitions e attempt s).1 := by
  unfold commitPartitions
  cases attempt.kind with
  | createPartition =>
      refine (sound_publishCreated steady_applicable ?_ hs).any
      intro entry hentry r hr
      exact Applicable.settled (List.fst_mem_of_mem_zipIdx hentry) r hr
  | destroyPartition =>
      have hloop : Sound (Room attempt.partitions 0 (Calm fun k ↦ k ∈ attempt.partitions))
          (attempt.partitions.forM (retireDestroyed e.now) s).1 := by
        apply sound_forM_room
        · intro p hp m t ht
          exact sound_retireDestroyed steady_calm hp (fun r hr ↦ hr hp) (fun r hr ↦ hr.supersede) ht
        · exact hs
      exact hloop.any
  | reconfigureLayout => exact hs.any

lemma sound_settleAttempt {key : PartitionAttemptId} {state : AttemptState} {detail : Text} :
    Preserves (Sound P) s (settleAttempt key state detail now s) :=
  Untouched.sound ⟨rfl, le_refl _⟩

lemma sound_commitMutation {key : PartitionAttemptId} {attempt : PartitionAttempt}
    {detail : Text} {outcome : MutationOutcome} (hs : Sound (Applicable attempt) s) :
    Sound Any (commitMutation e key attempt detail outcome s).1 := by
  have hcommit := sound_commitPartitions (e := e) hs
  apply bind_fst
  · intro t err ht
    rw [ht] at hcommit
    exact hcommit
  intro t _ ht
  rw [ht] at hcommit
  have hrest : Advances (Preserves (Sound Any)) (do
      Procedure.modify (settleAttempt key .succeeded detail e.now)
      Procedure.modify (commitReservation attempt.reservation e.now)
      Procedure.modify FabricState.bumpStateGeneration
      pure { outcome with
        state := .succeeded
        committed := true
        verifiedPhysically := true
        message := "mutation verified against freshly observed physical state" } :
      FabricM MutationOutcome) t := by
    refine advances_modify_bind sound_settleAttempt ?_
    refine advances_modify_bind (Untouched.sound ⟨rfl, le_refl _⟩) ?_
    exact advances_bind sound_bump fun _ _ _ ↦ advances_pure _ _
  exact hrest hcommit

lemma sound_loseMutation {key : PartitionAttemptId} {attempt : PartitionAttempt} {detail : Text}
    {outcome : MutationOutcome} :
    Advances (Preserves (Sound (Calm fun k ↦ k ∈ attempt.partitions)))
      (loseMutation key attempt detail now outcome) s := by
  refine advances_modify_bind sound_settleAttempt ?_
  refine advances_modify_bind (Untouched.sound ⟨rfl, le_refl _⟩) ?_
  apply advances_bind
  · apply advances_forM
    intro p hp t _
    exact sound_revalidateUnknown hp
  intro t _ _
  exact advances_bind sound_bump fun _ _ _ ↦ advances_pure _ _

lemma sound_failMutation {key : PartitionAttemptId} {attempt : PartitionAttempt}
    {reservation : PartitionReservation} {detail : Text} {outcome : MutationOutcome} :
    Advances (Preserves (Sound (Calm fun k ↦ k ∈ attempt.partitions)))
      (failMutation key attempt reservation detail now outcome) s := by
  refine advances_modify_bind sound_settleAttempt ?_
  refine advances_modify_bind (Untouched.sound ⟨rfl, le_refl _⟩) ?_
  apply advances_bind
  · apply advances_when
    intro _
    apply advances_bind (sound_moveListed steady_calm (by decide) fun p hp r hr ↦ hr hp)
    intro t _ _
    exact advances_modify (Untouched.sound ⟨rfl, le_refl _⟩)
  intro t _ _
  apply advances_bind
  · apply advances_when
    intro _
    exact sound_moveListed steady_calm (by decide) fun p hp r hr ↦ hr hp
  intro u _ _
  exact advances_bind sound_bump fun _ _ _ ↦ advances_pure _ _

/-- The records that a reconfiguration would create are in order. -/
structure WellPlanned (s : FabricState) (accelerator : AcceleratorRecord)
    (l : List PlannedPartition) : Prop where
  accelerator : valid accelerator.id = true ∧ known accelerator.generation = true
  resources : ∀ planned ∈ l, planned.resources.empty = false
  profiles : ∀ planned ∈ l, ∀ profile, s.findProfile planned.profile = some profile →
    valid profile.id = true

lemma coherent_reconfiguredRecord {accelerator : AcceleratorRecord} {profile : PartitionProfile}
    {planned : PlannedPartition} {id : PartitionId} {provenance : EvidenceProvenance}
    (hid : valid id = true)
    (haccelerator : valid accelerator.id = true ∧ known accelerator.generation = true)
    (hprofile : valid profile.id = true) (hresources : planned.resources.empty = false) :
    (reconfiguredRecord accelerator profile planned id now provenance).Coherent := by
  refine ⟨⟨hid, rfl, haccelerator.1, haccelerator.2, hprofile, hresources⟩, ⟨?_, ?_⟩,
    ⟨by decide, by decide, rfl⟩, ?_⟩
  · intro g hg
    exact absurd hg List.not_mem_nil
  · exact List.nodup_nil
  · exact drained_cleared .active {}

lemma stamp_frame {p : PartitionId} :
    (e.stamp p s).profiles = s.profiles ∧ (e.stamp p s).ids = s.ids := by
  unfold CommitEvidence.stamp stampPartitionEvidence
  cases next s.evidenceGeneration <;> exact ⟨rfl, rfl⟩

lemma bindFound_frame {p : PartitionId} {backend : Text}
    {found : Option (BackendLayout × BackendNativePartition)} :
    (bindFound p backend found s).profiles = s.profiles ∧
      (bindFound p backend found s).ids = s.ids := by
  unfold bindFound
  cases found <;> exact ⟨rfl, rfl⟩

lemma sound_recordReconfigured {l : List PlannedPartition} {claimed : List Text}
    {ids : List PartitionId} (h : WellPlanned s e.accelerator l) (hids : 0 < s.ids.next) :
    Advances (Preserves (Sound Any)) (recordReconfigured e l claimed ids) s := by
  induction l generalizing s claimed ids with
  | nil => exact advances_pure _ _
  | cons planned rest ih =>
      have hrest : ∀ t : FabricState, t.profiles = s.profiles → WellPlanned t e.accelerator rest := by
        intro t ht
        refine ⟨h.accelerator, fun q hq ↦ h.resources q (List.mem_cons_of_mem _ hq), ?_⟩
        intro q hq profile hprofile
        rw [FabricState.findProfile, ht] at hprofile
        exact h.profiles q (List.mem_cons_of_mem _ hq) profile hprofile
      unfold recordReconfigured
      apply advances_get_bind
      cases hprofile : s.findProfile planned.profile with
      | none => exact ih (hrest s rfl) hids
      | some profile =>
          apply advances_bind (advances_attempt (sound_of_untouched apart_allocateId))
          intro t status halloc
          cases status with
          | error err => exact advances_pure _ _
          | ok id =>
              obtain ⟨rfl, hlt, fresh, rfl⟩ := allocateId_eq_ok (attempt_eq_ok halloc)
              have hvalid : valid s.ids.next = true := by
                simpa [valid] using ne_of_gt hids
              have hcoherent : (reconfiguredRecord e.accelerator profile planned s.ids.next e.now
                  e.provenance).Coherent :=
                coherent_reconfiguredRecord hvalid h.accelerator
                  (h.profiles planned List.mem_cons_self profile hprofile)
                  (h.resources planned List.mem_cons_self)
              refine advances_modify_bind (sound_insertPartition rfl hcoherent trivial) ?_
              refine advances_modify_bind (sound_bindFound steady_any) ?_
              refine advances_modify_bind (sound_stampPartitionEvidence steady_any.lasting) ?_
              apply ih
              · apply hrest
                rw [stamp_frame.1, bindFound_frame.1]
              · rw [stamp_frame.2, bindFound_frame.2]
                exact lt_trans hids hlt

lemma profiles_dropAssignments {test : PartitionId → Bool} :
    (dropAssignments test s).profiles = s.profiles := by
  unfold dropAssignments
  generalize (s.assignments.values.filter fun a ↦ test a.partition).map PartitionAssignment.id = l
  induction l generalizing s with
  | nil => rfl
  | cons id rest ih => rw [List.foldl_cons, ih]

lemma sound_replaceRecords {attempt : PartitionAttempt} {plan : PartitionPlan}
    {working : CapacityLedger} (h : WellPlanned s e.accelerator plan.plannedPartitions)
    (hs : Sound (Room attempt.partitions attempt.partitions.length Any) s) :
    Sound Any (replaceRecords e attempt plan working s).1 := by
  unfold replaceRecords
  rw [modify_bind]
  have hset : Sound (Room attempt.partitions (attempt.partitions.length + 0) Any)
      (s.setLedger attempt.accelerator working) := hs.of_untouched ⟨rfl, le_refl _⟩
  have hretired : Sound (Room attempt.partitions 0 Any)
      (attempt.partitions.foldl (fun t p ↦ retireReplaced e.now p t)
        (s.setLedger attempt.accelerator working)) := by
    have hloop : Sound (Room attempt.partitions 0 Any) (attempt.partitions.forM
        (fun p ↦ Procedure.modify (retireReplaced e.now p) : PartitionId → FabricM Unit)
        (s.setLedger attempt.accelerator working)).1 := by
      refine sound_forM_room (fun p hp m t ht ↦ ?_) hset
      refine sound_renew hp (fun r hcoherent _ hroom ↦ ?_) ht
      have hsuperseded := hcoherent.supersede hroom
      refine ⟨r.supersede_id, ?_, trivial, le_of_eq (PartitionRecord.supersede_generation hroom)⟩
      exact PartitionRecord.coherent_retired hsuperseded.identified hsuperseded.dated rfl rfl
        (drained_cleared .retired r.drain)
    rw [forM_modify] at hloop
    exact hloop
  have hprofiles : (attempt.partitions.foldl (fun t p ↦ retireReplaced e.now p t)
      (s.setLedger attempt.accelerator working)).profiles = s.profiles := by
    have hkeeps : Advances (Keeps FabricState.profiles) (attempt.partitions.forM
        (fun p ↦ Procedure.modify (retireReplaced e.now p) : PartitionId → FabricM Unit))
        (s.setLedger attempt.accelerator working) :=
      advances_forM fun _ _ _ _ ↦ advances_modify rfl
    unfold Advances at hkeeps
    rw [forM_modify] at hkeeps
    exact hkeeps
  rw [bind_ok (forM_modify (fun p t ↦ retireReplaced e.now p t) attempt.partitions _), modify_bind]
  have hdropped : Sound Any (dropAssignments attempt.partitions.contains
      (attempt.partitions.foldl (fun t p ↦ retireReplaced e.now p t)
        (s.setLedger attempt.accelerator working))) :=
    hretired.any.of_untouched untouched_dropAssignments
  refine sound_recordReconfigured ⟨h.accelerator, h.resources, ?_⟩ hdropped.ids hdropped
  intro planned hplanned profile hprofile
  rw [FabricState.findProfile, profiles_dropAssignments, hprofiles] at hprofile
  exact h.profiles planned hplanned profile hprofile

lemma sound_commitReconfiguration {key : PartitionAttemptId} {attempt : PartitionAttempt}
    {plan : PartitionPlan} {working : CapacityLedger} {detail : Text} {outcome : MutationOutcome}
    (h : WellPlanned s e.accelerator plan.plannedPartitions)
    (hs : Sound (Applicable attempt) s) :
    Sound Any (commitReconfiguration e key attempt plan working detail outcome s).1 := by
  have hreplaced : Sound Any (replaceRecords e attempt plan working s).1 :=
    sound_replaceRecords h (hs.mono fun _ _ _ _ hr ↦ ⟨trivial, hr.2⟩)
  unfold commitReconfiguration
  apply bind_fst
  · intro t err ht
    rw [ht] at hreplaced
    exact hreplaced
  intro t ids ht
  rw [ht] at hreplaced
  revert hreplaced
  refine advances_modify_bind (R := Preserves (Sound Any)) sound_settleAttempt ?_
  refine advances_modify_bind (Untouched.sound ⟨rfl, le_refl _⟩) ?_
  exact advances_bind sound_bump fun _ _ _ ↦ advances_pure _ _

lemma sound_refuseReconfiguration {key : PartitionAttemptId} {attempt : PartitionAttempt}
    {err : Error} {outcome : MutationOutcome} (hs : Sound (Applicable attempt) s) :
    Sound Any ((do
      let outcome ← failAttempt key
        (("reconfiguration accounting did not close: " : Text) ++ err.toText) now outcome
      attempt.partitions.forM fun p ↦ Procedure.ignore (transitionPartition now p
        .revalidationRequired "reconfiguration accounting did not close")
      Procedure.modify FabricState.bumpStateGeneration
      pure outcome : FabricM MutationOutcome) s).1 := by
  refine Sound.any (P := Applicable attempt) ?_
  revert hs
  apply advances_bind (R := Preserves (Sound (Applicable attempt)))
  · exact advances_modify_bind sound_settleAttempt (advances_pure _ _)
  intro t outcome _
  apply advances_bind
  · exact sound_moveListed steady_applicable (by decide) fun p hp r hr ↦
      Applicable.settled hp r hr
  intro u _ _
  exact advances_bind sound_bump fun _ _ _ ↦ advances_pure _ _

lemma sound_settleReconfiguration {key : PartitionAttemptId} {attempt : PartitionAttempt}
    {reservation : PartitionReservation} {detail : Text} {outcome : MutationOutcome}
    (h : ∀ plan, s.plans.find? reservation.plan = some plan →
      WellPlanned s e.accelerator plan.plannedPartitions)
    (hs : Sound (Applicable attempt) s) :
    Sound Any (settleReconfiguration e key attempt reservation detail outcome s).1 := by
  unfold settleReconfiguration
  rw [get_bind]
  have hlost : Sound Any (failAttempt key
      "reconfiguration cannot be committed without a ledger and a plan" e.now outcome s).1 := by
    have hrest : Advances (Preserves (Sound Any)) (failAttempt key
        "reconfiguration cannot be committed without a ledger and a plan" e.now outcome) s :=
      advances_modify_bind sound_settleAttempt (advances_pure _ _)
    exact hrest hs.any
  cases hledger : s.findLedger attempt.accelerator with
  | none => exact hlost
  | some ledger =>
      cases hplan : s.plans.find? reservation.plan with
      | none => exact hlost
      | some plan =>
          simp only
          rcases hrun : replaceLayout s attempt reservation plan ledger with ⟨working, status⟩
          cases status with
          | ok u => exact sound_commitReconfiguration (h plan hplan) hs
          | error err => exact sound_refuseReconfiguration hs

lemma sound_settleMutation {key : PartitionAttemptId} {attempt : PartitionAttempt}
    {reservation : PartitionReservation} {accelerator : AcceleratorRecord}
    {report : BackendMutationResult} {observed : Option BackendLayout} {outcome : MutationOutcome}
    (h : attempt.kind = .reconfigureLayout → ∀ plan, s.plans.find? reservation.plan = some plan →
      WellPlanned s accelerator plan.plannedPartitions)
    (hs : Sound (Applicable attempt) s) :
    Sound Any (settleMutation key attempt reservation accelerator report observed now outcome
      s).1 := by
  have hcalm : Sound (Calm fun k ↦ k ∈ attempt.partitions) s := hs.mono fun _ _ _ _ hr ↦ hr.1
  unfold settleMutation
  rw [get_bind]
  generalize verifyMutation s attempt reservation report observed = v
  cases v.verified with
  | true =>
      by_cases hkind : attempt.kind = .reconfigureLayout
      · rw [if_pos rfl, if_pos hkind]
        exact sound_settleReconfiguration (h hkind) hs
      · rw [if_pos rfl, if_neg hkind]
        exact sound_commitMutation hs
  | false =>
      cases v.ambiguous with
      | true => exact (sound_loseMutation hcalm).any
      | false => exact (sound_failMutation hcalm).any

/-- What applying the result of an attempt asks of the state. -/
def appliesInOrder (s : FabricState) (attempt : PartitionAttempt) : Prop :=
  (∀ p ∈ attempt.partitions, ∀ r, s.findPartition p = some r →
    r.drain.Settled ∧ r.generation.toNat + attempt.partitions.length < 2 ^ 64) ∧
  (attempt.kind = .reconfigureLayout → ∀ reservation plan accelerator,
    s.findReservation attempt.reservation = some reservation →
    s.plans.find? reservation.plan = some plan →
    s.findAccelerator attempt.accelerator = some accelerator →
    WellPlanned s accelerator plan.plannedPartitions)

lemma sound_applyMutationResultLocked {key : PartitionAttemptId}
    {mutation : Result BackendMutationResult} {observed : Option BackendLayout}
    (h : ∀ attempt, s.findAttempt key = some attempt → attempt.state.inFlight = true →
      appliesInOrder s attempt) (hs : Sound Any s) :
    Sound Any (applyMutationResultLocked key mutation observed now s).1 := by
  unfold applyMutationResultLocked
  rw [get_bind]
  cases hattempt : s.findAttempt key with
  | none => exact hs
  | some attempt =>
      simp only
      cases hreservation : s.findReservation attempt.reservation with
      | none => exact hs
      | some reservation =>
          simp only
          split
          · exact hs
          split
          · exact hs
          rename_i hunsettled hknown
          cases haccelerator : s.findAccelerator attempt.accelerator with
          | none =>
              have hrest : Advances (Preserves (Sound Any)) (failAttempt key
                  "accelerator disappeared before the result could be applied" now
                  { attempt := key
                    reservation := attempt.reservation
                    accelerator := attempt.accelerator
                    partitions := attempt.partitions
                    plan := reservation.plan }) s :=
                advances_modify_bind sound_settleAttempt (advances_pure _ _)
              exact hrest hs
          | some accelerator =>
              have hflight : attempt.state.inFlight = true := by
                revert hunsettled hknown
                cases attempt.state <;> simp [attemptSettled, AttemptState.inFlight]
              obtain ⟨hlisted, hplanned⟩ := h attempt hattempt hflight
              apply sound_settleMutation
              · intro hkind plan hplan
                exact hplanned hkind reservation plan accelerator hreservation hplan haccelerator
              · refine hs.mono fun k r hr _ _ ↦ ⟨fun hk ↦ (hlisted k hk r hr).1, fun hk ↦ ?_⟩
                exact (hlisted k hk r hr).2

lemma sound_markAttemptOutcomeUnknown {key : PartitionAttemptId} {reason : Text}
    (h : ∀ attempt, s.findAttempt key = some attempt → attemptSettled attempt.state = false →
      attempt.kind ≠ .destroyPartition → ∀ p ∈ attempt.partitions, ∀ r,
        s.findPartition p = some r → r.drain.Settled) (hs : Sound Any s) :
    Sound Any (markAttemptOutcomeUnknown key reason now s).1 := by
  unfold markAttemptOutcomeUnknown
  rw [get_bind]
  cases hattempt : s.findAttempt key with
  | none => exact hs
  | some attempt =>
      simp only
      cases hsettled : attemptSettled attempt.state with
      | true => exact hs
      | false =>
          have hcalm : Sound (Calm fun k ↦ attempt.kind ≠ .destroyPartition ∧
              k ∈ attempt.partitions) s :=
            hs.mono fun k r hr _ _ hk ↦ h attempt hattempt hsettled hk.1 k hk.2 r hr
          refine Sound.any (P := Calm fun k ↦ attempt.kind ≠ .destroyPartition ∧
            k ∈ attempt.partitions) ?_
          revert hcalm
          refine advances_modify_bind (R := Preserves (Sound _)) sound_settleAttempt ?_
          refine advances_modify_bind (Untouched.sound ⟨rfl, le_refl _⟩) ?_
          apply advances_bind
          · apply advances_when
            intro hkind
            apply advances_forM
            intro p hp t _
            exact sound_revalidateUnknown ⟨by simpa using hkind, hp⟩
          intro t _ _
          exact sound_bump

end Apply

end PartitionFabric
