import PartitionFabric.Invariants.ReconcileValidity
import PartitionFabric.Invariants.Restart

/-!
Every partition record of a reached state passes its own check, over runs whose steps stay in
order.
-/

namespace PartitionFabric

open Procedure

variable {s t : FabricState} {now : UInt64}

section Import

/-- A record as an import leaves it. -/
def Restarted (_ : PartitionId) (r : PartitionRecord) : Prop := restartState r.state = true

lemma validateImport_coherent {d : DurableState} {current : StateGeneration}
    (h : d.validateImport current = success) : ∀ r ∈ d.partitions, r.Coherent := by
  unfold DurableState.validateImport at h
  obtain ⟨-, h⟩ := check_bind_eq_ok.mp h
  obtain ⟨hpartitions, -⟩ := check_bind_eq_ok.mp h
  intro r hr
  have hsecond := (checkDistinct_eq_ok hpartitions r hr).2
  split at hsecond
  · exact absurd hsecond (failure_ne_ok _ _ _ _)
  · exact PartitionRecord.validate_eq_ok.mp (corruption_eq_ok hsecond)

/-- A bucket is in order in revalidation whenever it was in order before. -/
lemma Housed.revalidated {state : PartitionState} {held : Option CapacityBucket}
    (h : Housed state held) : Housed .revalidationRequired held := by
  cases held with
  | none => exact fun _ ↦ rfl
  | some b => exact ⟨h.1, h.2.1, rfl⟩

lemma sound_restorePartition {report : ReconciliationReport} {record : PartitionRecord}
    (hcoherent : record.Coherent) (h : needsRevalidation record = true → record.drain.Settled) :
    Advances (Preserves (Sound Restarted)) (restorePartition now report record) s := by
  apply advances_ite
  · intro hneeds
    refine advances_modify_bind ?_ (advances_pure _ _)
    refine sound_insertPartition rfl ⟨hcoherent.identified, hcoherent.dated, ?_, ?_⟩ rfl
    · exact hcoherent.housed.revalidated
    · exact (h hneeds).drained hcoherent.drained _
  · intro hkeep
    refine advances_modify_bind ?_ (advances_pure _ _)
    exact sound_insertPartition rfl hcoherent
      (restartState_of_not_needsRevalidation (by simpa using hkeep))

/-- Of the states that survive a restart only revalidation holds capacity. -/
lemma sound_retireRestored {p : PartitionId} :
    Preserves (Sound Restarted) s (retireRestored now p s) := by
  apply sound_modifyPartition
  intro r _ hcoherent hrestarted
  by_cases hheld : r.heldBucket.isSome = true
  · rw [if_pos hheld]
    have hsettled : r.drain.Settled := by
      unfold Restarted restartState at hrestarted
      apply hcoherent.settled
      · intro hstate
        rw [hstate] at hrestarted
        cases hrestarted
      · intro hstate
        rw [hstate] at hrestarted
        cases hrestarted
    refine ⟨rfl, ?_, rfl⟩
    exact PartitionRecord.coherent_retired hcoherent.identified hcoherent.dated rfl rfl
      (hsettled.drained hcoherent.drained _)
  · rw [if_neg hheld]
    exact ⟨rfl, hcoherent, hrestarted⟩

lemma sound_releaseRestored {reservation : PartitionReservation} :
    Advances (Preserves (Sound Restarted)) (releaseRestored now reservation) s := by
  apply advances_get_bind
  apply advances_when
  intro _
  apply advances_bind
  · exact advances_attempt (sound_of_untouched apart_onLedger)
  intro t status _
  cases status with
  | error e => exact advances_throw _ _
  | ok u =>
      apply advances_forM
      intro p _ u _
      exact advances_modify sound_retireRestored

lemma sound_restoreReservation {report : ReconciliationReport}
    {reservation : PartitionReservation} :
    Advances (Preserves (Sound Restarted)) (restoreReservation now report reservation) s := by
  apply advances_ite
  · intro _
    exact advances_modify_bind (Untouched.sound ⟨rfl, le_refl _⟩) (advances_pure _ _)
  · intro _
    apply advances_bind sound_releaseRestored
    intro t _ _
    exact advances_modify_bind (Untouched.sound ⟨rfl, le_refl _⟩) (advances_pure _ _)

lemma untouched_restoreAttempt {report : ReconciliationReport} {attempt : PartitionAttempt} :
    Advances Untouched (restoreAttempt now report attempt) s := by
  apply advances_ite
  · intro _
    exact advances_modify_bind ⟨rfl, le_refl _⟩ (advances_pure _ _)
  · intro _
    exact advances_modify_bind ⟨rfl, le_refl _⟩ (advances_pure _ _)

lemma untouched_restoreAssignment {report : ReconciliationReport}
    {assignment : PartitionAssignment} :
    Advances Untouched (restoreAssignment report assignment) s := by
  apply advances_get_bind
  apply advances_ite
  · intro _
    exact advances_modify_bind ⟨rfl, le_refl _⟩ (advances_pure _ _)
  · intro _
    exact advances_pure _ _

lemma untouched_restoreCounters {d : DurableState} : Advances Untouched (restoreCounters d) s := by
  apply advances_get_bind
  apply advances_lift_bind
  intro ids hids
  have hfloor : s.ids.next ≤ ids.next := by
    unfold IdAllocator.restoreFloor at hids
    split at hids
    · exact absurd hids (by simp [failure])
    · rename_i hnot
      obtain rfl := Except.ok.inj hids
      exact not_lt.mp hnot
  refine advances_modify_bind ⟨rfl, hfloor⟩ ?_
  apply advances_lift_bind
  intro generation _
  exact advances_modify ⟨rfl, le_refl _⟩

lemma untouched_reportIdentity : Advances Untouched reportIdentity s := by
  apply advances_bind (advances_attempt apart_allocateId)
  intro t status _
  cases status with
  | error e => exact advances_pure _ _
  | ok id => exact advances_pure _ _

/-- What an import asks: no durable drain is in progress where authority does not survive. -/
def importsInOrder (d : DurableState) : Prop :=
  ∀ r ∈ d.partitions, needsRevalidation r = true → r.drain.Settled

lemma sound_import {d : DurableState} (h : importsInOrder d) (hs : Sound Any s) :
    Sound Any (importDurableState d now s).1 := by
  unfold importDurableState
  rw [get_bind]
  cases hvalid : d.validateImport s.stateGeneration with
  | error e => exact hs
  | ok u =>
      have hcoherent := validateImport_coherent hvalid
      have hempty : Sound Restarted (d.restoreRegistry s) := by
        refine ⟨hs.ids, fun k r hr ↦ ?_⟩
        simp [DurableState.restoreRegistry] at hr
      have hrest : Advances (Preserves (Sound Restarted)) (do
          restoreCounters d
          let id ← reportIdentity
          let report ← d.partitions.foldlM (restorePartition now) { id := id }
          let report ← d.reservations.foldlM (restoreReservation now) report
          let report ← d.attempts.foldlM (restoreAttempt now) report
          let report ← d.assignments.foldlM restoreAssignment report
          Procedure.modify fun s ↦
            { s with workers := d.workers.foldl (fun m w ↦ m.insert w.id (restoreWorker now w)) ∅ }
          Procedure.modify FabricState.bumpStateGeneration
          pure report : FabricM ReconciliationReport) (d.restoreRegistry s) := by
        apply advances_bind (sound_of_untouched untouched_restoreCounters)
        intro t _ _
        apply advances_bind (sound_of_untouched untouched_reportIdentity)
        intro t id _
        apply advances_bind
        · apply advances_foldlM
          intro report r hr t _
          exact sound_restorePartition (hcoherent r hr) (h r hr)
        intro t report _
        apply advances_bind (advances_foldlM fun _ _ _ _ _ ↦ sound_restoreReservation)
        intro t report _
        apply advances_bind (advances_foldlM fun _ _ _ _ _ ↦
          sound_of_untouched untouched_restoreAttempt)
        intro t report _
        apply advances_bind (advances_foldlM fun _ _ _ _ _ ↦
          sound_of_untouched untouched_restoreAssignment)
        intro t report _
        refine advances_modify_bind (Untouched.sound ⟨rfl, le_refl _⟩) ?_
        exact advances_bind sound_bump fun _ _ _ ↦ advances_pure _ _
      exact (hrest hempty).any

end Import

section Steps

/-- Every listed partition of a live reservation has a generation to come for each listing. -/
def roomListed (s : FabricState) : Prop :=
  ∀ p ∈ s.liveListed, ∀ r, s.findPartition p = some r →
    r.generation.toNat + s.liveListed.length < 2 ^ 64

/-- No drain is in progress on the partitions of the attempts that a step loses. -/
def lossSettled (s : FabricState) (lost : PartitionAttempt → Bool) : Prop :=
  ∀ p r, s.lostPartitions lost p → s.findPartition p = some r → r.drain.Settled

/-- No drain is in progress on a record of a device whose profile is withdrawn. -/
def Withdrawable (id : AcceleratorId) (withdrawn : PartitionProfileId → Bool) (_ : PartitionId)
    (r : PartitionRecord) : Prop :=
  r.accelerator = id → withdrawn r.profile = true → r.drain.Settled

/-- No drain is in progress on a device where a profile is withdrawn. -/
def withdrawsInOrder (s : FabricState) (id : AcceleratorId) (withdrawn : PartitionProfileId → Bool) :
    Prop :=
  ∀ p r, s.findPartition p = some r → Withdrawable id withdrawn p r

/-- The situations in which a step writes no record that its own check would refuse. -/
def recordsInOrder (s : FabricState) : Op → Prop
  | .registerBackendAccelerator accelerator _ =>
    withdrawsInOrder s (s.deviceOf accelerator) fun profile ↦
      s.resets accelerator || !accelerator.capability.supportsProfile profile
  | .registerAccelerator record _ => known record.capability.generation = true →
    withdrawsInOrder s record.id fun profile ↦ !record.capability.supportsProfile profile
  | .publishCapability capability _ =>
    withdrawsInOrder s capability.accelerator fun profile ↦ !capability.supportsProfile profile
  | .releaseReservation _ _ _ | .fenceReservation _ _ _ | .execute _ _ => roomListed s
  | .registerAttempt id kind _ _ _ => kind = .destroyPartition →
    ∀ reservation, s.findReservation id = some reservation → ∀ p r, s.findPartition p = some r →
      Removable reservation.partitions p r
  | .destroyPartition p _ => ∀ r, s.findPartition p = some r → destructionSafe s r = true →
    r.drain.Settled ∧ (r.state = .revalidationRequired → r.heldBucket.isSome = true)
  | .createDestructionReservation p _ => ∀ r, s.findPartition p = some r →
    destructionSafe s r = true → r.drain.Settled
  | .executeReconfiguration planId _ => ∀ plan accelerator, s.plans.find? planId = some plan →
    s.findAccelerator plan.binding.accelerator = some accelerator →
    ∀ r ∈ s.partitionsOf accelerator.id, inLayout r = true → destructionSafe s r = true →
      r.drain.Settled
  | .applyMutationResult key _ _ _ => ∀ attempt, s.findAttempt key = some attempt →
    attempt.state.inFlight = true → appliesInOrder s attempt
  | .markAttemptOutcomeUnknown key _ _ => ∀ attempt, s.findAttempt key = some attempt →
    attemptSettled attempt.state = false → attempt.kind ≠ .destroyPartition →
    ∀ p ∈ attempt.partitions, ∀ r, s.findPartition p = some r → r.drain.Settled
  | .beginDrain p _ now => drainsInOrder s p now
  | .beginDrainAccelerator id _ now => ∀ r ∈ s.partitionsOf id,
    r.state = .active ∨ r.state = .degraded → drainsInOrder s r.id now
  | .completeDrain p now => completesInOrder s p now
  | .cancelDrain p _ => cancelsInOrder s p
  | .admitWorkload requirement now => admitsInOrder s requirement now
  | .unbindAssignment id now => vacatesInOrder s id now
  | .noteWorker worker _ => ∀ previous, s.findWorker worker.id = some previous →
    previous.boot ≠ worker.boot → roomListed s ∧ lossSettled s (ownedBy worker.id previous.boot)
  | .fenceWorker worker boot _ _ => (s.findWorker worker).any (fun w ↦ w.boot = boot) = true →
    roomListed s ∧ lossSettled s (ownedBy worker boot)
  | .advanceCoordinatorEpoch _ => ∀ epoch, next s.coordinatorEpoch = .ok epoch →
    roomListed s ∧ lossSettled s fun a ↦ a.coordinatorEpoch ≠ epoch
  | .reconcile id observed now => reconcilesInOrder s id observed now
  | .importDurableState d _ => importsInOrder d
  | .close _ => ∀ p r, s.findPartition p = some r → Closable p r
  | _ => True

lemma Sound.spacious {A : PartitionId → Prop} (hs : Sound Any s) (hroom : roomListed s)
    (h : ∀ p r, A p → s.findPartition p = some r → r.drain.Settled) : Spacious (Calm A) s :=
  hs.mono fun k r hr _ _ ↦ ⟨fun hk ↦ h k r hk hr, fun hk ↦ hroom k hk r hr⟩

lemma lasting_withdrawn {id : AcceleratorId} {withdrawn : PartitionProfileId → Bool} :
    Lasting (Withdrawable id withdrawn) := by
  intro k r r' hdrain _ haccelerator hprofile _ h hid hwithdrawn
  rw [hdrain]
  exact h (haccelerator ▸ hid) (hprofile ▸ hwithdrawn)

lemma Sound.withdrawn {id : AcceleratorId} {withdrawn : PartitionProfileId → Bool}
    (hs : Sound Any s) (h : withdrawsInOrder s id withdrawn) :
    Sound (Withdrawable id withdrawn) s :=
  hs.mono fun k r hr _ _ ↦ h k r hr

lemma sound_registerBackend {accelerator : BackendAccelerator}
    (h : recordsInOrder s (.registerBackendAccelerator accelerator now)) (hs : Sound Any s) :
    Sound Any (registerBackendAccelerator accelerator now s).1 := by
  have horder : withdrawsInOrder s (s.deviceOf accelerator) fun profile ↦
      s.resets accelerator || !accelerator.capability.supportsProfile profile := h
  refine (sound_registerBackendAccelerator lasting_withdrawn ?_ ?_ (hs.withdrawn horder)).any
  · intro k r hr hid hunsupported
    exact hr hid (by simp [hunsupported])
  · intro hreset k r hr hid
    exact hr hid (by simp [hreset])

lemma sound_step {op : Op} (h : recordsInOrder s op) (hs : Sound Any s) : Sound Any (op.step s) := by
  have huntouched : ∀ {α : Type} {m : FabricM α}, Advances Untouched m s → Sound Any (m s).1 :=
    fun hm ↦ sound_of_untouched hm hs
  cases op with
  | setPolicy policy => exact huntouched apart_setPolicy
  | registerProfile profile => exact huntouched apart_registerProfile
  | registerBackendAccelerator accelerator now => exact sound_registerBackend h hs
  | registerAccelerator record now =>
      by_cases hknown : known record.capability.generation = true
      · refine (sound_registerAccelerator lasting_withdrawn ?_ (hs.withdrawn (h hknown))).any
        intro _ k r hr hid hunsupported
        exact hr hid (by simp [hunsupported])
      · refine sound_registerAccelerator steady_any.lasting ?_ hs
        exact fun hk ↦ absurd hk hknown
  | publishCapability capability now =>
      have horder : withdrawsInOrder s capability.accelerator fun profile ↦
          !capability.supportsProfile profile := h
      have hrun : Advances (Preserves (Sound (Withdrawable capability.accelerator
          fun profile ↦ !capability.supportsProfile profile)))
          (publishCapability capability now) s := by
        apply advances_bind (sound_of_untouched apart_checkOpen)
        intro t _ _
        apply sound_publishCapabilityLocked lasting_withdrawn
        intro k r hr hid hunsupported
        exact hr hid (by simp [hunsupported])
      exact (hrun (hs.withdrawn horder)).any
  | updateHealth id health => exact huntouched apart_updateHealth
  | markEvidenceStale id => exact huntouched apart_markEvidenceStale
  | snapshot => exact huntouched apart_snapshot
  | allocateWorkerId => exact huntouched apart_allocateId
  | bindAcceleratorWorker id worker boot => exact huntouched apart_bindAcceleratorWorker
  | plan request now => exact huntouched apart_plan
  | planOn id request now => exact huntouched apart_planOn
  | planReconfiguration id desired context now => exact huntouched apart_planReconfiguration
  | discardPlan id => exact huntouched apart_discardPlan
  | reserve planId now => exact sound_reserve hs
  | bindReservation id worker boot epoch now => exact huntouched apart_bindReservation
  | releaseReservation id reason now =>
      have hrun : Advances (Preserves (Spacious (Calm fun _ ↦ False)))
          (releaseReservation id reason now) s :=
        advances_get_bind (advances_require_bind fun _ ↦ spacious_releaseReservationLocked)
      exact (hrun (hs.spacious h fun _ _ hk ↦ hk.elim)).sound.any
  | fenceReservation id reason now =>
      have hrun : Advances (Preserves (Spacious (Calm fun _ ↦ False)))
          (fenceReservation id reason now) s :=
        advances_get_bind (advances_require_bind fun _ ↦ spacious_fenceReservationLocked)
      exact (hrun (hs.spacious h fun _ _ hk ↦ hk.elim)).sound.any
  | registerAttempt id kind worker boot now =>
      refine sound_registerAttempt hs fun reservation hreservation ↦ ?_
      exact hs.mono fun k r hr _ _ hkind ↦ h hkind reservation hreservation k r hr
  | execute id now => exact sound_execute (hs.spacious h fun _ _ hk ↦ hk.elim)
  | destroyPartition p now => exact sound_destroyPartition h hs
  | createDestructionReservation p now => exact sound_createDestructionReservation h hs
  | executeReconfiguration planId now => exact sound_executeReconfiguration h hs
  | applyMutationResult key mutation observed now => exact sound_applyMutationResultLocked h hs
  | markAttemptOutcomeUnknown key reason now => exact sound_markAttemptOutcomeUnknown h hs
  | beginDrain p reason now => exact sound_beginDrain h hs
  | beginDrainAccelerator id reason now => exact sound_beginDrainAccelerator h hs
  | completeDrain p now => exact sound_completeDrain h hs
  | cancelDrain p now => exact sound_cancelDrain h hs
  | admitWorkload requirement now => exact sound_admitWorkload h hs
  | bindAssignment assignment => exact sound_bindAssignment hs
  | unbindAssignment id now => exact sound_unbindAssignment h hs
  | noteWorker worker now =>
      refine sound_noteWorker hs fun previous hfind hboot ↦ ?_
      obtain ⟨hroom, hsettled⟩ := h previous hfind hboot
      exact hs.spacious hroom hsettled
  | noteWorkerSeen worker boot atMs => exact huntouched apart_noteWorkerSeen
  | fenceWorker worker boot reason now =>
      refine sound_fenceWorkerLocked hs fun hcurrent ↦ ?_
      obtain ⟨hroom, hsettled⟩ := h hcurrent
      exact hs.spacious hroom hsettled
  | advanceCoordinatorEpoch now =>
      refine sound_advanceCoordinatorEpoch hs fun epoch hnext ↦ ?_
      obtain ⟨hroom, hsettled⟩ := h epoch hnext
      exact hs.spacious hroom hsettled
  | installCoordinatorEpoch epoch => exact huntouched apart_installCoordinatorEpoch
  | reconcile id observed now => exact sound_reconcile h hs
  | importDurableState d now => exact sound_import h hs
  | close now => exact (sound_close (hs.mono fun k r hr _ _ ↦ h k r hr)).any
  | reopen now => exact huntouched apart_reopen

end Steps

/-- In every run whose steps stay in order, every partition record passes its own check. -/
theorem records_valid (hs : fabric.Reachable recordsInOrder s) :
    ∀ p r, s.findPartition p = some r → r.validate = .ok () := by
  have hsound : Sound Any s := by
    refine hs.invariant ?_ fun s op hs hop ↦ sound_step hop hs
    rintro _ ⟨options, now, rfl⟩
    refine ⟨show (0 : UInt64) < 1 by decide, fun k r hr ↦ ?_⟩
    exact absurd hr (by simp [FabricState.opened])
  intro p r hr
  exact PartitionRecord.validate_eq_ok.mpr (hsound.records p r hr).2.1

namespace Sample

/-- The slice is occupied and drains when its device disappears. -/
def drainingGone : List Op :=
  created ++ [.bindAssignment late, .beginDrain 4 [] 6,
    .reconcile 1 { layout ["a"] with devicePresent := false } 7]

end Sample

/-- The slice of a device that disappears is taken offline in the middle of its drain. -/
theorem record_invalid_after_loss : ∃ s, fabric.Reachable anyOp s ∧
    ∃ p r, s.findPartition p = some r ∧ r.validate ≠ .ok () := by
  let s := fabric.run Sample.drainingGone Sample.opened
  have hs : fabric.Reachable anyOp s :=
    System.Reachable.run (.initial ⟨_, _, rfl⟩) (by decide)
  have hinvalid : (s.findPartition 4).any (fun r ↦ r.validate ≠ .ok ()) = true := by
    decide +kernel
  obtain ⟨r, hr, hvalidate⟩ := (Option.any_eq_true _ _).mp hinvalid
  exact ⟨s, hs, 4, r, hr, of_decide_eq_true hvalidate⟩

theorem records_valid_drained :
    let s := fabric.run Sample.drained Sample.opened
    (s.findPartition 4).isSome = true ∧
      ∀ p r, s.findPartition p = some r → r.validate = .ok () := by
  intro s
  have hs : fabric.Reachable recordsInOrder s := by
    refine System.Reachable.run (.initial ⟨_, _, rfl⟩) (System.follows_append.mpr ⟨?_, ?_, trivial⟩)
    · refine ⟨?_, trivial, trivial, ?_, ?_, trivial⟩
      · intro p r hr
        exact absurd hr (by simp [Sample.opened, FabricState.opened, FabricState.findPartition])
      · let u := fabric.run Sample.reserved Sample.opened
        have hlisted : u.liveListed = [4] := by decide +kernel
        have hgeneration : (u.findPartition 4).all (fun r ↦ r.generation = 1) = true := by
          decide +kernel
        intro p hp r hr
        change p ∈ u.liveListed at hp
        change u.findPartition p = some r at hr
        change r.generation.toNat + u.liveListed.length < 2 ^ 64
        clear_value u
        rw [hlisted] at hp ⊢
        obtain rfl := List.mem_singleton.mp hp
        rw [hr] at hgeneration
        have hone : r.generation = 1 := by simpa using hgeneration
        rw [hone]
        decide
      · let u := fabric.run Sample.dispatched Sample.opened
        have hattempt : (u.findAttempt 5).all (fun a ↦ a.partitions = [4] &&
            a.kind ≠ .reconfigureLayout) = true := by decide +kernel
        have hrecord : (u.findPartition 4).all (fun r ↦ r.generation = 1 &&
            decide r.drain.Settled) = true := by decide +kernel
        change ∀ attempt, u.findAttempt 5 = some attempt → attempt.state.inFlight = true →
          appliesInOrder u attempt
        clear_value u
        intro attempt ha _
        rw [ha] at hattempt
        simp only [Option.all_some, Bool.and_eq_true, decide_eq_true_eq] at hattempt
        refine ⟨fun p hp r hr ↦ ?_, fun hkind ↦ absurd hkind hattempt.2⟩
        rw [hattempt.1] at hp ⊢
        obtain rfl := List.mem_singleton.mp hp
        rw [hr] at hrecord
        simp only [Option.all_some, Bool.and_eq_true, decide_eq_true_eq] at hrecord
        refine ⟨hrecord.2, ?_⟩
        rw [hrecord.1]
        decide
    · exact fun _ ↦ by decide
  exact ⟨by decide +kernel, records_valid hs⟩

end PartitionFabric
