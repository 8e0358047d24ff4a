import PartitionFabric.Foundation.Errors
import PartitionFabric.Invariants.Publication

/-!
What the bounded registries keep: when a full one refuses a new record.
-/

namespace PartitionFabric

open Procedure

variable {s : FabricState}

/-- The refusal of an attempt by a full history. -/
def historyFull : Error := makeError .limitExceeded "physical attempt history is full"

/-- The refusal of a plan by a full registry. -/
def plansFull : Error := makeError .limitExceeded "pending plan registry is full"

/-- Some attempt of the history is settled. -/
def SomeSettled (s : FabricState) : Prop :=
  ∃ key a, s.findAttempt key = some a ∧ attemptSettled a.state = true

/-- Some registered plan is discarded or consumed. -/
def SomeTerminal (s : FabricState) : Prop :=
  ∃ key plan, s.plans.find? key = some plan ∧ plan.terminal = true

/-- A full history stays full: its settled attempts are dropped while it exceeds its bound, and
at the bound it is still full. -/
lemma makeAttemptRoom_full (h : s.limits.maxAttemptHistory ≤ s.attempts.size) :
    makeAttemptRoom s = (pruneAttempts s, .error historyFull) := by
  have hfull : (pruneAttempts s).limits.maxAttemptHistory ≤ (pruneAttempts s).attempts.size :=
    KeyedMap.le_size_prune _ h
  unfold makeAttemptRoom
  rw [get_bind, decide_eq_true h, when_true, modify_bind, get_bind]
  unfold require
  rw [decide_eq_false (not_lt.mpr hfull)]
  rfl

lemma makeAttemptRoom_room (h : s.attempts.size < s.limits.maxAttemptHistory) :
    makeAttemptRoom s = (s, .ok ()) := by
  unfold makeAttemptRoom
  rw [get_bind, decide_eq_false (not_le.mpr h)]
  rfl

lemma makePlanRoom_full (h : s.limits.maxPendingPlans ≤ s.plans.size) :
    makePlanRoom s = (prunePlans s, .error plansFull) := by
  have hfull : (prunePlans s).limits.maxPendingPlans ≤ (prunePlans s).plans.size :=
    KeyedMap.le_size_prune _ h
  unfold makePlanRoom
  rw [get_bind, decide_eq_true h, when_true, modify_bind, get_bind]
  unfold require
  rw [decide_eq_false (not_lt.mpr hfull)]
  rfl

lemma makePlanRoom_room (h : s.plans.size < s.limits.maxPendingPlans) :
    makePlanRoom s = (s, .ok ()) := by
  unfold makePlanRoom
  rw [get_bind, decide_eq_false (not_le.mpr h)]
  rfl

section Errors

/-- An error that no bound of the registry gave rise to. -/
def Unbounded (e : Error) : Prop := e.code ≠ .limitExceeded

instance (e : Error) : Decidable (Unbounded e) := inferInstanceAs (Decidable (e.code ≠ _))

lemma unbounded_error {code : ErrorCode} (h : code ≠ .limitExceeded) (message detail : Text) :
    Unbounded (makeError code message detail) := h

lemma unbounded_failure {α : Type} {code : ErrorCode} (h : code ≠ .limitExceeded)
    (message detail : Text) : (failure code message detail : Result α).Blames Unbounded :=
  Except.blames_error h

lemma unbounded_allocateId : Raises Unbounded allocateId s := by
  unfold Raises allocateId IdAllocator.allocate
  split
  · exact Except.blames_ok _
  · rename_i e h
    split at h
    · obtain rfl := Except.error.inj h
      exact Except.blames_error (by decide)
    · cases h

lemma unbounded_validateRecord (r : PartitionRecord) : r.validate.Blames Unbounded := by
  have hsuperseded : r.checkSuperseded.Blames Unbounded := by
    unfold PartitionRecord.checkSuperseded
    refine Except.blames_bind (Except.blames_forM fun g _ ↦ ?_) fun _ ↦ ?_
    · refine Except.blames_ite (unbounded_failure (by decide) _ _) ?_
      exact Except.blames_ite (unbounded_failure (by decide) _ _) (Except.blames_ok _)
    · exact Except.blames_ite (Except.blames_ok _) (unbounded_failure (by decide) _ _)
  have hbucket : r.checkBucket.Blames Unbounded := by
    unfold PartitionRecord.checkBucket
    cases r.heldBucket with
    | some bucket =>
        refine Except.blames_ite (unbounded_failure (by decide) _ _) ?_
        exact Except.blames_ite (unbounded_failure (by decide) _ _) (Except.blames_ok _)
    | none => exact Except.blames_ite (unbounded_failure (by decide) _ _) (Except.blames_ok _)
  have hdrain : r.checkDrain.Blames Unbounded := by
    unfold PartitionRecord.checkDrain
    iterate 5 refine Except.blames_ite (unbounded_failure (by decide) _ _) ?_
    exact Except.blames_ok _
  unfold PartitionRecord.validate
  iterate 6 refine Except.blames_ite (unbounded_failure (by decide) _ _) ?_
  exact Except.blames_bind hsuperseded fun _ ↦ Except.blames_bind hbucket fun _ ↦ hdrain

lemma unbounded_validateAttempt (a : PartitionAttempt) : a.validate.Blames Unbounded := by
  unfold PartitionAttempt.validate
  iterate 4 refine Except.blames_ite (unbounded_failure (by decide) _ _) ?_
  exact Except.blames_ok _

lemma unbounded_add {d : ResourceDimension} {amount : UInt64} {v : ResourceVector} :
    Raises Unbounded (ResourceVector.add d amount) v := by
  unfold Raises ResourceVector.add
  split
  · exact unbounded_failure (by decide) _ _
  · split
    · exact unbounded_failure (by decide) _ _
    · split
      · exact unbounded_failure (by decide) _ _
      · exact Except.blames_ok _

lemma unbounded_sub {d : ResourceDimension} {amount : UInt64} {v : ResourceVector} :
    Raises Unbounded (ResourceVector.sub d amount) v := by
  unfold Raises ResourceVector.sub
  split
  · exact unbounded_failure (by decide) _ _
  · split
    · exact unbounded_failure (by decide) _ _
    · exact Except.blames_ok _

lemma unbounded_addAssign {other v : ResourceVector} :
    Raises Unbounded (ResourceVector.addAssign other) v := by
  refine raises_get_bind (raises_bind (raises_require (unbounded_error (by decide) _ _)) fun _ _ ↦ ?_)
  exact raises_forM fun _ _ _ ↦ raises_when unbounded_add

lemma unbounded_subAssign {other v : ResourceVector} :
    Raises Unbounded (ResourceVector.subAssign other) v := by
  refine raises_get_bind (raises_bind (raises_require (unbounded_error (by decide) _ _)) fun _ _ ↦ ?_)
  exact raises_forM fun _ _ _ ↦ raises_when unbounded_sub

lemma unbounded_moveCapacity {source target amount : ResourceVector} :
    (moveCapacity source target amount).Blames Unbounded := by
  unfold moveCapacity
  refine Except.blames_ite (unbounded_failure (by decide) _ _) ?_
  have hsub : Raises Unbounded (ResourceVector.subAssign amount) source := unbounded_subAssign
  have hadd : Raises Unbounded (ResourceVector.addAssign amount) target := unbounded_addAssign
  unfold Raises at hsub hadd
  split
  · rename_i h
    rw [h] at hsub
    exact Except.blames_error (hsub _ rfl)
  · split
    · rename_i h
      rw [h] at hadd
      exact Except.blames_error (hadd _ rfl)
    · exact Except.blames_ok _

lemma unbounded_moveBetween {source target : UInt8} {amount : ResourceVector}
    {ledger : CapacityLedger} :
    Raises Unbounded (CapacityLedger.moveBetween source target amount) ledger := by
  unfold CapacityLedger.moveBetween
  split
  · rename_i b c _ _
    split
    · exact raises_lift (Except.blames_ok _)
    · have hmove : (moveCapacity (ledger.buckets b) (ledger.buckets c) amount).Blames Unbounded :=
        unbounded_moveCapacity
      unfold Raises
      cases hm : moveCapacity (ledger.buckets b) (ledger.buckets c) amount with
      | ok p =>
        obtain ⟨l', hrun, -⟩ := CapacityLedger.transfer_of_ok hm
        rw [hrun]
        exact Except.blames_ok _
      | error e =>
        rw [CapacityLedger.transfer_of_error hm]
        exact Except.blames_error (hmove e hm)
  · exact raises_throw (unbounded_error (by decide) _ _)

lemma unbounded_validateTransition {source target : PartitionState} :
    (validateTransition source target).Blames Unbounded := by
  unfold validateTransition
  refine Except.blames_ite ?_ ?_
  · exact Except.blames_ite (Except.blames_ok _) (unbounded_failure (by decide) _ _)
  · iterate 2 refine Except.blames_ite (unbounded_failure (by decide) _ _) ?_
    exact Except.blames_ok _

lemma unbounded_applyCapacityTransition {target : PartitionState} {ledger : CapacityLedger}
    {record : PartitionRecord} :
    Raises Unbounded (applyCapacityTransition target) (ledger, record) := by
  unfold Raises applyCapacityTransition
  simp only
  split
  · exact Except.blames_ok _
  · split
    · exact Except.blames_ok _
    · have hmove : Raises Unbounded (CapacityLedger.moveBetween (record.heldBucket.getD .free).raw
          ((bucketForState target).getD .free).raw record.resources) ledger :=
        unbounded_moveBetween
      unfold Raises at hmove
      split
      · exact Except.blames_ok _
      · rename_i e h
        rw [h] at hmove
        refine Except.blames_ite (unbounded_failure (by decide) _ _) ?_
        exact Except.blames_error (hmove e rfl)

lemma unbounded_transition {now : UInt64} {key : PartitionId} {target : PartitionState}
    {reason : Text} : Raises Unbounded (transitionPartition now key target reason) s := by
  unfold Raises transitionPartition
  cases s.findPartition key with
  | none => exact Except.blames_ok _
  | some record =>
      simp only
      cases hallowed : validateTransition record.state target with
      | error e => exact unbounded_failure (unbounded_validateTransition e hallowed) _ _
      | ok u =>
          simp only
          by_cases hsame : record.state = target
          · rw [if_pos hsame]
            exact Except.blames_ok _
          · rw [if_neg hsame]
            cases s.findLedger record.accelerator with
            | none => exact unbounded_failure (by decide) _ _
            | some ledger =>
                simp only
                have hmove : Raises Unbounded (applyCapacityTransition target) (ledger, record) :=
                  unbounded_applyCapacityTransition
                unfold Raises at hmove
                split
                · rename_i e h
                  rw [h] at hmove
                  exact Except.blames_error (hmove e rfl)
                · simp only
                  split
                  · rename_i _ e h
                    exact Except.blames_error (unbounded_validateRecord _ e h)
                  · exact unbounded_failure (by decide) _ _
                  · exact Except.blames_ok _

lemma unbounded_beginMutation {reservation : PartitionReservation} {kind : AttemptKind}
    {now : UInt64} : Raises Unbounded (beginMutation reservation kind now) s := by
  cases kind with
  | createPartition =>
      refine raises_forM fun p _ t ↦ raises_get_bind ?_
      cases t.findPartition p.1 with
      | none => exact raises_throw (unbounded_error (by decide) _ _)
      | some record =>
          exact raises_bind (raises_require (unbounded_error (by decide) _ _))
            fun _ _ ↦ unbounded_transition
  | destroyPartition =>
      refine raises_forM fun p _ t ↦ raises_get_bind ?_
      cases t.findPartition p with
      | none => exact raises_throw (unbounded_error (by decide) _ _)
      | some record => exact unbounded_transition
  | reconfigureLayout => exact raises_pure _

/-- With room in the history nothing that follows reports it as full. -/
lemma registerAttemptLocked_full_iff {key : PartitionReservationId}
    {reservation : PartitionReservation} {kind : AttemptKind} {worker : WorkerId}
    {boot : WorkerBootId} {now : UInt64} :
    (registerAttemptLocked key reservation kind worker boot now s).2 = .error historyFull ↔
      s.limits.maxAttemptHistory ≤ s.attempts.size := by
  have hother : ∀ e, Unbounded e → e ≠ historyFull := by
    rintro e he rfl
    exact he rfl
  constructor
  · intro h
    by_contra hroom
    have hrest : Raises (fun e ↦ e ≠ historyFull)
        (registerAttemptLocked key reservation kind worker boot now) s := by
      unfold Raises registerAttemptLocked
      rw [bind_apply, makeAttemptRoom_room (not_le.mp hroom)]
      refine raises_get_bind (raises_bind (raises_require (by decide +kernel)) fun _ t ↦ ?_)
      refine raises_bind (unbounded_allocateId.imp hother) fun id u ↦ ?_
      refine raises_bind (unbounded_beginMutation.imp hother) fun _ v ↦ raises_get_bind ?_
      refine raises_bind ((raises_lift (unbounded_validateAttempt _)).imp hother) fun _ _ ↦ ?_
      refine raises_bind (raises_modify _) fun _ _ ↦ raises_bind (raises_modify _) fun _ _ ↦ ?_
      exact raises_bind (raises_modify _) fun _ _ ↦ raises_pure _
    exact hrest historyFull h rfl
  · intro hfull
    unfold registerAttemptLocked
    rw [bind_apply, makeAttemptRoom_full hfull]

end Errors

/-- A registration is refused for a full history exactly when it gets to look at the history and
finds it at its bound. -/
lemma registerAttempt_full_iff {id : PartitionReservationId} {kind : AttemptKind}
    {worker : WorkerId} {boot : WorkerBootId} {now : UInt64} :
    (registerAttempt id kind worker boot now s).2 = .error historyFull ↔
      (s.findReservation id).any (fun r ↦ r.lifecycle = .active) = true ∧
        s.limits.maxAttemptHistory ≤ s.attempts.size := by
  unfold registerAttempt
  rw [get_bind]
  cases s.findReservation id with
  | none =>
      refine iff_of_false (fun h ↦ ?_) (by simp)
      cases h
  | some reservation =>
      simp only
      rw [require_bind, Option.any_some]
      by_cases hactive : reservation.lifecycle = .active
      · rw [decide_eq_true hactive, if_pos rfl, registerAttemptLocked_full_iff]
        simp
      · rw [decide_eq_false hactive]
        refine iff_of_false (fun h ↦ ?_) (by simp)
        cases h

lemma registerPlan_full {plan : PartitionPlan} : (registerPlan plan s).2 ≠ .error plansFull := by
  intro h
  have hraises : Raises Unbounded (registerPlan plan) s :=
    raises_bind unbounded_allocateId fun _ _ ↦
      raises_bind (raises_modify _) fun _ _ ↦ raises_pure _
  exact hraises plansFull h rfl

lemma makePlanRoom_bind {f : Unit → FabricM PartitionPlan}
    (hf : ∀ t, (f () t).2 ≠ .error plansFull) :
    ((makePlanRoom >>= f) s).2 = .error plansFull ↔ s.limits.maxPendingPlans ≤ s.plans.size := by
  by_cases hfull : s.limits.maxPendingPlans ≤ s.plans.size
  · rw [bind_apply, makePlanRoom_full hfull]
    exact iff_of_true rfl hfull
  · rw [bind_apply, makePlanRoom_room (not_le.mp hfull)]
    exact iff_of_false (hf s) hfull

lemma plan_full_iff {request : PartitionRequest} {now : UInt64} :
    (plan request now s).2 = .error plansFull ↔ s.closed = false ∧
      (currentPlan s request now).isNone = true ∧ s.limits.maxPendingPlans ≤ s.plans.size := by
  unfold plan
  rw [bind_apply, checkOpen]
  cases s.closed with
  | true =>
      refine iff_of_false (fun h ↦ ?_) (by simp)
      cases h
  | false =>
      simp only [Bool.false_eq_true, if_false, success, get_bind, true_and]
      cases hcurrent : currentPlan s request now with
      | some existing =>
          unfold currentPlan at hcurrent
          rw [hcurrent]
          refine iff_of_false (fun h ↦ ?_) (by simp)
          cases h
      | none =>
          unfold currentPlan at hcurrent
          rw [hcurrent]
          simp only [Option.isNone_none, true_and]
          exact makePlanRoom_bind fun t ↦ registerPlan_full

lemma planReconfiguration_full_iff {id : AcceleratorId} {desired : List PlannedPartition}
    {context : PartitionRequest} {now : UInt64} :
    (planReconfiguration id desired context now s).2 = .error plansFull ↔
      s.closed = false ∧ s.limits.maxPendingPlans ≤ s.plans.size := by
  unfold planReconfiguration
  rw [bind_apply, checkOpen]
  cases s.closed with
  | true =>
      refine iff_of_false (fun h ↦ ?_) (by simp)
      cases h
  | false =>
      simp only [Bool.false_eq_true, if_false, success, true_and]
      exact makePlanRoom_bind fun t ↦ registerPlan_full

/-- A registration reports a full history only over attempts that are not settled, and planning a
full registry only over plans that are not terminal. -/
structure BlocksFairly (s : FabricState) : Prop where
  attempts : ∀ id kind worker boot now,
    (registerAttempt id kind worker boot now s).2 = .error historyFull → ¬ SomeSettled s
  plans : ∀ request now, (plan request now s).2 = .error plansFull → ¬ SomeTerminal s
  reconfigurations : ∀ id desired context now,
    (planReconfiguration id desired context now s).2 = .error plansFull → ¬ SomeTerminal s

/-- Bounded registries block exactly at their bound: pruning stops there, so a record that could
be dropped makes no room. -/
theorem bounded_history_iff (s : FabricState) :
    (∀ id kind worker boot now,
      ((registerAttempt id kind worker boot now s).2 = .error historyFull → ¬ SomeSettled s) ↔
        ((s.findReservation id).any (fun r ↦ r.lifecycle = .active) = true →
          s.attempts.size < s.limits.maxAttemptHistory ∨ ¬ SomeSettled s)) ∧
    (∀ request now,
      ((plan request now s).2 = .error plansFull → ¬ SomeTerminal s) ↔
        (s.closed = false → (currentPlan s request now).isNone = true →
          s.plans.size < s.limits.maxPendingPlans ∨ ¬ SomeTerminal s)) ∧
    ∀ id desired context now,
      ((planReconfiguration id desired context now s).2 = .error plansFull → ¬ SomeTerminal s) ↔
        (s.closed = false → s.plans.size < s.limits.maxPendingPlans ∨ ¬ SomeTerminal s) := by
  refine ⟨fun id kind worker boot now ↦ ?_, fun request now ↦ ?_,
    fun id desired context now ↦ ?_⟩
  · rw [registerAttempt_full_iff, ← not_le, ← imp_iff_not_or, and_imp]
  · rw [plan_full_iff, ← not_le, ← imp_iff_not_or, and_imp, and_imp]
  · rw [planReconfiguration_full_iff, ← not_le, ← imp_iff_not_or, and_imp]

namespace Sample

/-- An instance that keeps one attempt. -/
def forgetful : FabricState :=
  FabricState.opened { limits := { maxPendingAttempts := 1, maxAttemptHistory := 1 } } 0

/-- A slice is created, and a second one reserved under the same plan. -/
def createdAndReserved : List Op := created ++ [.reserve 2 6]

end Sample

/-- The second creation is refused for a full history whose one attempt has succeeded. -/
theorem full_of_settled : ¬ ∀ s, fabric.Reachable anyOp s → BlocksFairly s := by
  intro h
  let s := fabric.run Sample.createdAndReserved Sample.forgetful
  have hs : fabric.Reachable anyOp s :=
    System.Reachable.run (.initial ⟨_, _, rfl⟩) (by decide)
  have hsettled : (s.findAttempt 5).any (fun a ↦ attemptSettled a.state) = true := by
    decide +kernel
  have hfull : (s.findReservation 6).any (fun r ↦ r.lifecycle = .active) = true ∧
      s.limits.maxAttemptHistory ≤ s.attempts.size := by decide +kernel
  obtain ⟨a, ha, hstate⟩ := (Option.any_eq_true _ _).mp hsettled
  exact (h s hs).attempts 6 .createPartition 0 0 7 (registerAttempt_full_iff.mpr hfull)
    ⟨5, a, ha, hstate⟩

end PartitionFabric
