import PartitionFabric.Invariants.Absorbing

/-!
How the result of a mutation classifies its attempt: as succeeded, failed or unknown, from the
report of the backend and from the observation that accompanies it.
-/

namespace PartitionFabric

open Procedure

variable {s t : FabricState} {key : PartitionAttemptId} {now : UInt64} {a : PartitionAttempt}
  {r : PartitionReservation} {detail : Text} {outcome : MutationOutcome}

/-- The state of the attempt under a key. -/
def FabricState.classified (s : FabricState) (key : PartitionAttemptId) : Option AttemptState :=
  (s.findAttempt key).map PartitionAttempt.state

/-- What a verified reconfiguration comes to: it succeeds when its accounting closes. -/
def reconfigurationVerdict (s : FabricState) (attempt : PartitionAttempt)
    (reservation : PartitionReservation) : AttemptState :=
  match s.findLedger attempt.accelerator, s.plans.find? reservation.plan with
  | some ledger, some plan =>
    if (replaceLayout s attempt reservation plan ledger).2.isOk then .succeeded else .failed
  | _, _ => .failed

/-- What an attempt in flight comes to under a verification of its result. -/
def verdict (s : FabricState) (attempt : PartitionAttempt) (reservation : PartitionReservation)
    (v : Verification) : AttemptState :=
  if v.verified then
    if attempt.kind = .reconfigureLayout then reconfigurationVerdict s attempt reservation
    else .succeeded
  else if v.ambiguous then .outcomeUnknown else .failed

section Settling

lemma classified_of_keeps (h : Keeps FabricState.attempts s t) :
    t.classified key = s.classified key := by
  unfold FabricState.classified FabricState.findAttempt
  rw [h]

lemma classified_bind {α β : Type} {m : FabricM α} {f : α → FabricM β} {x : AttemptState}
    (hm : (m s).1.classified key = some x)
    (hf : ∀ b t, Advances (Keeps FabricState.attempts) (f b) t) :
    ((m >>= f) s).1.classified key = some x := by
  refine bind_fst (P := fun t : FabricState ↦ t.classified key = some x) (fun t e ht ↦ ?_) fun t b ht ↦ ?_
  · rwa [ht] at hm
  · rw [ht] at hm
    exact (classified_of_keeps (hf b t)).trans hm

lemma classified_settle {x : AttemptState} (ha : s.findAttempt key = some a) :
    (settleAttempt key x detail now s).classified key = some x := by
  unfold FabricState.classified FabricState.findAttempt settleAttempt FabricState.modifyAttempt
  rw [KeyedMap.find?_modify, if_pos rfl, show s.attempts.find? key = some a from ha]
  rfl

lemma keepsAttempts_of_commitments (h : Keeps commitments s t) :
    Keeps FabricState.attempts s t := (Prod.mk.inj h).1

lemma keepsAttempts_bump : Keeps FabricState.attempts s s.bumpStateGeneration :=
  keepsAttempts_of_commitments keeps_bump

lemma keepsAttempts_transitions {l : List PartitionId} {target : PartitionState} {reason : Text} :
    Advances (Keeps FabricState.attempts)
      (l.forM fun p ↦ Procedure.ignore (transitionPartition now p target reason)) s :=
  advances_forM fun _ _ _ _ ↦ advances_ignore (keepsAttempts_of_commitments keeps_transition)

lemma classified_failAttempt (ha : s.findAttempt key = some a) :
    (failAttempt key detail now outcome s).1.classified key = some .failed :=
  classified_settle ha

lemma findAttempt_of_keeps (h : Keeps commitments s t) (ha : s.findAttempt key = some a) :
    t.findAttempt key = some a := by
  rw [FabricState.findAttempt, keepsAttempts_of_commitments h]
  exact ha

/-- A commit settles its attempt after what it publishes. -/
lemma classified_committed {id : PartitionReservationId} (ha : s.findAttempt key = some a) :
    FabricState.classified (commitReservation id now
      (settleAttempt key .succeeded detail now s)).bumpStateGeneration key = some .succeeded := by
  rw [classified_of_keeps keepsAttempts_bump]
  exact classified_settle ha

lemma classified_commitMutation {e : CommitEvidence} (ha : s.findAttempt key = some a) :
    (commitMutation e key a detail outcome s).1.classified key = some .succeeded := by
  have hkept : Meets (fun _ ↦ False) (fun _ t ↦ Keeps commitments s t) (commitPartitions e a) s :=
    (never_commitPartitions e a s).mono keeps_commitPartitions fun _ _ _ h ↦ h
  have hall : Meets (fun t ↦ t.classified key = some .succeeded)
      (fun _ t ↦ t.classified key = some .succeeded)
      (commitMutation e key a detail outcome) s :=
    meets_bind hkept.of_never fun _ t ht ↦ classified_committed (findAttempt_of_keeps ht ha)
  exact hall.fst fun _ _ h ↦ h

lemma classified_commitReconfiguration {e : CommitEvidence} {plan : PartitionPlan}
    {working : CapacityLedger} (ha : s.findAttempt key = some a) :
    (commitReconfiguration e key a plan working detail outcome s).1.classified key =
      some .succeeded := by
  have hkept : Meets (fun _ ↦ False) (fun _ t ↦ Keeps commitments s t)
      (replaceRecords e a plan working) s :=
    (never_replaceRecords e a plan working s).mono keeps_replaceRecords fun _ _ _ h ↦ h
  have hall : Meets (fun t ↦ t.classified key = some .succeeded)
      (fun _ t ↦ t.classified key = some .succeeded)
      (commitReconfiguration e key a plan working detail outcome) s :=
    meets_bind hkept.of_never fun _ t ht ↦ classified_committed (findAttempt_of_keeps ht ha)
  exact hall.fst fun _ _ h ↦ h

lemma classified_settleReconfiguration {e : CommitEvidence} (ha : s.findAttempt key = some a) :
    (settleReconfiguration e key a r detail outcome s).1.classified key =
      some (reconfigurationVerdict s a r) := by
  unfold settleReconfiguration reconfigurationVerdict
  rw [get_bind]
  cases s.findLedger a.accelerator with
  | none => exact classified_failAttempt ha
  | some ledger =>
    cases s.plans.find? r.plan with
    | none => exact classified_failAttempt ha
    | some plan =>
      simp only
      rcases replaceLayout s a r plan ledger with ⟨working, err | u⟩
      · simp only [Except.isOk, Except.toBool, Bool.false_eq_true, if_false]
        refine classified_bind (classified_failAttempt ha) fun outcome t ↦ ?_
        refine advances_bind keepsAttempts_transitions fun _ _ _ ↦ ?_
        exact advances_modify_bind keepsAttempts_bump (advances_pure ..)
      · simp only [Except.isOk, Except.toBool, if_true]
        exact classified_commitReconfiguration ha

lemma classified_loseMutation (ha : s.findAttempt key = some a) :
    (loseMutation key a detail now outcome s).1.classified key = some .outcomeUnknown := by
  unfold loseMutation
  refine classified_bind (m := Procedure.modify _) (classified_settle ha) fun _ t ↦ ?_
  refine advances_modify_bind rfl (advances_bind (advances_forM fun p _ u _ ↦ ?_) fun _ _ _ ↦ ?_)
  · apply advances_get_bind
    apply advances_when
    intro _
    exact advances_ignore (keepsAttempts_of_commitments keeps_transition)
  · exact advances_modify_bind keepsAttempts_bump (advances_pure ..)

lemma classified_failMutation (ha : s.findAttempt key = some a) :
    (failMutation key a r detail now outcome s).1.classified key = some .failed := by
  unfold failMutation
  refine classified_bind (m := Procedure.modify _) (classified_settle ha) fun _ t ↦ ?_
  refine advances_modify_bind rfl (advances_bind (advances_when fun _ ↦ ?_) fun _ _ _ ↦ ?_)
  · exact advances_bind keepsAttempts_transitions fun _ _ _ ↦ advances_modify rfl
  · refine advances_bind (advances_when fun _ ↦ keepsAttempts_transitions) fun _ _ _ ↦ ?_
    exact advances_modify_bind keepsAttempts_bump (advances_pure ..)

end Settling

/-- A result classifies an attempt in flight by the verdict over its verification. -/
theorem classified_applyMutationResultLocked {accelerator : AcceleratorRecord}
    (ha : s.findAttempt key = some a) (hr : s.findReservation a.reservation = some r)
    (hflight : a.state.inFlight = true) (haccelerator : s.findAccelerator a.accelerator =
      some accelerator) (mutation : Result BackendMutationResult)
    (observed : Option BackendLayout) (now : UInt64) :
    (applyMutationResultLocked key mutation observed now s).1.classified key =
      some (verdict s a r (verifyMutation s a r (mutationReport mutation) observed)) := by
  have hsettled : attemptSettled a.state = false ∧ a.state ≠ .outcomeUnknown := by
    cases hstate : a.state <;> simp [hstate, AttemptState.inFlight, attemptSettled] at hflight ⊢
  unfold applyMutationResultLocked verdict
  rw [get_bind]
  simp only [ha, hr, hsettled.1, hsettled.2, haccelerator, Bool.false_eq_true, if_false,
    settleMutation, get_bind]
  generalize verifyMutation s a r (mutationReport mutation) observed = v
  cases v.verified with
  | true =>
    rw [if_pos rfl, if_pos rfl]
    by_cases hkind : a.kind = .reconfigureLayout
    · rw [if_pos hkind, if_pos hkind]
      exact classified_settleReconfiguration ha
    · rw [if_neg hkind, if_neg hkind]
      exact classified_commitMutation ha
  | false =>
    rw [if_neg Bool.false_ne_true, if_neg Bool.false_ne_true]
    cases v.ambiguous with
    | true => exact classified_loseMutation ha
    | false => exact classified_failMutation ha

/-- Without its device an attempt in flight fails, whatever its result. -/
lemma classified_of_missing (ha : s.findAttempt key = some a)
    (hr : s.findReservation a.reservation = some r) (hflight : a.state.inFlight = true)
    (haccelerator : s.findAccelerator a.accelerator = none)
    (mutation : Result BackendMutationResult) (observed : Option BackendLayout) (now : UInt64) :
    (applyMutationResultLocked key mutation observed now s).1.classified key = some .failed := by
  have hsettled : attemptSettled a.state = false ∧ a.state ≠ .outcomeUnknown := by
    cases hstate : a.state <;> simp [hstate, AttemptState.inFlight, attemptSettled] at hflight ⊢
  unfold applyMutationResultLocked
  rw [get_bind]
  simp only [ha, hr, hsettled.1, hsettled.2, haccelerator, Bool.false_eq_true, if_false]
  exact classified_failAttempt ha

/-- An observation confirms that an accepted mutation took effect. -/
def Confirms (s : FabricState) (attempt : PartitionAttempt) (reservation : PartitionReservation)
    (report : BackendMutationResult) (observed : Option BackendLayout) : Bool :=
  (verifyMutation s attempt reservation report observed).verified

section Verifying

variable {report : BackendMutationResult} {observed observed' : Option BackendLayout}

/-- A refused mutation is not verified by any observation, and is as ambiguous as it was
reported. -/
lemma verify_refused (observed : Option BackendLayout) (h : report.accepted = false) :
    (verifyMutation s a r report observed).verified = false ∧
      (verifyMutation s a r report observed).ambiguous = report.ambiguous := by
  unfold verifyMutation verifyReconfiguration verifyCreation verifyDestruction
  cases a.kind <;> simp [h]

lemma Verification.compared_unverified {holds ambiguous : Bool} {matching mismatching : Text}
    (h : (Verification.compared holds ambiguous matching mismatching).verified = false) :
    (Verification.compared holds ambiguous matching mismatching).ambiguous = true := by
  unfold Verification.compared at h ⊢
  simp only at h
  rw [h]
  exact Bool.or_true _

/-- An accepted mutation that is not verified is ambiguous. -/
lemma verify_accepted (h : report.accepted = true)
    (hunverified : (verifyMutation s a r report observed).verified = false) :
    (verifyMutation s a r report observed).ambiguous = true := by
  unfold verifyMutation at *
  cases hkind : a.kind with
  | reconfigureLayout =>
    simp only [hkind, verifyReconfiguration, h, Bool.not_true, Bool.false_eq_true,
      if_false] at hunverified ⊢
    cases observed with
    | none => rfl
    | some layout =>
      simp only at hunverified ⊢
      split at hunverified
      · rename_i habsent
        rw [if_pos habsent]
      · rename_i hpresent
        rw [if_neg hpresent]
        exact Verification.compared_unverified hunverified
  | createPartition =>
    simp only [hkind, verifyCreation, h, Bool.not_true, Bool.false_eq_true,
      if_false] at hunverified ⊢
    cases observed with
    | none => rfl
    | some layout =>
      simp only at hunverified ⊢
      split at hunverified
      · rename_i habsent
        rw [if_pos habsent]
      · rename_i hpresent
        rw [if_neg hpresent]
        exact Verification.compared_unverified hunverified
  | destroyPartition =>
    simp only [hkind, verifyDestruction, h, Bool.not_true, Bool.false_eq_true,
      if_false] at hunverified ⊢
    cases observed with
    | none => rfl
    | some layout => exact Verification.compared_unverified hunverified

/-- A verified mutation is never classified as unknown. -/
lemma verdict_verified {v : Verification} (h : v.verified = true) :
    verdict s a r v ≠ .outcomeUnknown := by
  unfold verdict reconfigurationVerdict
  rw [if_pos h]
  split
  · split
    · split <;> simp
    · simp
  · simp

/-- Two observations of an accepted mutation classify its attempt alike exactly when both of them
confirm it or neither does. -/
lemma verdict_eq_iff (h : report.accepted = true) :
    verdict s a r (verifyMutation s a r report observed) =
        verdict s a r (verifyMutation s a r report observed') ↔
      Confirms s a r report observed = Confirms s a r report observed' := by
  have hunknown (o : Option BackendLayout) (hnot : Confirms s a r report o = false) :
      verdict s a r (verifyMutation s a r report o) = .outcomeUnknown := by
    unfold verdict
    unfold Confirms at hnot
    rw [hnot, verify_accepted h hnot]
    rfl
  cases hfirst : Confirms s a r report observed with
  | true =>
    cases hsecond : Confirms s a r report observed' with
    | true =>
      refine iff_of_true ?_ rfl
      unfold Confirms at hfirst hsecond
      unfold verdict
      rw [hfirst, hsecond, if_pos rfl, if_pos rfl]
    | false =>
      refine iff_of_false ?_ (by decide)
      rw [hunknown observed' hsecond]
      exact verdict_verified hfirst
  | false =>
    cases hsecond : Confirms s a r report observed' with
    | true =>
      refine iff_of_false ?_ (by decide)
      rw [hunknown observed hfirst]
      exact (verdict_verified hsecond).symm
    | false =>
      refine iff_of_true ?_ rfl
      rw [hunknown observed hfirst, hunknown observed' hsecond]

end Verifying

end PartitionFabric
