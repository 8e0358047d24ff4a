import PartitionFabric.Invariants.Shutdown
import PartitionFabric.Invariants.Standing

/-!
What the dispatch of a creation rests on: a live reservation keeps the terms of the plan it was made
from, so all that its dispatch needs can be read off that plan.
-/

namespace PartitionFabric

open Procedure

variable {s t : FabricState} {now : UInt64} {id : PartitionReservationId} {r : PartitionReservation}

section Import

variable {d : DurableState}

/-- The allocator does not fall back. -/
def Forward (s t : FabricState) : Prop := s.ids.next ≤ t.ids.next

instance : Std.Refl Forward := ⟨fun _ ↦ le_refl _⟩

instance : IsTrans FabricState Forward := ⟨fun _ _ _ hst htu ↦ le_trans hst htu⟩

lemma Forward.of_keeps (h : Keeps FabricState.ids s t) : Forward s t := by
  unfold Forward
  rw [show t.ids = s.ids from h]

lemma forward_restoreCounters : Advances Forward (restoreCounters d) s := by
  refine advances_get_bind ?_
  cases hfloor : s.ids.restoreFloor d.nextIdentity with
  | error e => exact refl_of Forward s
  | ok ids =>
    have hids : s.ids.next ≤ ids.next := by
      unfold IdAllocator.restoreFloor at hfloor
      split at hfloor
      · cases hfloor
      · rename_i hge
        obtain rfl := Except.ok.inj hfloor
        exact not_lt.mp hge
    refine advances_lift_bind fun ids' hids' ↦ ?_
    obtain rfl := Except.ok.inj hids'
    refine advances_modify_bind hids (advances_lift_bind fun _ _ ↦ ?_)
    exact advances_modify (refl_of Forward _)

lemma forward_reportIdentity : Advances Forward reportIdentity s := by
  refine advances_bind (advances_attempt ?_) fun t status _ ↦ ?_
  · have h : Advances (Evolves {} s.ids.next) allocateId s := advances_allocateId
    exact h.ids
  · cases status with
    | ok id => exact advances_pure _ _
    | error e => exact advances_pure _ _

lemma forward_restoreReservation {report : ReconciliationReport} :
    Advances Forward (restoreReservation now report r) s := by
  have hrecord {t : FabricState} {m : KeyedMap PartitionReservationId PartitionReservation} :
      Forward t { t with reservations := m } := refl_of Forward t
  refine advances_ite (fun _ ↦ advances_modify_bind hrecord (advances_pure _ _)) fun _ ↦ ?_
  refine advances_bind ?_ fun _ _ _ ↦ advances_modify_bind hrecord (advances_pure _ _)
  refine advances_get_bind (advances_when fun _ ↦ ?_)
  have hreturn : Advances (Keeps FabricState.ids)
      (onLedger r.accelerator (CapacityLedger.releaseReserved r.resources)) s :=
    keeps_onLedger _ fun _ _ ↦ rfl
  refine advances_bind (advances_attempt (Forward.of_keeps hreturn)) fun _ status _ ↦ ?_
  cases status with
  | error e => exact advances_throw _ _
  | ok u => exact advances_forM fun _ _ _ _ ↦ advances_modify (refl_of Forward _)

/-- An import does not set the allocator back. -/
lemma forward_import : Forward s (importDurableState d now s).1 := by
  have himport : Advances Forward (importDurableState d now) s := by
    refine advances_get_bind (advances_lift_bind fun _ _ ↦ ?_)
    refine advances_modify_bind (refl_of Forward s) ?_
    refine advances_bind forward_restoreCounters fun _ _ _ ↦ ?_
    refine advances_bind forward_reportIdentity fun _ _ _ ↦ ?_
    refine advances_bind (advances_foldlM fun _ _ _ _ _ ↦ ?_) fun _ _ _ ↦ ?_
    · exact advances_ite (fun _ ↦ advances_modify_bind (refl_of Forward _) (advances_pure _ _))
        fun _ ↦ advances_modify_bind (refl_of Forward _) (advances_pure _ _)
    refine advances_bind (advances_foldlM fun _ _ _ _ _ ↦ forward_restoreReservation)
      fun _ _ _ ↦ ?_
    refine advances_bind (advances_foldlM fun _ _ _ _ _ ↦ ?_) fun _ _ _ ↦ ?_
    · exact advances_ite (fun _ ↦ advances_modify_bind (refl_of Forward _) (advances_pure _ _))
        fun _ ↦ advances_modify_bind (refl_of Forward _) (advances_pure _ _)
    refine advances_bind (advances_foldlM fun _ _ _ _ _ ↦ ?_) fun u _ _ ↦ ?_
    · exact advances_get_bind (advances_ite
        (fun _ ↦ advances_modify_bind (refl_of Forward _) (advances_pure _ _))
        fun _ ↦ advances_pure _ _)
    refine advances_modify_bind (refl_of Forward u) (advances_modify_bind ?_ (advances_pure _ _))
    exact Forward.of_keeps bump_ids
  exact himport

/-- No operation sets the allocator back. -/
lemma forward_step (op : Op) (s : FabricState) : Forward s (op.step s) := by
  cases himport : op.isImport with
  | false => exact (evolves_step himport s).ids
  | true =>
    cases op with
    | importDurableState d now => exact forward_import
    | _ => cases himport

end Import

section Terms

/-- Plans stand under their own identities, and a live reservation for a creation has the terms of
the plan that it names. -/
structure OnTerms (s : FabricState) : Prop where
  filed : Filed s
  terms : ∀ k r, s.findReservation k = some r → reservationIsTerminal r.lifecycle = false →
    r.destructive = false → r.plan < s.ids.next ∧
      ∀ p, s.plans.find? r.plan = some p → r.terms = p.terms

lemma PlanEvolves.terms {p p' : PartitionPlan} (h : PlanEvolves p p') : p'.terms = p.terms := by
  have hgrounds := h.grounds
  unfold PartitionPlan.grounds at hgrounds
  simp only [Prod.mk.injEq] at hgrounds
  obtain ⟨hid, -, hgeneration, hboot, hcapability, hpolicy, huntil⟩ := hgrounds
  unfold PartitionPlan.terms
  rw [hid, h.accelerator, hgeneration, hboot, hcapability, hpolicy, huntil]

/-- What the terms of a reservation say about it. -/
lemma terms_inj {r r' : PartitionReservation} (h : r'.terms = r.terms) :
    r'.plan = r.plan ∧ r'.destructive = r.destructive := by
  unfold PartitionReservation.terms at h
  simp only [Prod.mk.injEq] at h
  exact ⟨h.1, h.2.2.2.2.2.2.2⟩

lemma terms_plan {p : PartitionPlan} (h : r.terms = p.terms) :
    r.plan = p.id ∧ r.destructive = false := by
  unfold PartitionReservation.terms PartitionPlan.terms at h
  simp only [Prod.mk.injEq] at h
  exact ⟨h.1, h.2.2.2.2.2.2.2⟩

lemma OnTerms.step {op : Op} (hs : OnTerms s) (hstanding : Standing s)
    (h : op.isImport = false) : OnTerms (op.step s) := by
  have hevolves := evolves_step h s
  have hlive := liveFrom_step (s := s) h
  have hplans (k : PartitionPlanId) (hk : k < s.ids.next) (p' : PartitionPlan)
      (hp' : (op.step s).plans.find? k = some p') :
      ∃ p, s.plans.find? k = some p ∧ p'.terms = p.terms := by
    obtain ⟨p, hp | ⟨hnew, -⟩, hchanged⟩ := hevolves.tenure.plans k p' hp'
    · exact ⟨p, hp, hchanged.terms⟩
    · exact absurd hk (not_lt.mpr hnew)
  refine ⟨hevolves.filed hs.filed, fun k r' hr' hr'live hcreates ↦ ?_⟩
  rcases hlive.live k r' hr' hr'live with ⟨-, r, hr, hterms⟩ | ⟨r, hr, hrlive, hterms⟩
  · obtain ⟨hplan, hsame⟩ := terms_inj hterms
    rcases hr with hdestructive | ⟨q, p, hp, hoffered⟩
    · exact absurd (hcreates.symm.trans (hsame.trans hdestructive)) (by decide)
    · obtain ⟨hid, hbelow⟩ := hs.filed q p hp
      have hq : r'.plan = q := hplan.trans ((terms_plan hoffered).1.trans hid)
      rw [hq]
      refine ⟨lt_of_lt_of_le hbelow hevolves.ids, fun p' hp' ↦ ?_⟩
      obtain ⟨p₀, hp₀, hkept⟩ := hplans q hbelow p' hp'
      obtain rfl := Option.some.inj (hp.symm.trans hp₀)
      rw [hterms, hoffered, hkept]
  · have hkept := hterms (hstanding.live k r hr hrlive)
    obtain ⟨hplan, hsame⟩ := terms_inj hkept
    obtain ⟨hbelow, hbound⟩ := hs.terms k r hr hrlive (hsame.symm.trans hcreates)
    rw [hplan]
    refine ⟨lt_of_lt_of_le hbelow hevolves.ids, fun p' hp' ↦ ?_⟩
    obtain ⟨p, hp, hpkept⟩ := hplans r.plan hbelow p' hp'
    rw [hkept, hbound p hp, hpkept]

/-- An import keeps the plans and brings no live reservation. -/
lemma OnTerms.imported {d : DurableState} (hs : OnTerms s) :
    OnTerms (importDurableState d now s).1 := by
  cases hvalid : d.validateImport s.stateGeneration with
  | error e =>
    rw [import_refused hvalid]
    exact hs
  | ok u =>
    refine ⟨fun k p hp ↦ ?_, fun k r hr hlive ↦ ?_⟩
    · rw [(restoring_import hvalid).plans] at hp
      obtain ⟨hid, hbelow⟩ := hs.filed k p hp
      exact ⟨hid, lt_of_lt_of_le hbelow forward_import⟩
    · rw [(conservative_validated hvalid).reservations k r hr] at hlive
      cases hlive

theorem onTerms_of_reachable (hs : fabric.Reachable anyOp s) : OnTerms s := by
  induction hs with
  | initial h =>
    obtain ⟨options, now, rfl⟩ := h
    exact ⟨fun _ _ h ↦ (by cases h), fun _ _ h ↦ (by cases h)⟩
  | @step s op hs _ ih =>
    cases himport : op.isImport with
    | false => exact ih.step (standing_of_reachable hs) himport
    | true =>
      cases op with
      | importDurableState durable now => exact ih.imported
      | _ => cases himport

end Terms

section Authority

/-- What is checked before the creation of a reservation is executed: the instance is open, the plan
binding is valid with the evidence that policy demands, and the device, the capability, the policy
and the time are those of the reservation. -/
structure CreationAuthority (s : FabricState) (r : PartitionReservation) (now : UInt64) : Prop where
  opened : s.closed = false
  plan : ∃ p, s.plans.find? r.plan = some p ∧
    validatePlanBinding s p now s.policy.requireFreshEvidence = success
  device : ∃ a, s.findAccelerator r.accelerator = some a ∧ a.generation = r.acceleratorGeneration ∧
    a.bootId = r.acceleratorBoot ∧ a.capability.generation = r.capabilityGeneration ∧
    (s.policy.requireFreshEvidence = true → a.evidence.isFreshAt now = true)
  policy : s.policyGeneration = r.policyGeneration
  unexpired : (r.expiresAtMs != 0 && now > r.expiresAtMs) = false

/-- With its authority a creation passes every check that execution makes before the dispatch. -/
lemma CreationAuthority.execute (h : CreationAuthority s r now) (hr : s.findReservation id = some r)
    (hactive : r.lifecycle = .active)
    (hworker : (s.requireWorkerForMutation && !valid r.worker) = false) :
    ∃ p a, PartitionFabric.execute id now s = dispatchCreation id r p a now s := by
  obtain ⟨p, hp, hbinding⟩ := h.plan
  obtain ⟨a, ha, hgeneration, hboot, hcapability, hfresh⟩ := h.device
  have hopened := checkOpen_opened h.opened
  have hcurrent : (a.evidence.isFreshAt now || !s.policy.requireFreshEvidence) = true := by
    cases hrequired : s.policy.requireFreshEvidence with
    | false => simp
    | true => rw [hfresh hrequired, Bool.true_or]
  refine ⟨p, a, ?_⟩
  unfold PartitionFabric.execute
  rw [bind_ok hopened, get_bind]
  simp only [hr]
  rw [require_bind, decide_eq_true hactive, if_pos rfl, require_bind, hworker, Bool.not_false,
    if_pos rfl, hp]
  simp only [hbinding, success]
  unfold executeBound
  rw [get_bind]
  simp only [ha]
  rw [if_neg (by simp [hgeneration, hboot]), if_neg (not_not.mpr hcapability),
    if_neg (not_not.mpr h.policy), if_neg (by simpa using h.unexpired), require_bind, hcurrent,
    if_pos rfl]

/-- The plan behind a reservation is registered, and all that it was bound to still holds. -/
def PlanStands (s : FabricState) (r : PartitionReservation) (now : UInt64) : Prop :=
  ∃ p, s.plans.find? r.plan = some p ∧ BindingHolds s p now s.policy.requireFreshEvidence

/-- What an attempt is registered for is an active reservation. -/
lemma registerAttempt_active {kind : AttemptKind} {worker : WorkerId} {boot : WorkerBootId}
    {attempt : PartitionAttempt} (hr : s.findReservation id = some r)
    (h : registerAttempt id kind worker boot now s = (t, .ok attempt)) : r.lifecycle = .active := by
  unfold registerAttempt at h
  rw [get_bind, hr] at h
  obtain ⟨u, _, hactive, -⟩ := bind_eq_ok.mp h
  exact of_decide_eq_true (require_eq_ok hactive).2

/-- An attempt that the coordinator registers for a creation has the authority that a local
execution checks exactly when the plan behind it stands. -/
theorem dispatch_authority_iff (hs : fabric.Reachable anyOp s)
    (hr : s.findReservation id = some r) (hcreates : r.destructive = false) {kind : AttemptKind}
    {worker : WorkerId} {boot : WorkerBootId} {attempt : PartitionAttempt}
    (h : registerAttempt id kind worker boot now s = (t, .ok attempt)) :
    CreationAuthority s r now ↔ PlanStands s r now := by
  have hlive : reservationIsTerminal r.lifecycle = false := by
    rw [registerAttempt_active hr h]
    rfl
  constructor
  · intro hauthority
    obtain ⟨p, hp, hbinding⟩ := hauthority.plan
    exact ⟨p, hp, validatePlanBinding_iff.mp hbinding⟩
  · rintro ⟨p, hp, hholds⟩
    have hterms := ((onTerms_of_reachable hs).terms id r hr hlive hcreates).2 p hp
    unfold PartitionReservation.terms PartitionPlan.terms at hterms
    simp only [Prod.mk.injEq] at hterms
    obtain ⟨-, haccelerator, hgeneration, hboot, hcapability, hpolicy, huntil, -⟩ := hterms
    refine ⟨?_, ⟨p, hp, validatePlanBinding_iff.mpr hholds⟩, ?_, ?_, ?_⟩
    · rw [Bool.eq_false_iff]
      intro hclosed
      have hterminal := (resting_of_closed hs hclosed).reservations id r hr
      exact absurd (hterminal.symm.trans hlive) (by decide)
    · rw [haccelerator, hgeneration, hboot, hcapability]
      exact hholds.device
    · rw [hpolicy]
      exact hholds.policy.symm
    · rw [huntil]
      exact hholds.unexpired

/-- The creation of the reserved slice is dispatched with its authority. -/
theorem dispatch_authority_reserved :
    let s := fabric.run Sample.reserved Sample.opened
    ∃ r, s.findReservation 3 = some r ∧ CreationAuthority s r 4 := by
  intro s
  have hs : fabric.Reachable anyOp s := System.Reachable.run (.initial ⟨_, _, rfl⟩) (by decide)
  have hcreates : (s.findReservation 3).map PartitionReservation.destructive = some false := by
    decide +kernel
  have hregisters : (registerAttempt 3 .createPartition 0 0 4 s).2.isOk = true := by decide +kernel
  have hstands : (s.findReservation 3).any (fun r ↦ (s.plans.find? r.plan).any fun p ↦
      (validatePlanBinding s p 4 s.policy.requireFreshEvidence).isOk) = true := by decide +kernel
  clear_value s
  cases hr : s.findReservation 3 with
  | none =>
    rw [hr] at hcreates
    cases hcreates
  | some r =>
    rw [hr] at hcreates hstands
    have hnew : r.destructive = false := Option.some.inj hcreates
    rw [Option.any_some] at hstands
    cases hrun : registerAttempt 3 .createPartition 0 0 4 s with
    | mk t status =>
      rw [hrun] at hregisters
      cases status with
      | error e => cases hregisters
      | ok attempt =>
        refine ⟨r, rfl, (dispatch_authority_iff hs hr hnew hrun).mpr ?_⟩
        cases hp : s.plans.find? r.plan with
        | none =>
          rw [hp] at hstands
          cases hstands
        | some p =>
          rw [hp, Option.any_some] at hstands
          refine ⟨p, hp, validatePlanBinding_iff.mp ?_⟩
          cases hbinding : validatePlanBinding s p 4 s.policy.requireFreshEvidence with
          | ok u => rfl
          | error e =>
            rw [hbinding] at hstands
            cases hstands

namespace Sample

/-- The policy changes after the slice was reserved. -/
def repoliced : List Op := reserved ++ [.setPolicy {}]

end Sample

/-- The coordinator registers a creation that was reserved under an outdated policy. -/
theorem dispatch_under_old_policy : ¬∀ s id r kind worker boot now t attempt,
    fabric.Reachable anyOp s → s.findReservation id = some r → r.destructive = false →
    registerAttempt id kind worker boot now s = (t, .ok attempt) → CreationAuthority s r now := by
  intro h
  let s := fabric.run Sample.repoliced Sample.opened
  have hs : fabric.Reachable anyOp s := System.Reachable.run (.initial ⟨_, _, rfl⟩) (by decide)
  have hold : (s.findReservation 3).any (fun r ↦
      !r.destructive && r.policyGeneration != s.policyGeneration) = true := by decide +kernel
  have hregisters : (registerAttempt 3 .createPartition 0 0 4 s).2.isOk = true := by decide +kernel
  clear_value s
  cases hr : s.findReservation 3 with
  | none =>
    rw [hr] at hold
    cases hold
  | some r =>
    rw [hr, Option.any_some, Bool.and_eq_true] at hold
    cases hrun : registerAttempt 3 .createPartition 0 0 4 s with
    | mk t status =>
      rw [hrun] at hregisters
      cases status with
      | error e => cases hregisters
      | ok attempt =>
        have hauthority := h s 3 r .createPartition 0 0 4 t attempt hs hr
          ((Bool.not_eq_true' _).mp hold.1) hrun
        exact bne_iff_ne.mp hold.2 hauthority.policy.symm

end Authority

end PartitionFabric
