import PartitionFabric.Invariants.Contexts
import PartitionFabric.Invariants.Undoing

/-!
Where records stand in every run, imports included: partitions stand under their own identities, and
live reservations under identities that the allocator has passed; an import brings no live
reservation with it.
-/

namespace PartitionFabric

open Procedure

variable {s t : FabricState} {now : UInt64} {π : Scope} {floor : UInt64}

/-- Partitions stand under their own identities, and live reservations under identities that were
handed out. -/
structure Standing (s : FabricState) : Prop where
  partitions : ∀ k r, s.findPartition k = some r → r.id = k
  live : ∀ k r, s.findReservation k = some r → reservationIsTerminal r.lifecycle = false →
    k < s.ids.next

section Live

/-- The terms on which the reservations of a plan are made. -/
def PartitionPlan.terms (p : PartitionPlan) :=
  (p.id, p.binding.accelerator, p.binding.acceleratorGeneration, p.binding.acceleratorBoot,
    p.binding.capabilityGeneration, p.binding.policyGeneration, p.binding.validUntilMs, false)

/-- A reservation for a destruction, or one on the terms of a registered plan. -/
def Offered (s : FabricState) (r : PartitionReservation) : Prop :=
  r.destructive = true ∨ ∃ k p, s.plans.find? k = some p ∧ r.terms = p.terms

/-- A live reservation was live before on the same terms, or it was made in between, as one that was
offered and under an identity that was handed out. -/
structure LiveFrom (offered : PartitionReservation → Prop) (s t : FabricState) : Prop where
  ids : s.ids.next ≤ t.ids.next
  live : ∀ k r', t.findReservation k = some r' → reservationIsTerminal r'.lifecycle = false →
    (k < t.ids.next ∧ ∃ r, offered r ∧ r'.terms = r.terms) ∨
      ∃ r, s.findReservation k = some r ∧ reservationIsTerminal r.lifecycle = false ∧
        (k < s.ids.next → r'.terms = r.terms)

variable {offered : PartitionReservation → Prop}

instance : Std.Refl (LiveFrom offered) :=
  ⟨fun _ ↦ ⟨le_refl _, fun _ r hr hlive ↦ Or.inr ⟨r, hr, hlive, fun _ ↦ rfl⟩⟩⟩

instance : IsTrans FabricState (LiveFrom offered) where
  trans s t u hst htu := by
    refine ⟨hst.ids.trans htu.ids, fun k r'' hr'' hlive ↦ ?_⟩
    rcases htu.live k r'' hr'' hlive with hnew | ⟨r', hr', hlive', hterms'⟩
    · exact Or.inl hnew
    · rcases hst.live k r' hr' hlive' with ⟨hbelow, r, hr, hterms⟩ | ⟨r, hr, hlive, hterms⟩
      · exact Or.inl ⟨lt_of_lt_of_le hbelow htu.ids, r, hr, (hterms' hbelow).trans hterms⟩
      · refine Or.inr ⟨r, hr, hlive, fun hbelow ↦ ?_⟩
        exact (hterms' (lt_of_lt_of_le hbelow hst.ids)).trans (hterms hbelow)

lemma LiveFrom.of_evolves (h : Evolves π s.ids.next s t) (hreserves : ¬π.reserves)
    (hresettles : ∀ k, ¬π.resettles k) : LiveFrom offered s t := by
  refine ⟨h.ids, fun k r' hr' hlive ↦ Or.inr ?_⟩
  obtain ⟨r, hr, hevolves⟩ := h.reservation_before hreserves hr'
  refine ⟨r, hr, ?_, fun hbelow ↦ hevolves.terms.resolve_left (not_le.mpr hbelow)⟩
  rcases hevolves.lifecycle with hagain | hbefore | hsame
  · exact absurd hagain (hresettles k)
  · exact hbefore
  · rw [← hsame]
    exact hlive

/-- What evolves without a scope of its own makes no reservation. -/
lemma Evolves.liveFrom (h : Evolves {} s.ids.next s t) : LiveFrom offered s t :=
  .of_evolves h (fun h ↦ h) fun _ h ↦ h

/-- Recording an offered reservation under an identity that was handed out. -/
lemma liveFrom_insert {id : PartitionReservationId} {r : PartitionReservation}
    (h : id < s.ids.next) (hr : offered r) :
    LiveFrom offered s { s with reservations := s.reservations.insert id r } := by
  refine ⟨le_refl _, fun k r' hr' hlive ↦ ?_⟩
  rw [FabricState.findReservation, KeyedMap.find?_insert] at hr'
  split at hr'
  · rename_i hk
    obtain rfl := Option.some.inj hr'
    exact Or.inl ⟨hk ▸ h, r, hr, rfl⟩
  · exact Or.inr ⟨r', hr', hlive, fun _ ↦ rfl⟩

lemma liveFrom_of_eq (hids : t.ids = s.ids) (hreservations : t.reservations = s.reservations) :
    LiveFrom offered s t := by
  refine ⟨by rw [hids], fun k r' hr' hlive ↦ Or.inr ⟨r', ?_, hlive, fun _ ↦ rfl⟩⟩
  rwa [FabricState.findReservation, ← hreservations]

lemma liveFrom_bump : LiveFrom offered s s.bumpStateGeneration :=
  (evolves_bump s : Evolves {} s.ids.next s s.bumpStateGeneration).liveFrom

lemma liveFrom_allocateId : Advances (LiveFrom offered) allocateId s :=
  (advances_allocateId : Advances (Evolves {} s.ids.next) allocateId s).liveFrom

lemma liveFrom_onLedger {id : AcceleratorId} {op : LedgerM Unit} :
    Advances (LiveFrom offered) (onLedger id op) s := by
  unfold Advances onLedger
  cases s.findLedger id with
  | none => exact refl_of _ s
  | some l => exact liveFrom_of_eq rfl rfl

lemma liveFrom_touchLedger {id : AcceleratorId} : LiveFrom offered s (touchLedger id s) := by
  unfold touchLedger
  split
  · exact refl_of _ s
  · exact liveFrom_of_eq rfl rfl

lemma liveFrom_abandonReservation {id : AcceleratorId} {needed : ResourceVector}
    {partitions : List PartitionId} {e : Error} :
    Advances (LiveFrom offered) (abandonReservation id needed partitions e) s := by
  refine advances_bind (advances_forM fun _ _ _ _ ↦ ?_) fun _ _ _ ↦ ?_
  · exact advances_modify (liveFrom_of_eq rfl rfl)
  · exact advances_bind (advances_ignore liveFrom_onLedger) fun _ _ _ ↦ advances_throw _ _

/-- Whatever reservation a plan leads to under the policy of a state is an offered one. -/
def OffersOf (offered : PartitionReservation → Prop) (s : FabricState) (plan : PartitionPlan)
    (needed : ResourceVector) (now : UInt64) : Prop :=
  ∀ u id partitions, Keeps FabricState.policyGeneration s u →
    offered (reservationFor u plan needed id partitions now)

lemma OffersOf.of_keeps {plan : PartitionPlan} {needed : ResourceVector}
    (h : OffersOf offered s plan needed now) (ht : Keeps FabricState.policyGeneration s t) :
    OffersOf offered t plan needed now :=
  fun u id partitions hu ↦ h u id partitions (trans_of (Keeps _) ht hu)

lemma liveFrom_completeReservation {planId : PartitionPlanId} {plan : PartitionPlan}
    {needed : ResourceVector} {id : PartitionReservationId} (h : id < s.ids.next)
    (hoffers : OffersOf offered s plan needed now) :
    Advances (LiveFrom offered) (completeReservation planId plan needed id now) s := by
  unfold completeReservation
  have hrecords : Advances (Evolves {} s.ids.next)
      (reservePartitions plan now plan.plannedPartitions []) s :=
    advances_reservePartitions (le_refl _)
  refine advances_bind_of hrecords.liveFrom fun t result hrun hst ↦ advances_get_bind ?_
  have hpolicy : Keeps FabricState.policyGeneration s t := by
    obtain ⟨allocator, status, heq, -⟩ :=
      reservePartitions_eq plan now plan.plannedPartitions [] s
    obtain rfl := (Prod.mk.inj (heq.symm.trans hrun)).1
    rfl
  simp only
  split
  · exact liveFrom_abandonReservation
  · exact liveFrom_abandonReservation
  · have hbelow : id < t.ids.next := lt_of_lt_of_le h hst.ids
    refine advances_modify_bind (liveFrom_insert hbelow (hoffers t id _ hpolicy)) ?_
    refine advances_modify_bind (liveFrom_of_eq rfl rfl) ?_
    exact advances_modify_bind liveFrom_bump (advances_pure _ _)

lemma liveFrom_holdPlanned {planId : PartitionPlanId} {plan : PartitionPlan}
    {needed : ResourceVector} (hoffers : OffersOf offered s plan needed now) :
    Advances (LiveFrom offered) (holdPlanned planId plan needed now) s := by
  let s₁ := touchLedger plan.binding.accelerator s
  have htouched : Keeps FabricState.policyGeneration s s₁ := by
    change (touchLedger plan.binding.accelerator s).policyGeneration = _
    unfold touchLedger
    split <;> rfl
  refine advances_modify_bind liveFrom_touchLedger ?_
  refine advances_bind liveFrom_onLedger fun t _ hhold ↦ ?_
  have hheld : Advances (Keeps FabricState.policyGeneration)
      (onLedger plan.binding.accelerator (CapacityLedger.reserve needed)) s₁ :=
    keeps_onLedger _ fun _ _ ↦ rfl
  refine advances_bind (advances_attempt liveFrom_allocateId) fun u status hid ↦ ?_
  cases status with
  | error e => exact advances_bind (advances_ignore liveFrom_onLedger) fun _ _ _ ↦ advances_throw _ _
  | ok id =>
    obtain ⟨-, hlt, ids, rfl⟩ := allocateId_eq_ok (attempt_eq_ok hid)
    have hst : Keeps FabricState.policyGeneration s t :=
      trans_of (Keeps _) htouched (hheld.of_run hhold)
    exact liveFrom_completeReservation hlt (hoffers.of_keeps hst)

lemma liveFrom_of_live {u : FabricState} (hids : s.ids.next ≤ u.ids.next)
    (hlive : ∀ k r, reservationIsTerminal r.lifecycle = false →
      (u.findReservation k = some r ↔ s.findReservation k = some r)) : LiveFrom offered s u :=
  ⟨hids, fun k r hr h ↦ Or.inr ⟨r, (hlive k r h).mp hr, h, fun _ ↦ rfl⟩⟩

lemma liveFrom_reserve {planId : PartitionPlanId} :
    Advances (LiveFrom (Offered s)) (reserve planId now) s := by
  have hevolves : Evolves _ s.ids.next s ((Op.reserve planId now).step s) := evolves_step rfl s
  have hids : s.ids.next ≤ (reserve planId now s).1.ids.next := hevolves.ids
  unfold Advances
  rcases reserve_cases s planId now with ⟨t, e, hrun, hunmoved, -⟩ |
    ⟨plan, needed, m, hreaches, hlive, hrun⟩
  · rw [hrun] at hids ⊢
    exact liveFrom_of_live hids hunmoved.reservations
  · rw [hrun]
    let u : FabricState := { s with reservations := m }
    have hroom : LiveFrom (Offered s) s u := liveFrom_of_live (le_refl _) hlive
    have hpolicy := (validatePlanBinding_iff.mp hreaches.current).policy
    have hoffers : OffersOf (Offered s) u plan needed now := by
      intro v id partitions hv
      refine Or.inr ⟨planId, plan, hreaches.found, ?_⟩
      have hsame : v.policyGeneration = plan.binding.policyGeneration := hv.trans hpolicy.symm
      exact congrArg (fun g ↦ (plan.id, plan.binding.accelerator,
        plan.binding.acceleratorGeneration, plan.binding.acceleratorBoot,
        plan.binding.capabilityGeneration, g, plan.binding.validUntilMs, false)) hsame
    exact trans_of (LiveFrom (Offered s)) hroom (liveFrom_holdPlanned hoffers)

section Destructive

variable {hold : ResourceVector} {accelerator : AcceleratorRecord} {affected : List PartitionRecord}

lemma liveFrom_holdCapacity {id : AcceleratorId} {plan : PartitionPlanId} :
    Advances (LiveFrom offered) (holdCapacity id hold plan) s := by
  refine advances_when fun _ ↦ advances_bind (advances_attempt liveFrom_onLedger) fun t status _ ↦ ?_
  cases status with
  | ok u => exact advances_pure _ _
  | error e => exact advances_modify_bind (liveFrom_of_eq rfl rfl) (advances_throw _ _)

/-- A reservation for a destruction says so, under an identity that was handed out. -/
lemma createDestructiveReservationLocked_destructive :
    Ensures (fun r t ↦ r.id < t.ids.next ∧ r.destructive = true)
      (createDestructiveReservationLocked accelerator affected hold now) s := by
  refine ensures_bind fun t planId _ ↦ ensures_bind fun u id hid ↦ ensures_get_bind ?_
  obtain ⟨-, hlt, -⟩ := allocateId_eq_ok hid
  refine ensures_modify_bind (ensures_bind fun v _ hv ↦ ensures_bind fun w _ hw ↦ ?_)
  refine ensures_modify_bind (ensures_modify_bind (ensures_pure ⟨?_, rfl⟩))
  obtain rfl := (require_eq_ok hv).1
  have hheld : LiveFrom (fun _ ↦ True) _ w := liveFrom_holdCapacity.of_run hw
  rw [bump_ids]
  exact lt_of_lt_of_le hlt hheld.ids

lemma liveFrom_createDestructiveReservationLocked
    (hoffered : ∀ r : PartitionReservation, r.destructive = true → offered r) :
    Advances (LiveFrom offered)
      (createDestructiveReservationLocked accelerator affected hold now) s := by
  refine advances_bind liveFrom_allocateId fun t planId _ ↦ ?_
  refine advances_bind liveFrom_allocateId fun u id hid ↦ advances_get_bind ?_
  obtain ⟨-, hlt, -⟩ := allocateId_eq_ok hid
  refine advances_modify_bind (liveFrom_of_eq rfl rfl) (advances_require_bind fun _ ↦ ?_)
  refine advances_bind_of liveFrom_holdCapacity fun v _ _ huv ↦ ?_
  have hbelow : id < v.ids.next := lt_of_lt_of_le hlt huv.ids
  exact advances_modify_bind (liveFrom_insert hbelow (hoffered _ rfl))
    (advances_modify_bind liveFrom_bump (advances_pure _ _))

lemma liveFrom_transition {key : PartitionId} {target : PartitionState} {reason : Text}
    (h : target ≠ .active) :
    Advances (LiveFrom offered) (transitionPartition now key target reason) s := by
  have hmoves : Advances (Evolves {} s.ids.next) (transitionPartition now key target reason) s :=
    advances_transition trivial h
  exact hmoves.liveFrom

lemma liveFrom_reserveDestruction {p : PartitionId} {stale : Text}
    (hoffered : ∀ r : PartitionReservation, r.destructive = true → offered r) :
    Advances (LiveFrom offered) (reserveDestruction p now stale) s := by
  refine advances_bind (refl_of _ s) fun t _ hopen ↦ advances_get_bind ?_
  cases t.findPartition p with
  | none => exact advances_throw _ _
  | some record =>
    refine advances_require_bind fun _ ↦ advances_require_bind fun _ ↦ ?_
    refine advances_require_bind fun _ ↦ ?_
    cases t.findAccelerator record.accelerator with
    | none => exact advances_throw _ _
    | some accelerator =>
      refine advances_ite (fun _ ↦ ?_) fun _ ↦ ?_
      · exact advances_bind (advances_ignore (liveFrom_transition (by decide))) fun _ _ _ ↦
          advances_throw _ _
      · exact advances_bind (liveFrom_createDestructiveReservationLocked hoffered) fun _ _ _ ↦
          advances_pure _ _

lemma liveFrom_registerAttemptLocked {key : PartitionReservationId}
    {reservation : PartitionReservation} {kind : AttemptKind} {worker : WorkerId}
    {boot : WorkerBootId} :
    Advances (LiveFrom offered) (registerAttemptLocked key reservation kind worker boot now) s := by
  have h : Advances (Evolves { registers := fun _ ↦ True } s.ids.next)
      (registerAttemptLocked key reservation kind worker boot now) s :=
    advances_registerAttemptLocked (le_refl _) (fun _ _ ↦ trivial) fun _ _ ↦ trivial
  exact .of_evolves h (fun h ↦ h) fun _ h ↦ h

lemma liveFrom_stableKeyOf {id : AcceleratorId} :
    Advances (LiveFrom offered) (stableKeyOf id) s :=
  (advances_stableKeyOf : Advances (Evolves {} s.ids.next) (stableKeyOf id) s).liveFrom

lemma liveFrom_destroyPartition {p : PartitionId}
    (hoffered : ∀ r : PartitionReservation, r.destructive = true → offered r) :
    Advances (LiveFrom offered) (destroyPartition p now) s := by
  refine advances_bind (liveFrom_reserveDestruction hoffered) fun t entry _ ↦ ?_
  obtain ⟨accelerator, record, reservation⟩ := entry
  refine advances_bind liveFrom_registerAttemptLocked fun _ _ _ ↦ ?_
  exact advances_bind liveFrom_stableKeyOf fun _ _ _ ↦ advances_get_bind (advances_pure _ _)

/-- Rebinding a reservation that was handed out to offered terms. -/
lemma liveFrom_rebind {id : PartitionReservationId} {stored : PartitionReservation}
    (h : id < s.ids.next) (hstored : offered stored) :
    LiveFrom offered s (s.modifyReservation id fun _ ↦ stored) := by
  refine ⟨le_refl _, fun k r' hr' hlive ↦ ?_⟩
  rw [FabricState.findReservation, FabricState.modifyReservation, KeyedMap.find?_modify] at hr'
  split at hr'
  · rename_i hk
    obtain ⟨r, -, rfl⟩ := Option.map_eq_some_iff.mp hr'
    exact Or.inl ⟨hk ▸ h, _, hstored, rfl⟩
  · exact Or.inr ⟨r', hr', hlive, fun _ ↦ rfl⟩

lemma liveFrom_dispatchReconfiguration {planId : PartitionPlanId} {plan : PartitionPlan}
    (hoffered : ∀ r : PartitionReservation, r.destructive = true → offered r) :
    Advances (LiveFrom offered)
      (dispatchReconfiguration planId plan accelerator affected hold now) s := by
  refine advances_bind (liveFrom_createDestructiveReservationLocked hoffered) fun t r hr ↦ ?_
  obtain ⟨hbelow, hdestructive⟩ := createDestructiveReservationLocked_destructive t r hr
  refine advances_modify_bind (liveFrom_rebind hbelow (hoffered _ hdestructive)) ?_
  refine advances_bind (advances_forM fun _ _ _ _ ↦ liveFrom_transition (by decide)) fun _ _ _ ↦ ?_
  refine advances_bind liveFrom_registerAttemptLocked fun _ _ _ ↦ ?_
  refine advances_bind liveFrom_stableKeyOf fun _ _ _ ↦ advances_get_bind ?_
  exact advances_modify_bind (liveFrom_of_eq rfl rfl) (advances_pure _ _)

lemma liveFrom_executeReconfiguration {planId : PartitionPlanId}
    (hoffered : ∀ r : PartitionReservation, r.destructive = true → offered r) :
    Advances (LiveFrom offered) (executeReconfiguration planId now) s := by
  refine advances_bind (refl_of _ s) fun t _ _ ↦ advances_get_bind ?_
  cases t.plans.find? planId with
  | none => exact advances_throw _ _
  | some plan =>
    refine advances_require_bind fun _ ↦ ?_
    cases validatePlanBinding t plan now t.policy.requireFreshEvidence with
    | error e => exact advances_modify_bind (liveFrom_of_eq rfl rfl) (advances_throw _ _)
    | ok u =>
      simp only
      cases t.findAccelerator plan.binding.accelerator with
      | none => exact advances_throw _ _
      | some accelerator =>
        refine advances_require_bind fun _ ↦ advances_lift_bind fun _ _ ↦ ?_
        refine advances_lift_bind fun _ _ ↦ advances_lift_bind fun _ _ ↦ ?_
        exact advances_lift_bind fun _ _ ↦ liveFrom_dispatchReconfiguration hoffered

end Destructive

/-- A result may settle its reservation again, but it brings no reservation to life. -/
lemma liveFrom_applyMutationResult {key : PartitionAttemptId}
    {mutation : Result BackendMutationResult} {observed : Option BackendLayout} :
    LiveFrom offered s ((Op.applyMutationResult key mutation observed now).step s) := by
  refine ⟨(evolves_step rfl s).ids, fun k r' hr' hlive ↦ Or.inr ?_⟩
  have hkept : Evolves _ s.ids.next s ((Op.applyMutationResult key mutation observed now).step s) :=
    evolves_step rfl s
  obtain ⟨r, hr, hevolves⟩ := hkept.reservation_before (fun h ↦ h) hr'
  refine ⟨r, hr, ?_, fun hbelow ↦ hevolves.terms.resolve_left (not_le.mpr hbelow)⟩
  cases hterminal : reservationIsTerminal r.lifecycle with
  | false => rfl
  | true =>
    rw [terminal_applyMutationResult hr hterminal hr'] at hlive
    cases hlive

lemma liveFrom_step {op : Op} (h : op.isImport = false) :
    LiveFrom (Offered s) s (op.step s) := by
  have hoffered (r : PartitionReservation) (hr : r.destructive = true) : Offered s r := Or.inl hr
  cases op with
  | reserve planId now => exact liveFrom_reserve
  | destroyPartition p now => exact liveFrom_destroyPartition hoffered
  | createDestructionReservation p now =>
    have hreserved : Advances (LiveFrom (Offered s)) (createDestructionReservation p now) s :=
      advances_bind (liveFrom_reserveDestruction hoffered) fun _ _ _ ↦ advances_pure _ _
    exact hreserved
  | executeReconfiguration planId now => exact liveFrom_executeReconfiguration hoffered
  | applyMutationResult key mutation observed now => exact liveFrom_applyMutationResult
  | importDurableState durable now => cases h
  | _ => exact .of_evolves (evolves_step h s) (fun h ↦ h) fun _ h ↦ h

end Live

section Runs

lemma Standing.step {op : Op} (hs : Standing s) (h : op.isImport = false) :
    Standing (op.step s) := by
  have hevolves := evolves_step h s
  have hlive := liveFrom_step (s := s) h
  refine ⟨fun k r' hr' ↦ ?_, fun k r' hr' hr'live ↦ ?_⟩
  · rcases hevolves.origin k r' hr' with ⟨hid, -⟩ | ⟨r, hr, hrecord⟩
    · exact hid
    · rw [hrecord.id]
      exact hs.partitions k r hr
  · rcases hlive.live k r' hr' hr'live with ⟨hbelow, -⟩ | ⟨r, hr, hrlive, -⟩
    · exact hbelow
    · exact lt_of_lt_of_le (hs.live k r hr hrlive) hlive.ids

/-- An import brings partitions under their own identities and no live reservation. -/
lemma Standing.imported {d : DurableState} (hs : Standing s) :
    Standing (importDurableState d now s).1 := by
  cases hvalid : d.validateImport s.stateGeneration with
  | error e =>
    rw [import_refused hvalid]
    exact hs
  | ok u =>
    refine ⟨(restoring_import hvalid).partitions, fun k r hr hlive ↦ ?_⟩
    rw [(conservative_validated hvalid).reservations k r hr] at hlive
    cases hlive

theorem standing_of_reachable (hs : fabric.Reachable anyOp s) : Standing s := by
  refine hs.invariant ?_ fun s op hstanding _ ↦ ?_
  · rintro _ ⟨options, now, rfl⟩
    exact ⟨fun _ _ h ↦ (by cases h), fun _ _ h ↦ (by cases h)⟩
  · cases himport : op.isImport with
    | false => exact hstanding.step himport
    | true =>
      cases op with
      | importDurableState durable now => exact hstanding.imported
      | _ => cases himport

end Runs

end PartitionFabric
