import PartitionFabric.Invariants.Identities

/-!
The context of a call in flight: an attempt that has not settled still has its reservation, and one
that replaces a layout still has its plan, as long as nothing evicts them in the meantime.
-/

namespace PartitionFabric

open Procedure DurableState

variable {s t : FabricState} {π : Scope} {now : UInt64}

/-- The reservation of an attempt is registered, and so is its plan when a layout is replaced. -/
def HasContext (s : FabricState) (a : PartitionAttempt) : Prop :=
  ∃ r, s.findReservation a.reservation = some r ∧
    (a.kind = .reconfigureLayout → ∃ p, s.plans.find? r.plan = some p)

/-- Every attempt that has not settled has its context. -/
def KeepsContexts (s : FabricState) : Prop :=
  ∀ key a, s.findAttempt key = some a → attemptSettled a.state = false → HasContext s a

/-- An attempt that has not settled refers to the reservation. -/
def Awaited (s : FabricState) (id : PartitionReservationId) : Prop :=
  ∃ key a, s.findAttempt key = some a ∧ attemptSettled a.state = false ∧ a.reservation = id

/-- An attempt to replace a layout that has not settled was reserved under the plan. -/
def PlanAwaited (s : FabricState) (id : PartitionPlanId) : Prop :=
  ∃ key a r, s.findAttempt key = some a ∧ attemptSettled a.state = false ∧
    a.kind = .reconfigureLayout ∧ s.findReservation a.reservation = some r ∧ r.plan = id

/-- The registry is indexed by identities that were handed out, and calls in flight have their
contexts. -/
structure Contextual (s : FabricState) : Prop where
  indexed : Indexed s
  filed : Filed s
  contexts : KeepsContexts s

section Steps

/-- A context survives a step that neither evicts the reservation nor discards its plan. -/
lemma HasContext.evolve {a : PartitionAttempt} (h : HasContext s a) (hi : Indexed s)
    (hf : Filed s) (hst : Evolves π s.ids.next s t) (hevicts : ¬π.evicts a.reservation)
    (hdiscards : ∀ r, s.findReservation a.reservation = some r →
      a.kind = .reconfigureLayout → ¬π.discards r.plan) : HasContext t a := by
  obtain ⟨r, hr, hplan⟩ := h
  have hbelow : a.reservation < s.ids.next := (hi.reservations _ r hr).2
  obtain ⟨r', hr'⟩ := (hst.tenure.kept _ r hr).resolve_left hevicts
  refine ⟨r', hr', fun hkind ↦ ?_⟩
  obtain ⟨p, hp⟩ := hplan hkind
  have hterms : r'.terms = r.terms := by
    rcases hst.tenure.reservations _ r' hr' with ⟨⟨hnew, -⟩, -⟩ | ⟨r₀, hr₀, hevolves⟩
    · exact absurd hbelow (not_lt.mpr hnew)
    · obtain rfl := Option.some.inj (hr.symm.trans hr₀)
      exact hevolves.terms.resolve_left (not_le.mpr hbelow)
  have hsame : r'.plan = r.plan := congrArg Prod.fst hterms
  rw [hsame]
  exact (hst.tenure.planned _ (hf _ p hp).2 p hp).resolve_left (hdiscards r hr hkind)

/-- An attempt that has not settled after a step had not settled before. -/
lemma AttemptEvolves.unsettled {a a' : PartitionAttempt} (h : AttemptEvolves π a a')
    (ha' : attemptSettled a'.state = false) : attemptSettled a.state = false := by
  rcases h.state with hsame | hflight | ⟨-, hreconciled, -⟩
  · rwa [hsame] at ha'
  · cases hstate : a.state <;> simp [hstate, AttemptState.inFlight, attemptSettled] at hflight ⊢
  · rw [hreconciled] at ha'
    cases ha'

/-- What an attempt refers to is all that its context depends on. -/
lemma HasContext.of_evolves {a a' : PartitionAttempt} (h : HasContext s a)
    (ha : AttemptEvolves π a a') : HasContext s a' := by
  unfold HasContext at h ⊢
  rwa [ha.reservation, ha.kind]

/-- A step keeps all contexts when it spares what is awaited and registers attempts with
contexts. -/
lemma Contextual.evolve (hs : Contextual s) (hst : Evolves π s.ids.next s t)
    (hevicts : ∀ id, π.evicts id → ¬Awaited s id)
    (hdiscards : ∀ id, π.discards id → ¬PlanAwaited s id)
    (hregisters : ∀ a, π.registers a → HasContext t a) : Contextual t := by
  refine ⟨hst.indexed hs.indexed, hst.filed hs.filed, fun key a' ha' hunsettled ↦ ?_⟩
  obtain ⟨a, ha | ⟨-, hnew⟩, hevolves⟩ := hst.attempts key a' ha'
  · have hbefore := hevolves.unsettled hunsettled
    refine HasContext.of_evolves ?_ hevolves
    refine (hs.contexts key a ha hbefore).evolve hs.indexed hs.filed hst (fun he ↦ ?_)
      fun r hr hkind hd ↦ ?_
    · exact hevicts _ he ⟨key, a, ha, hbefore, rfl⟩
    · exact hdiscards _ hd ⟨key, a, r, ha, hbefore, hkind, hr, rfl⟩
  · exact (hregisters a hnew).of_evolves hevolves

/-- A step that evicts, discards and registers nothing keeps all contexts. -/
lemma Contextual.plain (hs : Contextual s) (hst : Evolves {} s.ids.next s t) : Contextual t :=
  hs.evolve hst (fun _ h ↦ h.elim) (fun _ h ↦ h.elim) fun _ h ↦ h.elim

/-- An attempt registered for a stored reservation has its context. -/
lemma contextual_registerAttemptLocked {key : PartitionReservationId}
    {reservation : PartitionReservation} {kind : AttemptKind} {worker : WorkerId}
    {boot : WorkerBootId} (hs : Contextual s)
    (hstored : s.findReservation reservation.id = some reservation)
    (hplan : kind = .reconfigureLayout → ∃ p, s.plans.find? reservation.plan = some p) :
    Contextual (registerAttemptLocked key reservation kind worker boot now s).1 := by
  let π : Scope := { registers := IssuedFor reservation kind worker boot }
  have hst : Evolves π s.ids.next s
      (registerAttemptLocked key reservation kind worker boot now s).1 :=
    advances_registerAttemptLocked (le_refl _) (fun _ _ ↦ trivial) fun _ h ↦ h
  refine hs.evolve hst (fun _ h ↦ h.elim) (fun _ h ↦ h.elim) fun a ha ↦ ?_
  have hcontext : HasContext s a :=
    ⟨reservation, ha.identity ▸ hstored, fun hkind ↦ hplan (ha.kind ▸ hkind)⟩
  exact hcontext.evolve hs.indexed hs.filed hst (fun h ↦ h.elim) fun _ _ _ h ↦ h.elim

/-- A reserved destruction is stored as it is returned. -/
lemma reserveDestruction_stored {p : PartitionId} {stale : Text} :
    Ensures (fun entry t ↦ t.findReservation entry.2.2.id = some entry.2.2)
      (reserveDestruction p now stale) s := by
  refine ensures_bind fun t _ _ ↦ ensures_get_bind ?_
  cases t.findPartition p with
  | none => exact ensures_throw _ _
  | some record =>
    refine ensures_bind fun _ _ _ ↦ ensures_bind fun _ _ _ ↦ ensures_bind fun _ _ _ ↦ ?_
    cases t.findAccelerator record.accelerator with
    | none => exact ensures_throw _ _
    | some accelerator =>
      simp only
      split
      · exact ensures_bind fun _ _ _ ↦ ensures_throw _ _
      · refine ensures_bind fun w reservation hr ↦ ensures_pure ?_
        exact createDestructiveReservationLocked_stored w reservation hr

/-- What reserving a destructive mutation may do. -/
def reserving : Scope := { reserves := True, plans := fun _ ↦ True }

lemma Contextual.reserve (hs : Contextual s) (hst : Evolves reserving s.ids.next s t) :
    Contextual t :=
  hs.evolve hst (fun _ h ↦ h.elim) (fun _ h ↦ h.elim) fun _ h ↦ h.elim

lemma contextual_stableKeyOf {id : AcceleratorId} :
    Advances (Preserves Contextual) (stableKeyOf id) s :=
  fun hs ↦ hs.plain advances_stableKeyOf

lemma contextual_destroyPartition {p : PartitionId} :
    Advances (Preserves Contextual) (destroyPartition p now) s := by
  refine advances_bind_of (fun hs ↦ hs.reserve (advances_reserveDestruction trivial (le_refl _)
    (fun _ _ _ _ _ _ ↦ trivial) fun _ ↦ trivial)) fun t entry hentry _ ↦ ?_
  have hstored := reserveDestruction_stored t entry hentry
  obtain ⟨accelerator, record, reservation⟩ := entry
  refine advances_bind (fun ht ↦ contextual_registerAttemptLocked ht hstored fun h ↦ by cases h)
    fun _ _ _ ↦ ?_
  exact advances_bind contextual_stableKeyOf fun _ _ _ ↦ advances_get_bind (advances_pure _ _)

/-- A plan that is registered when its reconfiguration is dispatched stays registered until the
attempt is, so the attempt has its context. -/
lemma contextual_dispatchReconfiguration {planId : PartitionPlanId} {plan : PartitionPlan}
    {accelerator : AcceleratorRecord} {affected : List PartitionRecord} {hold : ResourceVector}
    (hs : Contextual s) (hplan : s.plans.find? planId = some plan) :
    Contextual (dispatchReconfiguration planId plan accelerator affected hold now s).1 := by
  have hid := hs.filed planId plan hplan
  have hbelow : plan.id < s.ids.next := hid.1 ▸ hid.2
  -- the states on the way to the attempt are all reached within one scope
  have hcontext : ∀ t, Evolves reserving s.ids.next s t →
      Contextual t ∧ ∃ p, t.plans.find? plan.id = some p := fun t hst ↦
    ⟨hs.reserve hst, (hst.tenure.planned _ hbelow plan (hid.1 ▸ hplan)).resolve_left id⟩
  unfold dispatchReconfiguration
  have hcreate : Evolves reserving s.ids.next s
      (createDestructiveReservationLocked accelerator affected hold now s).1 :=
    advances_createDestructiveReservationLocked trivial (le_refl _) fun _ _ ↦ trivial
  refine bind_fst (P := fun t : FabricState ↦ Contextual t) (fun t e hrun ↦ ?_)
    fun t reservation hrun ↦ ?_
  · rw [hrun] at hcreate
    exact (hcontext t hcreate).1
  have hstored := createDestructiveReservationLocked_stored t reservation hrun
  have hnew := createDestructiveReservationLocked_numbered t reservation hrun
  rw [hrun] at hcreate
  rw [modify_bind]
  generalize hrebound : { reservation with
    plan := plan.id
    planGeneration := plan.generation
    plannedMutations := (plan.plannedPartitions.length + affected.length).toUInt32 } = rebound
  have hidentity : rebound.id = reservation.id := by rw [← hrebound]
  have hplanned : rebound.plan = plan.id := by rw [← hrebound]
  have hmodify : Evolves reserving s.ids.next t
      (t.modifyReservation reservation.id fun _ ↦ rebound) := by
    refine evolves_modifyReservation fun r hr ↦ ?_
    obtain rfl := Option.some.inj (hstored.symm.trans hr)
    subst hrebound
    exact ⟨rfl, Or.inr ⟨rfl, rfl, rfl⟩, Or.inr (Or.inr rfl), Or.inr (Or.inr rfl), Or.inl hnew⟩
  have hfound : (t.modifyReservation reservation.id fun _ ↦ rebound).findReservation rebound.id =
      some rebound := by
    unfold FabricState.findReservation FabricState.modifyReservation
    rw [hidentity, KeyedMap.find?_modify, if_pos rfl, hstored]
    rfl
  have hmark : ∀ u, Advances (Evolves reserving s.ids.next)
      (affected.forM fun record ↦ transitionPartition now record.id .reconfigurationRequired
        "device-wide reconfiguration attempt registered") u := fun u ↦
    advances_forM fun _ _ _ _ ↦ advances_transition trivial (by decide)
  have hkeep : ∀ u, Advances (Keeps commitments)
      (affected.forM fun record ↦ transitionPartition now record.id .reconfigurationRequired
        "device-wide reconfiguration attempt registered") u := fun u ↦
    advances_forM fun _ _ _ _ ↦ keeps_transition
  have hmarked := hmark (t.modifyReservation reservation.id fun _ ↦ rebound)
  have hkept := hkeep (t.modifyReservation reservation.id fun _ ↦ rebound)
  have hreach := trans_of (Evolves reserving s.ids.next) hcreate hmodify
  refine bind_fst (P := fun t : FabricState ↦ Contextual t) (fun v e hloop ↦ ?_)
    fun v _ hloop ↦ ?_
  · unfold Advances at hmarked
    rw [hloop] at hmarked
    exact (hcontext v (trans_of _ hreach hmarked)).1
  unfold Advances at hmarked hkept
  rw [hloop] at hmarked hkept
  obtain ⟨hv, hplanv⟩ := hcontext v (trans_of _ hreach hmarked)
  have hfoundv : v.findReservation rebound.id = some rebound := by
    have hsame : v.reservations = (t.modifyReservation reservation.id fun _ ↦ rebound).reservations :=
      congrArg Prod.snd hkept
    unfold FabricState.findReservation at hfound ⊢
    rwa [hsame]
  refine (?_ : Advances (Preserves Contextual) _ v) hv
  refine advances_bind (fun _ ↦ contextual_registerAttemptLocked hv hfoundv fun _ ↦
    hplanned ▸ hplanv) fun _ _ _ ↦ ?_
  refine advances_bind contextual_stableKeyOf fun w _ _ ↦ advances_get_bind ?_
  exact advances_modify_bind (fun hw ↦ hw.plain evolves_terminatePlan) (advances_pure _ _)

lemma contextual_executeReconfiguration {planId : PartitionPlanId} :
    Advances (Preserves Contextual) (executeReconfiguration planId now) s := by
  refine advances_bind_of (refl_of _ s) fun t _ hopen _ ↦ advances_get_bind ?_
  obtain rfl : s = t := (Prod.mk.inj hopen).1
  cases hfound : s.plans.find? planId with
  | none => exact advances_throw _ _
  | some plan =>
    refine advances_require_bind fun _ ↦ ?_
    cases validatePlanBinding s plan now s.policy.requireFreshEvidence with
    | error e =>
      exact advances_modify_bind (fun hs ↦ hs.plain evolves_terminatePlan) (advances_throw _ _)
    | ok u =>
      simp only
      cases s.findAccelerator plan.binding.accelerator with
      | none => exact advances_throw _ _
      | some accelerator =>
        refine advances_require_bind fun _ ↦ advances_lift_bind fun _ _ ↦ ?_
        refine advances_lift_bind fun _ _ ↦ advances_lift_bind fun _ _ ↦ ?_
        refine advances_lift_bind fun _ _ ↦ ?_
        exact fun hs ↦ contextual_dispatchReconfiguration hs hfound

end Steps

section Import

variable {d : DurableState}

/-- What an import has brought in so far stems from the durable state. -/
structure Restoring (d : DurableState) (s t : FabricState) : Prop where
  plans : t.plans = s.plans
  partitions : ∀ k r, t.partitions.find? k = some r → r.id = k
  reservations : ∀ k r', t.reservations.find? k = some r' →
    r'.id = k ∧ ∃ r ∈ d.reservations, r.id = k ∧ r'.plan = r.plan
  attempts : ∀ k a', t.attempts.find? k = some a' → a'.id = k ∧ ∃ a ∈ d.attempts,
    a'.reservation = a.reservation ∧ a'.kind = a.kind ∧
      (attemptSettled a.state = true → attemptSettled a'.state = true)
  assignments : ∀ k a, t.assignments.find? k = some a → a.id = k

/-- What the provenance of imported records depends on. -/
def broughtIn (s : FabricState) :=
  (s.plans, s.partitions, s.reservations, s.attempts, s.assignments)

lemma Restoring.of_keeps {u : FabricState} (h : Keeps broughtIn t u) (ht : Restoring d s t) :
    Restoring d s u := by
  obtain ⟨hplans, hpartitions, hreservations, hattempts, hassignments⟩ :
      u.plans = t.plans ∧ u.partitions = t.partitions ∧ u.reservations = t.reservations ∧
      u.attempts = t.attempts ∧ u.assignments = t.assignments := by
    simpa [Keeps, broughtIn] using h
  refine ⟨hplans.trans ht.plans, ?_, ?_, ?_, ?_⟩
  · rw [hpartitions]
    exact ht.partitions
  · rw [hreservations]
    exact ht.reservations
  · rw [hattempts]
    exact ht.attempts
  · rw [hassignments]
    exact ht.assignments

lemma restoring_restoreRegistry : Restoring d s (d.restoreRegistry s) :=
  ⟨rfl, fun _ _ h ↦ (by cases h), fun _ _ h ↦ (by cases h), fun _ _ h ↦ (by cases h),
    fun _ _ h ↦ (by cases h)⟩

lemma keeps_restoreCounters : Advances (Keeps broughtIn) (restoreCounters d) t := by
  refine advances_get_bind (advances_lift_bind fun _ _ ↦ advances_modify_bind rfl ?_)
  exact advances_lift_bind fun _ _ ↦ advances_modify rfl

lemma keeps_reportIdentity : Advances (Keeps broughtIn) reportIdentity t :=
  advances_reportIdentity_of fun _ ↦ rfl

lemma Restoring.insertPartition (ht : Restoring d s t) (r : PartitionRecord) :
    Restoring d s { t with partitions := t.partitions.insert r.id r } := by
  refine { ht with partitions := fun k r' hr' ↦ ?_ }
  rw [KeyedMap.find?_insert] at hr'
  split at hr'
  · rename_i hk
    rw [← Option.some.inj hr', hk]
  · exact ht.partitions k r' hr'

lemma restoring_restorePartition {report : ReconciliationReport} {r : PartitionRecord} :
    Advances (Preserves (Restoring d s)) (restorePartition now report r) t := by
  refine advances_ite (fun _ ↦ ?_) fun _ ↦ ?_
  · let restored : PartitionRecord := { r with
      state := .revalidationRequired
      lastTransitionAtMs := now
      lastTransitionReason := "conservative revalidation after restart" }
    exact advances_modify_bind (fun ht ↦ ht.insertPartition restored) (advances_pure _ _)
  · exact advances_modify_bind (fun ht ↦ ht.insertPartition r) (advances_pure _ _)

lemma Restoring.retireRestored (ht : Restoring d s t) (p : PartitionId) :
    Restoring d s (retireRestored now p t) := by
  refine { ht with partitions := fun k r' hr' ↦ ?_ }
  rw [PartitionFabric.retireRestored, FabricState.modifyPartition, KeyedMap.find?_modify] at hr'
  split at hr'
  · obtain ⟨r, hr, rfl⟩ := Option.map_eq_some_iff.mp hr'
    split
    · exact ht.partitions k r hr
    · exact ht.partitions k r hr
  · exact ht.partitions k r' hr'

lemma restoring_releaseRestored {reservation : PartitionReservation} :
    Advances (Preserves (Restoring d s)) (releaseRestored now reservation) t := by
  refine advances_get_bind (advances_when fun _ ↦ ?_)
  refine advances_bind (advances_attempt ?_) fun _ status _ ↦ ?_
  · exact fun ht ↦ ht.of_keeps (keeps_onLedger broughtIn fun _ _ ↦ rfl)
  · cases status with
    | error e => exact advances_throw _ _
    | ok u => exact advances_forM fun _ _ _ _ ↦ advances_modify fun ht ↦ ht.retireRestored _

lemma Restoring.insertReservation (ht : Restoring d s t) {r r' : PartitionReservation}
    (hr : r ∈ d.reservations) (hid : r'.id = r.id) (hplan : r'.plan = r.plan) :
    Restoring d s { t with reservations := t.reservations.insert r'.id r' } := by
  refine { ht with reservations := fun k q hq ↦ ?_ }
  rw [KeyedMap.find?_insert] at hq
  split at hq
  · rename_i hk
    obtain rfl := Option.some.inj hq
    exact ⟨hk.symm, r, hr, hk ▸ hid.symm, hplan⟩
  · exact ht.reservations k q hq

lemma restoring_restoreReservation {report : ReconciliationReport} {r : PartitionReservation}
    (hr : r ∈ d.reservations) :
    Advances (Preserves (Restoring d s)) (restoreReservation now report r) t := by
  refine advances_ite (fun _ ↦ ?_) fun _ ↦ ?_
  · exact advances_modify_bind (fun ht ↦ ht.insertReservation hr rfl rfl) (advances_pure _ _)
  · refine advances_bind restoring_releaseRestored fun _ _ _ ↦ ?_
    let restored : PartitionReservation := { r with
      lifecycle := .fenced
      reason := "restart invalidated live reservation authority"
      updatedAtMs := now }
    have hinsert (u : FabricState) : Preserves (Restoring d s) u
        { u with reservations := u.reservations.insert restored.id restored } :=
      fun hu ↦ hu.insertReservation hr rfl rfl
    exact advances_modify_bind (hinsert _) (advances_pure _ _)

lemma Restoring.insertAttempt (ht : Restoring d s t) {a a' : PartitionAttempt}
    (ha : a ∈ d.attempts) (hreservation : a'.reservation = a.reservation)
    (hkind : a'.kind = a.kind)
    (hsettled : attemptSettled a.state = true → attemptSettled a'.state = true) :
    Restoring d s { t with attempts := t.attempts.insert a'.id a' } := by
  refine { ht with attempts := fun k b hb ↦ ?_ }
  rw [KeyedMap.find?_insert] at hb
  split at hb
  · rename_i hk
    obtain rfl := Option.some.inj hb
    exact ⟨hk.symm, a, ha, hreservation, hkind, hsettled⟩
  · exact ht.attempts k b hb

lemma restoring_restoreAttempt {report : ReconciliationReport} {a : PartitionAttempt}
    (ha : a ∈ d.attempts) :
    Advances (Preserves (Restoring d s)) (restoreAttempt now report a) t := by
  refine advances_ite (fun _ ↦ ?_) fun hunsettled ↦ ?_
  · exact advances_modify_bind (fun ht ↦ ht.insertAttempt ha rfl rfl id) (advances_pure _ _)
  · let restored : PartitionAttempt := { a with
      state := .outcomeUnknown
      settledAtMs := now
      detail := "restart invalidated in-flight attempt authority; reconciliation required" }
    have hinsert (u : FabricState) : Preserves (Restoring d s) u
        { u with attempts := u.attempts.insert restored.id restored } := fun hu ↦
      hu.insertAttempt ha rfl rfl fun h ↦ absurd h hunsettled
    exact advances_modify_bind (hinsert _) (advances_pure _ _)

lemma restoring_restoreAssignment {report : ReconciliationReport} {a : PartitionAssignment} :
    Advances (Preserves (Restoring d s)) (restoreAssignment report a) t := by
  refine advances_get_bind (advances_ite (fun _ ↦ ?_) fun _ ↦ advances_pure _ _)
  refine advances_modify_bind (fun ht ↦ { ht with assignments := fun k b hb ↦ ?_ })
    (advances_pure _ _)
  rw [KeyedMap.find?_insert] at hb
  split at hb
  · rename_i hk
    rw [← Option.some.inj hb, hk]
  · exact ht.assignments k b hb

/-- Everything an accepted import leaves in the registry stems from the durable state. -/
lemma restoring_import {u : Unit} (hvalid : d.validateImport s.stateGeneration = .ok u) :
    Restoring d s (importDurableState d now s).1 := by
  unfold importDurableState
  rw [get_bind, hvalid]
  change Restoring d s ((restoreCounters d >>= _) (d.restoreRegistry s)).1
  refine (?_ : Preserves (Restoring d s) (d.restoreRegistry s) _) restoring_restoreRegistry
  have hcounters (t : FabricState) : Advances (Preserves (Restoring d s)) (restoreCounters d) t :=
    Restoring.of_keeps keeps_restoreCounters
  have hreport (t : FabricState) : Advances (Preserves (Restoring d s)) reportIdentity t :=
    Restoring.of_keeps keeps_reportIdentity
  refine advances_bind (hcounters _) fun _ _ _ ↦ advances_bind (hreport _) fun _ _ _ ↦ ?_
  refine advances_bind (advances_foldlM fun _ _ _ _ _ ↦ restoring_restorePartition) fun _ _ _ ↦ ?_
  refine advances_bind (advances_foldlM fun _ r hr _ _ ↦ restoring_restoreReservation hr)
    fun _ _ _ ↦ ?_
  refine advances_bind (advances_foldlM fun _ a ha _ _ ↦ restoring_restoreAttempt ha)
    fun _ _ _ ↦ ?_
  refine advances_bind (advances_foldlM fun _ _ _ _ _ ↦ restoring_restoreAssignment)
    fun t _ _ ↦ ?_
  refine advances_modify_bind (Restoring.of_keeps rfl) ?_
  exact advances_modify_bind (bump_of fun _ ↦ Restoring.of_keeps rfl) (advances_pure _ _)

/-- No attempt is registered. -/
def Unattempted (s : FabricState) : Prop := ∀ k, s.attempts.find? k = none

lemma Unattempted.of_keeps {u : FabricState} (h : Keeps FabricState.attempts t u)
    (ht : Unattempted t) : Unattempted u := by
  unfold Unattempted
  rw [h]
  exact ht

/-- The reservations of a durable state are registered, up to those that are still to come. -/
def Arriving (d : DurableState) (rest : List PartitionReservation) (t : FabricState) : Prop :=
  ∀ r ∈ d.reservations, r ∈ rest ∨ ∃ r', t.reservations.find? r.id = some r'

lemma Arriving.insertReservation {rest : List PartitionReservation} {r r' : PartitionReservation}
    (ht : Arriving d (r :: rest) t) (hid : r'.id = r.id) :
    Arriving d rest { t with reservations := t.reservations.insert r'.id r' } := by
  intro q hq
  by_cases hkey : q.id = r'.id
  · exact Or.inr ⟨r', by rw [hkey]; exact KeyedMap.find?_insert_self _ _ _⟩
  · rcases ht q hq with hmem | ⟨q', hq'⟩
    · rcases List.mem_cons.mp hmem with rfl | hrest
      · exact absurd hid.symm hkey
      · exact Or.inl hrest
    · exact Or.inr ⟨q', (KeyedMap.find?_insert_of_ne _ _ hkey).trans hq'⟩

/-- No attempt is registered before all the reservations are. -/
def Ordered (d : DurableState) (t : FabricState) : Prop := Unattempted t ∨ Arriving d [] t

lemma keeps_releaseRestored {reservation : PartitionReservation} :
    Advances (Keeps commitments) (releaseRestored now reservation) t := by
  refine advances_get_bind (advances_when fun _ ↦ ?_)
  refine advances_bind (advances_attempt (keeps_onLedger commitments fun _ _ ↦ rfl))
    fun _ status _ ↦ ?_
  cases status with
  | error e => exact advances_throw _ _
  | ok u => exact advances_forM fun _ _ _ _ ↦ advances_modify rfl

lemma arriving_restoreReservation {report : ReconciliationReport}
    {rest : List PartitionReservation} {r : PartitionReservation}
    (ht : Unattempted t ∧ Arriving d (r :: rest) t) :
    Meets (Ordered d) (fun _ u ↦ Unattempted u ∧ Arriving d rest u)
      (restoreReservation now report r) t := by
  unfold restoreReservation
  split
  · exact meets_modify_bind (meets_pure ⟨ht.1, ht.2.insertReservation rfl⟩)
  · have hreleased : Meets (Ordered d) (fun _ u ↦ Unattempted u ∧ Arriving d (r :: rest) u)
        (releaseRestored now r) t := by
      refine meets_of_advances keeps_releaseRestored (fun u hu ↦ ?_) fun _ u hu ↦ ⟨?_, ?_⟩
      · exact Or.inl (ht.1.of_keeps (congrArg Prod.fst hu))
      · exact ht.1.of_keeps (congrArg Prod.fst hu)
      · have hsame : u.reservations = t.reservations := congrArg Prod.snd hu
        unfold Arriving
        rw [hsame]
        exact ht.2
    let restored : PartitionReservation := { r with
      lifecycle := .fenced
      reason := "restart invalidated live reservation authority"
      updatedAtMs := now }
    have hinsert (u : FabricState) (hu : Arriving d (r :: rest) u) : Arriving d rest
        { u with reservations := u.reservations.insert restored.id restored } :=
      hu.insertReservation rfl
    exact meets_bind hreleased fun _ u hu ↦ meets_modify_bind (meets_pure ⟨hu.1, hinsert u hu.2⟩)

lemma keeps_restorePartition {report : ReconciliationReport} {r : PartitionRecord} :
    Advances (Keeps FabricState.attempts) (restorePartition now report r) t :=
  advances_ite (fun _ ↦ advances_modify_bind rfl (advances_pure _ _))
    fun _ ↦ advances_modify_bind rfl (advances_pure _ _)

lemma keeps_restoreAttempt {report : ReconciliationReport} {a : PartitionAttempt} :
    Advances (Keeps FabricState.reservations) (restoreAttempt now report a) t :=
  advances_ite (fun _ ↦ advances_modify_bind rfl (advances_pure _ _))
    fun _ ↦ advances_modify_bind rfl (advances_pure _ _)

lemma keeps_restoreAssignment {report : ReconciliationReport} {a : PartitionAssignment} :
    Advances (Keeps FabricState.reservations) (restoreAssignment report a) t :=
  advances_get_bind (advances_ite (fun _ ↦ advances_modify_bind rfl (advances_pure _ _))
    fun _ ↦ advances_pure _ _)

/-- While no attempt is registered, a failure leaves none behind. -/
lemma meets_unattempted {α : Type} {m : FabricM α} (ht : Unattempted t)
    (hm : Advances (Keeps FabricState.attempts) m t) :
    Meets (Ordered d) (fun _ ↦ Unattempted) m t :=
  meets_of_advances hm (fun _ h ↦ .inl (ht.of_keeps h)) fun _ _ h ↦ ht.of_keeps h

/-- Once all reservations are registered, they stay. -/
lemma meets_arrived {α : Type} {m : FabricM α} (ht : Arriving d [] t)
    (hm : Advances (Keeps FabricState.reservations) m t) :
    Meets (Ordered d) (fun _ ↦ Arriving d []) m t := by
  have hkept (u : FabricState) (h : Keeps FabricState.reservations t u) : Arriving d [] u := by
    unfold Arriving
    rw [h]
    exact ht
  exact meets_of_advances hm (fun u h ↦ .inr (hkept u h)) fun _ u h ↦ hkept u h

/-- An accepted import registers no attempt before all the reservations. -/
lemma ordered_import {u : Unit} (hvalid : d.validateImport s.stateGeneration = .ok u) :
    Ordered d (importDurableState d now s).1 := by
  unfold importDurableState
  rw [get_bind, hvalid]
  change Ordered d ((restoreCounters d >>= _) (d.restoreRegistry s)).1
  have hpart {t u : FabricState} (h : Keeps broughtIn t u) : Keeps FabricState.attempts t u := by
    have hattempts : (broughtIn u).2.2.2.1 = (broughtIn t).2.2.2.1 := by rw [h]
    exact hattempts
  refine Meets.fst (I := Ordered d) (Q := fun _ t ↦ Arriving d [] t) ?_ fun _ _ h ↦ .inr h
  refine meets_bind (meets_unattempted (fun _ ↦ rfl) (hpart keeps_restoreCounters)) fun _ t ht ↦ ?_
  refine meets_bind (meets_unattempted ht (hpart keeps_reportIdentity)) fun _ t ht ↦ ?_
  refine meets_bind (meets_unattempted ht
    (advances_foldlM fun _ _ _ _ _ ↦ keeps_restorePartition)) fun report t ht ↦ ?_
  have hloop : Meets (Ordered d) (fun _ u ↦ Unattempted u ∧ Arriving d [] u)
      (d.reservations.foldlM (restoreReservation now) report) t :=
    meets_foldlM (Q := fun rest _ u ↦ Unattempted u ∧ Arriving d rest u)
      (fun _ _ _ _ h ↦ arriving_restoreReservation h) ⟨ht, fun _ hr ↦ .inl hr⟩
  refine meets_bind hloop fun report t ht ↦ ?_
  refine meets_bind (meets_arrived ht.2 (advances_foldlM fun _ _ _ _ _ ↦ keeps_restoreAttempt))
    fun report t ht ↦ ?_
  refine meets_bind (meets_arrived ht (advances_foldlM fun _ _ _ _ _ ↦ keeps_restoreAssignment))
    fun report t ht ↦ ?_
  exact meets_arrived ht
    (advances_modify_bind rfl (advances_modify_bind (bump_of fun _ ↦ rfl) (advances_pure _ _)))

/-- A durable state brings its identities below its counter, and with every attempt that has not
settled its reservation, whose plan is still registered when a layout is replaced. -/
structure CarriesContexts (d : DurableState) (s : FabricState) : Prop where
  counted : d.Counted
  reservations : ∀ a ∈ d.attempts, attemptSettled a.state = false →
    ∃ r ∈ d.reservations, r.id = a.reservation
  plans : ∀ a ∈ d.attempts, attemptSettled a.state = false → a.kind = .reconfigureLayout →
    ∀ r ∈ d.reservations, r.id = a.reservation → ∃ p, s.plans.find? r.plan = some p

/-- An import brings in what calls in flight need with them. -/
lemma contextual_import (hs : Contextual s)
    (h : d.validateImport s.stateGeneration = success → CarriesContexts d s) :
    Contextual (importDurableState d now s).1 := by
  cases hvalid : d.validateImport s.stateGeneration with
  | error e =>
    rw [import_refused hvalid]
    exact hs
  | ok u =>
    have hcarries := h hvalid
    have hbelow : s.plans.Below s.ids.next := fun k p hp ↦ (hs.filed k p hp).2
    have hnumbered : Numbered (importDurableState d now s).1 :=
      numbered_imported hbelow hcarries.counted hvalid
    have hrestoring : Restoring d s (importDurableState d now s).1 := restoring_import hvalid
    have hordered : Ordered d (importDurableState d now s).1 := ordered_import hvalid
    refine ⟨⟨fun k r hr ↦ ⟨hrestoring.partitions k r hr, hnumbered.partitions k r hr⟩,
      fun k r hr ↦ ⟨(hrestoring.reservations k r hr).1, hnumbered.reservations k r hr⟩,
      fun k a ha ↦ ⟨(hrestoring.attempts k a ha).1, hnumbered.attempts k a ha⟩,
      hrestoring.assignments⟩, fun k p hp ↦ ⟨?_, hnumbered.plans k p hp⟩,
      fun key a' ha' hunsettled ↦ ?_⟩
    · rw [hrestoring.plans] at hp
      exact (hs.filed k p hp).1
    · obtain ⟨-, a, ha, hreservation, hkind, hsettled⟩ := hrestoring.attempts key a' ha'
      have hbefore : attemptSettled a.state = false :=
        Bool.eq_false_iff.mpr fun hs ↦ by simp [hsettled hs] at hunsettled
      obtain ⟨r, hr, hid⟩ := hcarries.reservations a ha hbefore
      rcases hordered with hnone | harrived
      · exact absurd ((hnone key).symm.trans ha') (Option.some_ne_none a').symm
      · obtain ⟨r', hr'⟩ := (harrived r hr).resolve_left (List.not_mem_nil)
        obtain ⟨-, r₀, hr₀, hid₀, hplan⟩ := hrestoring.reservations _ r' hr'
        refine ⟨r', by rw [hreservation, ← hid]; exact hr', fun hreconfigures ↦ ?_⟩
        rw [hplan, hrestoring.plans]
        exact hcarries.plans a ha hbefore (hkind ▸ hreconfigures) r₀ hr₀ (hid₀.trans hid)

end Import

section Runs

/-- Room is made by dropping only what no call in flight refers to, an attempt to replace a layout
is registered under a registered plan, and a durable state brings contexts with its attempts. -/
def SparesContexts (s : FabricState) : Op → Prop
  | .plan request now => s.closed = false → currentPlan s request now = none →
    ∀ k, DropsPlan s k → ¬PlanAwaited s k
  | .planOn id request now => s.closed = false → currentPlan s (request.narrow id) now = none →
    ∀ k, DropsPlan s k → ¬PlanAwaited s k
  | .planReconfiguration _ _ _ _ => s.closed = false → ∀ k, DropsPlan s k → ¬PlanAwaited s k
  | .reserve planId now => ReachesRoom s planId now → ∀ k, DropsReservation s k → ¬Awaited s k
  | .registerAttempt id kind _ _ _ => kind = .reconfigureLayout → ∀ r, s.findReservation id = some r →
    r.lifecycle = .active → ∃ p, s.plans.find? r.plan = some p
  | .importDurableState d _ => d.validateImport s.stateGeneration = success → CarriesContexts d s
  | _ => True

/-- What an operation may do that spares what calls in flight refer to. -/
def Op.sparing (op : Op) (s : FabricState) : Scope :=
  { op.scope with
    discards := fun k ↦ ¬PlanAwaited s k
    evicts := fun k ↦ ¬Awaited s k }

lemma lenient_sparing (op : Op) (s : FabricState) : (op.sparing s).Lenient :=
  ⟨(lenient_scope op).enters, (lenient_scope op).settles, (lenient_scope op).republishes,
    (lenient_scope op).answers⟩

/-- An attempt that is registered for an active reservation has a context. -/
lemma issued_hasContext {id : PartitionReservationId} {reservation : PartitionReservation}
    {kind : AttemptKind} {worker : WorkerId} {boot : WorkerBootId} {a : PartitionAttempt}
    (hi : Indexed s) (hr : s.findReservation id = some reservation)
    (ha : IssuedFor reservation kind worker boot a)
    (hplan : kind = .reconfigureLayout → ∃ p, s.plans.find? reservation.plan = some p) :
    HasContext s a := by
  have hid : a.reservation = id := ha.identity.trans (hi.reservations id reservation hr).1
  exact ⟨reservation, hid ▸ hr, fun hkind ↦ hplan (ha.kind ▸ hkind)⟩

/-- A step that only registers attempts which have their contexts. -/
lemma Contextual.register (hs : Contextual s)
    (hst : Evolves { registers := HasContext s } s.ids.next s t) : Contextual t :=
  hs.evolve hst (fun _ h ↦ h.elim) (fun _ h ↦ h.elim) fun _ ha ↦
    ha.evolve hs.indexed hs.filed hst (fun h ↦ h.elim) fun _ _ _ h ↦ h.elim

lemma Contextual.spare {op : Op} (hs : Contextual s) (hop : op.Within (op.sparing s) s)
    (hregisters : ∀ a, ¬op.scope.registers a) : Contextual (op.step s) :=
  hs.evolve (evolves_within hop ((lenient_sparing op s).minds s op)) (fun _ h ↦ h) (fun _ h ↦ h) fun a ha ↦ absurd ha (hregisters a)

lemma contextual_step {op : Op} (hs : Contextual s) (hop : SparesContexts s op) :
    Contextual (op.step s) := by
  cases op with
  | plan request now => exact hs.spare ⟨hop, fun _ _ ↦ trivial⟩ fun _ h ↦ h
  | planOn id request now => exact hs.spare ⟨hop, fun _ _ ↦ trivial⟩ fun _ h ↦ h
  | planReconfiguration id desired context now =>
    exact hs.spare ⟨hop, fun _ _ ↦ trivial⟩ fun _ h ↦ h
  | reserve planId now => exact hs.spare ⟨trivial, hop⟩ fun _ h ↦ h
  | registerAttempt id kind worker boot now =>
    have hst : Advances (Evolves { registers := HasContext s } s.ids.next)
        (registerAttempt id kind worker boot now) s :=
      advances_registerAttempt (le_refl _) (fun _ _ ↦ trivial) fun r hr hactive a ha ↦
        issued_hasContext hs.indexed hr ha fun hkind ↦ hop hkind r hr hactive
    exact hs.register (advances_ignore hst)
  | execute id now =>
    have hst : Advances (Evolves { registers := HasContext s } s.ids.next) (execute id now) s :=
      advances_execute (le_refl _) (fun _ _ _ ↦ trivial) trivial trivial fun r hr _ _ a ha ↦
        issued_hasContext hs.indexed hr ha fun hkind ↦ by cases hkind
    exact hs.register (advances_ignore hst)
  | destroyPartition p now => exact contextual_destroyPartition hs
  | executeReconfiguration planId now => exact contextual_executeReconfiguration hs
  | importDurableState d now => exact contextual_import hs hop
  | createDestructionReservation p now =>
    exact hs.evolve (evolves_step rfl s) (fun _ h ↦ h.elim) (fun _ h ↦ h.elim) fun _ h ↦ h.elim
  | _ =>
    exact hs.evolve (evolves_step rfl s) (fun _ h ↦ h.elim) (fun _ h ↦ h.elim) fun _ h ↦ h.elim

/-- Along every run that spares them, the attempts that have not settled keep their reservations
and the plans of the layouts they replace. -/
theorem unsettled_keep_contexts (hs : fabric.Reachable SparesContexts s) : KeepsContexts s := by
  have hcontextual : Contextual s := by
    refine hs.invariant (I := fun s ↦ Contextual s) ?_ fun s op h hop ↦ contextual_step h hop
    rintro _ ⟨options, now, rfl⟩
    exact ⟨⟨fun _ _ h ↦ (by cases h), fun _ _ h ↦ (by cases h), fun _ _ h ↦ (by cases h),
      fun _ _ h ↦ (by cases h)⟩, fun _ _ h ↦ (by cases h), fun _ _ h ↦ (by cases h)⟩
  exact hcontextual.contexts

/-- A dispatched creation is in flight under its reservation. -/
theorem unsettled_keep_contexts_dispatched :
    KeepsContexts (fabric.run Sample.dispatched Sample.opened) := by
  refine unsettled_keep_contexts (System.Reachable.run (.initial ⟨_, _, rfl⟩) ?_)
  refine ⟨trivial, fun _ _ k hk ↦ absurd hk.1 (by decide +kernel), fun _ k hk ↦
    absurd hk.1 (by decide +kernel), trivial, trivial⟩

namespace Sample

/-- An instance that keeps one reservation. -/
def crowded : FabricState := FabricState.opened { limits := { maxReservations := 1 } } 0

/-- The reservation of a creation in flight is fenced, and the plan is reserved again. -/
def fencedInFlight : List Op := dispatched ++ [.fenceReservation 3 [] 5, .reserve 2 6]

end Sample

/-- The second reservation evicts the first one while its creation is in flight. -/
theorem evicted_in_flight : ¬ ∀ s, fabric.Reachable anyOp s → KeepsContexts s := by
  intro h
  let s := fabric.run Sample.fencedInFlight Sample.crowded
  have hs : fabric.Reachable anyOp s :=
    System.Reachable.run (.initial ⟨_, _, rfl⟩) (by decide)
  have hunsettled : (s.findAttempt 5).any (fun a ↦ !attemptSettled a.state &&
      a.reservation == 3) = true := by decide +kernel
  have hevicted : s.findReservation 3 = none := by decide +kernel
  obtain ⟨a, ha, hstate⟩ := (Option.any_eq_true _ _).mp hunsettled
  obtain ⟨hopen, hid⟩ := Bool.and_eq_true_iff.mp hstate
  obtain ⟨r, hr, -⟩ := h s hs 5 a ha (by simpa using hopen)
  rw [beq_iff_eq.mp hid, hevicted] at hr
  cases hr

end Runs

end PartitionFabric
