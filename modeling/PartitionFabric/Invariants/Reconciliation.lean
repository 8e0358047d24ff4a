import PartitionFabric.Invariants.Mutations

/-!
Admission, drains and reconciliation evolve the registry, and so does every operation that is not
an import.
-/

namespace PartitionFabric

open Procedure

variable {π : Scope} {floor : UInt64} {s : FabricState}

section Occupancy

lemma evolves_drain {key : PartitionId} {f : PartitionRecord → PartitionRecord}
    (ho : π.occupancy) (h : ∀ r, (f r).id = r.id ∧ (f r).accelerator = r.accelerator ∧
      (f r).resources = r.resources ∧ (f r).generation = r.generation ∧ (f r).state = r.state ∧
      (f r).nativeIdentity = r.nativeIdentity ∧
      (f r).acceleratorGeneration = r.acceleratorGeneration ∧
        (f r).acceleratorBoot = r.acceleratorBoot) :
    Evolves π floor s (s.modifyPartition key f) := by
  refine evolves_modifyPartition fun r _ ↦ ?_
  obtain ⟨hid, hacc, hres, hgen, hstate, hnative, hincarnation⟩ := h r
  exact ⟨hid, hacc, hres, by rw [hgen], by rw [hstate]; exact Legal.refl _,
    Or.inr (by rw [hnative]), Or.inl ho, hincarnation, fun h ↦ Or.inr (hstate ▸ h)⟩

lemma advances_admitTo {requirement : WorkloadRequirement} {p : PartitionId}
    {record : PartitionRecord} {accelerator : AcceleratorRecord} {now : UInt64}
    {decision : AdmissionDecision} (ho : π.occupancy) :
    Advances (Evolves π floor) (admitTo requirement p record accelerator now decision) s := by
  refine advances_bind (advances_attempt advances_allocateId) fun t status halloc ↦ ?_
  cases status with
  | error e => exact advances_pure _ _
  | ok id =>
      obtain ⟨-, hlt, -⟩ := allocateId_eq_ok (attempt_eq_ok halloc)
      refine advances_get_bind ?_
      simp only
      cases (assignmentFor t requirement record accelerator id now).validate with
      | error e => exact advances_pure _ _
      | ok u =>
          refine advances_modify_bind (evolves_insertAssignment ho rfl fun _ _ ↦ hlt) ?_
          refine advances_modify_bind
            (evolves_drain ho fun r ↦ ⟨rfl, rfl, rfl, rfl, rfl, rfl, rfl, rfl⟩) ?_
          exact advances_bind advances_bump fun _ _ _ ↦ advances_pure _ _

lemma advances_admitWorkload {requirement : WorkloadRequirement} {now : UInt64}
    (ho : π.occupancy) : Advances (Evolves π floor) (admitWorkload requirement now) s := by
  refine advances_get_bind (advances_bind (advances_attempt advances_checkOpen) fun t status _ ↦ ?_)
  cases status with
  | error e => exact advances_pure _ _
  | ok u =>
      refine advances_ite (fun _ ↦ advances_pure _ _) fun _ ↦ ?_
      refine advances_get_bind ?_
      cases (t.findPartition _).filter _ with
      | none => exact advances_pure _ _
      | some record =>
          simp only
          cases t.findAccelerator record.accelerator with
          | none => exact advances_pure _ _
          | some accelerator =>
              simp only
              cases commitObstacle t requirement record accelerator with
              | some obstacle => exact advances_pure _ _
              | none => exact advances_admitTo ho

lemma advances_identifyAssignment {assignment : PartitionAssignment} :
    Advances (Evolves π floor) (identifyAssignment assignment) s :=
  advances_ite (fun _ ↦ advances_pure _ _) fun _ ↦ advances_allocateId

lemma advances_bindAssignment {assignment : PartitionAssignment} (ho : π.occupancy)
    (hn : π.numbers → assignment.id < s.ids.next) :
    Advances (Evolves π floor) (bindAssignment assignment) s := by
  refine advances_lift_bind fun _ _ ↦ advances_get_bind ?_
  cases s.findPartition assignment.partition with
  | none => exact advances_throw _ _
  | some record =>
      refine advances_require_bind fun _ ↦ advances_require_bind fun _ ↦ ?_
      refine advances_require_bind fun _ ↦ advances_bind advances_identifyAssignment fun t id hid ↦ ?_
      refine advances_modify_bind (evolves_insertAssignment ho rfl fun hπ _ ↦ ?_) ?_
      · unfold identifyAssignment at hid
        split at hid
        · obtain ⟨rfl, hsame⟩ := Prod.mk.inj hid
          exact Except.ok.inj hsame ▸ hn hπ
        · exact (allocateId_eq_ok hid).2.1
      exact advances_modify_bind (evolves_drain ho fun r ↦ ⟨rfl, rfl, rfl, rfl, rfl, rfl, rfl, rfl⟩)
        advances_bump

lemma advances_unbindAssignment {id : PartitionAssignmentId} {now : UInt64} (ho : π.occupancy) :
    Advances (Evolves π floor) (unbindAssignment id now) s := by
  refine advances_get_bind ?_
  cases s.assignments.find? id with
  | none => exact advances_throw _ _
  | some assignment =>
      refine advances_modify_bind (evolves_dropAssignments fun k a ha ↦ ?_) ?_
      · rw [KeyedMap.find?_erase] at ha
        split at ha
        · exact absurd ha (by simp)
        · exact ha
      · exact advances_modify_bind (evolves_drain ho fun r ↦ ⟨rfl, rfl, rfl, rfl, rfl, rfl, rfl, rfl⟩)
          advances_bump

lemma advances_beginDrain {p : PartitionId} {reason : Text} {now : UInt64} (ho : π.occupancy)
    (henters : π.enters .draining) : Advances (Evolves π floor) (beginDrain p reason now) s := by
  refine advances_get_bind ?_
  cases s.findPartition p with
  | none => exact advances_throw _ _
  | some record =>
      refine advances_require_bind fun _ ↦ advances_bind (advances_transition henters (by decide))
        fun t _ _ ↦ ?_
      exact advances_modify_bind (evolves_drain ho fun r ↦ ⟨rfl, rfl, rfl, rfl, rfl, rfl, rfl, rfl⟩)
        advances_bump

lemma advances_beginDrainAccelerator {id : AcceleratorId} {reason : Text} {now : UInt64}
    (ho : π.occupancy) (henters : π.enters .draining) :
    Advances (Evolves π floor) (beginDrainAccelerator id reason now) s := by
  refine advances_get_bind (advances_require_bind fun _ ↦ ?_)
  refine advances_bind (advances_forM fun record _ t _ ↦ ?_) fun _ _ _ ↦ advances_bump
  refine advances_bind (advances_transition henters (by decide)) fun _ _ _ ↦ ?_
  exact advances_modify (evolves_drain ho fun r ↦ ⟨rfl, rfl, rfl, rfl, rfl, rfl, rfl, rfl⟩)

lemma advances_completeDrain {p : PartitionId} {now : UInt64} (ho : π.occupancy) :
    Advances (Evolves π floor) (completeDrain p now) s := by
  refine advances_get_bind ?_
  cases s.findPartition p with
  | none => exact advances_throw _ _
  | some record =>
      refine advances_require_bind fun _ ↦ advances_ite (fun _ ↦ ?_) fun _ ↦ ?_
      · exact advances_modify_bind (evolves_drain ho fun r ↦ ⟨rfl, rfl, rfl, rfl, rfl, rfl, rfl, rfl⟩)
          (advances_throw _ _)
      · exact advances_modify_bind (evolves_drain ho fun r ↦ ⟨rfl, rfl, rfl, rfl, rfl, rfl, rfl, rfl⟩)
          advances_bump

lemma advances_cancelDrain {p : PartitionId} {now : UInt64} (ho : π.occupancy)
    (hactive : π.activates) (henters : π.enters .active) :
    Advances (Evolves π floor) (cancelDrain p now) s := by
  refine advances_get_bind ?_
  cases s.findPartition p with
  | none => exact advances_throw _ _
  | some record =>
      refine advances_require_bind fun _ ↦ advances_require_bind fun _ ↦ ?_
      refine advances_bind (advances_transition_of henters fun _ ↦ hactive) fun t _ _ ↦ ?_
      exact advances_modify_bind (evolves_drain ho fun r ↦ ⟨rfl, rfl, rfl, rfl, rfl, rfl, rfl, rfl⟩)
        advances_bump

end Occupancy

section Observed

variable {o : Observation}

lemma advances_revalidateUncorrelated {key : PartitionId} {record : PartitionRecord}
    {pass : Pass} (henters : π.enters .revalidationRequired) :
    Advances (Evolves π floor) (o.revalidateUncorrelated key record pass) s := by
  refine advances_ite (fun _ ↦ ?_) fun _ ↦ advances_pure _ _
  exact advances_bind (advances_attempt (advances_transition henters (by decide))) fun _ _ _ ↦
    advances_pure _ _

lemma advances_releaseMissing {record : PartitionRecord} :
    Advances (Evolves π floor) (o.releaseMissing record) s := by
  unfold Observation.releaseMissing
  cases record.heldBucket with
  | none => exact advances_pure _ _
  | some bucket => exact advances_moveBetween

lemma RecordEvolves.missing (o : Observation) (r : PartitionRecord)
    (hretires : π.enters .retired) : RecordEvolves π r (o.missingRecord r) := by
  have h := RecordEvolves.retire r o.now "observed hardware no longer contains this partition"
    hretires
  exact ⟨h.id, h.accelerator, h.resources, h.generation, h.legal, h.native, Or.inr (Or.inr rfl),
    h.incarnation, h.active⟩

lemma keeps_releaseMissing (o : Observation) (record : PartitionRecord) (s : FabricState) :
    Advances (Keeps FabricState.partitions) (o.releaseMissing record) s := by
  unfold Observation.releaseMissing
  cases record.heldBucket with
  | none => exact advances_pure _ _
  | some bucket => exact keeps_onLedger _ fun _ _ ↦ rfl

lemma advances_retireMissing {key : PartitionId} {record : PartitionRecord} {pass : Pass}
    (hrecord : s.findPartition key = some record) (hretires : π.enters .retired) :
    Advances (Evolves π floor) (o.retireMissing key record pass) s := by
  refine advances_bind (advances_attempt advances_releaseMissing) fun t released ht ↦ ?_
  have hkeep : t.partitions = s.partitions := by
    have hk := advances_attempt (keeps_releaseMissing o record s)
    unfold Advances Keeps at hk
    rwa [ht] at hk
  refine advances_modify_bind (evolves_modifyPartition fun r hr ↦ ?_) ?_
  · rw [hkeep] at hr
    obtain rfl := Option.some.inj (hrecord.symm.trans hr)
    exact .missing o _ hretires
  · refine advances_get_bind ?_
    exact advances_modify_bind evolves_dropAssignments_of (advances_pure _ _)

lemma advances_fenceChanged {key : PartitionId} {record : PartitionRecord}
    {native : BackendNativePartition} {pass : Pass} (henters : π.enters .revalidationRequired) :
    Advances (Evolves π floor) (o.fenceChanged key record native pass) s :=
  advances_bind (advances_attempt (advances_when fun _ ↦ advances_transition henters (by decide)))
    fun _ _ _ ↦ advances_pure _ _

lemma advances_adoptMatched {key : PartitionId} {record : PartitionRecord}
    {native : BackendNativePartition} {pass : Pass} (hactive : π.activates)
    (henters : π.enters .active) :
    Advances (Evolves π floor) (o.adoptMatched key record native pass) s := by
  refine advances_bind (advances_attempt (advances_transition_of henters fun _ ↦ hactive))
    fun t status _ ↦ ?_
  cases status with
  | error e => exact advances_pure _ _
  | ok u =>
      refine advances_modify_bind (evolves_modifyPartition fun r _ ↦ ?_) (advances_pure _ _)
      exact ⟨rfl, rfl, rfl, le_refl _, Legal.refl _, Or.inr rfl, Or.inr (Or.inl rfl), ⟨rfl, rfl⟩,
        Or.inr⟩

lemma advances_confirmMatched {key : PartitionId} {record : PartitionRecord}
    {native : BackendNativePartition} {pass : Pass} (hactive : π.activates)
    (hoffline : record.state = .offline → π.enters .revalidationRequired)
    (hadopts : record.state = .revalidationRequired → π.enters .active) :
    Advances (Evolves π floor) (o.confirmMatched key record native pass) s := by
  refine advances_modify_bind evolves_stamp (advances_get_bind ?_)
  refine advances_ite (fun hstate ↦ ?_) fun _ ↦ advances_ite (fun hstate ↦ ?_) fun _ ↦
    advances_pure _ _
  · exact advances_bind (advances_ignore (advances_transition (hoffline hstate) (by decide)))
      fun _ _ _ ↦ advances_pure _ _
  · exact advances_ite (fun _ ↦ advances_adoptMatched hactive (hadopts hstate)) fun _ ↦
      advances_pure _ _

/-- The states that the comparison with a layout leads partitions to. -/
def matchedStates : List PartitionState := [.revalidationRequired, .active, .retired]

lemma advances_matchRecord {key : PartitionId} {pass : Pass} (hactive : π.activates)
    (henters : ∀ a ∈ matchedStates, π.enters a) :
    Advances (Evolves π floor) (o.matchRecord pass key) s := by
  have hrevalidates : π.enters .revalidationRequired := henters _ (by simp [matchedStates])
  refine advances_get_bind ?_
  cases hrecord : (s.findPartition key).filter fun r ↦ r.accelerator = o.id && inLayout r with
  | none => exact advances_pure _ _
  | some record =>
      have hfind := (Option.filter_eq_some_iff.mp hrecord).1
      refine advances_ite (fun _ ↦ advances_revalidateUncorrelated hrevalidates) fun _ ↦ ?_
      cases observedNative o.layout record.nativeIdentity.nativeId with
      | none => exact advances_retireMissing hfind (henters _ (by simp [matchedStates]))
      | some native =>
          refine advances_ite (fun _ ↦ advances_confirmMatched hactive (fun _ ↦ hrevalidates)
            fun _ ↦ ?_) fun _ ↦ advances_fenceChanged hrevalidates
          exact henters _ (by simp [matchedStates])

lemma advances_settlePartition {kind : AttemptKind} {p : PartitionId} {record : PartitionRecord}
    {pass : Pass} (hactive : π.activates)
    (henters : π.enters (Observation.settledTarget kind)) :
    Advances (Evolves π floor) (o.settlePartition kind p record pass) s := by
  refine advances_bind (advances_attempt (advances_transition_of henters fun _ ↦ hactive))
    fun t status _ ↦ ?_
  cases status with
  | error e => exact advances_get_bind (advances_pure _ _)
  | ok u =>
      refine advances_ite (fun _ ↦ ?_) fun _ ↦ advances_pure _ _
      exact advances_modify_bind (evolves_modifyPartition fun r _ ↦ .supersede r)
        (advances_pure _ _)

lemma advances_adoptProduced {attempt : PartitionAttempt} {pass : Pass}
    {entry : PartitionId × ℕ} (hn : π.natives) (hactive : π.activates)
    (henters : π.enters (Observation.settledTarget attempt.kind)) :
    Advances (Evolves π floor) (o.adoptProduced attempt pass entry) s := by
  refine advances_get_bind ?_
  cases s.findPartition entry.1 with
  | none => exact advances_pure _ _
  | some record =>
      refine advances_modify_bind (evolves_bindFound hn) ?_
      exact advances_ite (fun _ ↦ advances_settlePartition hactive henters) fun _ ↦
        advances_pure _ _

lemma advances_withdrawPartition {p : PartitionId} (hn : π.natives)
    (henters : π.enters .unpartitioned) :
    Advances (Evolves π floor) (o.withdrawPartition p) s := by
  refine advances_get_bind (advances_when fun _ ↦ ?_)
  refine advances_bind (advances_attempt (advances_transition henters (by decide)))
    fun t status _ ↦ ?_
  cases status with
  | error e => exact advances_pure _ _
  | ok u =>
      refine advances_modify (evolves_modifyPartition fun r _ ↦ ?_)
      have h := RecordEvolves.supersede (π := π) r
      exact ⟨h.id, h.accelerator, h.resources, h.generation, h.legal, Or.inl hn, h.drain,
        h.incarnation, h.active⟩

lemma evolves_settleDecided {attempt : PartitionAttempt} {lifecycle : ReservationLifecycle}
    {reason : Text} (hs : ∀ a w b, π.settles attempt.reservation a w b) :
    Evolves π floor s (o.settleDecided attempt lifecycle reason s) := by
  refine evolves_modifyReservation fun r _ ↦ ?_
  split
  · exact ⟨rfl, .refl _ r⟩
  · rename_i hlive
    exact ⟨rfl, .settle (hs _ _ _) (by simpa using hlive) rfl rfl rfl rfl⟩

lemma advances_releaseDecided {attempt : PartitionAttempt}
    (hs : ∀ a w b, π.settles attempt.reservation a w b) :
    Advances (Evolves π floor) (o.releaseDecided attempt) s := by
  refine advances_get_bind ?_
  cases s.findReservation attempt.reservation with
  | none => exact advances_pure _ _
  | some reservation =>
      refine advances_when fun _ ↦ advances_modify_bind (evolves_settleDecided hs) ?_
      exact advances_when fun _ ↦ advances_ignore advances_releaseReserved

lemma evolves_decideAttempt {key : PartitionAttemptId} {attempt : PartitionAttempt} {detail : Text}
    (hd : π.decides = some o.id) (hfind : s.attempts.find? key = some attempt)
    (hacc : attempt.accelerator = o.id) (hstate : attempt.state = .outcomeUnknown) :
    Evolves π floor s (o.decideAttempt key detail s) := by
  refine evolves_modifyAttempt fun a ha ↦ ?_
  obtain rfl := Option.some.inj (hfind.symm.trans ha)
  refine ⟨rfl, rfl, rfl, rfl, rfl, rfl, Or.inr (Or.inr ⟨hstate, rfl, hacc ▸ hd⟩),
    fun h ↦ absurd h Bool.false_ne_true, Or.inr fun hflight ↦ ?_⟩
  rw [hstate] at hflight
  exact absurd hflight (by decide)

/-- What a scope has to allow for a device whose ambiguous attempts are decided: the reservations
of every attempt of the device that is unknown, or may become so on the way. -/
structure Adjudicates (π : Scope) (s : FabricState) (id : AcceleratorId) : Prop where
  settles : ∀ key attempt, s.attempts.find? key = some attempt → attempt.accelerator = id →
    attempt.state = .outcomeUnknown ∨ π.answers ∧ attempt.state.inFlight = true →
      ∀ a w b, π.settles attempt.reservation a w b
  registers : ∀ attempt, π.registers attempt → ∀ a w b, π.settles attempt.reservation a w b

lemma Adjudicates.of_evolves {t : FabricState} {id : AcceleratorId} (h : Adjudicates π s id)
    (hst : Evolves π floor s t) : Adjudicates π t id := by
  refine ⟨fun key attempt' hattempt' hdevice hopen ↦ ?_, h.registers⟩
  obtain ⟨attempt, hfind | ⟨-, hnew⟩, hevolves⟩ := hst.attempts key attempt' hattempt'
  · rw [hevolves.reservation]
    refine h.settles key attempt hfind (hevolves.accelerator ▸ hdevice) ?_
    rcases hopen with hunknown | ⟨hanswers, hflight⟩
    · rcases hevolves.state with hsame | hflight | ⟨-, hdecided, -⟩
      · exact Or.inl (hsame ▸ hunknown)
      · refine Or.inr ⟨hevolves.kept.resolve_right fun hkept ↦ ?_, hflight⟩
        rw [← hkept hflight, hunknown] at hflight
        exact absurd hflight (by decide)
      · rw [hunknown] at hdecided
        exact absurd hdecided (by decide)
    · exact Or.inr ⟨hanswers, hevolves.flight hflight ▸ hflight⟩
  · rw [hevolves.reservation]
    exact h.registers attempt hnew

/-- The states that deciding an ambiguous attempt leads its partitions to. -/
def resolvedStates : List PartitionState := [.active, .retired, .unpartitioned]

lemma advances_resolveAttempt {key : PartitionAttemptId} {pass : Pass} (hn : π.natives)
    (hactive : π.activates) (hd : π.decides = some o.id) (hs : Adjudicates π s o.id)
    (henters : ∀ a ∈ resolvedStates, π.enters a) :
    Advances (Evolves π floor) (o.resolveAttempt pass key) s := by
  refine advances_get_bind ?_
  cases hattempt : (s.findAttempt key).filter fun a ↦
      a.accelerator = o.id && a.state = .outcomeUnknown with
  | none => exact advances_pure _ _
  | some attempt =>
      obtain ⟨hfind, hcond⟩ := Option.filter_eq_some_iff.mp hattempt
      simp only [Bool.and_eq_true, decide_eq_true_eq] at hcond
      have hdecide : ∀ detail, Evolves π floor s (o.decideAttempt key detail s) :=
        fun _ ↦ evolves_decideAttempt hd hfind hcond.1 hcond.2
      have hsettles := hs.settles key attempt hfind hcond.1 (Or.inl hcond.2)
      have htarget : π.enters (Observation.settledTarget attempt.kind) := by
        unfold Observation.settledTarget
        split
        · exact henters _ (by simp [resolvedStates])
        · exact henters _ (by simp [resolvedStates])
      refine advances_ite (fun _ ↦ ?_) fun _ ↦ ?_
      · refine advances_modify_bind (hdecide _) ?_
        refine advances_bind (advances_foldlM fun _ _ _ _ _ ↦
          advances_adoptProduced hn hactive htarget) fun _ _ _ ↦ ?_
        exact advances_modify_bind (evolves_settleDecided hsettles) (advances_pure _ _)
      · refine advances_modify_bind (hdecide _) ?_
        refine advances_bind (advances_forM fun _ _ _ _ ↦ advances_withdrawPartition hn
          (henters _ (by simp [resolvedStates]))) fun _ _ _ ↦ ?_
        exact advances_bind (advances_releaseDecided hsettles) fun _ _ _ ↦ advances_pure _ _

/-- Holding an unexplained partition writes the ledger of its device only. -/
lemma advances_holdUnexpected_of {R : FabricState → FabricState → Prop} [Std.Refl R]
    [IsTrans FabricState R] {record : PartitionRecord} {report : ReconciliationReport}
    (h : ∀ source target amount t,
      Advances R (onLedger o.id (CapacityLedger.moveBetween source target amount)) t) :
    Advances R (o.holdUnexpected record report) s := by
  refine advances_get_bind ?_
  cases s.findLedger o.id with
  | none => exact advances_pure _ _
  | some l =>
      refine advances_bind (advances_attempt (h _ _ _ _)) fun t status _ ↦ ?_
      cases status with
      | error e => exact advances_pure _ _
      | ok u =>
          refine advances_bind (advances_ite (fun _ ↦ ?_) fun _ ↦ advances_pure _ _)
            fun _ _ _ ↦ advances_pure _ _
          refine advances_bind (advances_attempt (h _ _ _ _)) fun v status _ ↦ ?_
          cases status with
          | error e => exact advances_pure _ _
          | ok u => exact advances_pure _ _

lemma advances_holdUnexpected {record : PartitionRecord} {report : ReconciliationReport} :
    Advances (Evolves π floor) (o.holdUnexpected record report) s :=
  advances_holdUnexpected_of fun _ _ _ _ ↦ advances_moveBetween

/-- Only the lifecycle and the held bucket of a record depend on the ledger's answer. -/
def SameBut (r r' : PartitionRecord) : Prop :=
  ∃ state held, r' = { r with state := state, heldBucket := held }

lemma promoteHeld_same {record : PartitionRecord} :
    Ensures (fun r _ ↦ SameBut record r) (o.promoteHeld record) s := by
  unfold Observation.promoteHeld
  by_cases hactive : record.state = .active
  · rw [if_pos hactive]
    refine ensures_bind fun t status _ ↦ ?_
    cases status with
    | error e => exact ensures_pure ⟨_, _, rfl⟩
    | ok u => exact ensures_pure ⟨_, _, rfl⟩
  · rw [if_neg hactive]
    exact ensures_pure ⟨_, _, rfl⟩

lemma holdUnexpected_same {record : PartitionRecord} {report : ReconciliationReport} :
    Ensures (fun p _ ↦ SameBut record p.1) (o.holdUnexpected record report) s := by
  refine ensures_get_bind ?_
  cases s.findLedger o.id with
  | none => exact ensures_pure ⟨_, _, rfl⟩
  | some l =>
      refine ensures_bind fun t status _ ↦ ?_
      cases status with
      | error e => exact ensures_pure ⟨_, _, rfl⟩
      | ok u =>
          refine ensures_bind fun v r hr ↦ ensures_pure ?_
          exact promoteHeld_same v r hr

/-- What is held keeps its state or is left to revalidation. -/
lemma holdUnexpected_state {record : PartitionRecord} {report : ReconciliationReport} :
    Ensures (fun p _ ↦ p.1.state = record.state ∨ p.1.state = .revalidationRequired)
      (o.holdUnexpected record report) s := by
  refine ensures_get_bind ?_
  cases s.findLedger o.id with
  | none => exact ensures_pure (Or.inl rfl)
  | some l =>
      refine ensures_bind fun t status _ ↦ ?_
      cases status with
      | error e => exact ensures_pure (Or.inl rfl)
      | ok u =>
          have hpromoted : Ensures (fun r _ ↦ r.state = record.state ∨
              r.state = .revalidationRequired) (o.promoteHeld record) t := by
            unfold Observation.promoteHeld
            split
            · refine ensures_bind fun v status _ ↦ ?_
              cases status with
              | error e => exact ensures_pure (Or.inr rfl)
              | ok u => exact ensures_pure (Or.inl rfl)
            · exact ensures_pure (Or.inl rfl)
          exact ensures_bind fun v r hr ↦ ensures_pure (hpromoted v r hr)

lemma advances_recordUnexpected {claimed : List Text} {l : List BackendNativePartition}
    {report : ReconciliationReport} (hn : π.natives) (hactive : π.activates)
    (hfloor : floor ≤ s.ids.next) :
    Advances (Evolves π floor) (o.recordUnexpected claimed l report) s := by
  induction l generalizing s report with
  | nil => exact advances_pure _ _
  | cons native rest ih =>
      refine advances_ite (fun _ ↦ ih hfloor) fun _ ↦ ?_
      refine advances_bind_of (advances_attempt advances_allocateId) fun t status hid hst ↦ ?_
      cases status with
      | error e => exact advances_pure _ _
      | ok id =>
          obtain ⟨rfl, hlt, -⟩ := allocateId_eq_ok (attempt_eq_ok hid)
          refine advances_get_bind (advances_bind_of advances_holdUnexpected
            fun u entry hentry htu ↦ ?_)
          obtain ⟨state, held, hsame⟩ := holdUnexpected_same u entry hentry
          obtain ⟨record, report'⟩ := entry
          obtain rfl : record = _ := hsame
          refine advances_modify_bind_of (evolves_insertPartition hfloor
            (lt_of_lt_of_le hlt htu.ids) rfl ⟨Or.inl hn, Or.inr rfl, fun _ ↦ hactive⟩) fun huv ↦ ?_
          refine advances_modify_bind_of evolves_stamp fun hvw ↦ ih ?_
          calc floor ≤ s.ids.next := hfloor
            _ ≤ t.ids.next := hst.ids
            _ ≤ u.ids.next := htu.ids
            _ ≤ _ := huv.ids
            _ ≤ _ := hvw.ids

lemma advances_takeOffline {key : PartitionId} {report : ReconciliationReport}
    (henters : π.enters .offline) : Advances (Evolves π floor) (o.takeOffline report key) s := by
  refine advances_get_bind ?_
  cases (s.findPartition key).filter _ with
  | none => exact advances_pure _ _
  | some record =>
      exact advances_bind (advances_attempt (advances_transition henters (by decide)))
        fun _ _ _ ↦ advances_pure _ _

lemma advances_reconcileAbsent {report : ReconciliationReport} (henters : π.enters .offline) :
    Advances (Evolves π floor) (o.reconcileAbsent report) s := by
  refine advances_get_bind ?_
  refine advances_bind (advances_foldlM fun _ _ _ _ _ ↦ advances_takeOffline henters)
    fun _ _ _ ↦ ?_
  refine advances_modify_bind (evolves_annotateAccelerator fun _ ↦ ⟨rfl, rfl, rfl, rfl, rfl⟩) ?_
  exact advances_bind advances_bump fun _ _ _ ↦ advances_pure _ _

/-- The layout comes from another incarnation than the registered one. -/
def showsReset (observed : BackendLayout) (accelerator : AcceleratorRecord) : Bool :=
  valid observed.bootId && valid accelerator.bootId && observed.bootId ≠ accelerator.bootId

lemma advances_noteReset {report : ReconciliationReport}
    (hfind : s.accelerators.find? o.id = some o.accelerator)
    (hr : showsReset o.layout o.accelerator = true → π.renumbers o.id ∧ π.reincarnates o.id) :
    Advances (Evolves π floor) (o.noteReset report) s := by
  refine advances_ite (fun hreset ↦ ?_) fun _ ↦ advances_pure _ _
  obtain ⟨hrenumbers, hreincarnates⟩ := hr hreset
  simp only [Bool.and_eq_true] at hreset
  refine advances_lift_bind fun g hg ↦ ?_
  refine advances_modify_bind (evolves_modifyAccelerator (fun a ha ↦ ?_) fun a ha ↦ ?_)
    (advances_pure _ _)
  · obtain rfl := Option.some.inj (hfind.symm.trans ha)
    refine ⟨rfl, fun _ ↦ ?_⟩
    rw [AcceleratorRecord.established, hreset.1.2, Bool.or_true]
  · obtain rfl := Option.some.inj (hfind.symm.trans ha)
    exact ⟨⟨Or.inr (le_of_lt (lt_next hg)), Or.inl hrenumbers, Or.inl hreincarnates⟩, Or.inr rfl⟩

/-- The passes run for the device that the reconciliation is about. -/
lemma noteReset_id {report : ReconciliationReport} :
    Ensures (fun p _ ↦ p.1.id = o.id) (o.noteReset report) s := by
  unfold Observation.noteReset
  split
  · exact ensures_bind fun t g _ ↦ ensures_modify_bind (ensures_pure rfl)
  · exact ensures_pure rfl

lemma advances_reconcilePasses {report : ReconciliationReport} (hn : π.natives)
    (hactive : π.activates) (hd : π.decides = some o.id) (hs : Adjudicates π s o.id)
    (hmatches : ∀ a ∈ matchedStates, π.enters a) (hresolves : ∀ a ∈ resolvedStates, π.enters a)
    (hfloor : floor ≤ s.ids.next) :
    Advances (Evolves π floor) (o.reconcilePasses report) s := by
  refine advances_get_bind ?_
  refine advances_bind_of (advances_foldlM fun _ _ _ _ _ ↦ advances_matchRecord hactive hmatches)
    fun t pass _ hst ↦ advances_get_bind ?_
  refine advances_bind_of (advances_foldlM fun _ _ _ v htv ↦ advances_resolveAttempt hn hactive
    hd ((hs.of_evolves hst).of_evolves htv) hresolves) fun u pass' _ htu ↦ ?_
  exact advances_recordUnexpected hn hactive ((hfloor.trans hst.ids).trans htu.ids)

lemma evolves_refreshEvidence : Evolves π floor s (o.refreshEvidence s) :=
  evolves_annotateAccelerator fun _ ↦ ⟨rfl, rfl, rfl, rfl, rfl⟩

lemma advances_reconcilePresent {report : ReconciliationReport} (hn : π.natives)
    (hactive : π.activates) (hd : π.decides = some o.id) (hs : Adjudicates π s o.id)
    (hmatches : ∀ a ∈ matchedStates, π.enters a) (hresolves : ∀ a ∈ resolvedStates, π.enters a)
    (hfloor : floor ≤ s.ids.next)
    (hfind : s.accelerators.find? o.id = some o.accelerator)
    (hr : showsReset o.layout o.accelerator = true → π.renumbers o.id ∧ π.reincarnates o.id) :
    Advances (Evolves π floor) (o.reconcilePresent report) s := by
  refine advances_bind_of (advances_noteReset hfind hr) fun t entry hentry hst ↦ ?_
  have hid := noteReset_id t entry hentry
  obtain ⟨o', report'⟩ := entry
  refine advances_bind (advances_reconcilePasses hn hactive (hd.trans (by rw [hid]))
    (by rw [hid]; exact hs.of_evolves hst) hmatches hresolves (hfloor.trans hst.ids))
    fun _ _ _ ↦ ?_
  refine advances_modify_bind evolves_refreshEvidence ?_
  exact advances_bind advances_bump fun _ _ _ ↦ advances_pure _ _

end Observed

/-- The states that a reconciliation leads partitions to before it decides attempts, and then. -/
def reconciledStates (observed : BackendLayout) : List PartitionState × List PartitionState :=
  if observed.devicePresent then (matchedStates, resolvedStates) else ([], [.offline])

lemma advances_reconcile {id : AcceleratorId} {observed : BackendLayout} {now : UInt64}
    (hn : π.natives) (hactive : π.activates) (hd : π.decides = some id)
    (hs : Adjudicates π s id) (hfloor : floor ≤ s.ids.next)
    (hr : ∀ a, s.findAccelerator id = some a → showsReset observed a = true →
      π.renumbers id ∧ π.reincarnates id)
    (hmatches : ∀ a ∈ (reconciledStates observed).1, π.enters a)
    (hresolves : ∀ a ∈ (reconciledStates observed).2, π.enters a) :
    Advances (Evolves π floor) (reconcile id observed now) s := by
  unfold reconciledStates at hmatches hresolves
  refine advances_get_bind ?_
  cases hfind : s.findAccelerator id with
  | none => exact advances_throw _ _
  | some accelerator =>
      refine advances_lift_bind fun _ _ ↦ ?_
      refine advances_bind_of advances_allocateId fun t reportId hid hst ↦ ?_
      refine advances_ite (fun hpresent ↦ ?_) fun habsent ↦ ?_
      · rw [if_pos hpresent] at hmatches hresolves
        refine advances_reconcilePresent hn hactive hd (hs.of_evolves hst) hmatches hresolves
          (hfloor.trans hst.ids) ?_ (hr accelerator hfind)
        rcases allocateId_cases s with ⟨e, h⟩ | ⟨ids, -, h⟩
        · rw [h] at hid
          exact absurd hid (by simp)
        · rw [h] at hid
          exact (Prod.mk.inj hid).1 ▸ hfind
      · rw [if_neg habsent] at hresolves
        exact advances_reconcileAbsent (hresolves _ (by simp))

end PartitionFabric
