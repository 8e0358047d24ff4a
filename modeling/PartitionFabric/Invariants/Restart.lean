import PartitionFabric.Invariants.Closure

/-!
What a successful import leaves behind: records without dynamic authority, so that nothing is
admitted and nothing dispatched before fresh physical evidence has been seen.
-/

namespace PartitionFabric

open Procedure

variable {s t : FabricState}

/-- The states a partition may be in before fresh physical evidence has been seen. -/
def restartState : PartitionState → Bool
  | .discovered | .unpartitioned | .planPending | .revalidationRequired | .retired | .failed => true
  | _ => false

/-- Nothing in the registry carries authority that a restart would have ended. -/
structure Conservative (s : FabricState) : Prop where
  partitions : ∀ k r, s.partitions.find? k = some r → restartState r.state = true
  reservations : ∀ k r, s.reservations.find? k = some r → reservationIsTerminal r.lifecycle = true
  attempts : ∀ k a, s.attempts.find? k = some a →
    attemptSettled a.state = true ∨ a.state = .outcomeUnknown
  assignments : ∀ k, s.assignments.find? k = none
  workers : ∀ k w, s.workers.find? k = some w → w.fenced = true ∧ w.alive = false
  evidence : ∀ k a, s.accelerators.find? k = some a →
    a.evidence.observed = false ∧ a.capability.evidence.observed = false

lemma Conservative.of_frame (h : Conservative s) (hc : t.accelerators = s.accelerators)
    (hp : t.partitions = s.partitions) (hr : t.reservations = s.reservations)
    (ha : t.attempts = s.attempts) (hb : t.assignments = s.assignments)
    (hw : t.workers = s.workers) : Conservative t := by
  constructor
  · rw [hp]
    exact h.partitions
  · rw [hr]
    exact h.reservations
  · rw [ha]
    exact h.attempts
  · rw [hb]
    exact h.assignments
  · rw [hw]
    exact h.workers
  · rw [hc]
    exact h.evidence

lemma conservative_restoreRegistry (d : DurableState) (s : FabricState) :
    Conservative (d.restoreRegistry s) := by
  constructor
  · intro k r hr
    simp [DurableState.restoreRegistry] at hr
  · intro k r hr
    simp [DurableState.restoreRegistry] at hr
  · intro k a ha
    simp [DurableState.restoreRegistry] at ha
  · intro k
    rfl
  · intro k w hw
    simp [DurableState.restoreRegistry] at hw
  · intro k a ha
    have hstored := (KeyedMap.find?_foldl_insert ha).resolve_right (by simp)
    obtain ⟨record, -, -, rfl⟩ := hstored
    exact ⟨rfl, rfl⟩

lemma Conservative.insertPartition (h : Conservative s) (record : PartitionRecord)
    (hrecord : restartState record.state = true) :
    Conservative { s with partitions := s.partitions.insert record.id record } := by
  refine ⟨?_, h.reservations, h.attempts, h.assignments, h.workers, h.evidence⟩
  intro k r hr
  rw [KeyedMap.find?_insert] at hr
  split at hr
  · rw [← Option.some.inj hr]
    exact hrecord
  · exact h.partitions k r hr

lemma Conservative.insertReservation (h : Conservative s) (reservation : PartitionReservation)
    (hterminal : reservationIsTerminal reservation.lifecycle = true) :
    Conservative
      { s with reservations := s.reservations.insert reservation.id reservation } := by
  refine ⟨h.partitions, ?_, h.attempts, h.assignments, h.workers, h.evidence⟩
  intro k r hr
  rw [KeyedMap.find?_insert] at hr
  split at hr
  · rw [← Option.some.inj hr]
    exact hterminal
  · exact h.reservations k r hr

lemma Conservative.insertAttempt (h : Conservative s) (attempt : PartitionAttempt)
    (hattempt : attemptSettled attempt.state = true ∨ attempt.state = .outcomeUnknown) :
    Conservative { s with attempts := s.attempts.insert attempt.id attempt } := by
  refine ⟨h.partitions, h.reservations, ?_, h.assignments, h.workers, h.evidence⟩
  intro k a ha
  rw [KeyedMap.find?_insert] at ha
  split at ha
  · rw [← Option.some.inj ha]
    exact hattempt
  · exact h.attempts k a ha

lemma conservative_onLedger {id : AcceleratorId} {op : LedgerM Unit} :
    Advances (Preserves Conservative) (onLedger id op) s := by
  unfold Advances onLedger
  cases s.findLedger id with
  | none => exact fun h ↦ h
  | some l => exact fun h ↦ h.of_frame rfl rfl rfl rfl rfl rfl

lemma conservative_restoreCounters {d : DurableState} :
    Advances (Preserves Conservative) (restoreCounters d) s := by
  apply advances_get_bind
  apply advances_lift_bind
  intro ids _
  apply advances_modify_bind
  · exact fun h ↦ h.of_frame rfl rfl rfl rfl rfl rfl
  · apply advances_lift_bind
    intro generation _
    exact advances_modify fun h ↦ h.of_frame rfl rfl rfl rfl rfl rfl

lemma conservative_reportIdentity :
    Advances (Preserves Conservative) reportIdentity s :=
  advances_reportIdentity_of fun _ h ↦ h.of_frame rfl rfl rfl rfl rfl rfl

/-- A state that needs no revalidation is one a restart leaves as it is. -/
lemma restartState_of_not_needsRevalidation {record : PartitionRecord}
    (h : needsRevalidation record = false) : restartState record.state = true := by
  unfold needsRevalidation at h
  cases hstate : record.state <;> rw [hstate] at h <;>
    first | rfl | exact absurd h (by decide)

lemma conservative_restorePartition {now : UInt64} {report : ReconciliationReport}
    {record : PartitionRecord} :
    Advances (Preserves Conservative) (restorePartition now report record) s := by
  apply advances_ite
  · intro _
    apply advances_modify_bind
    · intro h
      exact h.insertPartition { record with
        state := .revalidationRequired
        lastTransitionAtMs := now
        lastTransitionReason := "conservative revalidation after restart" } rfl
    · exact advances_pure _ _
  · intro hkeep
    apply advances_modify_bind
    · intro h
      exact h.insertPartition _ (restartState_of_not_needsRevalidation (by simpa using hkeep))
    · exact advances_pure _ _

lemma conservative_retireRestored {now : UInt64} {p : PartitionId} :
    Preserves Conservative s (retireRestored now p s) := by
  intro h
  refine ⟨?_, h.reservations, h.attempts, h.assignments, h.workers, h.evidence⟩
  intro k r hr
  rw [retireRestored, FabricState.modifyPartition, KeyedMap.find?_modify] at hr
  split at hr
  · obtain ⟨r₀, hr₀, rfl⟩ := Option.map_eq_some_iff.mp hr
    split
    · rfl
    · exact h.partitions k r₀ hr₀
  · exact h.partitions k r hr

lemma conservative_releaseRestored {now : UInt64} {reservation : PartitionReservation} :
    Advances (Preserves Conservative) (releaseRestored now reservation) s := by
  apply advances_get_bind
  apply advances_when
  intro _
  apply advances_bind
  · exact advances_attempt conservative_onLedger
  · intro t status _
    cases status with
    | error e => exact advances_throw _ _
    | ok u =>
        apply advances_forM
        intro p _ u _
        exact advances_modify conservative_retireRestored

lemma conservative_restoreReservation {now : UInt64} {report : ReconciliationReport}
    {reservation : PartitionReservation} :
    Advances (Preserves Conservative) (restoreReservation now report reservation) s := by
  apply advances_ite
  · intro hterminal
    apply advances_modify_bind
    · exact fun h ↦ h.insertReservation _ hterminal
    · exact advances_pure _ _
  · intro _
    apply advances_bind conservative_releaseRestored
    intro t _ _
    apply advances_modify_bind
    · intro h
      exact h.insertReservation { reservation with
        lifecycle := .fenced
        reason := "restart invalidated live reservation authority"
        updatedAtMs := now } rfl
    · exact advances_pure _ _

lemma conservative_restoreAttempt {now : UInt64} {report : ReconciliationReport}
    {attempt : PartitionAttempt} :
    Advances (Preserves Conservative) (restoreAttempt now report attempt) s := by
  apply advances_ite
  · intro hsettled
    apply advances_modify_bind
    · exact fun h ↦ h.insertAttempt _ (Or.inl hsettled)
    · exact advances_pure _ _
  · intro _
    apply advances_modify_bind
    · intro h
      exact h.insertAttempt { attempt with
        state := .outcomeUnknown
        settledAtMs := now
        detail := "restart invalidated in-flight attempt authority; reconciliation required" }
        (Or.inr rfl)
    · exact advances_pure _ _

/-- No restored partition is active, so no assignment comes back. -/
lemma conservative_restoreAssignment {report : ReconciliationReport}
    {assignment : PartitionAssignment} :
    Advances (Preserves Conservative) (restoreAssignment report assignment) s := by
  apply advances_get_bind
  apply advances_ite
  · intro hactive h
    obtain ⟨r, hr, hstate⟩ := (Option.any_eq_true _ _).mp hactive
    have hrestart := h.partitions _ r hr
    simp only [decide_eq_true_eq] at hstate
    rw [hstate] at hrestart
    simp [restartState] at hrestart
  · intro _
    exact advances_pure _ _

lemma Conservative.restoreWorkers (h : Conservative s) (d : DurableState) (now : UInt64) :
    Conservative { s with
      workers := d.workers.foldl (fun m w ↦ m.insert w.id (restoreWorker now w)) ∅ } := by
  refine ⟨h.partitions, h.reservations, h.attempts, h.assignments, ?_, h.evidence⟩
  intro k w hw
  have hstored := (KeyedMap.find?_foldl_insert hw).resolve_right (by simp)
  obtain ⟨worker, -, -, rfl⟩ := hstored
  exact ⟨rfl, rfl⟩

lemma conservative_bump : Preserves Conservative s s.bumpStateGeneration :=
  bump_of fun _ h ↦ h.of_frame rfl rfl rfl rfl rfl rfl

/-- The whole import after its validation, from the replaced registry on, however far it gets. -/
lemma conservative_validated {d : DurableState} {now : UInt64} {u : Unit}
    (h : d.validateImport s.stateGeneration = .ok u) :
    Conservative (importDurableState d now s).1 := by
  unfold importDurableState
  rw [get_bind, h]
  refine (?_ : Preserves Conservative (d.restoreRegistry s) _) (conservative_restoreRegistry d s)
  apply advances_bind conservative_restoreCounters
  intro _ _ _
  apply advances_bind conservative_reportIdentity
  intro _ _ _
  apply advances_bind (advances_foldlM fun _ _ _ _ _ ↦ conservative_restorePartition)
  intro _ _ _
  apply advances_bind (advances_foldlM fun _ _ _ _ _ ↦ conservative_restoreReservation)
  intro _ _ _
  apply advances_bind (advances_foldlM fun _ _ _ _ _ ↦ conservative_restoreAttempt)
  intro _ _ _
  apply advances_bind (advances_foldlM fun _ _ _ _ _ ↦ conservative_restoreAssignment)
  intro _ _ _
  apply advances_modify_bind
  · exact fun h ↦ h.restoreWorkers d now
  · exact advances_modify_bind conservative_bump (advances_pure _ _)

lemma conservative_import {d : DurableState} {now : UInt64} {report : ReconciliationReport}
    (h : importDurableState d now s = (t, .ok report)) : Conservative t := by
  cases hvalid : d.validateImport s.stateGeneration with
  | error e =>
    unfold importDurableState at h
    rw [get_bind, hvalid] at h
    cases (Prod.mk.inj h).2
  | ok u =>
    have himported : Conservative (importDurableState d now s).1 := conservative_validated hvalid
    rwa [h] at himported

/-- An import that its validation refuses changes nothing. -/
lemma import_refused {d : DurableState} {now : UInt64} {e : Error}
    (h : d.validateImport s.stateGeneration = .error e) :
    importDurableState d now s = (s, .error e) := by
  unfold importDurableState
  rw [get_bind, h]
  rfl

/-- A candidate for admission is active. -/
lemma notCandidate_eq_ok {record : PartitionRecord} {accelerator : AcceleratorRecord}
    (h : notCandidate s record = .ok accelerator) : record.state = .active := by
  unfold notCandidate at h
  split at h
  · cases h
  · split at h
    · cases h
    · split at h
      · cases h
      · split at h
        · cases h
        · rename_i hactive
          simpa using hactive

lemma searchCandidates_not_admitted {requirement : WorkloadRequirement} {now : UInt64}
    {records : List PartitionRecord} {considered : UInt32} {seen : List AdmissionOutcome}
    (h : ∀ record ∈ records, record.state ≠ .active) :
    (searchCandidates s requirement now records considered seen).outcome ≠ .admitted := by
  induction records generalizing considered seen with
  | nil =>
      unfold searchCandidates
      cases hfind : rejectionOrder.find? seen.contains with
      | none => simp
      | some reason =>
          have hmem := List.mem_of_find?_eq_some hfind
          intro hadmitted
          simp only [Option.getD_some] at hadmitted
          rw [hadmitted] at hmem
          exact absurd hmem (by decide)
  | cons record rest ih =>
      have hrest : ∀ r ∈ rest, r.state ≠ .active := fun r hr ↦ h r (List.mem_cons_of_mem _ hr)
      unfold searchCandidates
      cases hcandidate : notCandidate s record with
      | error reason => exact ih hrest
      | ok accelerator =>
          exact absurd (notCandidate_eq_ok hcandidate) (h record List.mem_cons_self)

/-- Without an active partition a workload is refused and nothing changes. -/
lemma admitWorkload_refused (h : ∀ k r, s.partitions.find? k = some r → r.state ≠ .active)
    (requirement : WorkloadRequirement) (now : UInt64) :
    ∃ decision, admitWorkload requirement now s = (s, .ok decision) ∧
      decision.outcome ≠ .admitted := by
  have hnone : (evaluateAdmission s requirement now).outcome ≠ .admitted := by
    unfold evaluateAdmission
    split
    · simp
    · apply searchCandidates_not_admitted
      intro record hrecord
      obtain ⟨k, hk⟩ := KeyedMap.mem_values.mp hrecord
      exact h k record hk
  have hopen : attempt checkOpen s = (s, .ok (checkOpen s).2) := rfl
  unfold admitWorkload
  rw [get_bind, bind_ok hopen]
  cases (checkOpen s).2 with
  | error e => exact ⟨_, rfl, by simp⟩
  | ok u =>
      simp only [ne_eq, hnone, not_false_eq_true, if_true]
      exact ⟨_, rfl, hnone⟩

/-- A reservation that is no longer live dispatches nothing and changes nothing. -/
lemma execute_refused (h : ∀ k r, s.reservations.find? k = some r → r.lifecycle ≠ .active)
    (id : PartitionReservationId) (now : UInt64) :
    ∃ e, execute id now s = (s, .error e) := by
  unfold execute
  cases hopen : (checkOpen s).2 with
  | error e =>
      have hclosed : checkOpen s = (s, .error e) := Prod.ext rfl hopen
      exact ⟨e, bind_error hclosed⟩
  | ok u =>
      have hopened : checkOpen s = (s, .ok u) := Prod.ext rfl hopen
      rw [bind_ok hopened, get_bind]
      cases hfind : s.findReservation id with
      | none => exact ⟨_, rfl⟩
      | some reservation =>
          have hlive : decide (reservation.lifecycle = .active) = false := by
            simpa using h id reservation hfind
          simp only [hlive]
          exact ⟨_, rfl⟩

/-- A successful import brings back no dynamic authority: until a later step nothing is admitted
and nothing is dispatched. -/
theorem import_conservative (d : DurableState) (now : UInt64) (s t : FabricState)
    (report : ReconciliationReport) (h : importDurableState d now s = (t, .ok report)) :
    Conservative t ∧
      (∀ requirement later, ∃ decision, admitWorkload requirement later t = (t, .ok decision) ∧
        decision.outcome ≠ .admitted) ∧
      ∀ id later, ∃ e, execute id later t = (t, .error e) := by
  have hconservative := conservative_import h
  refine ⟨hconservative, ?_, ?_⟩
  · intro requirement later
    apply admitWorkload_refused
    intro k r hr hactive
    have hrestart := hconservative.partitions k r hr
    rw [hactive] at hrestart
    simp [restartState] at hrestart
  · intro id later
    apply execute_refused
    intro k r hr hactive
    have hterminal := hconservative.reservations k r hr
    rw [hactive] at hterminal
    simp [reservationIsTerminal] at hterminal

/-- A dispatched creation comes back without its authority. -/
theorem import_conservative_dispatched :
    let d := exportDurableState (fabric.run Sample.dispatched Sample.opened) 9
    (importDurableState d 10 Sample.opened).2.isOk = true ∧
      Conservative (importDurableState d 10 Sample.opened).1 := by
  have happly : ∀ d now s, (importDurableState d now s).2.isOk = true →
      Conservative (importDurableState d now s).1 := by
    intro d now s hok
    cases hresult : (importDurableState d now s).2 with
    | error e =>
        rw [hresult] at hok
        cases hok
    | ok report => exact (import_conservative d now s _ report (Prod.ext rfl hresult)).1
  intro d
  have hok : (importDurableState d 10 Sample.opened).2.isOk = true := by decide +kernel
  exact ⟨hok, happly d 10 Sample.opened hok⟩

end PartitionFabric
