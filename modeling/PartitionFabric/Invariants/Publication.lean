import PartitionFabric.Invariants.PlanUse

/-!
Publication of authority: which results make a partition active, and under which authority.
-/

namespace PartitionFabric

open Procedure

variable {s t : FabricState}

/-- The reservation of an attempt is live and its device still stands as it was dispatched to. -/
def authorityCurrent (s : FabricState) (attempt : PartitionAttempt) : Bool :=
  ((s.findReservation attempt.reservation).any fun r ↦ !reservationIsTerminal r.lifecycle) &&
    (s.findAccelerator attempt.accelerator).any fun a ↦
      attempt.acceleratorGeneration = a.generation && attempt.acceleratorBoot = a.bootId &&
        attempt.capabilityGeneration = a.capability.generation

/-- A result verifies a creation or a reconfiguration that is still in flight. -/
def verifiesPublication (s : FabricState) (attempt : PartitionAttempt)
    (mutation : Result BackendMutationResult) (observed : Option BackendLayout) : Bool :=
  attempt.state.inFlight && attempt.kind ≠ .destroyPartition &&
    (s.findReservation attempt.reservation).any fun r ↦
      (verifyMutation s attempt r (mutationReport mutation) observed).verified

/-- A partition becomes active between two states. -/
def Activates (s t : FabricState) (p : PartitionId) : Prop :=
  (t.findPartition p).map PartitionRecord.state = some .active ∧
    (s.findPartition p).map PartitionRecord.state ≠ some .active

/-- A result makes partitions active under current authority only. -/
def PublishesCurrent (s : FabricState) (op : Op) : Prop :=
  ∀ key mutation observed now, op = .applyMutationResult key mutation observed now →
    ∀ p, Activates s (op.step s) p →
      ∃ attempt, s.findAttempt key = some attempt ∧ authorityCurrent s attempt = true

/-- A result that verifies a creation or a reconfiguration is applied under current authority. -/
def verifiedUnderAuthority (s : FabricState) : Op → Prop
  | .applyMutationResult key mutation observed _ =>
    ∀ attempt ∈ s.findAttempt key, verifiesPublication s attempt mutation observed = true →
      authorityCurrent s attempt = true
  | _ => True

/-- Nothing becomes active. -/
def NoActivation (s t : FabricState) : Prop := ∀ p, ¬ Activates s t p

instance : Std.Refl NoActivation := ⟨fun _ _ h ↦ h.2 h.1⟩

instance : IsTrans FabricState NoActivation where
  trans s t u hst htu p h := by
    by_cases ht : (t.findPartition p).map PartitionRecord.state = some .active
    · exact hst p ⟨ht, h.2⟩
    · exact htu p ⟨h.1, ht⟩

lemma NoActivation.of_eq (h : t.partitions = s.partitions) : NoActivation s t := by
  rintro p ⟨ht, hs⟩
  rw [FabricState.findPartition, h] at ht
  exact hs ht

/-- A rewrite of one record that does not make it active activates nothing. -/
lemma noActivation_modify {key : PartitionId} {f : PartitionRecord → PartitionRecord}
    (h : ∀ r, (f r).state = .active → r.state = .active) :
    NoActivation s (s.modifyPartition key f) := by
  rintro p ⟨ht, hs⟩
  rw [FabricState.findPartition, FabricState.modifyPartition, KeyedMap.find?_modify] at ht
  split at ht
  · obtain ⟨r', hr', hactive⟩ := Option.map_eq_some_iff.mp ht
    obtain ⟨r, hr, rfl⟩ := Option.map_eq_some_iff.mp hr'
    exact hs (Option.map_eq_some_iff.mpr ⟨r, hr, h r hactive⟩)
  · exact hs ht

/-- What is active was active before, on the same incarnation of the same device. -/
def StaysActive (s t : FabricState) : Prop := ∀ p r', t.findPartition p = some r' →
  r'.state = .active → ∃ r, s.findPartition p = some r ∧ r.state = .active ∧
    r'.accelerator = r.accelerator ∧ r'.acceleratorGeneration = r.acceleratorGeneration ∧
      r'.acceleratorBoot = r.acceleratorBoot

instance : Std.Refl StaysActive := ⟨fun _ _ r hr hactive ↦ ⟨r, hr, hactive, rfl, rfl, rfl⟩⟩

instance : IsTrans FabricState StaysActive where
  trans s t u hst htu p r'' hr'' hactive := by
    obtain ⟨r', hr', hactive', hdevice', hgeneration', hboot'⟩ := htu p r'' hr'' hactive
    obtain ⟨r, hr, hactive, hdevice, hgeneration, hboot⟩ := hst p r' hr' hactive'
    exact ⟨r, hr, hactive, hdevice'.trans hdevice, hgeneration'.trans hgeneration,
      hboot'.trans hboot⟩

lemma StaysActive.noActivation (h : StaysActive s t) : NoActivation s t := by
  rintro p ⟨ht, hs⟩
  obtain ⟨r', hr', hactive⟩ := Option.map_eq_some_iff.mp ht
  obtain ⟨r, hr, hactive, -⟩ := h p r' hr' hactive
  exact hs (Option.map_eq_some_iff.mpr ⟨r, hr, hactive⟩)

lemma StaysActive.of_eq (h : t.partitions = s.partitions) : StaysActive s t := by
  intro p r hr hactive
  rw [FabricState.findPartition, h] at hr
  exact ⟨r, hr, hactive, rfl, rfl, rfl⟩

lemma staysActive_modify {key : PartitionId} {f : PartitionRecord → PartitionRecord}
    (h : ∀ r, (f r).state = .active → r.state = .active ∧ (f r).accelerator = r.accelerator ∧
      (f r).acceleratorGeneration = r.acceleratorGeneration ∧
        (f r).acceleratorBoot = r.acceleratorBoot) :
    StaysActive s (s.modifyPartition key f) := by
  intro p r' hr' hactive
  rw [FabricState.findPartition, FabricState.modifyPartition, KeyedMap.find?_modify] at hr'
  split at hr'
  · obtain ⟨r, hr, rfl⟩ := Option.map_eq_some_iff.mp hr'
    exact ⟨r, hr, h r hactive⟩
  · exact ⟨r', hr', hactive, rfl, rfl, rfl⟩

lemma staysActive_transition {now : UInt64} {key : PartitionId} {target : PartitionState}
    {reason : Text} (htarget : target ≠ .active) :
    Advances StaysActive (transitionPartition now key target reason) s := by
  unfold Advances
  rcases transitionPartition_cases now key target reason s with
    h | ⟨record, ledger, ledger', held, hrecord, -, -, -, -, h⟩
  · rw [h]
    exact refl_of _ s
  · rw [h]
    intro p r' hr' hactive
    rw [FabricState.findPartition, FabricState.transitioned, KeyedMap.find?_insert] at hr'
    split at hr'
    · obtain rfl := Option.some.inj hr'
      exact absurd hactive htarget
    · exact ⟨r', hr', hactive, rfl, rfl, rfl⟩

lemma staysActive_bump : StaysActive s s.bumpStateGeneration := bump_of fun _ ↦ .of_eq rfl

lemma noActivation_bump : NoActivation s s.bumpStateGeneration := staysActive_bump.noActivation

lemma staysActive_revalidateUnknown {now : UInt64} {reason : Text} {p : PartitionId} :
    Advances StaysActive (revalidateUnknown now reason p) s :=
  advances_get_bind (advances_when fun _ ↦
    advances_ignore (staysActive_transition (by decide)))

lemma staysActive_failAttempt {key : PartitionAttemptId} {detail : Text} {now : UInt64}
    {outcome : MutationOutcome} :
    Advances StaysActive (failAttempt key detail now outcome) s :=
  advances_modify_bind (.of_eq rfl) (advances_pure _ _)

lemma staysActive_loseMutation {key : PartitionAttemptId} {attempt : PartitionAttempt}
    {detail : Text} {now : UInt64} {outcome : MutationOutcome} :
    Advances StaysActive (loseMutation key attempt detail now outcome) s := by
  refine advances_modify_bind (.of_eq rfl) (advances_modify_bind (.of_eq rfl) ?_)
  refine advances_bind (advances_forM fun _ _ _ _ ↦ staysActive_revalidateUnknown)
    fun _ _ _ ↦ ?_
  exact advances_modify_bind staysActive_bump (advances_pure _ _)

lemma staysActive_failMutation {key : PartitionAttemptId} {attempt : PartitionAttempt}
    {reservation : PartitionReservation} {detail : Text} {now : UInt64}
    {outcome : MutationOutcome} :
    Advances StaysActive (failMutation key attempt reservation detail now outcome) s := by
  refine advances_modify_bind (.of_eq rfl) (advances_modify_bind (.of_eq rfl) ?_)
  refine advances_bind (advances_when fun _ ↦ ?_) fun _ _ _ ↦ ?_
  · refine advances_bind (advances_forM fun _ _ _ _ ↦
      advances_ignore (staysActive_transition (by decide))) fun _ _ _ ↦ ?_
    exact advances_modify (.of_eq rfl)
  · refine advances_bind (advances_when fun _ ↦ advances_forM fun _ _ _ _ ↦
      advances_ignore (staysActive_transition (by decide))) fun _ _ _ ↦ ?_
    exact advances_modify_bind staysActive_bump (advances_pure _ _)

lemma staysActive_retireDestroyed {now : UInt64} {p : PartitionId} :
    Advances StaysActive (retireDestroyed now p) s := by
  refine advances_bind (advances_attempt (staysActive_transition (by decide)))
    fun t status _ ↦ ?_
  cases status with
  | error e => exact advances_pure _ _
  | ok u =>
      refine advances_modify (staysActive_modify fun r hr ↦ ?_)
      rw [PartitionRecord.supersede_state] at hr
      have hevolves := RecordEvolves.supersede (π := {}) r
      exact ⟨hr, hevolves.accelerator, hevolves.incarnation⟩

/-- A verified destruction activates nothing. -/
lemma staysActive_commitDestruction {e : CommitEvidence} {key : PartitionAttemptId}
    {attempt : PartitionAttempt} {detail : Text} {outcome : MutationOutcome}
    (hkind : attempt.kind = .destroyPartition) :
    Advances StaysActive (commitMutation e key attempt detail outcome) s := by
  refine advances_bind ?_ fun _ _ _ ↦ ?_
  · unfold commitPartitions
    rw [hkind]
    exact advances_forM fun _ _ _ _ ↦ staysActive_retireDestroyed
  · refine advances_modify_bind (.of_eq rfl) (advances_modify_bind (.of_eq rfl) ?_)
    exact advances_modify_bind staysActive_bump (advances_pure _ _)

/-- A result that verifies no creation and no reconfiguration in flight activates nothing. -/
lemma staysActive_applyMutationResult {key : PartitionAttemptId}
    {mutation : Result BackendMutationResult} {observed : Option BackendLayout} {now : UInt64}
    (h : ∀ attempt ∈ s.findAttempt key, verifiesPublication s attempt mutation observed = false) :
    Advances StaysActive (applyMutationResultLocked key mutation observed now) s := by
  refine advances_get_bind ?_
  cases hattempt : s.findAttempt key with
  | none => exact advances_pure _ _
  | some attempt =>
      simp only
      cases hreservation : s.findReservation attempt.reservation with
      | none => exact advances_pure _ _
      | some reservation =>
          refine advances_ite (fun _ ↦ advances_pure _ _) fun hopen ↦ ?_
          refine advances_ite (fun _ ↦ advances_pure _ _) fun hunknown ↦ ?_
          have hflight : attempt.state.inFlight = true :=
            (lost_inFlight (by simpa using hopen)).resolve_left hunknown
          cases s.findAccelerator attempt.accelerator with
          | none => exact staysActive_failAttempt
          | some accelerator =>
              refine advances_get_bind (advances_ite (fun hverified ↦ ?_) fun _ ↦ ?_)
              · -- only a destruction is left to commit
                have hkind : attempt.kind = .destroyPartition := by
                  have hnot := h attempt hattempt
                  simpa [verifiesPublication, hflight, hreservation, hverified] using hnot
                rw [if_neg (by rw [hkind]; decide)]
                exact staysActive_commitDestruction hkind
              · refine advances_ite (fun _ ↦ ?_) fun _ ↦ ?_
                · exact staysActive_loseMutation
                · exact staysActive_failMutation

lemma publishesCurrent_of_guard {op : Op} (h : verifiedUnderAuthority s op) :
    PublishesCurrent s op := by
  rintro key mutation observed now rfl p hactive
  by_cases hverifies : ∃ attempt ∈ s.findAttempt key,
      verifiesPublication s attempt mutation observed = true
  · obtain ⟨attempt, hattempt, hverified⟩ := hverifies
    exact ⟨attempt, hattempt, h attempt hattempt hverified⟩
  · have hstays : StaysActive s (applyMutationResultLocked key mutation observed now s).1 := by
      refine staysActive_applyMutationResult fun attempt hattempt ↦ ?_
      simpa using fun hv ↦ hverifies ⟨attempt, hattempt, hv⟩
    exact absurd hactive (hstays.noActivation p)

namespace Sample

/-- The slice as the hardware reports it. -/
def native (nativeId : Text) : BackendNativePartition :=
  { nativeId := nativeId
    vendorNativeProfile := "1g"
    profile := profile.id
    resources := memory 4 }

/-- The device with the given slices. -/
def layout (natives : List Text) : BackendLayout :=
  { stableKey := "gpu"
    devicePresent := true
    bootId := 7
    physicalTotals := memory 16
    partitions := natives.map native
    evidence := evidence }

/-- An accepted mutation. -/
def accepted : Result BackendMutationResult := .ok { accepted := true }

/-- The slice is created as observed. -/
def created : List Op := dispatched ++ [.applyMutationResult 5 accepted (some (layout ["a"])) 5]

/-- The device resets after the dispatch. -/
def resetInFlight : List Op :=
  dispatched ++ [.registerBackendAccelerator { device with bootId := 8 } 5]

/-- The late result for the dispatched creation. -/
def lateResult : Op := .applyMutationResult 5 accepted (some (layout ["a"])) 6

end Sample

end PartitionFabric
