import PartitionFabric.Invariants.Shutdown

/-!
What a closed instance may still grant: the drains that may be cancelled, the assignments that may
be bound and the partitions that a reconciliation may adopt.
-/

namespace PartitionFabric

open Procedure

variable {s s₀ t : FabricState} {now : UInt64}

section Resuming

variable {p : PartitionId}

/-- A cancelled drain returns the partition to use: nothing occupies it and its ledger lets its
capacity go. -/
def Resumes (s : FabricState) (p : PartitionId) : Prop :=
  ∃ record ledger, s.findPartition p = some record ∧ record.state = .draining ∧
    (destructionSafe s record || record.drain.outstandingAssignments = 0) = true ∧
    s.findLedger record.accelerator = some ledger ∧
    (applyCapacityTransition .active (ledger, record)).2.isOk = true

/-- The transition of a draining partition back to use goes through or changes nothing, as its
ledger decides. -/
lemma transition_resume (now : UInt64) (reason : Text) {record : PartitionRecord}
    (hrecord : s.findPartition p = some record) (hstate : record.state = .draining) :
    (transitionPartition now p .active reason s).1 = s ∧
        (∀ ledger, s.findLedger record.accelerator = some ledger →
          (applyCapacityTransition .active (ledger, record)).2.isOk = false) ∨
      ∃ ledger ledger' held, s.findLedger record.accelerator = some ledger ∧
        (applyCapacityTransition .active (ledger, record)).2.isOk = true ∧
        (transitionPartition now p .active reason s).1 =
          s.transitioned now p record .active reason ledger' held := by
  have hallowed : validateTransition record.state .active = .ok () := by
    rw [hstate]
    rfl
  have hmoves : record.state ≠ .active := by
    rw [hstate]
    decide
  unfold transitionPartition
  rw [hrecord]
  simp only [hallowed, if_neg hmoves]
  cases hledger : s.findLedger record.accelerator with
  | none => exact Or.inl ⟨rfl, fun ledger h ↦ by cases h⟩
  | some ledger =>
    simp only
    rcases applyCapacityTransition_cases .active ledger record with ⟨e, h⟩ | ⟨ledger', held, -, h⟩
    · refine Or.inl ⟨?_, fun l hl ↦ ?_⟩
      · rw [h]
        simp only
        rw [KeyedMap.insert_eq_self hledger, KeyedMap.insert_eq_self hrecord]
      · obtain rfl := Option.some.inj hl
        rw [h]
        rfl
    · refine Or.inr ⟨ledger, ledger', held, rfl, ?_, ?_⟩
      · rw [h]
        rfl
      · rw [h]
        rfl

lemma noActivation_cancelDrain (h : ¬ Resumes s p) :
    Advances NoActivation (cancelDrain p now) s := by
  refine advances_get_bind ?_
  cases hrecord : s.findPartition p with
  | none => exact advances_throw _ _
  | some record =>
    refine advances_require_bind fun hdraining ↦ advances_require_bind fun hvacant ↦ ?_
    have hstate : record.state = .draining := of_decide_eq_true hdraining
    refine advances_bind ?_ fun t _ _ ↦ ?_
    · rcases transition_resume now "drain cancelled" hrecord hstate with
        ⟨hsame, -⟩ | ⟨ledger, -, -, hledger, hok, -⟩
      · change NoActivation s (transitionPartition now p .active "drain cancelled" s).1
        rw [hsame]
        exact refl_of _ s
      · exact absurd ⟨record, ledger, hrecord, hstate, hvacant, hledger, hok⟩ h
    · exact advances_modify_bind (noActivation_modify fun _ h ↦ h) (advances_modify noActivation_bump)

/-- The record of a partition is in use. -/
def InUse (p : PartitionId) (s : FabricState) : Prop :=
  (s.findPartition p).map PartitionRecord.state = some .active

lemma inUse_modify {q : PartitionId} {f : PartitionRecord → PartitionRecord}
    (hf : ∀ r, (f r).state = r.state) (h : InUse p s) : InUse p (s.modifyPartition q f) := by
  obtain ⟨r, hr, hactive⟩ := Option.map_eq_some_iff.mp h
  unfold InUse FabricState.findPartition FabricState.modifyPartition
  rw [KeyedMap.find?_modify]
  split
  · rename_i hpq
    subst hpq
    rw [show s.partitions.find? p = some r from hr]
    exact congrArg some ((hf r).trans hactive)
  · exact h

lemma inUse_bump (h : InUse p s) : InUse p s.bumpStateGeneration := by
  unfold InUse FabricState.findPartition
  rw [bump_partitions]
  exact h

/-- A drain that may be cancelled makes the partition active, even when the operation then fails. -/
lemma activates_cancelDrain (h : Resumes s p) : Activates s (cancelDrain p now s).1 p := by
  obtain ⟨record, ledger, hrecord, hstate, hvacant, hledger, hok⟩ := h
  have hbefore : (s.findPartition p).map PartitionRecord.state ≠ some .active := by
    rw [hrecord, Option.map_some, hstate]
    decide
  refine ⟨?_, hbefore⟩
  have hmoved : InUse p (transitionPartition now p .active "drain cancelled" s).1 := by
    rcases transition_resume now "drain cancelled" hrecord hstate with
      ⟨-, hrefused⟩ | ⟨-, ledger', held, -, -, hmoved⟩
    · rw [hrefused ledger hledger] at hok
      cases hok
    · rw [hmoved]
      unfold InUse FabricState.findPartition FabricState.transitioned
      rw [KeyedMap.find?_insert_self]
      rfl
  change InUse p (cancelDrain p now s).1
  unfold cancelDrain
  rw [get_bind, hrecord]
  simp only
  rw [require_bind, if_pos (decide_eq_true hstate), require_bind, if_pos hvacant]
  have hrest : Advances (Preserves (InUse p)) (do
      Procedure.modify fun s ↦ s.modifyPartition p fun r ↦
        { r with
          drain := { r.drain with
            state := .notDraining
            startedAtMs := 0
            completedAtMs := 0
            blocker := []
            blockedReason := [] } }
      Procedure.modify FabricState.bumpStateGeneration : FabricM Unit)
      (transitionPartition now p .active "drain cancelled" s).1 :=
    advances_modify_bind (inUse_modify fun _ ↦ rfl) (advances_modify inUse_bump)
  cases hrun : transitionPartition now p .active "drain cancelled" s with
  | mk t status =>
    rw [hrun] at hmoved hrest
    cases status with
    | error e =>
      rw [bind_error hrun]
      exact hmoved
    | ok u =>
      rw [bind_ok hrun]
      exact hrest hmoved

end Resuming

section Adopting

variable {o : Observation} {pass : Pass} {key p : PartitionId} {keys : List PartitionId}

/-- Policy adopts a record of the device: it awaits revalidation, and it names an observed partition
that has its profile. -/
def Reclaims (s : FabricState) (id : AcceleratorId) (observed : BackendLayout) (p : PartitionId) :
    Prop :=
  s.policy.allowExternalAdoption = true ∧ ∃ r native, s.findPartition p = some r ∧
    r.accelerator = id ∧ r.state = .revalidationRequired ∧
    r.nativeIdentity.nativeId.isEmpty = false ∧
    observedNative observed r.nativeIdentity.nativeId = some native ∧
    Observation.profileMatches s r native = true

/-- An attempt of the device whose outcome is unknown finds what it intended, and one of its
partitions is in the layout without being active. -/
def Fulfils (s : FabricState) (id : AcceleratorId) (observed : BackendLayout) : Prop :=
  ∃ key a p r, s.findAttempt key = some a ∧ a.accelerator = id ∧ a.state = .outcomeUnknown ∧
    a.kind ≠ .destroyPartition ∧
    layoutSatisfies observed (a.desired.map PlannedPartition.spec) = true ∧
    p ∈ a.partitions ∧ s.findPartition p = some r ∧ inLayout r = true ∧ r.state ≠ .active

/-- Policy adopts a physical partition that no record of the device in the layout names. -/
def Unexplained (s : FabricState) (id : AcceleratorId) (observed : BackendLayout) : Prop :=
  s.policy.allowExternalAdoption = true ∧ ∃ native ∈ observed.partitions,
    ∀ p r, s.findPartition p = some r → r.accelerator = id → inLayout r = true →
      r.nativeIdentity.nativeId ≠ native.nativeId

/-- What holds before the comparison of the records that are left, from the state that the
comparisons started in: only what policy adopts became active. -/
structure Surveying (o : Observation) (s₀ : FabricState) (keys : List PartitionId) (pass : Pass)
    (s : FabricState) : Prop where
  untouched : ∀ p ∈ keys, s.partitions.find? p = s₀.partitions.find? p
  matched : ∀ p r', s.partitions.find? p = some r' → ∃ r, s₀.partitions.find? p = some r ∧
    Matched (Reclaims s₀ o.id o.layout p) r r' ∧ (inLayout r' = true → inLayout r = true)
  claimed : ∀ p, p ∉ keys → ∀ r, s₀.partitions.find? p = some r →
    o.meetsAs r.nativeIdentity.nativeId r = true → o.shows r →
    r.nativeIdentity.nativeId ∈ pass.claimed
  profiles : s.profiles = s₀.profiles
  policy : s.policy = s₀.policy
  attempts : s.attempts = s₀.attempts
  nodup : keys.Nodup

lemma surveying_initial {report : ReconciliationReport} :
    Surveying o s s.partitions.keys ⟨[], report⟩ s := by
  refine ⟨fun _ _ ↦ rfl, fun p r hr ↦ ⟨r, hr, refl_of _ r, id⟩, fun p hp r hr ↦ ?_, rfl, rfl, rfl,
    KeyedMap.keys_nodup _⟩
  exact absurd (KeyedMap.mem_keys.mpr ⟨r, hr⟩) hp

/-- A record outside the layout is not compared. -/
lemma matchRecord_skips (h : ∀ r, s.partitions.find? key = some r → inLayout r = false) :
    (o.matchRecord pass key s).1 = s := by
  have hnone : ((s.findPartition key).filter fun r ↦ r.accelerator = o.id && inLayout r) = none := by
    refine Option.filter_eq_none_iff.mpr fun r hr ↦ ?_
    rw [h r hr]
    simp
  unfold Observation.matchRecord
  rw [get_bind, hnone]
  rfl

lemma surveying_matchRecord (h : Surveying o s₀ (key :: keys) pass s) :
    Meets (fun _ ↦ False) (Surveying o s₀ keys) (o.matchRecord pass key) s := by
  obtain ⟨hkey, hnodup⟩ := List.nodup_cons.mp h.nodup
  have hstart := h.untouched key List.mem_cons_self
  have hlocal : Localized key (Matched (Reclaims s₀ o.id o.layout key)) s
      (o.matchRecord pass key s).1 := by
    apply matched_compared
    intro hpolicy r native hr hdevice hstate hnamed hobserved hprofile
    refine ⟨h.policy ▸ hpolicy, r, native, hstart.symm.trans hr, hdevice, hstate, hnamed, hobserved,
      ?_⟩
    unfold Observation.profileMatches FabricState.findProfile at hprofile ⊢
    rwa [← h.profiles]
  apply (claimed_matchRecord o pass key s).mono
    (R := fun _ t ↦ Localized key (Matched (Reclaims s₀ o.id o.layout key)) s t ∧
      t = (o.matchRecord pass key s).1) ⟨hlocal, rfl⟩
  rintro pass' t hclaimed ⟨hlocal, rfl⟩
  have hgrows : pass.claimed ⊆ pass'.claimed := by
    rcases hclaimed with ⟨heq, -⟩ | ⟨r, -, -, heq⟩
    · exact heq ▸ List.Subset.refl _
    · exact heq ▸ List.subset_append_left _ _
  refine ⟨?_, ?_, ?_, hlocal.profiles.trans h.profiles, hlocal.policy.trans h.policy,
    hlocal.attempts.trans h.attempts, hnodup⟩
  · intro p hp
    have hne : p ≠ key := fun heq ↦ hkey (heq ▸ hp)
    exact (hlocal.others p hne).trans (h.untouched p (List.mem_cons_of_mem _ hp))
  · intro p r' hr'
    by_cases hp : p = key
    · subst hp
      obtain ⟨r, hr, hmatched⟩ := hlocal.source hr'
      refine ⟨r, hstart.symm.trans hr, hmatched, fun hin ↦ ?_⟩
      cases hlayout : inLayout r with
      | true => rfl
      | false =>
        rw [matchRecord_skips fun r₀ hr₀ ↦ Option.some.inj (hr.symm.trans hr₀) ▸ hlayout, hr] at hr'
        rw [← Option.some.inj hr', hlayout] at hin
        cases hin
    · rw [hlocal.others p hp] at hr'
      exact h.matched p r' hr'
  · intro p hp r hr hmeets hshows
    by_cases hpkey : p = key
    · subst hpkey
      rw [← hstart] at hr
      rcases hclaimed with ⟨-, hnot⟩ | ⟨r₁, hr₁, -, heq⟩
      · exact absurd hshows (hnot r hr hmeets)
      · obtain rfl := Option.some.inj (hr.symm.trans hr₁)
        rw [heq]
        simp
    · have hleft : p ∉ key :: keys := by simp [hpkey, hp]
      exact hgrows (h.claimed p hleft r hr hmeets hshows)

/-- What the decisions may do to a record: it becomes active only where that is allowed, and what is
out of the layout stays out. -/
structure ActiveKept (allowed : Prop) (r r' : PartitionRecord) : Prop where
  active : r'.state = .active → r.state = .active ∨ allowed
  layout : inLayout r' = true → inLayout r = true

variable {allowed : Prop}

instance : Std.Refl (ActiveKept allowed) := ⟨fun _ ↦ ⟨Or.inl, id⟩⟩

instance : IsTrans PartitionRecord (ActiveKept allowed) where
  trans r r' r'' h h' := by
    refine ⟨fun hactive ↦ ?_, h.layout ∘ h'.layout⟩
    rcases h'.active hactive with hactive' | hallowed
    · exact h.active hactive'
    · exact Or.inr hallowed

/-- What holds during the decisions, from the state before the comparisons: the names that the
comparisons claimed, and nothing became active. -/
structure Deferring (o : Observation) (s₀ : FabricState) (pass : Pass) (s : FabricState) : Prop where
  claimed : ∀ p r, s₀.partitions.find? p = some r → o.meetsAs r.nativeIdentity.nativeId r = true →
    o.shows r → r.nativeIdentity.nativeId ∈ pass.claimed
  records : ∀ p r', s.partitions.find? p = some r' → ∃ r, s₀.partitions.find? p = some r ∧
    ActiveKept False r r'
  policy : s.policy = s₀.policy
  attempts : ∀ k a, s.findAttempt k = some a → a.state = .outcomeUnknown →
    s₀.findAttempt k = some a

/-- The record of a partition was active before. -/
def WasActive (s₀ : FabricState) (p : PartitionId) : Prop :=
  ∃ r, s₀.partitions.find? p = some r ∧ r.state = .active

lemma Surveying.deferring (h : Surveying o s₀ [] pass s)
    (hreclaims : ∀ p, ¬Reclaims s₀ o.id o.layout p) : Deferring o s₀ pass s := by
  refine ⟨fun p r hr ↦ h.claimed p (by simp) r hr, fun p r' hr' ↦ ?_, h.policy, fun k a ha _ ↦ ?_⟩
  · obtain ⟨r, hr, hmatched, hlayout⟩ := h.matched p r' hr'
    refine ⟨r, hr, fun hactive ↦ ?_, hlayout⟩
    exact Or.inl ((hmatched.active hactive).resolve_right (hreclaims p))
  · rwa [FabricState.findAttempt, ← h.attempts]

/-- A step of the decisions that touches one record. -/
lemma Deferring.advance {pass' : Pass} (h : Deferring o s₀ pass s)
    (hlocal : Localized p (ActiveKept allowed) s t) (hallowed : allowed → WasActive s₀ p) (hclaimed : pass.claimed ⊆ pass'.claimed) :
    Deferring o s₀ pass' t := by
  refine ⟨fun q r hr hmeets hshows ↦ hclaimed (h.claimed q r hr hmeets hshows), fun q r'' hr'' ↦ ?_,
    hlocal.policy.trans h.policy, fun k a ha ↦ ?_⟩
  · obtain ⟨r', hr', hheld⟩ : ∃ r', s.partitions.find? q = some r' ∧
        (q = p ∧ ActiveKept allowed r' r'' ∨ r' = r'') := by
      by_cases hq : q = p
      · subst hq
        obtain ⟨r', hr', hheld⟩ := hlocal.source hr''
        exact ⟨r', hr', Or.inl ⟨rfl, hheld⟩⟩
      · exact ⟨r'', (hlocal.others q hq).symm.trans hr'', Or.inr rfl⟩
    obtain ⟨r, hr, hbefore⟩ := h.records q r' hr'
    refine ⟨r, hr, ?_⟩
    rcases hheld with ⟨rfl, hheld⟩ | rfl
    · refine ⟨fun hactive ↦ ?_, hbefore.layout ∘ hheld.layout⟩
      rcases hheld.active hactive with hactive' | hyes
      · exact hbefore.active hactive'
      · obtain ⟨r₁, hr₁, hwas⟩ := hallowed hyes
        obtain rfl := Option.some.inj (hr.symm.trans hr₁)
        exact Or.inl hwas
    · exact hbefore
  · rw [FabricState.findAttempt, hlocal.attempts] at ha
    exact h.attempts k a ha

/-- A step that leaves the records and the attempts alone. -/
lemma Deferring.of_untouched {pass' : Pass} (h : Deferring o s₀ pass s) (hp : t.partitions = s.partitions)
    (hpolicy : t.policy = s.policy) (ha : t.attempts = s.attempts)
    (hclaimed : pass'.claimed = pass.claimed) : Deferring o s₀ pass' t := by
  refine ⟨fun p r hr hmeets hshows ↦ ?_, fun p r hr ↦ h.records p r (hp ▸ hr),
    hpolicy.trans h.policy, fun k a hfind ↦ ?_⟩
  · rw [hclaimed]
    exact h.claimed p r hr hmeets hshows
  · rw [FabricState.findAttempt, ha] at hfind
    exact h.attempts k a hfind

variable {attempt : PartitionAttempt}

lemma deferring_decideAttempt {k : PartitionAttemptId} (detail : Text) (h : Deferring o s₀ pass s) :
    Deferring o s₀ pass (o.decideAttempt k detail s) := by
  refine ⟨h.claimed, h.records, h.policy, fun k' a ha hunknown ↦ ?_⟩
  rw [FabricState.findAttempt, Observation.decideAttempt, FabricState.modifyAttempt,
    KeyedMap.find?_modify] at ha
  split at ha
  · obtain ⟨a₀, -, rfl⟩ := Option.map_eq_some_iff.mp ha
    cases hunknown
  · exact h.attempts k' a ha hunknown

/-- A transition towards use is allowed where activity is; the others leave the layout. -/
lemma held_transition {target : PartitionState} {reason : Text}
    (htarget : target = .active ∨ target = .retired ∨ target = .unpartitioned)
    (hactive : target = .active → ∀ r, s.partitions.find? p = some r →
      allowed ∧ inLayout r = true) :
    Advances (Localized p (ActiveKept allowed)) (transitionPartition now p target reason) s := by
  apply localized_transition
  intro r hr _
  rcases htarget with rfl | rfl | rfl
  · obtain ⟨hallowed, hin⟩ := hactive rfl r hr
    exact ⟨fun _ ↦ Or.inr hallowed, fun _ ↦ hin⟩
  · exact ⟨fun h ↦ PartitionState.noConfusion h, fun h ↦ absurd h Bool.false_ne_true⟩
  · exact ⟨fun h ↦ PartitionState.noConfusion h, fun h ↦ absurd h Bool.false_ne_true⟩

lemma held_settlePartition {kind : AttemptKind} {record : PartitionRecord}
    (hactive : kind ≠ .destroyPartition → ∀ r, s.partitions.find? p = some r →
      allowed ∧ inLayout r = true) :
    Advances (Localized p (ActiveKept allowed)) (o.settlePartition kind p record pass) s := by
  have hmoves : Advances (Localized p (ActiveKept allowed)) (transitionPartition o.now p
      (Observation.settledTarget kind) "reconciled with observed hardware") s := by
    apply held_transition
    · unfold Observation.settledTarget
      split
      · exact Or.inr (Or.inl rfl)
      · exact Or.inl rfl
    · intro htarget
      apply hactive
      rintro rfl
      cases htarget
  apply advances_bind (advances_attempt hmoves)
  intro t status _
  cases status with
  | error e => exact advances_get_bind (advances_pure _ _)
  | ok u =>
    apply advances_ite
    · intro _
      have hsuperseded : Localized p (ActiveKept allowed) t
          (t.modifyPartition p PartitionRecord.supersede) := by
        apply localized_modify
        intro r _
        refine ⟨fun h ↦ Or.inl ?_, fun h ↦ ?_⟩
        · rwa [PartitionRecord.supersede_state] at h
        · rwa [inLayout, PartitionRecord.supersede_state] at h
      exact advances_modify_bind hsuperseded (advances_pure _ _)
    · intro _
      exact advances_pure _ _

/-- An accepted attempt makes a partition active only where that is allowed of a record in the
layout. -/
lemma held_adoptProduced {index : ℕ} (hallowed : attempt.kind ≠ .destroyPartition →
      ∀ r, s.partitions.find? p = some r → inLayout r = true → allowed) :
    Advances (Localized p (ActiveKept allowed)) (o.adoptProduced attempt pass (p, index)) s := by
  apply advances_get_bind
  cases hrecord : s.findPartition p with
  | none => exact advances_pure _ _
  | some record =>
    have hstays : ∀ found, Localized p (fun r r' ↦ r'.state = r.state) s
        (bindFound p o.accelerator.backend found s) := by
      intro found
      cases found with
      | none => exact ⟨fun r hr ↦ ⟨r, hr, rfl⟩, id, fun _ _ ↦ rfl, rfl, rfl, rfl, rfl⟩
      | some pair => exact localized_modify fun _ _ ↦ rfl
    have hbound : ∀ found, Localized p (ActiveKept allowed) s
        (bindFound p o.accelerator.backend found s) := by
      intro found
      refine ⟨fun r hr ↦ ?_, (hstays found).absent, (hstays found).others, (hstays found).profiles,
        (hstays found).policy, (hstays found).attempts, (hstays found).ids⟩
      obtain ⟨r', hr', hstate⟩ := (hstays found).record r hr
      refine ⟨r', hr', fun h ↦ Or.inl (hstate.symm.trans h), fun h ↦ ?_⟩
      rwa [inLayout, hstate] at h
    apply advances_modify_bind (hbound _)
    apply advances_ite
    · intro hopen
      apply held_settlePartition
      intro hkind r' hr'
      obtain ⟨r, hr, hstate⟩ := (hstays _).source hr'
      obtain rfl := Option.some.inj (hrecord.symm.trans hr)
      have hin : inLayout record = true := by
        simp only [Bool.or_eq_true, decide_eq_true_eq] at hopen
        unfold inLayout
        rcases hopen with h | h <;> rw [h] <;> rfl
      refine ⟨hallowed hkind record hrecord hin, ?_⟩
      rwa [inLayout, hstate]
    · intro _
      exact advances_pure _ _

lemma held_withdrawPartition :
    Advances (Localized p (ActiveKept False)) (o.withdrawPartition p) s := by
  apply advances_get_bind
  apply advances_when
  intro _
  apply advances_bind (advances_attempt (held_transition (by simp) (by simp)))
  intro t status _
  cases status with
  | error e => exact advances_pure _ _
  | ok u =>
    apply advances_modify
    apply localized_modify
    intro r _
    refine ⟨fun h ↦ Or.inl ?_, fun h ↦ ?_⟩
    · rwa [PartitionRecord.supersede_state] at h
    · rwa [inLayout, PartitionRecord.supersede_state] at h

lemma deferring_acceptAttempt {k : PartitionAttemptId} (h : Deferring o s₀ pass s)
    (hallowed : attempt.kind ≠ .destroyPartition → ∀ p ∈ attempt.partitions, ∀ r,
      s₀.partitions.find? p = some r → inLayout r = true → r.state = .active) :
    Meets (fun _ ↦ False) (Deferring o s₀) (o.acceptAttempt k attempt pass) s := by
  apply meets_modify_bind
  have hdecided := deferring_decideAttempt (k := k)
    "reconciled: the intended physical result is present" h
  have hloop : Meets (fun _ ↦ False)
      (fun pass t ↦ Deferring o s₀ pass t ∧
        ([] : List (PartitionId × ℕ)) ⊆ attempt.partitions.zipIdx)
      (attempt.partitions.zipIdx.foldlM (o.adoptProduced attempt) pass)
      (o.decideAttempt k "reconciled: the intended physical result is present" s) := by
    apply meets_foldlM (Q := fun entries pass t ↦ Deferring o s₀ pass t ∧
      entries ⊆ attempt.partitions.zipIdx)
    · rintro ⟨p, index⟩ rest pass t ⟨ht, hsub⟩
      have hmem : p ∈ attempt.partitions := List.fst_mem_of_mem_zipIdx (hsub List.mem_cons_self)
      have hlocal : Advances (Localized p (ActiveKept (WasActive s₀ p)))
          (o.adoptProduced attempt pass (p, index)) t := by
        apply held_adoptProduced
        intro hkind r' hr' hin
        obtain ⟨r, hr, hheld⟩ := ht.records p r' hr'
        exact ⟨r, hr, hallowed hkind p hmem r hr (hheld.layout hin)⟩
      apply claimed_adoptProduced.mono hlocal
      intro pass' u hclaimed hlocal
      exact ⟨ht.advance hlocal id hclaimed, fun e he ↦ hsub (List.mem_cons_of_mem _ he)⟩
    · exact ⟨hdecided, List.Subset.refl _⟩
  apply meets_bind hloop
  rintro pass' t ⟨ht, -⟩
  apply meets_modify_bind
  apply meets_pure
  exact ht.of_untouched rfl rfl rfl rfl

lemma deferring_rejectAttempt {k : PartitionAttemptId} (h : Deferring o s₀ pass s) :
    Meets (fun _ ↦ False) (Deferring o s₀) (o.rejectAttempt k attempt pass) s := by
  apply meets_modify_bind
  have hdecided := deferring_decideAttempt (k := k)
    "reconciled: the intended physical result is absent" h
  have hloop : Meets (fun _ ↦ False) (fun _ ↦ Deferring o s₀ pass)
      (attempt.partitions.forM o.withdrawPartition)
      (o.decideAttempt k "reconciled: the intended physical result is absent" s) := by
    apply meets_forM (Q := fun _ ↦ Deferring o s₀ pass) _ hdecided
    intro q rest t ht
    apply withdrawPartition_ends.mono held_withdrawPartition
    intro _ u _ hlocal
    exact ht.advance hlocal False.elim (List.Subset.refl _)
  apply meets_bind hloop
  intro _ t ht
  have hrelease : Advances (Localized 0 (ActiveKept False)) (o.releaseDecided attempt) t := by
    apply advances_get_bind
    cases t.findReservation attempt.reservation with
    | none => exact advances_pure _ _
    | some reservation =>
      apply advances_when
      intro _
      refine advances_modify_bind (.of_eq rfl rfl rfl rfl rfl) ?_
      apply advances_when
      intro _
      exact advances_ignore localized_onLedger
  apply meets_bind (releaseDecided_ends.mono hrelease fun _ u _ hu ↦ hu)
  intro _ u hlocal
  exact meets_pure (ht.advance hlocal False.elim (List.Subset.refl _))

lemma deferring_resolveAttempt {k : PartitionAttemptId} (hfulfils : ¬Fulfils s₀ o.id o.layout)
    (h : Deferring o s₀ pass s) :
    Meets (fun _ ↦ False) (Deferring o s₀) (o.resolveAttempt pass k) s := by
  apply meets_get_bind
  cases hattempt : (s.findAttempt k).filter fun a ↦
      a.accelerator = o.id && a.state = .outcomeUnknown with
  | none => exact meets_pure h
  | some attempt =>
    obtain ⟨hfind, hcond⟩ := Option.filter_eq_some_iff.mp hattempt
    simp only [Bool.and_eq_true, decide_eq_true_eq] at hcond
    have hbefore := h.attempts k attempt hfind hcond.2
    have hnoted : Deferring o s₀
        { pass with report := { pass.report with reconciliationRequired := true } } s :=
      h.of_untouched rfl rfl rfl rfl
    simp only
    split
    · rename_i hsatisfied
      apply deferring_acceptAttempt hnoted
      intro hkind p hp r hr hin
      by_contra hidle
      rw [Observation.satisfied, if_neg hkind] at hsatisfied
      exact hfulfils ⟨k, attempt, p, r, hbefore, hcond.1, hcond.2, hkind, hsatisfied, hp, hr, hin,
        hidle⟩
    · exact deferring_rejectAttempt hnoted

lemma keeps_holdUnexpected {α : Type} (f : FabricState → α) {record : PartitionRecord}
    {report : ReconciliationReport} (h : ∀ (t : FabricState) l, f (t.setLedger o.id l) = f t) :
    Advances (Keeps f) (o.holdUnexpected record report) s :=
  advances_holdUnexpected_of fun _ _ _ _ ↦ keeps_onLedger f h

lemma noActivation_insert {id : PartitionId} {record : PartitionRecord}
    (hidle : record.state ≠ .active) :
    NoActivation s { s with partitions := s.partitions.insert id record } := by
  rintro p ⟨ht, hs⟩
  rw [FabricState.findPartition, KeyedMap.find?_insert] at ht
  split at ht
  · exact hidle (Option.some.inj ht)
  · exact hs ht

lemma noActivation_allocateId : Advances NoActivation allocateId s :=
  advances_allocateId_of fun _ ↦ .of_eq rfl

/-- A step that keeps the state of the one record it touches activates nothing. -/
lemma noActivation_of_localized (h : Localized p (fun r r' ↦ r'.state = r.state) s t) :
    NoActivation s t := by
  rintro q ⟨ht, hs⟩
  obtain ⟨r', hr', hactive⟩ := Option.map_eq_some_iff.mp ht
  by_cases hq : q = p
  · subst hq
    obtain ⟨r, hr, hstate⟩ := h.source hr'
    exact hs (Option.map_eq_some_iff.mpr ⟨r, hr, hstate.symm.trans hactive⟩)
  · exact hs (Option.map_eq_some_iff.mpr ⟨r', (h.others q hq).symm.trans hr', hactive⟩)

/-- What is recorded as unexpected is not active where policy does not adopt it. -/
lemma noActivation_recordUnexpected {claimed : List Text} {l : List BackendNativePartition}
    {report : ReconciliationReport}
    (h : s.policy.allowExternalAdoption = true → ∀ native ∈ l, native.nativeId ∈ claimed) :
    Advances NoActivation (o.recordUnexpected claimed l report) s := by
  induction l generalizing s report with
  | nil => exact advances_pure _ _
  | cons native rest ih =>
    apply advances_ite
    · intro _
      exact ih fun hpolicy n hn ↦ h hpolicy n (List.mem_cons_of_mem _ hn)
    · intro hunclaimed
      have hfree : native.nativeId ∉ claimed := by simpa using hunclaimed
      have hrefused : s.policy.allowExternalAdoption = false := by
        simpa using fun hpolicy ↦ hfree (h hpolicy native List.mem_cons_self)
      apply advances_bind (advances_attempt noActivation_allocateId)
      intro t status ht
      cases status with
      | error e => exact advances_pure _ _
      | ok id =>
        obtain ⟨-, -, ids, rfl⟩ := allocateId_eq_ok (attempt_eq_ok ht)
        apply advances_get_bind
        have hidle : (o.unexpectedRecord { s with ids := ids } native id).state ≠ .active := by
          change (if s.policy.allowExternalAdoption then PartitionState.active
            else .revalidationRequired) ≠ .active
          rw [hrefused]
          decide
        have hpolicy : Advances (Keeps FabricState.policy) (o.holdUnexpected
            (o.unexpectedRecord { s with ids := ids } native id)
            { report with unexpected := report.unexpected + 1, layoutChanged := true })
            { s with ids := ids } := keeps_holdUnexpected _ fun _ _ ↦ rfl
        have hheld : Advances NoActivation (o.holdUnexpected
            (o.unexpectedRecord { s with ids := ids } native id)
            { report with unexpected := report.unexpected + 1, layoutChanged := true })
            { s with ids := ids } := .of_eq (keeps_holdUnexpected FabricState.partitions fun _ _ ↦ rfl)
        apply advances_bind hheld
        rintro u ⟨record, report'⟩ hrun
        have hrecord : record.state ≠ .active := by
          rcases holdUnexpected_state u _ hrun with hsame | hwaits
          · exact fun hactive ↦ hidle (hsame.symm.trans hactive)
          · exact fun hactive ↦ PartitionState.noConfusion (hwaits.symm.trans hactive)
        have hsame : u.policy = s.policy := hpolicy.of_run hrun
        apply advances_modify_bind (noActivation_insert hrecord)
        have hstamp : Localized id (fun r r' ↦ r'.state = r.state)
            { u with partitions := u.partitions.insert id record }
            (o.evidence.stamp id { u with partitions := u.partitions.insert id record }) :=
          localized_stamp fun _ _ ↦ rfl
        apply advances_modify_bind (noActivation_of_localized hstamp)
        apply ih
        intro hadopts
        rw [hstamp.policy] at hadopts
        rw [show u.policy.allowExternalAdoption = false from hsame ▸ hrefused] at hadopts
        cases hadopts

/-- The passes of a reconciliation activate nothing where policy adopts nothing and no attempt is
fulfilled. -/
lemma noActivation_reconcilePasses {report : ReconciliationReport} (hlayout : o.layout.Distinct)
    (hreclaims : ∀ p, ¬Reclaims s o.id o.layout p) (hfulfils : ¬Fulfils s o.id o.layout)
    (hunexplained : ¬Unexplained s o.id o.layout) :
    Advances NoActivation (o.reconcilePasses report) s := by
  have hpasses : Meets (NoActivation s) (fun _ t ↦ NoActivation s t) (o.reconcilePasses report) s := by
    apply meets_get_bind
    have hsurvey : Meets (fun _ ↦ False) (Surveying o s [])
        (s.partitions.keys.foldlM o.matchRecord ⟨[], report⟩) s :=
      meets_foldlM (fun _ _ _ _ h ↦ surveying_matchRecord h) surveying_initial
    apply meets_bind hsurvey.of_never
    intro pass t ht
    apply meets_get_bind
    have hloop : Meets (fun _ ↦ False) (Deferring o s)
        (t.attempts.keys.foldlM o.resolveAttempt pass) t :=
      meets_foldlM (Q := fun _ ↦ Deferring o s)
        (fun _ _ _ _ h ↦ deferring_resolveAttempt hfulfils h) (ht.deferring hreclaims)
    apply meets_bind hloop.of_never
    intro pass' u hu
    have hcalm : NoActivation s u := by
      rintro p ⟨hactive, hidle⟩
      obtain ⟨r', hr', hactive⟩ := Option.map_eq_some_iff.mp hactive
      obtain ⟨r, hr, hheld⟩ := hu.records p r' hr'
      have hwas := (hheld.active hactive).resolve_right id
      exact hidle (Option.map_eq_some_iff.mpr ⟨r, hr, hwas⟩)
    have hrecords : Advances NoActivation
        (o.recordUnexpected pass'.claimed o.layout.partitions pass'.report) u := by
      apply noActivation_recordUnexpected
      intro hpolicy native hnative
      by_contra hfree
      refine hunexplained ⟨hu.policy ▸ hpolicy, native, hnative, fun p r hr hdevice hin hname ↦ ?_⟩
      refine hfree (hname ▸ hu.claimed p r hr ?_ ?_)
      · simp [Observation.meetsAs, hdevice, hin]
      · rw [Observation.shows, hname]
        exact findNative_of_mem hlayout hnative
    exact meets_of_advances hrecords (fun _ h ↦ trans_of NoActivation hcalm h)
      fun _ _ h ↦ trans_of NoActivation hcalm h
  exact hpasses.fst fun _ _ h ↦ h

lemma Reclaims.of_same {id : AcceleratorId} {observed : BackendLayout} (hsame : SameRecords s t)
    (h : Reclaims t id observed p) : Reclaims s id observed p := by
  obtain ⟨hpolicy, r, native, hr, hdevice, hstate, hnamed, hobserved, hprofile⟩ := h
  refine ⟨hsame.policy ▸ hpolicy, r, native, ?_, hdevice, hstate, hnamed, hobserved, ?_⟩
  · rwa [FabricState.findPartition, ← hsame.partitions]
  · unfold Observation.profileMatches FabricState.findProfile at hprofile ⊢
    rwa [← hsame.profiles]

lemma Fulfils.of_same {id : AcceleratorId} {observed : BackendLayout} (hsame : SameRecords s t)
    (h : Fulfils t id observed) : Fulfils s id observed := by
  obtain ⟨k, a, p, r, ha, hdevice, hstate, hkind, hsatisfied, hp, hr, hrest⟩ := h
  refine ⟨k, a, p, r, ?_, hdevice, hstate, hkind, hsatisfied, hp, ?_, hrest⟩
  · rwa [FabricState.findAttempt, ← hsame.attempts]
  · rwa [FabricState.findPartition, ← hsame.partitions]

lemma Unexplained.of_same {id : AcceleratorId} {observed : BackendLayout} (hsame : SameRecords s t)
    (h : Unexplained t id observed) : Unexplained s id observed := by
  obtain ⟨hpolicy, native, hnative, hfree⟩ := h
  refine ⟨hsame.policy ▸ hpolicy, native, hnative, fun p r hr ↦ hfree p r ?_⟩
  rwa [FabricState.findPartition, hsame.partitions]

/-- A reconciliation with a device that is present activates nothing where policy adopts nothing and
no attempt is fulfilled. -/
lemma noActivation_reconcile_present {id : AcceleratorId} {observed : BackendLayout}
    (hpresent : observed.devicePresent = true) (hreclaims : ∀ p, ¬Reclaims s id observed p)
    (hfulfils : ¬Fulfils s id observed) (hunexplained : ¬Unexplained s id observed) :
    Advances NoActivation (reconcile id observed now) s := by
  have hrecords : ∀ p, (((reconcile id observed now s).1.partitions.find? p).map
      PartitionRecord.state = some .active → (s.partitions.find? p).map PartitionRecord.state =
        some .active) := by
    refine reconcile_partitions (P := fun m ↦ ∀ p, (m.find? p).map PartitionRecord.state =
      some .active → (s.partitions.find? p).map PartitionRecord.state = some .active) hpresent
      (fun _ h ↦ h) fun o report t hid hlayout hdistinct hsame p hactive ↦ ?_
    subst hid hlayout
    have hquiet : NoActivation t (o.reconcilePasses report t).1 :=
      noActivation_reconcilePasses hdistinct (fun p h ↦ hreclaims p (h.of_same hsame))
        (fun h ↦ hfulfils (h.of_same hsame)) fun h ↦ hunexplained (h.of_same hsame)
    by_contra hidle
    refine hquiet p ⟨hactive, ?_⟩
    rwa [FabricState.findPartition, hsame.partitions]
  exact fun p h ↦ h.2 (hrecords p h.1)

end Adopting

section Granting

/-- What an attempt is about. -/
def PartitionAttempt.subject (a : PartitionAttempt) :=
  (a.id, a.kind, a.reservation, a.accelerator, a.partitions, a.desired)

/-- What a step does that grants nothing: plans, reservations and attempts are the ones there were,
every reservation as far settled as it was, and neither assignments nor active partitions are
new. -/
structure GrantsNothing (s t : FabricState) : Prop where
  plans : ∀ k p', t.plans.find? k = some p' → ∃ p, s.plans.find? k = some p ∧ PlanEvolves p p'
  reservations : ∀ k r', t.findReservation k = some r' →
    ∃ r, s.findReservation k = some r ∧ r'.lifecycle = r.lifecycle
  attempts : ∀ k a', t.findAttempt k = some a' →
    ∃ a, s.findAttempt k = some a ∧ a'.subject = a.subject
  assignments : AssignsNone s t
  partitions : NoActivation s t

/-- A reconciliation compares the records of a device with a layout that shows it present. -/
def Compares (s : FabricState) (id : AcceleratorId) (observed : BackendLayout) : Prop :=
  (s.findAccelerator id).isSome = true ∧ validateBackendLayout observed s.limits = success ∧
    observed.devicePresent = true

lemma reconcile_refused {id : AcceleratorId} {observed : BackendLayout}
    (hpresent : observed.devicePresent = true) (h : ¬Compares s id observed) :
    (reconcile id observed now s).1 = s := by
  unfold reconcile
  rw [get_bind]
  cases hfind : s.findAccelerator id with
  | none => rfl
  | some accelerator =>
    cases hvalid : validateBackendLayout observed s.limits with
    | error e => rfl
    | ok u => exact absurd ⟨by rw [hfind]; rfl, hvalid, hpresent⟩ h

/-- What would grant authority without asking whether the instance is open does not apply. -/
def Withholds (s : FabricState) : Op → Prop
  | .bindAssignment assignment => ∀ record ∈ s.findPartition assignment.partition,
      bindable s assignment record = true → s.assignments.find? assignment.id = some assignment
  | .cancelDrain p _ => ¬Resumes s p
  | .reconcile id observed _ => Compares s id observed →
      (∀ p, ¬Reclaims s id observed p) ∧ ¬Fulfils s id observed ∧ ¬Unexplained s id observed
  | _ => True

/-- Nothing becomes active where the scope does not allow it. -/
lemma Evolves.noActivation {π : Scope} {floor : UInt64} (h : Evolves π floor s t)
    (hactivates : ¬π.activates) : NoActivation s t := by
  rintro p ⟨ht, hs⟩
  obtain ⟨r', hr', hactive⟩ := Option.map_eq_some_iff.mp ht
  rcases h.origin p r' hr' with ⟨-, hfresh⟩ | ⟨r, hr, hevolves⟩
  · exact hactivates (hfresh.active hactive)
  · rcases hevolves.active hactive with hallowed | hwas
    · exact hactivates hallowed
    · exact hs (Option.map_eq_some_iff.mpr ⟨r, hr, hwas⟩)

/-- Where everything is at rest, no operation but a reopening or an import plans, reserves or
dispatches. -/
lemma grantsNothing_of_resting {op : Op} (hclosed : s.closed = true) (hs : Resting s)
    (hop : op.isImport = false) (hassigns : AssignsNone s (op.step s))
    (hactive : NoActivation s (op.step s)) : GrantsNothing s (op.step s) := by
  have hevolves := evolves_resting hclosed hs hop
  refine ⟨fun k p' hp' ↦ ?_, fun k r' hr' ↦ ?_, fun k a' ha' ↦ ?_, hassigns, hactive⟩
  · obtain ⟨p, hp | ⟨-, hnew⟩, hplan⟩ := hevolves.tenure.plans k p' hp'
    · exact ⟨p, hp, hplan⟩
    · exact hnew.elim
  · rcases hevolves.tenure.reservations k r' hr' with ⟨⟨-, hnew⟩, -⟩ | ⟨r, hr, hreservation⟩
    · exact hnew.elim
    · refine ⟨r, hr, ?_⟩
      rcases hreservation.lifecycle with hresettles | hlive | hsame
      · exact hresettles.elim
      · rw [hs.reservations k r hr] at hlive
        cases hlive
      · exact hsame
  · obtain ⟨a, ha | ⟨-, hnew⟩, hattempt⟩ := hevolves.attempts k a' ha'
    · refine ⟨a, ha, ?_⟩
      unfold PartitionAttempt.subject
      rw [hattempt.id, hattempt.kind, hattempt.reservation, hattempt.accelerator,
        hattempt.partitions, hattempt.desired]
    · exact hnew.elim

lemma assignsNone_bindAssignment {assignment : PartitionAssignment}
    (h : Withholds s (.bindAssignment assignment)) :
    AssignsNone s (Op.step (.bindAssignment assignment) s) := by
  have hbinds : BindsOne assignment s (Op.step (.bindAssignment assignment) s) :=
    bindsOne_bindAssignment
  rcases hbinds with heq | ⟨record, hrecord, hbindable, heq⟩
  · rw [heq]
    exact refl_of _ s
  · intro k a ha
    rw [heq, assign_assignments, KeyedMap.find?_insert] at ha
    split at ha
    · rename_i hk
      rw [hk, ← Option.some.inj ha]
      exact h record hrecord hbindable
    · exact ha

/-- An assignment that passes its checks is stored, whether the instance is open or closed. -/
lemma bindAssignment_stores {assignment : PartitionAssignment} {record : PartitionRecord}
    (hrecord : s.findPartition assignment.partition = some record)
    (hbindable : bindable s assignment record = true) :
    (Op.step (.bindAssignment assignment) s).assignments.find? assignment.id = some assignment := by
  simp only [bindable, Bool.and_eq_true, decide_eq_true_eq] at hbindable
  obtain ⟨⟨⟨⟨hvalid, hgeneration⟩, hactive⟩, hsize⟩, -⟩ := hbindable
  cases hcheck : assignment.validate with
  | error e =>
    rw [hcheck] at hvalid
    cases hvalid
  | ok u =>
    have hidentify : identifyAssignment assignment s = (s, .ok assignment.id) := by
      rw [identifyAssignment, if_pos (valid_of_assignment hcheck)]
      rfl
    have hrun : (bindAssignment assignment s).1 = s.assign assignment.id assignment
        assignment.partition fun r ↦ { r with assignmentState := .assigned } := by
      have hlift : (Procedure.lift assignment.validate : FabricM Unit) s = (s, .ok u) := by
        rw [hcheck]
        rfl
      unfold bindAssignment
      rw [bind_ok hlift, get_bind, hrecord]
      simp only
      rw [require_bind, if_pos (decide_eq_true hgeneration), require_bind,
        if_pos (decide_eq_true hactive), require_bind, if_pos (decide_eq_true hsize),
        bind_ok hidentify]
      rfl
    change (bindAssignment assignment s).1.assignments.find? assignment.id = some assignment
    rw [hrun, assign_assignments, KeyedMap.find?_insert_self]

lemma assignsNone_admitWorkload {requirement : WorkloadRequirement} (hclosed : s.closed = true) :
    AssignsNone s (Op.step (.admitWorkload requirement now) s) := by
  have hadmits : AdmitsOne requirement now s (Op.step (.admitWorkload requirement now) s) :=
    admitsOne_admitWorkload
  rcases hadmits with ⟨ids, -, heq⟩ | ⟨record, accelerator, hadmittable, -⟩
  · rw [heq]
    exact fun _ _ ha ↦ ha
  · have hopened := hadmittable.opened
    rw [hclosed] at hopened
    cases hopened

/-- The operations that leave a closed instance closed. -/
def Op.serves : Op → Bool
  | .importDurableState _ _ | .reopen _ => false
  | _ => true

lemma grantsNothing_of_withholds {op : Op} (hclosed : s.closed = true) (hs : Resting s)
    (hop : op.serves = true) (h : Withholds s op) : GrantsNothing s (op.step s) := by
  have himport : op.isImport = false := by
    cases op <;> first | rfl | cases hop
  refine grantsNothing_of_resting hclosed hs himport ?_ ?_
  · cases op with
    | bindAssignment assignment => exact assignsNone_bindAssignment h
    | admitWorkload requirement now => exact assignsNone_admitWorkload hclosed
    | importDurableState durable now => cases himport
    | _ => exact assignsNone_step rfl
  · cases op with
    | cancelDrain p now => exact noActivation_cancelDrain h
    | reconcile id observed now =>
      cases hpresent : observed.devicePresent with
      | true =>
        by_cases hcompares : Compares s id observed
        · obtain ⟨hreclaims, hfulfils, hunexplained⟩ := h hcompares
          exact noActivation_reconcile_present hpresent hreclaims hfulfils hunexplained
        · change NoActivation s (reconcile id observed now s).1
          rw [reconcile_refused hpresent hcompares]
          exact refl_of _ s
      | false =>
        have hstays : StaysActive s (reconcile id observed now s).1 :=
          staysActive_reconcile hpresent
        exact hstays.noActivation
    | applyMutationResult key mutation observed now =>
      have hidle : Op.step (.applyMutationResult key mutation observed now) s = s := by
        rcases applyMutationResultLocked_idle key mutation observed now s with
          hidle | ⟨a, r, ha, -, hflight⟩
        · exact hidle
        · rw [hs.attempts key a ha] at hflight
          cases hflight
      rw [hidle]
      exact refl_of _ s
    | importDurableState durable now => cases himport
    | _ => exact (evolves_resting hclosed hs himport).noActivation id

/-- Is a reconciliation. -/
def Op.isReconcile : Op → Bool
  | .reconcile _ _ _ => true
  | _ => false

lemma withholds_of_grantsNothing {op : Op} (hop : op.isReconcile = false)
    (h : GrantsNothing s (op.step s)) : Withholds s op := by
  cases op with
  | bindAssignment assignment =>
    intro record hrecord hbindable
    exact h.assignments _ _ (bindAssignment_stores hrecord hbindable)
  | cancelDrain p now =>
    intro hresumes
    exact h.partitions p (activates_cancelDrain hresumes)
  | reconcile id observed now => cases hop
  | _ => exact trivial

end Granting

namespace Sample

/-- The instance closes over the created slice. -/
def closedOver : List Op := created ++ [.close 6]

end Sample

end PartitionFabric
