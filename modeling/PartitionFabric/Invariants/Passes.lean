import PartitionFabric.Invariants.Lifecycle

/-!
What the passes of a reconciliation do to one record and leave to the others.
-/

namespace PartitionFabric

open Procedure

variable {s t : FabricState} {key : PartitionId} {Q : PartitionRecord → PartitionRecord → Prop}

/-- A step that touches at most the record under a key, and that record as a relation says. -/
structure Localized (key : PartitionId) (Q : PartitionRecord → PartitionRecord → Prop)
    (s t : FabricState) : Prop where
  record : ∀ r, s.partitions.find? key = some r → ∃ r', t.partitions.find? key = some r' ∧ Q r r'
  absent : s.partitions.find? key = none → t.partitions.find? key = none
  others : ∀ p, p ≠ key → t.partitions.find? p = s.partitions.find? p
  profiles : t.profiles = s.profiles
  policy : t.policy = s.policy
  attempts : t.attempts = s.attempts
  ids : t.ids = s.ids

instance [Std.Refl Q] : Std.Refl (Localized key Q) :=
  ⟨fun _ ↦ ⟨fun r hr ↦ ⟨r, hr, refl_of Q r⟩, fun h ↦ h, fun _ _ ↦ rfl, rfl, rfl, rfl, rfl⟩⟩

instance [IsTrans PartitionRecord Q] : IsTrans FabricState (Localized key Q) where
  trans s t u hst htu := by
    refine ⟨fun r hr ↦ ?_, htu.absent ∘ hst.absent,
      fun p hp ↦ (htu.others p hp).trans (hst.others p hp), htu.profiles.trans hst.profiles,
      htu.policy.trans hst.policy, htu.attempts.trans hst.attempts, htu.ids.trans hst.ids⟩
    obtain ⟨r', hr', hq⟩ := hst.record r hr
    obtain ⟨r'', hr'', hq'⟩ := htu.record r' hr'
    exact ⟨r'', hr'', trans_of Q hq hq'⟩

/-- Nothing of what the passes compare is touched. -/
lemma Localized.of_eq [Std.Refl Q] (hp : t.partitions = s.partitions)
    (hq : t.profiles = s.profiles) (hpolicy : t.policy = s.policy)
    (ha : t.attempts = s.attempts) (hi : t.ids = s.ids) : Localized key Q s t := by
  refine ⟨fun r hr ↦ ⟨r, by rw [hp, hr], refl_of Q r⟩, fun h ↦ by rw [hp, h],
    fun p _ ↦ by rw [hp], hq, hpolicy, ha, hi⟩

lemma localized_modify {f : PartitionRecord → PartitionRecord}
    (h : ∀ r, s.partitions.find? key = some r → Q r (f r)) :
    Localized key Q s (s.modifyPartition key f) := by
  refine ⟨fun r hr ↦ ⟨f r, ?_, h r hr⟩, fun hnone ↦ ?_, fun p hp ↦ ?_, rfl, rfl, rfl, rfl⟩
  · rw [FabricState.modifyPartition, KeyedMap.find?_modify, if_pos rfl, hr]
    rfl
  · rw [FabricState.modifyPartition, KeyedMap.find?_modify, if_pos rfl, hnone]
    rfl
  · exact KeyedMap.find?_modify_of_ne _ _ hp

/-- The record after a transition that went through. -/
def PartitionRecord.moved (r : PartitionRecord) (target : PartitionState) (now : UInt64)
    (reason : Text) : PartitionRecord :=
  { r with
    heldBucket := if stateKeepsCurrentBucket target then r.heldBucket else bucketForState target
    state := target
    lastTransitionAtMs := now
    lastTransitionReason := reason }

lemma CapacityFollows.held_eq {target : PartitionState} {record : PartitionRecord}
    {ledger ledger' : CapacityLedger} {held : Option CapacityBucket}
    (h : CapacityFollows target record ledger ledger' held) :
    held = if stateKeepsCurrentBucket target then record.heldBucket else bucketForState target := by
  rcases h with ⟨hkeep | hsame, -, hheld⟩ | ⟨hmove, hheld, -⟩
  · rw [if_pos hkeep, hheld]
  · rw [hheld, hsame, ite_self]
  · rw [hmove, if_neg Bool.false_ne_true, hheld]

lemma localized_transition [Std.Refl Q] {now : UInt64} {target : PartitionState} {reason : Text}
    (h : ∀ r, s.partitions.find? key = some r → Allowed r.state target →
      Q r (r.moved target now reason)) :
    Advances (Localized key Q) (transitionPartition now key target reason) s := by
  unfold Advances
  rcases transitionPartition_cases now key target reason s with
    hsame | ⟨record, ledger, ledger', held, hrecord, hallowed, -, -, hfollows, hmoved⟩
  · rw [hsame]
    exact refl_of _ s
  · rw [hmoved]
    refine ⟨fun r hr ↦ ⟨_, KeyedMap.find?_insert_self _ _ _, ?_⟩, fun hnone ↦ ?_, fun p hp ↦ ?_,
      rfl, rfl, rfl, rfl⟩
    · obtain rfl := Option.some.inj (hrecord.symm.trans hr)
      rw [hfollows.held_eq]
      exact h record hrecord hallowed
    · rw [hrecord] at hnone
      cases hnone
    · exact KeyedMap.find?_insert_of_ne _ _ hp

lemma localized_onLedger [Std.Refl Q] {id : AcceleratorId} {m : LedgerM Unit} :
    Advances (Localized key Q) (onLedger id m) s := by
  unfold Advances onLedger
  cases s.findLedger id with
  | none => exact refl_of _ s
  | some l => exact .of_eq rfl rfl rfl rfl rfl

lemma stamp_eq (now : UInt64) (key : PartitionId) (accelerator : AcceleratorRecord)
    (provenance : EvidenceProvenance) (source : Text) (s : FabricState) :
    ∃ g evidence, stampPartitionEvidence now key accelerator provenance source s =
      { s with evidenceGeneration := g }.modifyPartition key fun r ↦
        { r with evidence := evidence, provenance := provenance } := by
  unfold stampPartitionEvidence
  cases next s.evidenceGeneration with
  | error e => exact ⟨s.evidenceGeneration, _, rfl⟩
  | ok g => exact ⟨g, _, rfl⟩

lemma localized_stamp {now : UInt64} {accelerator : AcceleratorRecord}
    {provenance : EvidenceProvenance} {source : Text}
    (h : ∀ r evidence, Q r { r with evidence := evidence, provenance := provenance }) :
    Localized key Q s (stampPartitionEvidence now key accelerator provenance source s) := by
  obtain ⟨g, evidence, heq⟩ := stamp_eq now key accelerator provenance source s
  rw [heq]
  have hmodify : Localized key Q { s with evidenceGeneration := g } _ :=
    localized_modify fun r _ ↦ h r evidence
  exact ⟨hmodify.record, hmodify.absent, hmodify.others, rfl, rfl, rfl, rfl⟩

lemma dropAssignments_eq (test : PartitionId → Bool) (s : FabricState) :
    ∃ assignments, dropAssignments test s = { s with assignments := assignments } := by
  unfold dropAssignments
  generalize (s.assignments.values.filter fun a ↦ test a.partition).map PartitionAssignment.id = l
  induction l generalizing s with
  | nil => exact ⟨s.assignments, rfl⟩
  | cons id rest ih =>
      obtain ⟨assignments, h⟩ := ih { s with assignments := s.assignments.erase id }
      exact ⟨assignments, h⟩

lemma localized_dropAssignments [Std.Refl Q] {test : PartitionId → Bool} :
    Localized key Q s (dropAssignments test s) := by
  obtain ⟨assignments, h⟩ := dropAssignments_eq test s
  rw [h]
  exact .of_eq rfl rfl rfl rfl rfl

/-- The record stays on its device with its identity and profile, in the layout and with its
capacity; a steady one keeps its lifecycle too. -/
structure Kept (steady : Prop) (r r' : PartitionRecord) : Prop where
  accelerator : r'.accelerator = r.accelerator
  profile : r'.profile = r.profile
  native : r'.nativeIdentity = r.nativeIdentity
  held : r.heldBucket.isSome = true → r'.heldBucket.isSome = true
  layout : inLayout r = true → inLayout r' = true
  state : steady → r'.state = r.state

variable {steady : Prop}

instance : Std.Refl (Kept steady) := ⟨fun _ ↦ ⟨rfl, rfl, rfl, fun h ↦ h, fun h ↦ h, fun _ ↦ rfl⟩⟩

instance : IsTrans PartitionRecord (Kept steady) where
  trans _ _ _ h h' :=
    ⟨h'.accelerator.trans h.accelerator, h'.profile.trans h.profile, h'.native.trans h.native,
      h'.held ∘ h.held, h'.layout ∘ h.layout, fun hs ↦ (h'.state hs).trans (h.state hs)⟩

lemma kept_transition {now : UInt64} {target : PartitionState} {reason : Text}
    (hsteady : ¬ steady) (htarget : target = .revalidationRequired ∨ target = .active) :
    Advances (Localized key (Kept steady)) (transitionPartition now key target reason) s := by
  refine localized_transition fun r _ _ ↦ ⟨rfl, rfl, rfl, fun h ↦ ?_, fun _ ↦ ?_,
    fun hs ↦ absurd hs hsteady⟩
  · rcases htarget with rfl | rfl
    · exact h
    · rfl
  · rcases htarget with rfl | rfl
    · rfl
    · rfl

section Comparison

/-- An observed partition is listed under its name. -/
lemma findNative_eq_some {layout : BackendLayout} {name : Text} {native : BackendNativePartition}
    (h : findNative layout name = some native) :
    native ∈ layout.partitions ∧ native.nativeId = name ∧ name ≠ [] := by
  have hcond := List.find?_some h
  simp only [Bool.and_eq_true, Bool.not_eq_true', decide_eq_true_eq] at hcond
  refine ⟨List.mem_of_find?_eq_some h, hcond.2, ?_⟩
  rintro rfl
  exact absurd hcond.1 (by decide)

/-- Every partition of a checked layout is observed under its name. -/
lemma findNative_of_mem {layout : BackendLayout} {native : BackendNativePartition}
    (hlayout : layout.Distinct) (hnative : native ∈ layout.partitions) :
    (findNative layout native.nativeId).isSome = true := by
  refine List.find?_isSome.mpr ⟨native, hnative, ?_⟩
  simp [hlayout.1 native hnative]

variable {o : Observation} {record : PartitionRecord} {native : BackendNativePartition}
  {pass : Pass}

lemma kept_revalidateUncorrelated (hsteady : ¬ steady) :
    Advances (Localized key (Kept steady)) (o.revalidateUncorrelated key record pass) s := by
  refine advances_ite (fun _ ↦ ?_) fun _ ↦ advances_pure _ _
  exact advances_bind (advances_attempt (kept_transition hsteady (Or.inl rfl))) fun _ _ _ ↦
    advances_pure _ _

lemma kept_fenceChanged (hsteady : ¬ steady) :
    Advances (Localized key (Kept steady)) (o.fenceChanged key record native pass) s :=
  advances_bind (advances_attempt (advances_when fun _ ↦ kept_transition hsteady (Or.inl rfl)))
    fun _ _ _ ↦ advances_pure _ _

lemma kept_adoptMatched (hsteady : ¬ steady) :
    Advances (Localized key (Kept steady)) (o.adoptMatched key record native pass) s := by
  refine advances_bind (advances_attempt (kept_transition hsteady (Or.inr rfl)))
    fun t status _ ↦ ?_
  cases status with
  | error e => exact advances_pure _ _
  | ok u =>
      refine advances_modify_bind (localized_modify fun r _ ↦ ?_) (advances_pure _ _)
      exact ⟨rfl, rfl, rfl, fun h ↦ h, fun h ↦ h, fun _ ↦ rfl⟩

lemma kept_stamp {now : UInt64} {accelerator : AcceleratorRecord}
    {provenance : EvidenceProvenance} {source : Text} :
    Localized key (Kept steady) s
      (stampPartitionEvidence now key accelerator provenance source s) :=
  localized_stamp fun _ _ ↦ ⟨rfl, rfl, rfl, fun h ↦ h, fun h ↦ h, fun _ ↦ rfl⟩

lemma kept_confirmMatched
    (hsteady : steady → record.state ≠ .offline ∧ record.state ≠ .revalidationRequired) :
    Advances (Localized key (Kept steady)) (o.confirmMatched key record native pass) s := by
  refine advances_modify_bind kept_stamp (advances_get_bind ?_)
  refine advances_ite (fun h ↦ ?_) fun _ ↦ advances_ite (fun h ↦ ?_) fun _ ↦ advances_pure _ _
  · have hnot : ¬ steady := fun hs ↦ (hsteady hs).1 h
    exact advances_bind (advances_ignore (kept_transition hnot (Or.inl rfl))) fun _ _ _ ↦
      advances_pure _ _
  · have hnot : ¬ steady := fun hs ↦ (hsteady hs).2 h
    exact advances_ite (fun _ ↦ kept_adoptMatched hnot) fun _ ↦ advances_pure _ _

/-- The record of a partition that is gone from the observed layout. -/
def Observation.missing (o : Observation) (r : PartitionRecord) : Prop :=
  r.accelerator = o.id ∧ inLayout r = true ∧ r.nativeIdentity.nativeId ≠ [] ∧
    observedNative o.layout r.nativeIdentity.nativeId = none

/-- A comparison keeps every record that is not gone; a steady record is one that the hardware
shows as recorded, in a state that needs no decision. -/
lemma kept_matchRecord (hpresent : ∀ r, s.partitions.find? key = some r → ¬ o.missing r)
    (hsteady : steady → ∀ r, s.partitions.find? key = some r → r.state ≠ .offline ∧
      r.state ≠ .revalidationRequired ∧
      ∃ native, observedNative o.layout r.nativeIdentity.nativeId = some native ∧
        Observation.profileMatches s r native = true) :
    Advances (Localized key (Kept steady)) (o.matchRecord pass key) s := by
  refine advances_get_bind ?_
  cases hfilter : (s.findPartition key).filter fun r ↦ r.accelerator = o.id && inLayout r with
  | none => exact advances_pure _ _
  | some record =>
      obtain ⟨hrecord, hcond⟩ := Option.filter_eq_some_iff.mp hfilter
      simp only [Bool.and_eq_true, decide_eq_true_eq] at hcond
      have hnot : (∀ native, observedNative o.layout record.nativeIdentity.nativeId = some native →
          Observation.profileMatches s record native = false) → ¬ steady := by
        intro hnone hs
        obtain ⟨-, -, native, hnative, hprofile⟩ := hsteady hs record hrecord
        rw [hnone native hnative] at hprofile
        exact absurd hprofile (by decide)
      refine advances_ite (fun hempty ↦ ?_) fun hnamed ↦ ?_
      · refine kept_revalidateUncorrelated (hnot fun native hnative ↦ ?_)
        exact absurd (List.isEmpty_iff.mp hempty) (findNative_eq_some hnative).2.2
      · cases hobserved : observedNative o.layout record.nativeIdentity.nativeId with
        | none =>
            refine absurd ⟨hcond.1, hcond.2, ?_, hobserved⟩ (hpresent record hrecord)
            simpa using hnamed
        | some native =>
            refine advances_ite (fun _ ↦ ?_) fun hprofile ↦ ?_
            · exact kept_confirmMatched fun hs ↦
                ⟨(hsteady hs record hrecord).1, (hsteady hs record hrecord).2.1⟩
            · refine kept_fenceChanged (hnot fun native' hnative' ↦ ?_)
              obtain rfl := Option.some.inj (hobserved.symm.trans hnative')
              simpa using hprofile

/-- No demand on the record. -/
abbrev AnyChange (_ _ : PartitionRecord) : Prop := True

instance : Std.Refl AnyChange := ⟨fun _ ↦ trivial⟩

instance : IsTrans PartitionRecord AnyChange := ⟨fun _ _ _ _ _ ↦ trivial⟩

lemma Localized.anyChange (h : Localized key Q s t) : Localized key AnyChange s t := by
  refine ⟨fun r hr ↦ ?_, h.absent, h.others, h.profiles, h.policy, h.attempts, h.ids⟩
  obtain ⟨r', hr', -⟩ := h.record r hr
  exact ⟨r', hr', trivial⟩

lemma localized_retireMissing :
    Advances (Localized key AnyChange) (o.retireMissing key record pass) s := by
  refine advances_bind (advances_attempt ?_) fun t released _ ↦ ?_
  · unfold Observation.releaseMissing
    cases record.heldBucket with
    | none => exact advances_pure _ _
    | some bucket => exact localized_onLedger
  · refine advances_modify_bind (localized_modify fun _ _ ↦ trivial) (advances_get_bind ?_)
    exact advances_modify_bind localized_dropAssignments (advances_pure _ _)

lemma localized_matchRecord : Advances (Localized key AnyChange) (o.matchRecord pass key) s := by
  refine advances_get_bind ?_
  cases (s.findPartition key).filter fun r ↦ r.accelerator = o.id && inLayout r with
  | none => exact advances_pure _ _
  | some record =>
      refine advances_ite (fun _ ↦ ?_) fun _ ↦ ?_
      · exact Localized.anyChange (Q := Kept False) (kept_revalidateUncorrelated fun h ↦ h)
      · cases observedNative o.layout record.nativeIdentity.nativeId with
        | none => exact localized_retireMissing
        | some native =>
            refine advances_ite (fun _ ↦ ?_) fun _ ↦ ?_
            · exact Localized.anyChange (Q := Kept False) (kept_confirmMatched fun h ↦ h.elim)
            · exact Localized.anyChange (Q := Kept False) (kept_fenceChanged fun h ↦ h)

end Comparison

section Decision

variable {o : Observation} {pass : Pass}

/-- The hardware lists the partition of the record. -/
def Observation.shows (o : Observation) (r : PartitionRecord) : Prop :=
  (observedNative o.layout r.nativeIdentity.nativeId).isSome = true

lemma unclaimed_mem {planned : PlannedPartition} {claimed : List Text} {layout : BackendLayout}
    {native : BackendNativePartition}
    (h : o.evidence.unclaimed planned claimed = some (layout, native)) :
    native ∈ o.layout.partitions ∧ native.nativeId ∉ claimed := by
  obtain ⟨native', hnative, hpair⟩ := Option.map_eq_some_iff.mp h
  obtain ⟨-, rfl⟩ := Prod.mk.inj hpair
  have hcond := List.find?_some hnative
  simp only [Bool.and_eq_true, Bool.not_eq_true'] at hcond
  exact ⟨List.mem_of_find?_eq_some hnative, by simpa using hcond.1⟩

lemma localized_bindFound {backend : Text}
    {found : Option (BackendLayout × BackendNativePartition)} :
    Localized key AnyChange s (bindFound key backend found s) := by
  unfold bindFound
  cases found with
  | none => exact refl_of _ s
  | some pair => exact localized_modify fun _ _ ↦ trivial

lemma localized_settlePartition {kind : AttemptKind} {record : PartitionRecord} :
    Advances (Localized key AnyChange) (o.settlePartition kind key record pass) s := by
  refine advances_bind (advances_attempt (localized_transition fun _ _ _ ↦ trivial))
    fun t status _ ↦ ?_
  cases status with
  | error e => exact advances_get_bind (advances_pure _ _)
  | ok u =>
      refine advances_ite (fun _ ↦ ?_) fun _ ↦ advances_pure _ _
      exact advances_modify_bind (localized_modify fun _ _ ↦ trivial) (advances_pure _ _)

lemma localized_adoptProduced {attempt : PartitionAttempt} {index : ℕ} :
    Advances (Localized key AnyChange) (o.adoptProduced attempt pass (key, index)) s := by
  refine advances_get_bind ?_
  cases s.findPartition key with
  | none => exact advances_pure _ _
  | some record =>
      refine advances_modify_bind localized_bindFound ?_
      exact advances_ite (fun _ ↦ localized_settlePartition) fun _ ↦ advances_pure _ _

/-- A transition that the lifecycle refuses changes nothing. -/
lemma transitionPartition_refused {target : PartitionState} {record : PartitionRecord}
    (hrecord : s.partitions.find? key = some record) (h : ¬ Allowed record.state target)
    (now : UInt64) (reason : Text) :
    ∃ e, transitionPartition now key target reason s = (s, .error e) := by
  unfold transitionPartition FabricState.findPartition
  rw [hrecord]
  unfold Allowed at h
  simp only
  cases hvalid : validateTransition record.state target with
  | error e => exact ⟨_, rfl⟩
  | ok u => exact absurd hvalid h

/-- A partition is withdrawn from revalidation only; any other record stays as it is. -/
lemma localized_withdrawPartition [Std.Refl Q] [IsTrans PartitionRecord Q]
    (h : ∀ r, s.partitions.find? key = some r → r.state = .revalidationRequired →
      Q r (r.moved .unpartitioned o.now "reconciled: the mutation did not take effect") ∧
      ∀ r', Q r' { r'.supersede with nativeIdentity := {} }) :
    Advances (Localized key Q) (o.withdrawPartition key) s := by
  refine advances_get_bind (advances_when fun hany ↦ ?_)
  obtain ⟨record, hrecord, hstate⟩ := (Option.any_eq_true _ _).mp hany
  by_cases hrevalidation : record.state = .revalidationRequired
  · obtain ⟨hmoved, hcleared⟩ := h record hrecord hrevalidation
    refine advances_bind (advances_attempt (localized_transition fun r hr _ ↦ ?_))
      fun t status _ ↦ ?_
    · obtain rfl := Option.some.inj (hrecord.symm.trans hr)
      exact hmoved
    · cases status with
      | error e => exact advances_pure _ _
      | ok u => exact advances_modify (localized_modify fun r _ ↦ hcleared r)
  · -- the lifecycle refuses to withdraw a partition whose mutation is in progress
    have hrefused : ¬ Allowed record.state .unpartitioned := by
      simp only [hrevalidation, decide_false, Bool.false_or, Bool.or_eq_true,
        decide_eq_true_eq] at hstate
      rcases hstate with hstate | hstate
      · rw [hstate]
        decide
      · rw [hstate]
        decide
    obtain ⟨e, herror⟩ := transitionPartition_refused hrecord hrefused o.now
      "reconciled: the mutation did not take effect"
    unfold Advances
    rw [bind_ok (t := s) (a := .error e) (by rw [attempt_apply, herror])]
    exact refl_of _ s

/-- A record that stands below the allocator is left alone, and stays below it. -/
def Below (p : PartitionId) (s t : FabricState) : Prop :=
  p < s.ids.next → t.partitions.find? p = s.partitions.find? p ∧ p < t.ids.next

instance {p : PartitionId} : Std.Refl (Below p) := ⟨fun _ h ↦ ⟨rfl, h⟩⟩

instance {p : PartitionId} : IsTrans FabricState (Below p) where
  trans s t u hst htu hlt := by
    obtain ⟨hfind, hlt'⟩ := hst hlt
    obtain ⟨hfind', hlt''⟩ := htu hlt'
    exact ⟨hfind'.trans hfind, hlt''⟩

lemma Localized.below {p : PartitionId} (h : Localized key Q s t) (hne : p ≠ key) : Below p s t :=
  fun hlt ↦ ⟨h.others p hne, by rwa [h.ids]⟩

lemma below_allocateId {p : PartitionId} : Advances (Below p) allocateId s := by
  unfold Advances
  rcases allocateId_cases s with ⟨e, h⟩ | ⟨ids, hlt, h⟩
  · rw [h]
    exact refl_of _ s
  · rw [h]
    exact fun hp ↦ ⟨rfl, hp.trans hlt⟩

lemma below_onLedger {p : PartitionId} {id : AcceleratorId} {m : LedgerM Unit} :
    Advances (Below p) (onLedger id m) s := by
  unfold Advances onLedger
  cases s.findLedger id with
  | none => exact refl_of _ s
  | some l => exact fun hlt ↦ ⟨rfl, hlt⟩

lemma below_holdUnexpected {p : PartitionId} {record : PartitionRecord}
    {report : ReconciliationReport} : Advances (Below p) (o.holdUnexpected record report) s :=
  advances_holdUnexpected_of fun _ _ _ _ ↦ below_onLedger

lemma below_recordUnexpected {p : PartitionId} {claimed : List Text}
    {l : List BackendNativePartition} {report : ReconciliationReport} :
    Advances (Below p) (o.recordUnexpected claimed l report) s := by
  induction l generalizing s report with
  | nil => exact advances_pure _ _
  | cons native rest ih =>
      refine advances_ite (fun _ ↦ ih) fun _ hlt ↦ ?_
      refine advances_bind (R := Below p) (advances_attempt below_allocateId)
        (fun t status hid ↦ ?_) hlt
      cases status with
      | error e => exact advances_pure _ _
      | ok id =>
          obtain ⟨rfl, -, -⟩ := allocateId_eq_ok (attempt_eq_ok hid)
          refine advances_get_bind (advances_bind below_holdUnexpected fun u entry _ ↦ ?_)
          refine advances_modify_bind (fun hu ↦ ⟨?_, hu⟩) ?_
          · exact KeyedMap.find?_insert_of_ne _ _ (ne_of_lt hlt)
          · exact advances_modify_bind
              ((localized_stamp (Q := AnyChange) fun _ _ ↦ trivial).below (ne_of_lt hlt)) ih

end Decision

section Present

/-- What the passes compare is the same, and the allocator did not fall back. -/
structure SameRecords (s t : FabricState) : Prop where
  partitions : t.partitions = s.partitions
  attempts : t.attempts = s.attempts
  profiles : t.profiles = s.profiles
  policy : t.policy = s.policy
  ids : s.ids.next ≤ t.ids.next

/-- Recording a new incarnation of the device leaves to the passes what they compare. -/
lemma noteReset_same {o : Observation} {report : ReconciliationReport} :
    Ensures (fun entry t ↦ entry.1.id = o.id ∧ entry.1.layout = o.layout ∧ SameRecords s t)
      (o.noteReset report) s := by
  unfold Observation.noteReset
  split
  · refine ensures_bind fun t g hg ↦ ensures_modify_bind (ensures_pure ?_)
    obtain rfl : s = t := (Prod.mk.inj hg).1
    exact ⟨rfl, rfl, rfl, rfl, rfl, rfl, le_refl _⟩
  · exact ensures_pure ⟨rfl, rfl, rfl, rfl, rfl, rfl, le_refl _⟩

lemma noteReset_error {o : Observation} {report : ReconciliationReport} {e : Error}
    (h : o.noteReset report s = (t, .error e)) : t = s := by
  unfold Observation.noteReset at h
  split at h
  · cases hnext : next o.accelerator.generation with
    | error e' =>
        rw [hnext] at h
        exact (Prod.mk.inj h).1.symm
    | ok g =>
        rw [hnext] at h
        exact absurd (Prod.mk.inj h).2 (by simp)
  · exact absurd (Prod.mk.inj h).2 (by simp)

variable {P : KeyedMap PartitionId PartitionRecord → Prop}

lemma reconcilePresent_partitions {o : Observation} {report : ReconciliationReport}
    (hs : P s.partitions) (hpasses : ∀ (o' : Observation) report t, o'.id = o.id → o'.layout = o.layout →
      SameRecords s t → P (o'.reconcilePasses report t).1.partitions) :
    P (o.reconcilePresent report s).1.partitions := by
  refine bind_fst (P := fun t : FabricState ↦ P t.partitions) (fun t e ht ↦ ?_) fun t entry ht ↦ ?_
  · rwa [noteReset_error ht]
  · obtain ⟨hid, hlayout, hsame⟩ := noteReset_same t entry ht
    obtain ⟨o', report'⟩ := entry
    have h := hpasses o' (o'.noteDevice report') t hid hlayout hsame
    refine bind_fst (P := fun t : FabricState ↦ P t.partitions) (fun u e hu ↦ ?_) fun u report'' hu ↦ ?_
    · rwa [hu] at h
    · rw [hu] at h
      change P (FabricState.bumpStateGeneration (o'.refreshEvidence u)).partitions
      rw [bump_partitions]
      exact h

/-- A property of the records that the passes over a present device establish holds after its
reconciliation. -/
theorem reconcile_partitions {id : AcceleratorId} {observed : BackendLayout} {now : UInt64}
    (hpresent : observed.devicePresent = true) (hs : P s.partitions)
    (hpasses : ∀ (o : Observation) report t, o.id = id → o.layout = observed → observed.Distinct →
      SameRecords s t → P (o.reconcilePasses report t).1.partitions) :
    P (reconcile id observed now s).1.partitions := by
  unfold reconcile
  rw [get_bind]
  cases s.findAccelerator id with
  | none => exact hs
  | some accelerator =>
      cases hvalid : validateBackendLayout observed s.limits with
      | error e => exact hs
      | ok u =>
          have hdistinct := distinct_of_validate hvalid
          change P ((allocateId >>= fun _ ↦ _ : FabricM ReconciliationReport) s).1.partitions
          rcases allocateId_cases s with ⟨e, h⟩ | ⟨ids, hlt, h⟩
          · rw [bind_error h]
            exact hs
          · rw [bind_ok h, if_pos hpresent]
            refine reconcilePresent_partitions hs fun o report t hid hlayout hsame ↦ ?_
            exact hpasses o report t hid hlayout hdistinct ⟨hsame.partitions, hsame.attempts,
              hsame.profiles, hsame.policy, (le_of_lt hlt).trans hsame.ids⟩

end Present

end PartitionFabric
