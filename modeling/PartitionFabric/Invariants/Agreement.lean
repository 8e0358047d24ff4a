import PartitionFabric.Invariants.Evidence
import PartitionFabric.Invariants.Undoing

/-!
A reconciliation leaves a registry alone that mirrors the observed layout: every record of the
device rests, every observed partition is named by one of them, and no attempt is left to decide.
-/

namespace PartitionFabric

open Procedure

variable {s s₀ t : FabricState}

section Resting

/-- Asking for the revalidation of a record changes nothing: it is required already, or no ledger
accounts for the record. -/
def Waits (s : FabricState) (r : PartitionRecord) : Prop :=
  r.state = .revalidationRequired ∨ s.findLedger r.accelerator = none

/-- A record that a comparison with the layout finds in order: it has no physical identity and none
is demanded, or it stands as the hardware shows it, or nothing is left to change. -/
inductive Rests (s : FabricState) (demands : Bool) (observed : BackendLayout)
    (r : PartitionRecord) : Prop
  | unnamed (hname : r.nativeIdentity.nativeId = []) (hwaits : demands = true → Waits s r)
  | named {native : BackendNativePartition}
      (hobserved : observedNative observed r.nativeIdentity.nativeId = some native)
      (hstands : Waits s r ∨
        Observation.profileMatches s r native = true ∧ r.state ≠ .offline)

/-- The registry and the layout agree on a device: it is the incarnation that was registered, its
records rest, every observed partition has a record, and every attempt is decided. -/
structure Mirrors (s : FabricState) (id : AcceleratorId) (observed : BackendLayout) : Prop where
  device : ∀ a, s.findAccelerator id = some a → showsReset observed a = false
  records : ∀ a, s.findAccelerator id = some a → ∀ p r, s.findPartition p = some r →
    r.accelerator = id → inLayout r = true →
      Rests s a.capability.declaresSupported observed r
  named : ∀ native ∈ observed.partitions, ∃ p r, s.findPartition p = some r ∧
    r.accelerator = id ∧ inLayout r = true ∧ r.nativeIdentity.nativeId = native.nativeId
  decided : ∀ key a, s.findAttempt key = some a → a.accelerator = id → a.state ≠ .outcomeUnknown

/-- A record without the evidence that was last stamped on it. -/
def PartitionRecord.unstamped (r : PartitionRecord) : PartitionRecord :=
  { r with evidence := {}, provenance := .unknown }

/-- The records differ in their evidence at most, and nothing else that the passes read differs. -/
structure Restamped (s t : FabricState) : Prop where
  partitions : ∀ p, (t.findPartition p).map PartitionRecord.unstamped =
    (s.findPartition p).map PartitionRecord.unstamped
  ledgers : t.ledgers = s.ledgers
  attempts : t.attempts = s.attempts
  policy : t.policy = s.policy
  profiles : t.profiles = s.profiles

instance : Std.Refl Restamped := ⟨fun _ ↦ ⟨fun _ ↦ rfl, rfl, rfl, rfl, rfl⟩⟩

instance : IsTrans FabricState Restamped where
  trans _ _ _ h h' := ⟨fun p ↦ (h'.partitions p).trans (h.partitions p),
    h'.ledgers.trans h.ledgers, h'.attempts.trans h.attempts, h'.policy.trans h.policy,
    h'.profiles.trans h.profiles⟩

/-- Every record was there before, with other evidence at most. -/
lemma Restamped.source (h : Restamped s t) {p : PartitionId} {r' : PartitionRecord}
    (hr' : t.findPartition p = some r') :
    ∃ r, s.findPartition p = some r ∧ r'.unstamped = r.unstamped := by
  have hsame := h.partitions p
  rw [hr', Option.map_some] at hsame
  obtain ⟨r, hr, heq⟩ := Option.map_eq_some_iff.mp hsame.symm
  exact ⟨r, hr, heq.symm⟩

section Unstamped

variable {r r' : PartitionRecord}

lemma eq_of_unstamped (h : r'.unstamped = r.unstamped) : ∃ evidence provenance,
    r' = { r with evidence := evidence, provenance := provenance } := by
  refine ⟨r'.evidence, r'.provenance, ?_⟩
  calc r' = { r'.unstamped with evidence := r'.evidence, provenance := r'.provenance } := rfl
    _ = { r.unstamped with evidence := r'.evidence, provenance := r'.provenance } := by rw [h]
    _ = _ := rfl

lemma Waits.restamped (hw : Waits s r) (h : Restamped s t) (hr : r'.unstamped = r.unstamped) :
    Waits t r' := by
  obtain ⟨evidence, provenance, rfl⟩ := eq_of_unstamped hr
  unfold Waits FabricState.findLedger
  rw [h.ledgers]
  exact hw

lemma Rests.restamped {demands : Bool} {observed : BackendLayout}
    (hrests : Rests s demands observed r) (h : Restamped s t) (hr : r'.unstamped = r.unstamped) :
    Rests t demands observed r' := by
  cases hrests with
  | unnamed hname hwaits =>
      have hwaits' := fun hdemands ↦ (hwaits hdemands).restamped h hr
      obtain ⟨evidence, provenance, rfl⟩ := eq_of_unstamped hr
      exact .unnamed hname hwaits'
  | named hobserved hstands =>
      have hwaits' := fun hwaits : Waits s r ↦ hwaits.restamped h hr
      obtain ⟨evidence, provenance, rfl⟩ := eq_of_unstamped hr
      refine .named hobserved (hstands.imp hwaits' ?_)
      rintro ⟨hprofile, hstate⟩
      exact ⟨(profileMatches_congr h.profiles rfl).trans hprofile, hstate⟩

end Unstamped

lemma restamped_stamp {now : UInt64} {key : PartitionId} {accelerator : AcceleratorRecord}
    {provenance : EvidenceProvenance} {source : Text} :
    Restamped s (stampPartitionEvidence now key accelerator provenance source s) := by
  obtain ⟨g, evidence, heq⟩ := stamp_eq now key accelerator provenance source s
  rw [heq]
  refine ⟨fun p ↦ ?_, rfl, rfl, rfl, rfl⟩
  unfold FabricState.findPartition FabricState.modifyPartition
  rw [KeyedMap.find?_modify]
  split
  · rw [Option.map_map]
    rfl
  · rfl

/-- A record that waits is not moved by asking for its revalidation. -/
lemma Waits.revalidate {key : PartitionId} {r : PartitionRecord} (h : Waits s r)
    (hr : s.findPartition key = some r) (now : UInt64) (reason : Text) :
    (transitionPartition now key .revalidationRequired reason s).1 = s := by
  rcases transitionPartition_cases now key .revalidationRequired reason s with
    hsame | ⟨record, ledger, -, -, hrecord, -, hmoves, hledger, -, -⟩
  · exact hsame
  · obtain rfl := Option.some.inj (hr.symm.trans hrecord)
    rcases h with hstate | hnone
    · exact absurd hstate hmoves
    · rw [FabricState.findLedger, hledger] at hnone
      cases hnone

end Resting

section Counting

/-- The partitions that a report counts as missing and as unexpected. -/
def ReconciliationReport.counts (report : ReconciliationReport) : UInt32 × UInt32 :=
  (report.missing, report.unexpected)

@[simp] lemma addFinding_counts (report : ReconciliationReport) (finding : ReconciliationFinding) :
    (report.addFinding finding).counts = report.counts := by
  unfold ReconciliationReport.addFinding
  split <;> rfl

end Counting

section Comparison

variable {o : Observation} {pass : Pass} {key : PartitionId} {record : PartitionRecord}
  {native : BackendNativePartition}

/-- A comparison that changes nothing but evidence and neither misses nor adds a partition. -/
abbrev LeavesAlone (pass : Pass) (m : FabricM Pass) (s : FabricState) : Prop :=
  Meets (fun _ ↦ False)
    (fun pass' t ↦ Restamped s t ∧ pass'.report.counts = pass.report.counts) m s

lemma leavesAlone_revalidateUncorrelated (hrecord : s.findPartition key = some record)
    (hwaits : o.accelerator.capability.declaresSupported = true → Waits s record) :
    LeavesAlone pass (o.revalidateUncorrelated key record pass) s := by
  unfold Observation.revalidateUncorrelated
  split
  · rename_i hdemands
    simp only [Bool.and_eq_true] at hdemands
    have hsame := (hwaits hdemands.1).revalidate hrecord o.now
      "partition generation cannot be correlated with observed hardware"
    refine meets_attempt_bind (R := fun s t ↦ t = s) hsame ?_
    rintro status t rfl
    exact meets_pure ⟨refl_of _ t, addFinding_counts _ _⟩
  · exact meets_pure ⟨refl_of _ s, rfl⟩

lemma leavesAlone_fenceChanged (hrecord : s.findPartition key = some record)
    (hwaits : Waits s record) : LeavesAlone pass (o.fenceChanged key record native pass) s := by
  have hsame : (Procedure.when (record.state ≠ .revalidationRequired) (transitionPartition o.now key
      .revalidationRequired "observed profile differs from the recorded profile") s).1 = s := by
    cases hstate : decide (record.state ≠ .revalidationRequired) with
    | false => rfl
    | true => exact hwaits.revalidate hrecord o.now _
  refine meets_attempt_bind (R := fun s t ↦ t = s) hsame ?_
  rintro status t rfl
  exact meets_pure ⟨refl_of _ t, addFinding_counts _ _⟩

lemma leavesAlone_confirmMatched (hpolicy : s.policy.allowExternalAdoption = false)
    (hrecord : s.findPartition key = some record)
    (hstands : Waits s record ∨ record.state ≠ .offline) :
    LeavesAlone pass (o.confirmMatched key record native pass) s := by
  have hstamp : Restamped s (o.evidence.stamp key s) := restamped_stamp
  apply meets_modify_bind
  apply meets_get_bind
  split
  · rename_i hoffline
    -- an offline record waits, so it has no ledger that would let it move
    have hwaits : Waits s record := hstands.resolve_right (not_not.mpr hoffline)
    have hsame : Restamped s (transitionPartition o.now key .revalidationRequired
        "device reappeared; authority must be revalidated" (o.evidence.stamp key s)).1 := by
      have hfound := hstamp.partitions key
      rw [hrecord, Option.map_some] at hfound
      obtain ⟨record', hrecord', hunstamped⟩ := Option.map_eq_some_iff.mp hfound
      rw [(hwaits.restamped hstamp hunstamped).revalidate hrecord']
      exact hstamp
    exact ⟨hsame, addFinding_counts _ _⟩
  · split
    · rw [hstamp.policy, hpolicy, if_neg Bool.false_ne_true]
      exact meets_pure ⟨hstamp, addFinding_counts _ _⟩
    · exact meets_pure ⟨hstamp, addFinding_counts _ _⟩

lemma leavesAlone_matchRecord (hpolicy : s.policy.allowExternalAdoption = false)
    (hrests : ∀ r, s.findPartition key = some r → r.accelerator = o.id → inLayout r = true →
      Rests s o.accelerator.capability.declaresSupported o.layout r) :
    LeavesAlone pass (o.matchRecord pass key) s := by
  apply meets_get_bind
  cases hfilter : (s.findPartition key).filter fun r ↦ r.accelerator = o.id && inLayout r with
  | none => exact meets_pure ⟨refl_of _ s, rfl⟩
  | some record =>
      obtain ⟨hrecord, hcond⟩ := Option.filter_eq_some_iff.mp hfilter
      simp only [Bool.and_eq_true, decide_eq_true_eq] at hcond
      simp only
      cases hrests record hrecord hcond.1 hcond.2 with
      | unnamed hname hwaits =>
          rw [if_pos (List.isEmpty_iff.mpr hname)]
          exact leavesAlone_revalidateUncorrelated hrecord hwaits
      | @named native hobserved hstands =>
          have hnamed : ¬ record.nativeIdentity.nativeId.isEmpty = true := fun hempty ↦
            (findNative_eq_some hobserved).2.2 (List.isEmpty_iff.mp hempty)
          rw [if_neg hnamed, hobserved]
          simp only
          split
          · exact leavesAlone_confirmMatched hpolicy hrecord (hstands.imp_right And.right)
          · rename_i hprofile
            exact leavesAlone_fenceChanged hrecord
              (hstands.resolve_right fun hboth ↦ hprofile hboth.1)

/-- What holds before the comparison of the records that are left: nothing but evidence changed,
nothing was counted, and the records compared so far claimed what they name. -/
structure Confirming (o : Observation) (s₀ : FabricState) (counts : UInt32 × UInt32)
    (keys : List PartitionId) (pass : Pass) (s : FabricState) : Prop where
  restamped : Restamped s₀ s
  counts : pass.report.counts = counts
  claimed : ∀ p, p ∉ keys → ∀ r, s₀.findPartition p = some r →
    o.meetsAs r.nativeIdentity.nativeId r = true → o.shows r →
      r.nativeIdentity.nativeId ∈ pass.claimed

lemma meets_and {α : Type} {P Q : α → FabricState → Prop} {m : FabricM α}
    (h : Meets (fun _ ↦ False) P m s) (h' : Meets (fun _ ↦ False) Q m s) :
    Meets (fun _ ↦ False) (fun a t ↦ P a t ∧ Q a t) m s := by
  unfold Meets at h h' ⊢
  cases hrun : m s with
  | mk t result =>
      rw [hrun] at h h'
      cases result with
      | error e => exact h
      | ok a => exact ⟨h, h'⟩

lemma confirming_matchRecord {counts : UInt32 × UInt32} {rest : List PartitionId}
    (hpolicy : s₀.policy.allowExternalAdoption = false)
    (hrests : ∀ p r, s₀.findPartition p = some r → r.accelerator = o.id → inLayout r = true →
      Rests s₀ o.accelerator.capability.declaresSupported o.layout r)
    (h : Confirming o s₀ counts (key :: rest) pass s) :
    Meets (fun _ ↦ False) (Confirming o s₀ counts rest) (o.matchRecord pass key) s := by
  have hleaves : LeavesAlone pass (o.matchRecord pass key) s := by
    apply leavesAlone_matchRecord (h.restamped.policy ▸ hpolicy)
    intro r' hr' hdevice hin
    obtain ⟨r, hr, hunstamped⟩ := h.restamped.source hr'
    have hrests₀ : Rests s₀ o.accelerator.capability.declaresSupported o.layout r := by
      obtain ⟨evidence, provenance, rfl⟩ := eq_of_unstamped hunstamped
      exact hrests key r hr hdevice hin
    exact hrests₀.restamped h.restamped hunstamped
  apply (meets_and hleaves (claimed_matchRecord o pass key s)).mono (R := fun _ _ ↦ True) trivial
  rintro pass' t ⟨⟨hstamped, hcounts⟩, hclaimed⟩ -
  refine ⟨trans_of Restamped h.restamped hstamped, hcounts.trans h.counts, ?_⟩
  intro p hp r hr hmeets hshows
  by_cases hpkey : p = key
  · subst hpkey
    have hfound := h.restamped.partitions p
    rw [hr, Option.map_some] at hfound
    obtain ⟨r', hr', hunstamped⟩ := Option.map_eq_some_iff.mp hfound
    obtain ⟨evidence, provenance, rfl⟩ := eq_of_unstamped hunstamped
    rcases hclaimed with ⟨-, hunseen⟩ | ⟨r₁, hr₁, -, heq⟩
    · have hnot := hunseen _ hr' hmeets
      exact absurd hshows hnot
    · obtain rfl := Option.some.inj (Eq.trans hr'.symm hr₁)
      rw [heq]
      simp
  · have hleft : p ∉ key :: rest := by simp [hpkey, hp]
    have hold := h.claimed p hleft r hr hmeets hshows
    rcases hclaimed with ⟨heq, -⟩ | ⟨r₁, -, -, heq⟩
    · rwa [heq]
    · rw [heq]
      exact List.mem_append_left _ hold

end Comparison

section Passes

variable {o : Observation} {pass : Pass}

lemma resolveAttempt_decided {key : PartitionAttemptId}
    (h : ∀ a, s.findAttempt key = some a → a.accelerator = o.id → a.state ≠ .outcomeUnknown) :
    o.resolveAttempt pass key s = (s, .ok pass) := by
  have hnone : ((s.findAttempt key).filter fun a ↦
      a.accelerator = o.id && a.state = .outcomeUnknown) = none := by
    refine Option.filter_eq_none_iff.mpr fun a ha hcond ↦ ?_
    simp only [Bool.and_eq_true, decide_eq_true_eq] at hcond
    exact h a ha hcond.1 hcond.2
  unfold Observation.resolveAttempt
  rw [get_bind, hnone]
  rfl

lemma resolveAttempts_decided (h : ∀ key a, s.findAttempt key = some a → a.accelerator = o.id →
    a.state ≠ .outcomeUnknown) (keys : List PartitionAttemptId) :
    keys.foldlM o.resolveAttempt pass s = (s, .ok pass) := by
  induction keys with
  | nil => rfl
  | cons key rest ih =>
      rw [List.foldlM_cons, bind_ok (resolveAttempt_decided (h key))]
      exact ih

lemma recordUnexpected_claimed {claimed : List Text} {report : ReconciliationReport}
    {l : List BackendNativePartition} (h : ∀ native ∈ l, native.nativeId ∈ claimed) :
    o.recordUnexpected claimed l report s = (s, .ok report) := by
  induction l with
  | nil => rfl
  | cons native rest ih =>
      have hfirst := h native List.mem_cons_self
      unfold Observation.recordUnexpected
      rw [if_pos (List.contains_iff_mem.mpr hfirst)]
      exact ih fun n hn ↦ h n (List.mem_cons_of_mem _ hn)

/-- The passes over a registry that mirrors the layout change nothing but evidence. -/
lemma restamped_reconcilePasses {report : ReconciliationReport} (hlayout : o.layout.Distinct)
    (h : Mirrors s o.id o.layout) (hfind : s.findAccelerator o.id = some o.accelerator)
    (hpolicy : s.policy.allowExternalAdoption = false) :
    Meets (fun _ ↦ False) (fun report' t ↦ Restamped s t ∧ report'.counts = report.counts)
      (o.reconcilePasses report) s := by
  have hmatch : Meets (fun _ ↦ False) (Confirming o s report.counts [])
      (s.partitions.keys.foldlM o.matchRecord ⟨[], report⟩) s := by
    apply meets_foldlM (Q := Confirming o s report.counts) fun _ _ _ _ hq ↦
      confirming_matchRecord hpolicy (h.records o.accelerator hfind) hq
    refine ⟨refl_of _ s, rfl, fun p hp r hr ↦ ?_⟩
    exact absurd (KeyedMap.mem_keys.mpr ⟨r, hr⟩) hp
  apply meets_get_bind
  apply meets_bind hmatch
  intro pass t ht
  apply meets_get_bind
  have hdecided : ∀ key a, t.findAttempt key = some a → a.accelerator = o.id →
      a.state ≠ .outcomeUnknown := by
    intro key a ha
    rw [FabricState.findAttempt, ht.restamped.attempts] at ha
    exact h.decided key a ha
  have hclaimed : ∀ native ∈ o.layout.partitions, native.nativeId ∈ pass.claimed := by
    intro native hnative
    obtain ⟨p, r, hr, hdevice, hin, hname⟩ := h.named native hnative
    rw [← hname]
    refine ht.claimed p List.not_mem_nil r hr (by simp [Observation.meetsAs, hdevice, hin]) ?_
    rw [Observation.shows, hname]
    exact findNative_of_mem hlayout hnative
  unfold Meets
  rw [bind_ok (resolveAttempts_decided hdecided _), recordUnexpected_claimed hclaimed]
  exact ⟨ht.restamped, ht.counts⟩

lemma noteDevice_counts (report : ReconciliationReport) :
    (o.noteDevice report).counts = report.counts := by
  unfold Observation.noteDevice
  simp only
  split
  · rw [addFinding_counts]
    split
    · exact addFinding_counts _ _
    · rfl
  · split
    · exact addFinding_counts _ _
    · rfl

lemma restamped_bump : Restamped s s.bumpStateGeneration := by
  obtain ⟨generation, heq⟩ := bumpStateGeneration_eq s
  rw [heq]
  exact ⟨fun _ ↦ rfl, rfl, rfl, rfl, rfl⟩

lemma restamped_refreshEvidence : Restamped s (o.refreshEvidence s) :=
  ⟨fun _ ↦ rfl, rfl, rfl, rfl, rfl⟩

lemma restamped_reconcilePresent {report : ReconciliationReport} (hlayout : o.layout.Distinct)
    (h : Mirrors s o.id o.layout) (hfind : s.findAccelerator o.id = some o.accelerator)
    (hpolicy : s.policy.allowExternalAdoption = false) :
    Meets (fun _ ↦ False) (fun report' t ↦ Restamped s t ∧ report'.counts = report.counts)
      (o.reconcilePresent report) s := by
  have hsame : o.noteReset report s = (s, .ok (o, report)) := by
    have hcalm := h.device o.accelerator hfind
    unfold showsReset at hcalm
    unfold Observation.noteReset
    rw [if_neg (by rw [hcalm]; exact Bool.false_ne_true)]
    rfl
  have hpasses : Meets (fun _ ↦ False)
      (fun report' t ↦ Restamped s t ∧ report'.counts = report.counts)
      (o.reconcilePasses (o.noteDevice report)) s := by
    rw [← noteDevice_counts]
    exact restamped_reconcilePasses hlayout h hfind hpolicy
  unfold Meets Observation.reconcilePresent
  rw [bind_ok hsame]
  apply meets_bind hpasses
  rintro report' t ⟨hstamped, hcounts⟩
  refine meets_modify_bind (meets_modify_bind (meets_pure ⟨?_, hcounts⟩))
  exact trans_of Restamped (trans_of Restamped hstamped restamped_refreshEvidence) restamped_bump

/-- What a reconciliation is to leave alone in a record. -/
def PartitionRecord.lasting (r : PartitionRecord) :
    PartitionState × PartitionGeneration × PartitionNativeIdentity :=
  (r.state, r.generation, r.nativeIdentity)

lemma Restamped.lasting (h : Restamped s t) (p : PartitionId) :
    (t.findPartition p).map PartitionRecord.lasting =
      (s.findPartition p).map PartitionRecord.lasting := by
  have hsame := congrArg (Option.map PartitionRecord.lasting) (h.partitions p)
  rwa [Option.map_map, Option.map_map] at hsame

/-- What is allocated is the next identity, unless none is left. -/
lemma allocateId_next {id : UInt64} (h : allocateId s = (t, .ok id)) :
    s.ids.next ≠ uint64Max ∧ id = s.ids.next ∧ t = { s with ids := ⟨s.ids.next + 1⟩ } := by
  by_cases hmax : s.ids.next = uint64Max
  · unfold allocateId IdAllocator.allocate at h
    rw [if_pos hmax] at h
    cases (Prod.mk.inj h).2
  · have hrun := attempt_allocateId hmax
    rw [attempt_apply, h] at hrun
    obtain ⟨hstate, hvalue⟩ := Prod.mk.inj hrun
    exact ⟨hmax, Except.ok.inj (Except.ok.inj hvalue), hstate⟩

/-- A reconciliation with a present device that succeeds has found its record, and an identity for
its report, before it goes over the records of the device. -/
lemma reconcile_eq_ok {id : AcceleratorId} {observed : BackendLayout} {now : UInt64}
    {report : ReconciliationReport} (hpresent : observed.devicePresent = true)
    (hrun : reconcile id observed now s = (t, .ok report)) :
    ∃ accelerator ids, s.findAccelerator id = some accelerator ∧ observed.Distinct ∧
      (s.ids.next ≠ uint64Max ∧ ids.next = s.ids.next + 1) ∧
      (⟨id, accelerator, observed, now⟩ : Observation).reconcilePresent
        { id := s.ids.next
          accelerator := id
          acceleratorGeneration := accelerator.generation
          capabilityGeneration := accelerator.capability.generation
          devicePresent := observed.devicePresent } { s with ids := ids } = (t, .ok report) := by
  unfold reconcile at hrun
  rw [get_bind] at hrun
  cases hfind : s.findAccelerator id with
  | none =>
      rw [hfind] at hrun
      cases (Prod.mk.inj hrun).2
  | some accelerator =>
      rw [hfind] at hrun
      obtain ⟨u, valid, hcheck, hrun⟩ := bind_eq_ok.mp hrun
      obtain ⟨rfl, hvalid⟩ := Prod.mk.inj hcheck
      obtain ⟨v, reportId, hallocate, hrun⟩ := bind_eq_ok.mp hrun
      obtain ⟨hmax, rfl, rfl⟩ := allocateId_next hallocate
      rw [if_pos hpresent] at hrun
      exact ⟨accelerator, _, rfl, distinct_of_validate hvalid, ⟨hmax, rfl⟩, hrun⟩

/-- A reconciliation with a layout that the registry mirrors changes nothing but evidence, and
reports neither missing nor unexpected partitions. -/
theorem reconcile_mirrored {id : AcceleratorId} {observed : BackendLayout} {now : UInt64}
    {report : ReconciliationReport} (h : Mirrors s id observed)
    (hpolicy : s.policy.allowExternalAdoption = false) (hpresent : observed.devicePresent = true)
    (hrun : reconcile id observed now s = (t, .ok report)) :
    Restamped s t ∧ report.counts = (0, 0) := by
  obtain ⟨accelerator, ids, hfind, hlayout, -, hpasses⟩ := reconcile_eq_ok hpresent hrun
  have hmirrors : Mirrors { s with ids := ids } id observed :=
    ⟨h.device, fun a ha p r hr hdevice hin ↦ (h.records a ha p r hr hdevice hin).restamped
      ⟨fun _ ↦ rfl, rfl, rfl, rfl, rfl⟩ rfl, h.named, h.decided⟩
  have hmeets := @restamped_reconcilePresent _ ⟨id, accelerator, observed, now⟩
    { id := s.ids.next
      accelerator := id
      acceleratorGeneration := accelerator.generation
      capabilityGeneration := accelerator.capability.generation
      devicePresent := observed.devicePresent } hlayout hmirrors hfind hpolicy
  unfold Meets at hmeets
  rw [hpasses] at hmeets
  obtain ⟨hstamped, hcounts⟩ := hmeets
  exact ⟨⟨hstamped.partitions, hstamped.ledgers, hstamped.attempts, hstamped.policy,
    hstamped.profiles⟩, hcounts⟩

end Passes

end PartitionFabric
