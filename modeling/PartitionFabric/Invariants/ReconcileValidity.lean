import PartitionFabric.Invariants.Conservation
import PartitionFabric.Invariants.OccupancyValidity

/-!
A reconciliation keeps the partition records in order when the observation finds no drain in
progress where it takes authority away, and nothing to record that a record could not name.
-/

namespace PartitionFabric

open Procedure

variable {s t s₀ : FabricState} {o : Observation} {key : PartitionId} {pass : Pass}

section Absent

/-- A record that an absent device takes offline has no drain in progress and names its bucket. -/
def Observation.Detachable (o : Observation) (_ : PartitionId) (r : PartitionRecord) : Prop :=
  r.accelerator = o.id → r.state ≠ .offline → Allowed r.state .offline →
    r.drain.Settled ∧ r.heldBucket.isSome = true

lemma sound_takeOffline {report : ReconciliationReport} :
    Advances (Preserves (Sound o.Detachable)) (o.takeOffline report key) s := by
  apply advances_get_bind
  cases hfilter : (s.findPartition key).filter fun r ↦ r.accelerator = o.id &&
      !isTerminalState r.state && r.state ≠ .offline with
  | none => exact advances_pure _ _
  | some record =>
      obtain ⟨hrecord, hcond⟩ := Option.filter_eq_some_iff.mp hfilter
      simp only [Bool.and_eq_true, decide_eq_true_eq] at hcond
      have hmove : Advances (Preserves (Sound o.Detachable)) (transitionPartition o.now key .offline
          "device is no longer present") s := by
        apply sound_transition
        · intro r held _ _ hstate
          exact absurd rfl hstate
        · intro r hr hcoherent hp hallowed
          obtain rfl := Option.some.inj (hrecord.symm.trans hr)
          obtain ⟨hsettled, hheld⟩ := hp hcond.1.1 hcond.2 hallowed
          exact ⟨hsettled.drained hcoherent.drained _, fun _ ↦ hheld⟩
      exact advances_bind (advances_attempt hmove) fun _ _ _ ↦ advances_pure _ _

lemma sound_reconcileAbsent {report : ReconciliationReport} :
    Advances (Preserves (Sound o.Detachable)) (o.reconcileAbsent report) s := by
  apply advances_get_bind
  apply advances_bind
  · exact advances_foldlM fun _ _ _ _ _ ↦ sound_takeOffline
  intro t report _
  refine advances_modify_bind (Untouched.sound ⟨rfl, le_refl _⟩) ?_
  exact advances_bind sound_bump fun _ _ _ ↦ advances_pure _ _

end Absent

section Comparison

/-- The observation disagrees with a record, so that its authority is taken away. -/
def Observation.disagrees (o : Observation) (s : FabricState) (r : PartitionRecord) : Prop :=
  (o.accelerator.capability.declaresSupported = true ∧ r.nativeIdentity.nativeId = []) ∨
    ∃ native, observedNative o.layout r.nativeIdentity.nativeId = some native ∧
      Observation.profileMatches s r native = false

/-- A record of a layout still has a generation to come. -/
def Lively (_ : PartitionId) (r : PartitionRecord) : Prop := inLayout r = true → r.Renewable

/-- A record that the comparison may meet: it has a generation to come, and no drain is in
progress where the observation disagrees. -/
def Observation.Comparable (o : Observation) (s₀ : FabricState) (k : PartitionId)
    (r : PartitionRecord) : Prop :=
  Lively k r ∧ (r.accelerator = o.id → o.disagrees s₀ r → r.drain.Settled)

lemma disagrees_congr {r r' : PartitionRecord} (hprofile : r'.profile = r.profile)
    (hnative : r'.nativeIdentity = r.nativeIdentity) : o.disagrees s r' ↔ o.disagrees s r := by
  unfold Observation.disagrees Observation.profileMatches
  rw [hnative, hprofile]

/-- A record of the layout that moves keeps what the comparison relies on. -/
lemma Observation.Comparable.moved {r : PartitionRecord} (h : o.Comparable s₀ key r)
    (hlayout : inLayout r = true) (target : PartitionState) (now : UInt64) (reason : Text)
    (held : Option CapacityBucket) : o.Comparable s₀ key { r with
      heldBucket := held
      state := target
      lastTransitionAtMs := now
      lastTransitionReason := reason } := by
  refine ⟨fun _ ↦ h.1 hlayout, fun haccelerator hdisagrees ↦ ?_⟩
  exact h.2 haccelerator ((disagrees_congr rfl rfl).mp hdisagrees)

/-- The comparison moves a record of the layout whose drain allows it. -/
lemma sound_compare {record : PartitionRecord} {target : PartitionState} {reason : Text}
    (hrecord : s.partitions.find? key = some record) (hlayout : inLayout record = true)
    (htarget : target ≠ .offline ∧ target ≠ .destroying)
    (hsettled : o.Comparable s₀ key record → record.Coherent → record.state ≠ target →
      record.drain.Settled) :
    Advances (Preserves (Sound (o.Comparable s₀))) (transitionPartition o.now key target reason)
      s := by
  by_cases hsame : record.state = target
  · intro hs
    rcases transitionPartition_cases o.now key target reason s with
      h | ⟨r, ledger, ledger', held, hr, -, hne, -⟩
    · rw [h]
      exact hs
    · obtain rfl := Option.some.inj (hrecord.symm.trans hr)
      exact absurd hsame hne
  · apply sound_transition_of
    · intro r held hr hp
      obtain rfl := Option.some.inj (hrecord.symm.trans hr)
      exact hp.moved hlayout _ _ _ _
    · intro r hr hcoherent hp _
      obtain rfl := Option.some.inj (hrecord.symm.trans hr)
      exact hcoherent.movable (hsettled hp hcoherent hsame) htarget

variable {record : PartitionRecord} {native : BackendNativePartition}

lemma sound_revalidateUncorrelated (hrecord : s.partitions.find? key = some record)
    (hlayout : inLayout record = true) (haccelerator : record.accelerator = o.id)
    (hnative : record.nativeIdentity.nativeId = []) :
    Advances (Preserves (Sound (o.Comparable s₀))) (o.revalidateUncorrelated key record pass)
      s := by
  apply advances_ite
  · intro hcond
    simp only [Bool.and_eq_true] at hcond
    apply advances_bind
    · apply advances_attempt
      apply sound_compare hrecord hlayout (by decide)
      intro hp _ _
      exact hp.2 haccelerator (Or.inl ⟨hcond.1, hnative⟩)
    intro t moved _
    exact advances_pure _ _
  · intro _
    exact advances_pure _ _

lemma sound_fenceChanged (hrecord : s.partitions.find? key = some record)
    (hlayout : inLayout record = true) (haccelerator : record.accelerator = o.id)
    (hdisagrees : o.disagrees s₀ record) :
    Advances (Preserves (Sound (o.Comparable s₀))) (o.fenceChanged key record native pass) s := by
  apply advances_bind
  · apply advances_attempt
    apply advances_when
    intro _
    apply sound_compare hrecord hlayout (by decide)
    intro hp _ _
    exact hp.2 haccelerator hdisagrees
  intro t moved _
  exact advances_pure _ _

lemma lasting_modify {f : PartitionRecord → PartitionRecord}
    (h : ∀ r, (f r).id = r.id ∧ (f r).generation = r.generation ∧ (f r).profile = r.profile ∧
      (f r).accelerator = r.accelerator ∧ (f r).acceleratorGeneration = r.acceleratorGeneration ∧
      (f r).resources = r.resources ∧ (f r).state = r.state ∧
      (f r).nativeIdentity = r.nativeIdentity ∧ (f r).heldBucket = r.heldBucket ∧
      (f r).drain = r.drain ∧ (f r).supersededGenerations = r.supersededGenerations) :
    Preserves (Sound (o.Comparable s₀)) s (s.modifyPartition key f) := by
  apply sound_modifyPartition
  intro r _ hcoherent hp
  obtain ⟨hid, hgeneration, hprofile, haccelerator, hincarnation, hresources, hstate, hnative,
    hheld, hdrain, hsuperseded⟩ := h r
  refine ⟨hid, ⟨?_, ?_, ?_, ?_⟩, fun hlayout ↦ ?_, fun hacc hdisagrees ↦ ?_⟩
  · unfold PartitionRecord.Identified
    rw [hid, hgeneration, haccelerator, hincarnation, hprofile, hresources]
    exact hcoherent.identified
  · unfold PartitionRecord.Dated
    rw [hgeneration, hsuperseded]
    exact hcoherent.dated
  · rw [hstate, hheld]
    exact hcoherent.housed
  · rw [hstate, hdrain]
    exact hcoherent.drained
  · unfold PartitionRecord.Renewable
    rw [hgeneration]
    unfold inLayout at hlayout
    rw [hstate] at hlayout
    exact hp.1 hlayout
  · rw [hdrain]
    exact hp.2 (haccelerator ▸ hacc) ((disagrees_congr hprofile hnative).mp hdisagrees)

lemma sound_stampMatched :
    Preserves (Sound (o.Comparable s₀)) s (o.evidence.stamp key s) := by
  unfold CommitEvidence.stamp
  obtain ⟨g, evidence, heq⟩ := stamp_eq o.evidence.now key o.evidence.accelerator
    o.evidence.provenance o.evidence.source s
  rw [heq]
  have hone : Preserves (Sound (o.Comparable s₀)) s { s with evidenceGeneration := g } :=
    Untouched.sound ⟨rfl, le_refl _⟩
  apply trans_of (Preserves (Sound (o.Comparable s₀))) hone
  exact lasting_modify fun _ ↦ ⟨rfl, rfl, rfl, rfl, rfl, rfl, rfl, rfl, rfl, rfl, rfl⟩

lemma state_stamp {r : PartitionRecord} (h : s.partitions.find? key = some record)
    (hr : (o.evidence.stamp key s).partitions.find? key = some r) : r.state = record.state := by
  unfold CommitEvidence.stamp at hr
  obtain ⟨g, evidence, heq⟩ := stamp_eq o.evidence.now key o.evidence.accelerator
    o.evidence.provenance o.evidence.source s
  rw [heq, FabricState.modifyPartition, KeyedMap.find?_modify, if_pos rfl] at hr
  obtain ⟨r₀, hr₀, rfl⟩ := Option.map_eq_some_iff.mp hr
  obtain rfl := Option.some.inj (h.symm.trans hr₀)
  rfl

/-- A record that was not live moves after it was stamped. -/
lemma sound_moveStamped {target : PartitionState} {reason : Text}
    (hrecord : s.partitions.find? key = some record)
    (hstate : record.state = .offline ∨ record.state = .revalidationRequired)
    (htarget : target ≠ .offline ∧ target ≠ .destroying) :
    Advances (Preserves (Sound (o.Comparable s₀))) (transitionPartition o.now key target reason)
      (o.evidence.stamp key s) := by
  have hquiet : ∀ r, (o.evidence.stamp key s).partitions.find? key = some r →
      r.state = .offline ∨ r.state = .revalidationRequired := by
    intro r hr
    rwa [state_stamp hrecord hr]
  apply sound_transition_of
  · intro r held hr hp
    apply hp.moved
    unfold inLayout
    rcases hquiet r hr with h | h <;> rw [h] <;> rfl
  · intro r hr hcoherent hp _
    refine hcoherent.movable (hcoherent.settled ?_ ?_) htarget
    · rcases hquiet r hr with h | h <;> rw [h] <;> decide
    · rcases hquiet r hr with h | h <;> rw [h] <;> decide

lemma sound_confirmMatched (hrecord : s.partitions.find? key = some record) :
    Advances (Preserves (Sound (o.Comparable s₀))) (o.confirmMatched key record native pass) s := by
  refine advances_modify_bind sound_stampMatched ?_
  apply advances_get_bind
  apply advances_ite
  · intro hoffline
    apply advances_bind
    · exact advances_ignore (sound_moveStamped hrecord (Or.inl hoffline) (by decide))
    intro t _ _
    exact advances_pure _ _
  · intro _
    apply advances_ite
    · intro hrevalidation
      apply advances_ite
      · intro _
        apply advances_bind
        · exact advances_attempt (sound_moveStamped hrecord (Or.inr hrevalidation) (by decide))
        intro t status _
        cases status with
        | error e => exact advances_pure _ _
        | ok u =>
            refine advances_modify_bind ?_ (advances_pure _ _)
            exact lasting_modify fun _ ↦ ⟨rfl, rfl, rfl, rfl, rfl, rfl, rfl, rfl, rfl, rfl, rfl⟩
      · intro _
        exact advances_pure _ _
    · intro _
      exact advances_pure _ _

lemma missingRecord_coherent (hcoherent : record.Coherent) (hroom : record.Renewable) :
    (o.missingRecord record).Coherent := by
  have hsuperseded := hcoherent.supersede hroom
  exact PartitionRecord.coherent_retired hsuperseded.identified hsuperseded.dated rfl rfl
    (drained_cleared .retired record.drain)

lemma apart_releaseMissing {R : FabricState → FabricState → Prop} [Apart R] :
    Advances R (o.releaseMissing record) s := by
  unfold Observation.releaseMissing
  cases record.heldBucket with
  | none => exact advances_pure _ _
  | some bucket => exact apart_onLedger

lemma sound_retireMissing (hrecord : s.partitions.find? key = some record)
    (hlayout : inLayout record = true) :
    Advances (Preserves (Sound (o.Comparable s₀))) (o.retireMissing key record pass) s := by
  apply advances_bind
  · exact advances_attempt (sound_of_untouched apart_releaseMissing)
  intro t released ht
  have hkept : t.partitions.find? key = some record := by
    have huntouched : Untouched s (o.releaseMissing record s).1 := apart_releaseMissing
    have hfst : t = (o.releaseMissing record s).1 := (Prod.mk.inj ht).1.symm
    rw [hfst, ← hrecord, huntouched.partitions]
  refine advances_modify_bind ?_ ?_
  · apply sound_modifyPartition
    intro r hr hcoherent hp
    obtain rfl := Option.some.inj (hkept.symm.trans hr)
    have hmissing : (o.missingRecord record).Coherent :=
      missingRecord_coherent hcoherent (hp.1 hlayout)
    have hretired : inLayout (o.missingRecord record) = false := rfl
    refine ⟨record.supersede_id, hmissing, fun hin ↦ ?_,
      fun _ _ ↦ ⟨by simp [Observation.missingRecord], rfl⟩⟩
    exact absurd (hretired.symm.trans hin) (by decide)
  · apply advances_get_bind
    exact advances_modify_bind untouched_dropAssignments.sound (advances_pure _ _)

/-- The comparison of one record keeps every record in order. -/
lemma sound_matchRecord (hprofiles : s.profiles = s₀.profiles) :
    Advances (Preserves (Sound (o.Comparable s₀))) (o.matchRecord pass key) s := by
  apply advances_get_bind
  cases hfilter : (s.findPartition key).filter fun r ↦ r.accelerator = o.id && inLayout r with
  | none => exact advances_pure _ _
  | some record =>
      obtain ⟨hrecord, hcond⟩ := Option.filter_eq_some_iff.mp hfilter
      simp only [Bool.and_eq_true, decide_eq_true_eq] at hcond
      obtain ⟨haccelerator, hlayout⟩ := hcond
      apply advances_ite
      · intro hempty
        exact sound_revalidateUncorrelated hrecord hlayout haccelerator (List.isEmpty_iff.mp hempty)
      · intro _
        cases hobserved : observedNative o.layout record.nativeIdentity.nativeId with
        | none => exact sound_retireMissing hrecord hlayout
        | some native =>
            apply advances_ite
            · intro _
              exact sound_confirmMatched hrecord
            · intro hmismatch
              apply sound_fenceChanged hrecord hlayout haccelerator
              refine Or.inr ⟨native, hobserved, ?_⟩
              rw [← profileMatches_congr hprofiles rfl]
              simpa using hmismatch

end Comparison

section Decision

variable {attempt : PartitionAttempt} {p : PartitionId}

lemma Lively.moved {r : PartitionRecord} (h : Lively key r) (hlayout : inLayout r = true)
    (target : PartitionState) (now : UInt64) (reason : Text) (held : Option CapacityBucket) :
    Lively key { r with
      heldBucket := held
      state := target
      lastTransitionAtMs := now
      lastTransitionReason := reason } :=
  fun _ ↦ h hlayout

lemma sound_bindLively {backend : Text} {found : Option (BackendLayout × BackendNativePartition)} :
    Preserves (Sound Lively) s (bindFound p backend found s) := by
  unfold bindFound
  cases found with
  | none => exact refl_of _ s
  | some pair =>
      apply sound_modifyPartition
      intro r _ hr hp
      exact ⟨rfl, ⟨hr.identified, hr.dated, hr.housed, hr.drained⟩, hp⟩

/-- The record under a key has a generation to come whatever its state. -/
def Spared (p : PartitionId) (k : PartitionId) (r : PartitionRecord) : Prop :=
  Lively k r ∧ (k = p → r.Renewable)

lemma Sound.spared (hs : Sound Lively s)
    (h : ∀ r, s.partitions.find? p = some r → inLayout r = true) : Sound (Spared p) s := by
  refine hs.mono fun k r hr _ hlively ↦ ⟨hlively, ?_⟩
  rintro rfl
  exact hlively (h r hr)

/-- A decided record that was not live moves. -/
lemma sound_moveDecided {target : PartitionState} {reason : Text} {now : UInt64}
    (hstate : ∀ r, s.partitions.find? p = some r → r.state = .revalidationRequired ∨
      r.state = .creating ∨ r.state = .destroying)
    (htarget : target ≠ .offline ∧ target ≠ .destroying) :
    Advances (Preserves (Sound (Spared p))) (transitionPartition now p target reason) s := by
  apply sound_transition_of
  · intro r held hr hp
    exact ⟨fun _ ↦ hp.2 rfl, fun _ ↦ hp.2 rfl⟩
  · intro r hr hcoherent hp _
    refine hcoherent.movable (hcoherent.settled ?_ ?_) htarget
    · rcases hstate r hr with h | h | h <;> rw [h] <;> decide
    · rcases hstate r hr with h | h | h <;> rw [h] <;> decide

/-- A record that moved out of the layout is superseded. -/
lemma sound_supersedeMoved {f : PartitionRecord → PartitionRecord}
    (hstate : ∀ r, s.partitions.find? p = some r → r.state = .retired ∨ r.state = .unpartitioned)
    (hf : ∀ r, ∃ identity, f r = { r.supersede with nativeIdentity := identity })
    (hs : Sound (Spared p) s) : Sound Lively (s.modifyPartition p f) := by
  refine ⟨hs.ids, fun k r hr ↦ ?_⟩
  rw [FabricState.modifyPartition, KeyedMap.find?_modify] at hr
  split at hr
  · rename_i hk
    subst hk
    obtain ⟨r₀, hr₀, rfl⟩ := Option.map_eq_some_iff.mp hr
    obtain ⟨hid, hcoherent, hspared⟩ := hs.records k r₀ hr₀
    have hsuperseded := hcoherent.supersede (hspared.2 rfl)
    obtain ⟨identity, heq⟩ := hf r₀
    rw [heq]
    refine ⟨r₀.supersede_id.trans hid, ⟨hsuperseded.identified, hsuperseded.dated,
      hsuperseded.housed, hsuperseded.drained⟩, fun hin ↦ ?_⟩
    unfold inLayout at hin
    simp only [PartitionRecord.supersede_state] at hin
    rcases hstate r₀ hr₀ with h | h <;> rw [h] at hin <;> exact absurd hin (by decide)
  · obtain ⟨hid, hcoherent, hspared⟩ := hs.records k r hr
    exact ⟨hid, hcoherent, hspared.1⟩

lemma Sound.lively (h : Sound (Spared p) s) : Sound Lively s := h.mono fun _ _ _ _ hp ↦ hp.1

lemma inLayout_of_decided {r : PartitionRecord} (h : r.state = .revalidationRequired ∨
    r.state = .creating ∨ r.state = .destroying) : inLayout r = true := by
  unfold inLayout
  rcases h with h | h | h <;> rw [h] <;> rfl

lemma sound_settlePartition {kind : AttemptKind} {record : PartitionRecord}
    (hstate : ∀ r, s.partitions.find? p = some r → r.state = .revalidationRequired ∨
      r.state = .creating ∨ r.state = .destroying) :
    Advances (Preserves (Sound Lively)) (o.settlePartition kind p record pass) s := by
  intro hs
  have hspared : Sound (Spared p) s := hs.spared fun r hr ↦ inLayout_of_decided (hstate r hr)
  have hmoved : Sound (Spared p) (transitionPartition o.now p (Observation.settledTarget kind)
      "reconciled with observed hardware" s).1 := by
    refine sound_moveDecided hstate ?_ hspared
    unfold Observation.settledTarget
    split <;> decide
  unfold Observation.settlePartition
  apply bind_fst
  · intro t e ht
    exact absurd (Prod.mk.inj ht).2 (by simp)
  intro t status ht
  obtain rfl : (transitionPartition o.now p (Observation.settledTarget kind)
      "reconciled with observed hardware" s).1 = t := (Prod.mk.inj ht).1
  cases status with
  | error e => exact hmoved.lively
  | ok u =>
      simp only
      split
      · rename_i hkind
        apply sound_supersedeMoved _ (fun r ↦ ⟨r.nativeIdentity, ?_⟩) hmoved
        · intro r hr
          have htarget := state_of_transition (attempt_eq_ok ht) hr
          rw [Observation.settledTarget, if_pos hkind] at htarget
          exact Or.inl htarget
        · rw [← r.supersede_nativeIdentity]
      · exact hmoved.lively

lemma sound_withdrawPartition :
    Advances (Preserves (Sound Lively)) (o.withdrawPartition p) s := by
  apply advances_get_bind
  apply advances_when
  intro hany
  obtain ⟨record, hrecord, hcond⟩ := (Option.any_eq_true _ _).mp hany
  simp only [Bool.or_eq_true, decide_eq_true_eq, or_assoc] at hcond
  have hstate : ∀ r, s.partitions.find? p = some r → r.state = .revalidationRequired ∨
      r.state = .creating ∨ r.state = .destroying := by
    intro r hr
    obtain rfl := Option.some.inj (hrecord.symm.trans hr)
    exact hcond
  intro hs
  have hspared : Sound (Spared p) s := hs.spared fun r hr ↦ inLayout_of_decided (hstate r hr)
  have hmoved : Sound (Spared p) (transitionPartition o.now p .unpartitioned
      "reconciled: the mutation did not take effect" s).1 :=
    sound_moveDecided hstate (by decide) hspared
  apply bind_fst
  · intro t e ht
    exact absurd (Prod.mk.inj ht).2 (by simp)
  intro t status ht
  obtain rfl : (transitionPartition o.now p .unpartitioned
      "reconciled: the mutation did not take effect" s).1 = t := (Prod.mk.inj ht).1
  cases status with
  | error e => exact hmoved.lively
  | ok u =>
      apply sound_supersedeMoved _ (fun r ↦ ⟨{}, rfl⟩) hmoved
      intro r hr
      exact Or.inr (state_of_transition (attempt_eq_ok ht) hr)

lemma sound_adoptProduced {entry : PartitionId × ℕ} :
    Advances (Preserves (Sound Lively)) (o.adoptProduced attempt pass entry) s := by
  obtain ⟨p, index⟩ := entry
  apply advances_get_bind
  cases hrecord : s.findPartition p with
  | none => exact advances_pure _ _
  | some record =>
      refine advances_modify_bind sound_bindLively ?_
      apply advances_ite
      · intro hcond
        simp only [Bool.or_eq_true, decide_eq_true_eq] at hcond
        apply sound_settlePartition
        intro r hr
        have hsame : r.state = record.state := by
          unfold bindFound at hr
          split at hr
          · obtain rfl := Option.some.inj (hrecord.symm.trans hr)
            rfl
          · rw [FabricState.modifyPartition, KeyedMap.find?_modify, if_pos rfl] at hr
            obtain ⟨r₀, hr₀, rfl⟩ := Option.map_eq_some_iff.mp hr
            obtain rfl := Option.some.inj (hrecord.symm.trans hr₀)
            rfl
        rw [hsame]
        exact hcond.imp_right Or.inl
      · intro _
        exact advances_pure _ _

lemma apart_releaseDecided {R : FabricState → FabricState → Prop} [Apart R] :
    Advances R (o.releaseDecided attempt) s := by
  apply advances_get_bind
  cases s.findReservation attempt.reservation with
  | none => exact advances_pure _ _
  | some reservation =>
      apply advances_when
      intro _
      refine advances_modify_bind (Apart.apart rfl rfl (le_refl _)) ?_
      apply advances_when
      intro _
      exact advances_ignore apart_onLedger

lemma policy_onLedger {id : AcceleratorId} {m : LedgerM Unit} :
    Advances (Keeps FabricState.policy) (onLedger id m) s := by
  unfold Advances onLedger
  cases s.findLedger id with
  | none => rfl
  | some l => rfl

lemma policy_releaseDecided : Advances (Keeps FabricState.policy) (o.releaseDecided attempt) s := by
  apply advances_get_bind
  cases s.findReservation attempt.reservation with
  | none => exact advances_pure _ _
  | some reservation =>
      apply advances_when
      intro _
      refine advances_modify_bind rfl ?_
      apply advances_when
      intro _
      exact advances_ignore policy_onLedger

lemma releaseDecided_ends :
    Meets (fun _ ↦ False) (fun _ _ ↦ True) (o.releaseDecided attempt) s := by
  apply meets_get_bind
  cases s.findReservation attempt.reservation with
  | none => exact meets_pure trivial
  | some reservation =>
      apply meets_when
      · intro _
        apply meets_modify_bind
        apply meets_when
        · intro _
          trivial
        · intro _
          trivial
      · intro _
        trivial

/-- The names that the comparison claimed stay claimed and every record stays in order. -/
structure Explained (named : Text → Prop) (policy : PlanningPolicy) (pass : Pass)
    (s : FabricState) : Prop where
  claimed : ∀ name, named name → name ∈ pass.claimed
  policy : s.policy = policy
  sound : Sound Lively s

variable {named : Text → Prop} {policy : PlanningPolicy}

lemma Explained.of_untouched {pass' : Pass} (h : Explained named policy pass s)
    (hst : Untouched s t) (hpolicy : t.policy = s.policy) (hclaimed : pass'.claimed = pass.claimed) :
    Explained named policy pass' t := by
  refine ⟨fun name hname ↦ ?_, hpolicy.trans h.policy, h.sound.of_untouched hst⟩
  rw [hclaimed]
  exact h.claimed name hname

lemma claimed_adoptProduced {entry : PartitionId × ℕ} :
    Meets (fun _ ↦ False) (fun pass' _ ↦ pass.claimed ⊆ pass'.claimed)
      (o.adoptProduced attempt pass entry) s := by
  obtain ⟨p, index⟩ := entry
  apply meets_get_bind
  cases s.findPartition p with
  | none => exact meets_pure (List.Subset.refl _)
  | some record =>
      have hgrows : ∀ found : Option (BackendLayout × BackendNativePartition),
          pass.claimed ⊆ claim pass.claimed found := by
        intro found
        cases found with
        | none => exact List.Subset.refl _
        | some pair => exact List.subset_append_left _ _
      apply meets_modify_bind
      split
      · apply keepsClaims_settlePartition.mono (R := fun _ _ ↦ True) trivial
        intro pass' t hclaimed _
        rw [hclaimed]
        exact hgrows _
      · exact meets_pure (hgrows _)

lemma explained_adoptProduced {entry : PartitionId × ℕ} (h : Explained named policy pass s) :
    Meets (fun _ ↦ False) (Explained named policy) (o.adoptProduced attempt pass entry) s := by
  have hlocal : Advances (Localized entry.1 AnyChange) (o.adoptProduced attempt pass entry) s :=
    localized_adoptProduced
  have hsound : Sound Lively (o.adoptProduced attempt pass entry s).1 := sound_adoptProduced h.sound
  apply claimed_adoptProduced.mono (R := fun _ t ↦ t.policy = s.policy ∧ Sound Lively t)
    ⟨hlocal.policy, hsound⟩
  rintro pass' t hclaimed ⟨hpolicy, ht⟩
  exact ⟨fun name hname ↦ hclaimed (h.claimed name hname), hpolicy.trans h.policy, ht⟩

lemma explained_acceptAttempt {key : PartitionAttemptId} (h : Explained named policy pass s) :
    Meets (fun _ ↦ False) (Explained named policy) (o.acceptAttempt key attempt pass) s := by
  apply meets_modify_bind
  have hdecided : Explained named policy pass
      (o.decideAttempt key "reconciled: the intended physical result is present" s) :=
    h.of_untouched ⟨rfl, le_refl _⟩ rfl rfl
  apply meets_bind (meets_foldlM (Q := fun _ ↦ Explained named policy)
    (fun _ _ _ _ ht ↦ explained_adoptProduced ht) hdecided)
  intro pass' t ht
  apply meets_modify_bind
  exact meets_pure (ht.of_untouched ⟨rfl, le_refl _⟩ rfl rfl)

lemma explained_withdraw (h : Explained named policy pass s) :
    Meets (fun _ ↦ False) (fun _ ↦ Explained named policy pass) (o.withdrawPartition p) s := by
  have hlocal : Advances (Localized p Quiet) (o.withdrawPartition p) s := quiet_withdrawPartition
  have hsound : Sound Lively (o.withdrawPartition p s).1 := sound_withdrawPartition h.sound
  apply withdrawPartition_ends.mono (R := fun _ t ↦ t.policy = s.policy ∧ Sound Lively t)
    ⟨hlocal.policy, hsound⟩
  rintro _ t _ ⟨hpolicy, ht⟩
  exact ⟨h.claimed, hpolicy.trans h.policy, ht⟩

lemma explained_rejectAttempt {key : PartitionAttemptId} (h : Explained named policy pass s) :
    Meets (fun _ ↦ False) (Explained named policy) (o.rejectAttempt key attempt pass) s := by
  apply meets_modify_bind
  have hdecided : Explained named policy pass
      (o.decideAttempt key "reconciled: the intended physical result is absent" s) :=
    h.of_untouched ⟨rfl, le_refl _⟩ rfl rfl
  apply meets_bind (meets_forM (Q := fun _ ↦ Explained named policy pass)
    (fun _ _ _ ht ↦ explained_withdraw ht) hdecided)
  intro _ t ht
  have hrelease : Meets (fun _ ↦ False) (fun _ ↦ Explained named policy pass)
      (o.releaseDecided attempt) t := by
    apply releaseDecided_ends.mono (R := fun t u ↦ Untouched t u ∧ u.policy = t.policy)
      ⟨apart_releaseDecided, policy_releaseDecided⟩
    rintro _ u _ ⟨huntouched, hpolicy⟩
    exact ht.of_untouched huntouched hpolicy rfl
  apply meets_bind hrelease
  intro _ u hu
  exact meets_pure hu

/-- Deciding one ambiguous attempt. -/
lemma explained_resolveAttempt {key : PartitionAttemptId} (h : Explained named policy pass s) :
    Meets (fun _ ↦ False) (Explained named policy) (o.resolveAttempt pass key) s := by
  apply meets_get_bind
  cases (s.findAttempt key).filter fun a ↦ a.accelerator = o.id && a.state = .outcomeUnknown with
  | none => exact meets_pure h
  | some attempt =>
      have hreport : Explained named policy
          { pass with report := { pass.report with reconciliationRequired := true } } s :=
        ⟨h.claimed, h.policy, h.sound⟩
      simp only
      split
      · exact explained_acceptAttempt hreport
      · exact explained_rejectAttempt hreport

end Decision

section Naming

/-- What holds before the comparison of the records that are left: those compared have claimed
what they name. -/
structure Naming (o : Observation) (s₀ : FabricState) (keys : List PartitionId) (pass : Pass)
    (s : FabricState) : Prop where
  untouched : ∀ p ∈ keys, s.partitions.find? p = s₀.partitions.find? p
  claimed : ∀ p, p ∉ keys → ∀ r, s₀.partitions.find? p = some r →
    o.meetsAs r.nativeIdentity.nativeId r = true → o.shows r →
    r.nativeIdentity.nativeId ∈ pass.claimed
  profiles : s.profiles = s₀.profiles
  policy : s.policy = s₀.policy
  sound : Sound (o.Comparable s₀) s
  nodup : keys.Nodup

variable {keys : List PartitionId}

lemma naming_matchRecord (h : Naming o s₀ (key :: keys) pass s) :
    Meets (fun _ ↦ False) (Naming o s₀ keys) (o.matchRecord pass key) s := by
  obtain ⟨hkey, hnodup⟩ := List.nodup_cons.mp h.nodup
  have hlocal : Localized key AnyChange s (o.matchRecord pass key s).1 := localized_matchRecord
  have hsound : Sound (o.Comparable s₀) (o.matchRecord pass key s).1 :=
    sound_matchRecord h.profiles h.sound
  apply (claimed_matchRecord o pass key s).mono
    (R := fun _ t ↦ Localized key AnyChange s t ∧ Sound (o.Comparable s₀) t) ⟨hlocal, hsound⟩
  rintro pass' t hclaimed ⟨hlocal, ht⟩
  have hgrows : pass.claimed ⊆ pass'.claimed := by
    rcases hclaimed with ⟨heq, -⟩ | ⟨r, -, -, heq⟩
    · exact heq ▸ List.Subset.refl _
    · exact heq ▸ List.subset_append_left _ _
  refine ⟨?_, ?_, hlocal.profiles.trans h.profiles, hlocal.policy.trans h.policy, ht, hnodup⟩
  · intro p hp
    have hne : p ≠ key := fun heq ↦ hkey (heq ▸ hp)
    exact (hlocal.others p hne).trans (h.untouched p (List.mem_cons_of_mem _ hp))
  · intro p hp r hr hmeets hshows
    by_cases hpkey : p = key
    · subst hpkey
      rw [← h.untouched p List.mem_cons_self] at hr
      rcases hclaimed with ⟨-, hnot⟩ | ⟨r₁, hr₁, -, heq⟩
      · exact absurd hshows (hnot r hr hmeets)
      · obtain rfl := Option.some.inj (hr.symm.trans hr₁)
        rw [heq]
        simp
    · have hleft : p ∉ key :: keys := by simp [hpkey, hp]
      exact hgrows (h.claimed p hleft r hr hmeets hshows)

/-- An observed partition that a record of the device names. -/
def Observation.named (o : Observation) (s : FabricState) (name : Text) : Prop :=
  ∃ p r, s.findPartition p = some r ∧ o.meetsAs name r = true ∧ o.shows r

/-- After both passes every named partition is claimed. -/
lemma explained_passes {report : ReconciliationReport} (hs : Sound (o.Comparable s) s)
    {Q : ReconciliationReport → FabricState → Prop} {k : Pass → FabricM ReconciliationReport}
    (hk : ∀ pass t, Explained (o.named s) s.policy pass t → Meets (fun _ ↦ False) Q (k pass) t) :
    Meets (fun _ ↦ False) Q (do
      let pass ← s.partitions.keys.foldlM o.matchRecord ⟨[], report⟩
      let s ← Procedure.get
      let pass ← s.attempts.keys.foldlM o.resolveAttempt pass
      k pass) s := by
  have hinitial : Naming o s s.partitions.keys ⟨[], report⟩ s := by
    refine ⟨fun _ _ ↦ rfl, fun p hp r hr ↦ ?_, rfl, rfl, hs, KeyedMap.keys_nodup _⟩
    exact absurd (KeyedMap.mem_keys.mpr ⟨r, hr⟩) hp
  apply meets_bind (meets_foldlM (Q := Naming o s) (fun _ _ _ _ h ↦ naming_matchRecord h) hinitial)
  intro pass t ht
  apply meets_get_bind
  have hexplained : Explained (o.named s) s.policy pass t := by
    refine ⟨?_, ht.policy, ht.sound.mono fun _ _ _ _ hp ↦ hp.1⟩
    rintro name ⟨p, r, hr, hmeets, hshows⟩
    have hname : r.nativeIdentity.nativeId = name := by
      simp only [Observation.meetsAs, Bool.and_eq_true, decide_eq_true_eq] at hmeets
      exact hmeets.2
    subst hname
    exact ht.claimed p List.not_mem_nil r hr hmeets hshows
  exact meets_bind (meets_foldlM (Q := fun _ ↦ Explained (o.named s) s.policy)
    (fun _ _ _ _ h ↦ explained_resolveAttempt h) hexplained) hk

end Naming

section Unexpected

/-- A partition that nothing explains can be recorded: what its record names is set, and policy
does not ask to give it authority at once. -/
structure Observation.Recordable (o : Observation) (s : FabricState)
    (native : BackendNativePartition) : Prop where
  device : valid o.id = true
  incarnation : known o.accelerator.generation = true
  profile : valid native.profile = true
  policy : s.policy.allowExternalAdoption = false

lemma resources_of_checkNatives {limits : Limits} {stableKey : Text} {seen : List Text}
    {l : List BackendNativePartition} (h : checkNatives limits stableKey seen l = success) :
    ∀ native ∈ l, native.resources.empty = false := by
  induction l generalizing seen with
  | nil => simp
  | cons native rest ih =>
      unfold checkNatives at h
      iterate 3
        split at h
        · exact absurd h (failure_ne_ok _ _ _ _)
      split at h
      · exact absurd h (failure_ne_ok _ _ _ _)
      · rename_i hempty
        obtain ⟨-, hrest⟩ := check_bind_eq_ok.mp h
        intro n hn
        rcases List.mem_cons.mp hn with rfl | hn
        · simpa using hempty
        · exact ih hrest n hn

lemma resources_of_validate {layout : BackendLayout} {limits : Limits} {u : Unit}
    (h : validateBackendLayout layout limits = .ok u) :
    ∀ native ∈ layout.partitions, native.resources.empty = false := by
  unfold validateBackendLayout at h
  split at h
  · exact absurd h (failure_ne_ok _ _ _ _)
  split at h
  · exact absurd h (failure_ne_ok _ _ _ _)
  obtain ⟨-, h⟩ := check_bind_eq_ok.mp h
  split at h
  · exact absurd h (failure_ne_ok _ _ _ _)
  exact resources_of_checkNatives h

variable {native : BackendNativePartition} {id : PartitionId}

/-- The record of an unexplained partition is in order while its capacity is held or unknown. -/
lemma coherent_unexpected (h : o.Recordable s native) (hid : valid id = true)
    (hresources : native.resources.empty = false) {held : Option CapacityBucket}
    (hheld : held = none ∨ held = some .reconfigurationHeld) :
    ({ o.unexpectedRecord s native id with heldBucket := held } : PartitionRecord).Coherent := by
  have hstate : (o.unexpectedRecord s native id).state = .revalidationRequired := by
    change (if s.policy.allowExternalAdoption then PartitionState.active
      else .revalidationRequired) = _
    rw [h.policy]
    rfl
  refine ⟨⟨hid, rfl, h.device, h.incarnation, h.profile, hresources⟩, ⟨?_, ?_⟩, ?_, ?_⟩
  · intro g hg
    exact absurd hg List.not_mem_nil
  · exact List.nodup_nil
  · change Housed (o.unexpectedRecord s native id).state held
    rw [hstate]
    rcases hheld with rfl | rfl
    · exact fun _ ↦ rfl
    · exact ⟨by decide, by decide, rfl⟩
  · change Drained (o.unexpectedRecord s native id).state {}
    exact drained_cleared _ {}

lemma holdUnexpected_spec {record : PartitionRecord} {report : ReconciliationReport}
    (hstate : record.state = .revalidationRequired) (hheld : record.heldBucket = none) :
    Meets (fun _ ↦ False) (fun result t ↦ (Untouched s t ∧ t.policy = s.policy) ∧
      ∃ held, (held = none ∨ held = some .reconfigurationHeld) ∧
        result.1 = { record with heldBucket := held })
      (o.holdUnexpected record report) s := by
  have hsame : record = { record with heldBucket := none } := by rw [← hheld]
  apply meets_get_bind
  cases s.findLedger o.id with
  | none => exact meets_pure ⟨⟨refl_of _ s, rfl⟩, none, Or.inl rfl, hsame⟩
  | some ledger =>
      apply meets_attempt_bind (R := fun s t ↦ Untouched s t ∧ t.policy = s.policy)
        ⟨apart_onLedger, policy_onLedger⟩
      intro status t ht
      cases status with
      | error e => exact meets_pure ⟨ht, none, Or.inl rfl, hsame⟩
      | ok u =>
          unfold Observation.promoteHeld
          rw [if_neg (by rw [hstate]; decide)]
          exact meets_pure ⟨ht, some .reconfigurationHeld, Or.inr rfl, rfl⟩

/-- The states in which the records are in order under a policy. -/
def SoundUnder (policy : PlanningPolicy) (s : FabricState) : Prop :=
  Sound Any s ∧ s.policy = policy

lemma soundUnder_stamp {policy : PlanningPolicy} (h : SoundUnder policy s) :
    SoundUnder policy (o.evidence.stamp id s) := by
  refine ⟨sound_stampPartitionEvidence steady_any.lasting h.1, ?_⟩
  unfold CommitEvidence.stamp
  obtain ⟨g, evidence, heq⟩ := stamp_eq o.evidence.now id o.evidence.accelerator
    o.evidence.provenance o.evidence.source s
  rw [heq]
  exact h.2

/-- Recording one unexplained partition under a fresh identity. -/
lemma sound_recordOne {policy : PlanningPolicy} {report : ReconciliationReport} {α : Type}
    {k : PartitionRecord × ReconciliationReport → FabricM α} (hready : o.Recordable s native)
    (hid : valid id = true) (hresources : native.resources.empty = false)
    (hs : SoundUnder policy s)
    (hk : ∀ result t, SoundUnder policy t → Meets (fun _ ↦ False) (fun _ ↦ SoundUnder policy)
      (k result) t) :
    Meets (fun _ ↦ False) (fun _ ↦ SoundUnder policy) (do
      let result ← o.holdUnexpected (o.unexpectedRecord s native id) report
      Procedure.modify fun s ↦ { s with partitions := s.partitions.insert id result.1 }
      Procedure.modify (o.evidence.stamp id)
      k result) s := by
  have hstate : (o.unexpectedRecord s native id).state = .revalidationRequired := by
    change (if s.policy.allowExternalAdoption then PartitionState.active
      else .revalidationRequired) = _
    rw [hready.policy]
    rfl
  apply meets_bind (holdUnexpected_spec hstate rfl)
  rintro ⟨record, report'⟩ t ⟨⟨huntouched, hpolicy⟩, held, hheld, hrecord⟩
  apply meets_modify_bind
  apply meets_modify_bind
  apply hk
  apply soundUnder_stamp
  simp only at hrecord
  subst hrecord
  refine ⟨?_, hpolicy.trans hs.2⟩
  exact sound_insertPartition rfl (coherent_unexpected hready hid hresources hheld) trivial
    (hs.1.of_untouched huntouched)

/-- Recording what nothing explains keeps every record in order. -/
lemma sound_recordUnexpected {claimed : List Text} {l : List BackendNativePartition}
    {report : ReconciliationReport} {policy : PlanningPolicy}
    (h : ∀ native ∈ l, native.nativeId ∉ claimed → native.resources.empty = false ∧
      ∀ t : FabricState, t.policy = policy → o.Recordable t native)
    (hs : SoundUnder policy s) :
    Meets (fun _ ↦ False) (fun _ ↦ SoundUnder policy) (o.recordUnexpected claimed l report) s := by
  induction l generalizing s report with
  | nil => exact meets_pure hs
  | cons native rest ih =>
      have hrest : ∀ native ∈ rest, native.nativeId ∉ claimed →
          native.resources.empty = false ∧ ∀ t : FabricState, t.policy = policy →
            o.Recordable t native :=
        fun n hn ↦ h n (List.mem_cons_of_mem _ hn)
      unfold Observation.recordUnexpected
      split
      · exact ih hrest hs
      · rename_i hclaimed
        obtain ⟨hresources, hrecordable⟩ := h native List.mem_cons_self (by simpa using hclaimed)
        unfold Meets
        rcases allocateId_cases s with ⟨e, halloc⟩ | ⟨ids, hlt, halloc⟩
        · rw [bind_ok (show Procedure.attempt allocateId s = (s, .ok (.error e)) by
            rw [Procedure.attempt, halloc])]
          exact hs
        · rw [bind_ok (show Procedure.attempt allocateId s =
            ({ s with ids := ids }, .ok (.ok s.ids.next)) by rw [Procedure.attempt, halloc])]
          have hvalid : valid s.ids.next = true := by
            simpa [valid] using ne_of_gt hs.1.ids
          have hallocated : SoundUnder policy { s with ids := ids } :=
            ⟨hs.1.of_untouched ⟨rfl, le_of_lt hlt⟩, hs.2⟩
          exact sound_recordOne (hrecordable { s with ids := ids } hs.2) hvalid hresources
            hallocated fun _ _ ht ↦ ih hrest ht

end Unexpected

section Reconcile

/-- The passes over a present device keep every record in order. -/
lemma sound_reconcilePasses {report : ReconciliationReport} (hs : Sound (o.Comparable s) s)
    (hresources : ∀ native ∈ o.layout.partitions, native.resources.empty = false)
    (h : ∀ native ∈ o.layout.partitions, ¬ o.named s native.nativeId →
      ∀ t : FabricState, t.policy = s.policy → o.Recordable t native) :
    Sound Any (o.reconcilePasses report s).1 := by
  have hrun : Meets (fun _ ↦ False) (fun _ ↦ SoundUnder s.policy) (o.reconcilePasses report) s := by
    unfold Observation.reconcilePasses
    apply meets_get_bind
    apply explained_passes hs
    intro pass t ht
    apply sound_recordUnexpected
    · intro native hnative hclaimed
      refine ⟨hresources native hnative, h native hnative ?_⟩
      exact fun hnamed ↦ hclaimed (ht.claimed native.nativeId hnamed)
    · exact ⟨ht.sound.any, ht.policy⟩
  exact (hrun.of_never (I := Sound Any)).fst fun _ _ ht ↦ ht.1

lemma comparable_congr (hprofiles : t.profiles = s.profiles) {r : PartitionRecord} :
    o.Comparable t key r ↔ o.Comparable s key r := by
  unfold Observation.Comparable Observation.disagrees Observation.profileMatches
    FabricState.findProfile
  rw [hprofiles]

/-- The reset of a device leaves less to disagree about. -/
lemma Observation.Comparable.reset {generation : AcceleratorGeneration} {boot : AcceleratorBootId}
    {r : PartitionRecord} (h : o.Comparable s key r) :
    ({ o with accelerator := { o.accelerator with
        generation := generation
        bootId := boot
        capability := { o.accelerator.capability with support := .unknown, generation := 0 } } } :
      Observation).Comparable s key r := by
  refine ⟨h.1, fun haccelerator hdisagrees ↦ h.2 haccelerator ?_⟩
  rcases hdisagrees with ⟨hsupported, -⟩ | hmismatch
  · exact absurd hsupported (by simp [PartitionCapability.declaresSupported])
  · exact Or.inr hmismatch

/-- What reconciling a present device asks of the state and the observation. -/
structure Observation.Present (o : Observation) (s : FabricState) : Prop where
  comparable : ∀ p r, s.findPartition p = some r → o.Comparable s p r
  recordable : ∀ native ∈ o.layout.partitions, ¬ o.named s native.nativeId → o.Recordable s native

lemma known_next {g g' : UInt64} (h : next g = .ok g') : known g' = true := by
  unfold next at h
  split at h
  · exact absurd h (by simp)
  · rename_i hmax
    obtain rfl := Except.ok.inj h
    have hlt : g < g + 1 := lt_add_one hmax
    have hpos : 0 < g + 1 := lt_of_le_of_lt UInt64.zero_le hlt
    simpa [known] using ne_of_gt hpos

/-- What the passes ask does not depend on the device records. -/
lemma Observation.Present.of_eq (h : o.Present s) (hpartitions : t.partitions = s.partitions)
    (hprofiles : t.profiles = s.profiles) (hpolicy : t.policy = s.policy) : o.Present t := by
  constructor
  · intro p r hr
    rw [FabricState.findPartition, hpartitions] at hr
    exact (comparable_congr hprofiles).mpr (h.comparable p r hr)
  · intro native hnative hnamed
    have hready := h.recordable native hnative (by
      rintro ⟨p, r, hr, hrest⟩
      rw [FabricState.findPartition, ← hpartitions] at hr
      exact hnamed ⟨p, r, hr, hrest⟩)
    exact ⟨hready.device, hready.incarnation, hready.profile, by rw [hpolicy]; exact hready.policy⟩

lemma Observation.Present.reset {generation : AcceleratorGeneration} {boot : AcceleratorBootId}
    (h : o.Present s) (hgeneration : known generation = true) :
    ({ o with accelerator := { o.accelerator with
        generation := generation
        bootId := boot
        capability := { o.accelerator.capability with support := .unknown, generation := 0 } } } :
      Observation).Present s := by
  constructor
  · intro p r hr
    exact (h.comparable p r hr).reset
  · intro native hnative hnamed
    have hready := h.recordable native hnative hnamed
    exact ⟨hready.device, hgeneration, hready.profile, hready.policy⟩

lemma sound_passes_of_present {report : ReconciliationReport} (h : o.Present s)
    (hresources : ∀ native ∈ o.layout.partitions, native.resources.empty = false)
    (hs : Sound Any s) : Sound Any (o.reconcilePasses report s).1 := by
  apply sound_reconcilePasses
  · exact hs.mono fun k r hr _ _ ↦ h.comparable k r hr
  · exact hresources
  · intro native hnative hnamed t ht
    have hready := h.recordable native hnative hnamed
    exact ⟨hready.device, hready.incarnation, hready.profile, by rw [ht]; exact hready.policy⟩

/-- Recording a reset keeps what the passes ask. -/
lemma present_noteReset {report : ReconciliationReport} (h : o.Present s) (hs : Sound Any s) :
    Meets (Sound Any) (fun result t ↦ result.1.Present t ∧ result.1.layout = o.layout ∧
      Sound Any t) (o.noteReset report) s := by
  unfold Observation.noteReset
  split
  · cases hnext : next o.accelerator.generation with
    | error e => exact hs
    | ok generation =>
        change _ ∧ _ ∧ _
        refine ⟨?_, rfl, ?_⟩
        · exact (h.reset (known_next hnext)).of_eq rfl rfl rfl
        · exact hs.of_untouched ⟨rfl, le_refl _⟩
  · exact meets_pure ⟨h, rfl, hs⟩

lemma sound_reconcilePresent {report : ReconciliationReport} (h : o.Present s)
    (hresources : ∀ native ∈ o.layout.partitions, native.resources.empty = false)
    (hs : Sound Any s) : Sound Any (o.reconcilePresent report s).1 := by
  have hrun : Meets (Sound Any) (fun _ ↦ Sound Any) (o.reconcilePresent report) s := by
    apply meets_bind (present_noteReset h hs)
    rintro ⟨o', report'⟩ t ⟨hpresent, hlayout, ht⟩
    have hpasses : Advances (fun _ ↦ Sound Any) (o'.reconcilePasses (o'.noteDevice report')) t := by
      apply sound_passes_of_present hpresent _ ht
      rwa [hlayout]
    apply meets_bind (P := fun _ ↦ Sound Any)
    · exact meets_of_advances hpasses (fun _ hu ↦ hu) fun _ _ hu ↦ hu
    intro report'' u hu
    apply meets_modify_bind
    apply meets_modify_bind
    apply meets_pure
    exact (Untouched.sound apart_bump) (hu.of_untouched ⟨rfl, le_refl _⟩)
  exact hrun.fst fun _ _ ht ↦ ht

/-- What a reconciliation asks of the state before it. -/
def reconcilesInOrder (s : FabricState) (id : AcceleratorId) (observed : BackendLayout)
    (now : UInt64) : Prop :=
  ∀ accelerator, s.findAccelerator id = some accelerator →
    if observed.devicePresent then Observation.Present ⟨id, accelerator, observed, now⟩ s
    else ∀ p r, s.findPartition p = some r →
      Observation.Detachable ⟨id, accelerator, observed, now⟩ p r

lemma sound_reconcile {id : AcceleratorId} {observed : BackendLayout} {now : UInt64}
    (h : reconcilesInOrder s id observed now) (hs : Sound Any s) :
    Sound Any (reconcile id observed now s).1 := by
  unfold reconcile
  rw [get_bind]
  cases haccelerator : s.findAccelerator id with
  | none => exact hs
  | some accelerator =>
      have horder := h accelerator haccelerator
      cases hvalid : validateBackendLayout observed s.limits with
      | error e => exact hs
      | ok u =>
          change Sound Any ((allocateId >>= fun _ ↦ _ : FabricM ReconciliationReport) s).1
          rcases allocateId_cases s with ⟨e, halloc⟩ | ⟨ids, hlt, halloc⟩
          · rw [bind_error halloc]
            exact hs
          · rw [bind_ok halloc]
            have hallocated : Sound Any { s with ids := ids } :=
              hs.of_untouched ⟨rfl, le_of_lt hlt⟩
            split
            · rename_i hpresent
              rw [if_pos hpresent] at horder
              exact sound_reconcilePresent (horder.of_eq rfl rfl rfl)
                (resources_of_validate hvalid) hallocated
            · rename_i habsent
              rw [if_neg habsent] at horder
              refine (sound_reconcileAbsent ?_).any
              exact hallocated.mono fun k r hr _ _ ↦ horder k r hr

end Reconcile

end PartitionFabric
