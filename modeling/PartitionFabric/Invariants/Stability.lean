import Mathlib.Data.List.Find
import PartitionFabric.Invariants.Agreement
import PartitionFabric.Invariants.Granting

/-!
One reconciliation makes the registry mirror the observed layout, so that a second one has nothing
left to do. It may fail to where an ambiguous attempt is decided against the layout: a rejected
attempt wipes the identity of a partition that is still there, and an accepted one may bind an
observed partition to a record that is no part of the layout, or none at all.
-/

namespace PartitionFabric

open Procedure

variable {s s₀ t : FabricState}

section Surroundings

/-- What the passes never touch: the devices, the profiles, the policy and which ledgers there
are. -/
def FabricState.surroundings (s : FabricState) :=
  (s.accelerators, s.profiles, s.policy, fun id ↦ (s.findLedger id).isSome)

/-- The surroundings stay as they are. -/
abbrev KeepsSurroundings : FabricState → FabricState → Prop := Keeps FabricState.surroundings

lemma ledgers_insert {id : AcceleratorId} {ledger ledger' : CapacityLedger}
    (h : s.ledgers.find? id = some ledger) (k : AcceleratorId) :
    ((s.ledgers.insert id ledger').find? k).isSome = (s.ledgers.find? k).isSome := by
  rw [KeyedMap.find?_insert]
  split
  · rename_i heq
    rw [heq, h]
    rfl
  · rfl

lemma surroundings_onLedger {id : AcceleratorId} {m : LedgerM Unit} :
    Advances KeepsSurroundings (onLedger id m) s := by
  unfold Advances onLedger
  cases hledger : s.findLedger id with
  | none => exact refl_of _ s
  | some ledger =>
      have hledgers : (fun k ↦ ((s.setLedger id (m ledger).1).findLedger k).isSome) =
          fun k ↦ (s.findLedger k).isSome := by
        funext k
        exact ledgers_insert hledger k
      unfold KeepsSurroundings Keeps FabricState.surroundings
      rw [hledgers]
      rfl

lemma surroundings_transition {now : UInt64} {key : PartitionId} {target : PartitionState}
    {reason : Text} : Advances KeepsSurroundings (transitionPartition now key target reason) s := by
  unfold Advances
  rcases transitionPartition_cases now key target reason s with
    hsame | ⟨record, ledger, ledger', held, -, -, -, hledger, -, hmoved⟩
  · rw [hsame]
    exact refl_of _ s
  · rw [hmoved]
    have hledgers : (fun k ↦ ((s.transitioned now key record target reason ledger'
        held).findLedger k).isSome) = fun k ↦ (s.findLedger k).isSome := by
      funext k
      exact ledgers_insert hledger k
    unfold KeepsSurroundings Keeps FabricState.surroundings
    rw [hledgers]
    rfl

lemma surroundings_stamp {now : UInt64} {key : PartitionId} {accelerator : AcceleratorRecord}
    {provenance : EvidenceProvenance} {source : Text} :
    KeepsSurroundings s (stampPartitionEvidence now key accelerator provenance source s) := by
  obtain ⟨g, evidence, heq⟩ := stamp_eq now key accelerator provenance source s
  rw [heq]
  rfl

lemma surroundings_dropAssignments {test : PartitionId → Bool} :
    KeepsSurroundings s (dropAssignments test s) := by
  obtain ⟨assignments, heq⟩ := dropAssignments_eq test s
  rw [heq]
  rfl

variable {o : Observation} {pass : Pass} {key p : PartitionId} {record : PartitionRecord}

lemma surroundings_revalidateUncorrelated :
    Advances KeepsSurroundings (o.revalidateUncorrelated key record pass) s := by
  apply advances_ite
  · intro _
    exact advances_bind (advances_attempt surroundings_transition) fun _ _ _ ↦ advances_pure _ _
  · intro _
    exact advances_pure _ _

lemma surroundings_retireMissing :
    Advances KeepsSurroundings (o.retireMissing key record pass) s := by
  have hrelease : Advances KeepsSurroundings (o.releaseMissing record) s := by
    unfold Observation.releaseMissing
    cases record.heldBucket with
    | none => exact advances_pure _ _
    | some bucket => exact surroundings_onLedger
  apply advances_bind (advances_attempt hrelease)
  intro t released _
  refine advances_modify_bind rfl (advances_get_bind ?_)
  exact advances_modify_bind surroundings_dropAssignments (advances_pure _ _)

lemma surroundings_fenceChanged {native : BackendNativePartition} :
    Advances KeepsSurroundings (o.fenceChanged key record native pass) s :=
  advances_bind (advances_attempt (advances_when fun _ ↦ surroundings_transition))
    fun _ _ _ ↦ advances_pure _ _

lemma surroundings_adoptMatched {native : BackendNativePartition} :
    Advances KeepsSurroundings (o.adoptMatched key record native pass) s := by
  apply advances_bind (advances_attempt surroundings_transition)
  intro t status _
  cases status with
  | error e => exact advances_pure _ _
  | ok u => exact advances_modify_bind rfl (advances_pure _ _)

lemma surroundings_confirmMatched {native : BackendNativePartition} :
    Advances KeepsSurroundings (o.confirmMatched key record native pass) s := by
  apply advances_modify_bind surroundings_stamp
  apply advances_get_bind
  apply advances_ite
  · intro _
    exact advances_bind (advances_ignore surroundings_transition) fun _ _ _ ↦ advances_pure _ _
  · intro _
    apply advances_ite
    · intro _
      exact advances_ite (fun _ ↦ surroundings_adoptMatched) fun _ ↦ advances_pure _ _
    · intro _
      exact advances_pure _ _

lemma surroundings_matchRecord :
    Advances KeepsSurroundings (o.matchRecord pass key) s := by
  apply advances_get_bind
  cases (s.findPartition key).filter fun r ↦ r.accelerator = o.id && inLayout r with
  | none => exact advances_pure _ _
  | some record =>
      apply advances_ite
      · intro _
        exact surroundings_revalidateUncorrelated
      · intro _
        cases observedNative o.layout record.nativeIdentity.nativeId with
        | none => exact surroundings_retireMissing
        | some native =>
            exact advances_ite (fun _ ↦ surroundings_confirmMatched) fun _ ↦
              surroundings_fenceChanged

lemma surroundings_bindFound {backend : Text}
    {found : Option (BackendLayout × BackendNativePartition)} :
    KeepsSurroundings s (bindFound p backend found s) := by
  unfold bindFound
  cases found with
  | none => exact refl_of _ s
  | some pair => rfl

lemma surroundings_settlePartition {kind : AttemptKind} :
    Advances KeepsSurroundings (o.settlePartition kind p record pass) s := by
  apply advances_bind (advances_attempt surroundings_transition)
  intro t status _
  cases status with
  | error e => exact advances_get_bind (advances_pure _ _)
  | ok u =>
      exact advances_ite (fun _ ↦ advances_modify_bind rfl (advances_pure _ _)) fun _ ↦
        advances_pure _ _

lemma surroundings_adoptProduced {attempt : PartitionAttempt} {entry : PartitionId × ℕ} :
    Advances KeepsSurroundings (o.adoptProduced attempt pass entry) s := by
  apply advances_get_bind
  cases s.findPartition entry.1 with
  | none => exact advances_pure _ _
  | some record =>
      apply advances_modify_bind surroundings_bindFound
      exact advances_ite (fun _ ↦ surroundings_settlePartition) fun _ ↦ advances_pure _ _

lemma surroundings_withdrawPartition :
    Advances KeepsSurroundings (o.withdrawPartition p) s := by
  apply advances_get_bind
  apply advances_when
  intro _
  apply advances_bind (advances_attempt surroundings_transition)
  intro t status _
  cases status with
  | error e => exact advances_pure _ _
  | ok u => exact advances_modify rfl

lemma surroundings_releaseDecided {attempt : PartitionAttempt} :
    Advances KeepsSurroundings (o.releaseDecided attempt) s := by
  apply advances_get_bind
  cases s.findReservation attempt.reservation with
  | none => exact advances_pure _ _
  | some reservation =>
      apply advances_when
      intro _
      apply advances_modify_bind rfl
      exact advances_when fun _ ↦ advances_ignore surroundings_onLedger

end Surroundings

section Comparing

variable {o : Observation} {pass : Pass} {key p : PartitionId} {r r' record : PartitionRecord}
  {demands : Bool} {observed : BackendLayout} {native : BackendNativePartition}

lemma KeepsSurroundings.ledger (h : KeepsSurroundings s t) (id : AcceleratorId) :
    (t.findLedger id).isSome = (s.findLedger id).isSome := by
  have hledgers := congrArg (fun view ↦ view.2.2.2) h
  exact congrFun hledgers id

lemma KeepsSurroundings.profiles (h : KeepsSurroundings s t) : t.profiles = s.profiles :=
  congrArg (fun view ↦ view.2.1) h

lemma KeepsSurroundings.policy (h : KeepsSurroundings s t) : t.policy = s.policy :=
  congrArg (fun view ↦ view.2.2.1) h

lemma KeepsSurroundings.accelerators (h : KeepsSurroundings s t) :
    t.accelerators = s.accelerators :=
  congrArg (fun view ↦ view.1) h

lemma waits_congr (h : KeepsSurroundings s t) : Waits t r ↔ Waits s r := by
  unfold Waits
  rw [← Option.not_isSome_iff_eq_none, ← Option.not_isSome_iff_eq_none, h.ledger]

lemma rests_congr (h : KeepsSurroundings s t) (hrests : Rests s demands observed r) :
    Rests t demands observed r := by
  cases hrests with
  | unnamed hname hwaits => exact .unnamed hname fun hdemands ↦ (waits_congr h).mpr (hwaits hdemands)
  | named hobserved hstands =>
      refine .named hobserved (hstands.imp (waits_congr h).mpr ?_)
      rintro ⟨hprofile, hstate⟩
      exact ⟨(profileMatches_congr h.profiles rfl).trans hprofile, hstate⟩

/-- A record whose revalidation was asked for. -/
structure Revalidated (s : FabricState) (r r' : PartitionRecord) : Prop where
  accelerator : r'.accelerator = r.accelerator
  profile : r'.profile = r.profile
  native : r'.nativeIdentity = r.nativeIdentity
  layout : inLayout r' = true
  state : r'.state = r.state ∨ r'.state = .revalidationRequired
  waits : Waits s r'

variable {Q Q' : PartitionRecord → PartitionRecord → Prop}

/-- A step that leaves everything alone is localised at a record that may stay as it is. -/
lemma localized_still (hr : s.findPartition key = some r) (h : Q r r) : Localized key Q s s := by
  refine ⟨fun q hq ↦ ⟨q, hq, ?_⟩, id, fun _ _ ↦ rfl, rfl, rfl, rfl, rfl⟩
  obtain rfl := Option.some.inj (Eq.trans hr.symm hq)
  exact h

lemma Localized.weaken (h : Localized key Q s t) (hr : s.findPartition key = some r)
    (hQ : ∀ r', Q r r' → Q' r r') : Localized key Q' s t := by
  refine ⟨fun q hq ↦ ?_, h.absent, h.others, h.profiles, h.policy, h.attempts, h.ids⟩
  obtain ⟨q', hq', hrelated⟩ := h.record q hq
  obtain rfl := Option.some.inj (Eq.trans hr.symm hq)
  exact ⟨q', hq', hQ q' hrelated⟩

lemma allowed_revalidation (h : inLayout r = true) : Allowed r.state .revalidationRequired := by
  unfold inLayout at h
  revert h
  generalize r.state = state
  cases state <;> decide

/-- Asking for the revalidation of a record of the layout succeeds unless nothing is left to change. -/
lemma revalidated_transition {now : UInt64} {reason : Text} (hr : s.findPartition key = some r)
    (hin : inLayout r = true) : Localized key (Revalidated s) s
      (transitionPartition now key .revalidationRequired reason s).1 := by
  have hsame : Waits s r → Localized key (Revalidated s) s
      (transitionPartition now key .revalidationRequired reason s).1 := by
    intro hwaits
    rw [hwaits.revalidate hr]
    exact localized_still hr ⟨rfl, rfl, rfl, hin, Or.inl rfl, hwaits⟩
  by_cases hstate : r.state = .revalidationRequired
  · exact hsame (Or.inl hstate)
  · cases hledger : s.findLedger r.accelerator with
    | none => exact hsame (Or.inr hledger)
    | some ledger =>
        have hallowed : validateTransition r.state .revalidationRequired = .ok () :=
          allowed_revalidation hin
        unfold transitionPartition
        rw [hr]
        simp only [hallowed, if_neg hstate, hledger]
        refine ⟨fun q hq ↦ ⟨_, KeyedMap.find?_insert_self _ _ _, ?_⟩, fun hnone ↦ ?_,
          fun q hq ↦ KeyedMap.find?_insert_of_ne _ _ hq, rfl, rfl, rfl, rfl⟩
        · obtain rfl := Option.some.inj (Eq.trans hr.symm hq)
          exact ⟨rfl, rfl, rfl, rfl, Or.inr rfl, Or.inl rfl⟩
        · rw [FabricState.findPartition, hnone] at hr
          cases hr

/-- How a comparison with the layout leaves a record: on its device, with its profile and identity,
in the layout unless it is missing, and resting if it is there. -/
structure Observation.Compares (o : Observation) (s : FabricState) (r r' : PartitionRecord) :
    Prop where
  accelerator : r'.accelerator = r.accelerator
  profile : r'.profile = r.profile
  native : r'.nativeIdentity = r.nativeIdentity
  rests : r'.accelerator = o.id → inLayout r' = true →
    Rests s o.accelerator.capability.declaresSupported o.layout r'
  state : inLayout r' = true → inLayout r = true ∧
    (r'.state = r.state ∨ r'.state = .revalidationRequired)
  kept : inLayout r = true → ¬ o.missing r → inLayout r' = true
  steady : ∀ native, observedNative o.layout r.nativeIdentity.nativeId = some native →
    Observation.profileMatches s r native = true → r.state ≠ .offline → r'.state = r.state

lemma Observation.Compares.same (h : r.accelerator = o.id → inLayout r = true →
    Rests s o.accelerator.capability.declaresSupported o.layout r) : o.Compares s r r :=
  ⟨rfl, rfl, rfl, h, fun hin ↦ ⟨hin, Or.inl rfl⟩, fun hin _ ↦ hin, fun _ _ _ _ ↦ rfl⟩

/-- A record that is asked to be revalidated rests. -/
lemma Revalidated.compares (h : Revalidated s r r') (hin : inLayout r = true)
    (hshown : r.nativeIdentity.nativeId = [] ∨ o.shows r)
    (hunsteady : ∀ native, observedNative o.layout r.nativeIdentity.nativeId = some native →
      Observation.profileMatches s r native = true → r.state = .offline) : o.Compares s r r' := by
  refine ⟨h.accelerator, h.profile, h.native, fun _ _ ↦ ?_, fun _ ↦ ⟨hin, h.state⟩,
    fun _ _ ↦ h.layout, fun native hobserved hprofile hstate ↦ ?_⟩
  · rcases hshown with hname | hshows
    · exact .unnamed (by rw [h.native, hname]) fun _ ↦ h.waits
    · obtain ⟨native, hobserved⟩ := Option.isSome_iff_exists.mp hshows
      exact .named (by rw [h.native, hobserved]) (Or.inl h.waits)
  · exact absurd (hunsteady native hobserved hprofile) hstate

lemma Observation.Compares.congr (h : o.Compares s r r') (hs : KeepsSurroundings s t) :
    o.Compares t r r' := by
  refine ⟨h.accelerator, h.profile, h.native, fun hdevice hin ↦ rests_congr hs (h.rests hdevice hin),
    h.state, h.kept, fun native hobserved hprofile ↦ h.steady native hobserved ?_⟩
  exact (profileMatches_congr hs.profiles rfl).symm.trans hprofile

lemma compares_revalidateUncorrelated (hr : s.findPartition key = some record)
    (hin : inLayout record = true) (hname : record.nativeIdentity.nativeId = []) :
    Localized key (o.Compares s) s (o.revalidateUncorrelated key record pass s).1 := by
  unfold Observation.revalidateUncorrelated
  have hunseen : ∀ native, observedNative o.layout record.nativeIdentity.nativeId = some native →
      Observation.profileMatches s record native = true → record.state = .offline := by
    intro native hobserved
    exact absurd hname (findNative_eq_some hobserved).2.2
  split
  · have hmoved : Localized key (Revalidated s) s (transitionPartition o.now key
        .revalidationRequired "partition generation cannot be correlated with observed hardware"
        s).1 := revalidated_transition hr hin
    exact hmoved.weaken hr fun r' h ↦ h.compares hin (Or.inl hname) hunseen
  · rename_i hcalm
    refine localized_still hr (.same fun _ _ ↦ .unnamed hname fun hdemands ↦ Or.inl ?_)
    simpa [hdemands] using hcalm

lemma compares_retireMissing (hr : s.findPartition key = some record) (hmissing : o.missing record) :
    Localized key (o.Compares s) s (o.retireMissing key record pass s).1 := by
  have hrelease : Localized key Eq s (attempt (o.releaseMissing record) s).1 := by
    unfold Observation.releaseMissing
    cases record.heldBucket with
    | none => exact refl_of _ s
    | some bucket => exact localized_onLedger (s := s)
  have hretire : Localized key (fun _ r' ↦ r' = o.missingRecord record)
      (attempt (o.releaseMissing record) s).1
      ((attempt (o.releaseMissing record) s).1.modifyPartition key fun _ ↦ o.missingRecord record) :=
    localized_modify fun _ _ ↦ rfl
  have hdrop : Localized key Eq _ (dropAssignments (fun p ↦ p = record.id)
      ((attempt (o.releaseMissing record) s).1.modifyPartition key fun _ ↦ o.missingRecord record)) :=
    localized_dropAssignments
  have hall := (hrelease.comp hretire (T := fun _ r' ↦ r' = o.missingRecord record)
    fun _ _ _ _ h ↦ h).comp hdrop (T := fun _ r' ↦ r' = o.missingRecord record)
      fun _ _ _ h h' ↦ h'.symm.trans h
  apply hall.weaken hr
  rintro r' rfl
  have hout : inLayout (o.missingRecord record) = false := by
    simp [Observation.missingRecord, PartitionRecord.retire, inLayout, isTerminalState]
  refine ⟨by simp [Observation.missingRecord, PartitionRecord.retire], ?_,
    by simp [Observation.missingRecord, PartitionRecord.retire], fun _ hin ↦ ?_, fun hin ↦ ?_,
    fun _ hnot ↦ absurd hmissing hnot, fun native hobserved ↦ ?_⟩
  · obtain ⟨g, l, hsupersede⟩ := record.supersede_eq
    simp [Observation.missingRecord, PartitionRecord.retire, hsupersede]
  · rw [hout] at hin
    cases hin
  · rw [hout] at hin
    cases hin
  · rw [hmissing.2.2.2] at hobserved
    cases hobserved

lemma compares_fenceChanged (hr : s.findPartition key = some record) (hin : inLayout record = true)
    (hobserved : observedNative o.layout record.nativeIdentity.nativeId = some native)
    (hprofile : Observation.profileMatches s record native = false) :
    Localized key (o.Compares s) s (o.fenceChanged key record native pass s).1 := by
  have hmoved : Localized key (Revalidated s) s (Procedure.when
      (record.state ≠ .revalidationRequired) (transitionPartition o.now key .revalidationRequired
        "observed profile differs from the recorded profile") s).1 := by
    cases hstate : decide (record.state ≠ .revalidationRequired) with
    | true => exact revalidated_transition hr hin
    | false =>
        have hwaits : Waits s record := Or.inl (by simpa using hstate)
        exact localized_still hr ⟨rfl, rfl, rfl, hin, Or.inl rfl, hwaits⟩
  apply hmoved.weaken hr
  intro r' hrevalidated
  refine hrevalidated.compares hin ?_ fun native' hobserved' hprofile' ↦ ?_
  · exact Or.inr (Option.isSome_iff_exists.mpr ⟨native, hobserved⟩)
  · obtain rfl := Option.some.inj (hobserved.symm.trans hobserved')
    rw [hprofile] at hprofile'
    cases hprofile'

lemma compares_confirmMatched (hpolicy : s.policy.allowExternalAdoption = false)
    (hr : s.findPartition key = some record) (hin : inLayout record = true)
    (hobserved : observedNative o.layout record.nativeIdentity.nativeId = some native)
    (hprofile : Observation.profileMatches s record native = true) :
    Localized key (o.Compares s) s (o.confirmMatched key record native pass s).1 := by
  have hstamp : Localized key (fun r r' ↦ r'.unstamped = r.unstamped) s
      (o.evidence.stamp key s) := localized_stamp fun _ _ ↦ rfl
  have hsurroundings : KeepsSurroundings s (o.evidence.stamp key s) := surroundings_stamp
  obtain ⟨stamped, hstamped, hunstamped⟩ := hstamp.record record hr
  obtain ⟨evidence, provenance, rfl⟩ := eq_of_unstamped hunstamped
  unfold Observation.confirmMatched
  rw [modify_bind, get_bind]
  split
  · rename_i hoffline
    have hmoved := @revalidated_transition _ _ _ o.now
      "device reappeared; authority must be revalidated" hstamped hin
    have hall := hstamp.comp hmoved (T := fun r r' ↦ ∃ r₁, r₁.unstamped = r.unstamped ∧
      Revalidated (o.evidence.stamp key s) r₁ r') fun _ r₁ _ h h' ↦ ⟨r₁, h, h'⟩
    apply hall.weaken hr
    rintro r' ⟨r₁, hr₁, hrevalidated⟩
    obtain ⟨evidence', provenance', rfl⟩ := eq_of_unstamped hr₁
    have hrevalidated' : Revalidated s record r' := ⟨hrevalidated.accelerator, hrevalidated.profile,
      hrevalidated.native, hrevalidated.layout, hrevalidated.state,
      (waits_congr hsurroundings).mp hrevalidated.waits⟩
    exact hrevalidated'.compares hin (Or.inr (Option.isSome_iff_exists.mpr ⟨native, hobserved⟩))
      fun _ _ _ ↦ hoffline
  · rename_i honline
    have hall : Localized key (o.Compares s) s (o.evidence.stamp key s) := by
      apply hstamp.weaken hr
      intro r' hr'
      obtain ⟨evidence', provenance', rfl⟩ := eq_of_unstamped hr'
      refine ⟨rfl, rfl, rfl, fun _ _ ↦ ?_, fun h ↦ ⟨h, Or.inl rfl⟩, fun h _ ↦ h, fun _ _ _ _ ↦ rfl⟩
      exact .named hobserved (Or.inr ⟨hprofile, honline⟩)
    split
    · rw [hsurroundings.policy, hpolicy, if_neg Bool.false_ne_true]
      exact hall
    · exact hall

lemma compares_matchRecord (hpolicy : s.policy.allowExternalAdoption = false) :
    Localized key (o.Compares s) s (o.matchRecord pass key s).1 := by
  unfold Observation.matchRecord
  rw [get_bind]
  cases hfilter : (s.findPartition key).filter fun r ↦ r.accelerator = o.id && inLayout r with
  | none =>
      refine ⟨fun r hr ↦ ⟨r, hr, .same fun hdevice hin ↦ ?_⟩, id, fun _ _ ↦ rfl, rfl, rfl, rfl, rfl⟩
      have hnone := Option.filter_eq_none_iff.mp hfilter r hr
      simp [hdevice, hin] at hnone
  | some record =>
      obtain ⟨hr, hcond⟩ := Option.filter_eq_some_iff.mp hfilter
      simp only [Bool.and_eq_true, decide_eq_true_eq] at hcond
      obtain ⟨hdevice, hin⟩ := hcond
      simp only
      split
      · rename_i hempty
        exact compares_revalidateUncorrelated hr hin (List.isEmpty_iff.mp hempty)
      · rename_i hnamed
        cases hobserved : observedNative o.layout record.nativeIdentity.nativeId with
        | none =>
            refine compares_retireMissing hr ⟨hdevice, hin, fun hnil ↦ ?_, hobserved⟩
            exact hnamed (List.isEmpty_iff.mpr hnil)
        | some native =>
            simp only
            split
            · rename_i hprofile
              exact compares_confirmMatched hpolicy hr hin hobserved hprofile
            · rename_i hprofile
              exact compares_fenceChanged hr hin hobserved (by simpa using hprofile)

/-- What holds before the comparison of the records that are left, from the state that the
comparisons started in: the others are compared, and the names of those in the layout claimed. -/
structure ComparedTo (o : Observation) (s₀ : FabricState) (keys : List PartitionId) (pass : Pass)
    (s : FabricState) : Prop where
  untouched : ∀ p ∈ keys, s.findPartition p = s₀.findPartition p
  records : ∀ p, p ∉ keys → ∀ r', s.findPartition p = some r' →
    ∃ r, s₀.findPartition p = some r ∧ o.Compares s₀ r r'
  present : ∀ p, s.findPartition p = none → s₀.findPartition p = none
  claimed : ∀ native ∈ o.layout.partitions, native.nativeId ∈ pass.claimed ↔
    ∃ p r, p ∉ keys ∧ s₀.findPartition p = some r ∧ o.meetsAs native.nativeId r = true
  attempts : s.attempts = s₀.attempts
  ids : s.ids = s₀.ids
  surroundings : KeepsSurroundings s₀ s
  nodup : keys.Nodup

lemma comparedTo_initial {report : ReconciliationReport} :
    ComparedTo o s s.partitions.keys ⟨[], report⟩ s := by
  refine ⟨fun _ _ ↦ rfl, fun p hp r hr ↦ ?_, fun _ h ↦ h, fun native _ ↦ ?_, rfl, rfl, refl_of _ s,
    KeyedMap.keys_nodup _⟩
  · exact absurd (KeyedMap.mem_keys.mpr ⟨r, hr⟩) hp
  · constructor
    · intro hnil
      cases hnil
    · rintro ⟨p, r, hp, hr, -⟩
      exact absurd (KeyedMap.mem_keys.mpr ⟨r, hr⟩) hp

lemma comparedTo_matchRecord {rest : List PartitionId} (hlayout : o.layout.Distinct)
    (hpolicy : s₀.policy.allowExternalAdoption = false)
    (h : ComparedTo o s₀ (key :: rest) pass s) :
    Meets (fun _ ↦ False) (ComparedTo o s₀ rest) (o.matchRecord pass key) s := by
  obtain ⟨hkey, hnodup⟩ := List.nodup_cons.mp h.nodup
  have hstart := h.untouched key List.mem_cons_self
  have hstep : Localized key (o.Compares s) s (o.matchRecord pass key s).1 ∧
      KeepsSurroundings s (o.matchRecord pass key s).1 :=
    ⟨compares_matchRecord (h.surroundings.policy ▸ hpolicy), surroundings_matchRecord⟩
  apply (claimed_matchRecord o pass key s).mono
    (R := fun s t ↦ Localized key (o.Compares s) s t ∧ KeepsSurroundings s t) hstep
  rintro pass' t hclaimed ⟨hlocal, hframe⟩
  refine ⟨?_, ?_, ?_, ?_, hlocal.attempts.trans h.attempts, hlocal.ids.trans h.ids,
    trans_of KeepsSurroundings h.surroundings hframe, hnodup⟩
  · intro p hp
    have hne : p ≠ key := fun heq ↦ hkey (heq ▸ hp)
    exact (hlocal.others p hne).trans (h.untouched p (List.mem_cons_of_mem _ hp))
  · intro p hp r' hr'
    by_cases hpkey : p = key
    · subst hpkey
      obtain ⟨r, hr, hcompares⟩ := hlocal.source hr'
      exact ⟨r, hstart.symm.trans hr, hcompares.congr h.surroundings.symm⟩
    · exact h.records p (by simp [hpkey, hp]) r' ((hlocal.others p hpkey).symm.trans hr')
  · intro p hnone
    by_cases hpkey : p = key
    · subst hpkey
      rw [← hstart]
      cases hr : s.findPartition p with
      | none => rfl
      | some r =>
          obtain ⟨r', hr', -⟩ := hlocal.record r hr
          cases hnone.symm.trans hr'
    · exact h.present p ((hlocal.others p hpkey).symm.trans hnone)
  · intro native hnative
    have hold := h.claimed native hnative
    have hseen : ∀ r : PartitionRecord, o.meetsAs native.nativeId r = true →
        r.nativeIdentity.nativeId = native.nativeId := by
      intro r hmeets
      simp only [Observation.meetsAs, Bool.and_eq_true, decide_eq_true_eq] at hmeets
      exact hmeets.2
    rcases hclaimed with ⟨heq, hunseen⟩ | ⟨r₁, hr₁, hmeets₁, heq⟩
    · rw [heq, hold]
      constructor
      · rintro ⟨p, r, hp, hr, hmeets⟩
        exact ⟨p, r, fun hmem ↦ hp (List.mem_cons_of_mem _ hmem), hr, hmeets⟩
      · rintro ⟨p, r, hp, hr, hmeets⟩
        refine ⟨p, r, ?_, hr, hmeets⟩
        rw [List.mem_cons, not_or]
        refine ⟨?_, hp⟩
        rintro rfl
        have hname := hseen r hmeets
        refine hunseen r (hstart.trans hr) (hname ▸ hmeets) ?_
        rw [Observation.shows, hname]
        exact findNative_of_mem hlayout hnative
    · rw [heq, List.mem_append, List.mem_singleton, hold]
      constructor
      · rintro (⟨p, r, hp, hr, hmeets⟩ | hname)
        · exact ⟨p, r, fun hmem ↦ hp (List.mem_cons_of_mem _ hmem), hr, hmeets⟩
        · exact ⟨key, r₁, hkey, hstart.symm.trans hr₁, hname ▸ hmeets₁⟩
      · rintro ⟨p, r, hp, hr, hmeets⟩
        by_cases hpkey : p = key
        · subst hpkey
          obtain rfl := Option.some.inj (hr.symm.trans (hstart.symm.trans hr₁))
          exact Or.inr (hseen r hmeets).symm
        · exact Or.inl ⟨p, r, by simp [hpkey, hp], hr, hmeets⟩

/-- After the comparisons every record is compared. -/
lemma comparedTo_all {report : ReconciliationReport} (hlayout : o.layout.Distinct)
    (hpolicy : s.policy.allowExternalAdoption = false) :
    Meets (fun _ ↦ False) (ComparedTo o s [])
      (s.partitions.keys.foldlM o.matchRecord ⟨[], report⟩) s :=
  meets_foldlM (fun _ _ _ _ h ↦ comparedTo_matchRecord hlayout hpolicy h) comparedTo_initial

end Comparing

section Allotting

/-- What an accepted attempt finds for one of its records keeps the record in order: an observed
partition of its profile for a record of the layout that has none, and nothing for a record that
stands as the hardware shows it. -/
def suits (s : FabricState) (id : AcceleratorId) (demands : Bool) (observed : BackendLayout)
    (r : PartitionRecord) : Option BackendNativePartition → Bool
  | some native => r.accelerator = id && inLayout r && r.nativeIdentity.nativeId.isEmpty &&
      Observation.profileMatches s r native && (demands || r.state ≠ .offline)
  | none => !(r.accelerator = id && inLayout r) ||
      (!r.nativeIdentity.nativeId.isEmpty || !demands) &&
        (observedNative observed r.nativeIdentity.nativeId).all (Observation.profileMatches s r)

/-- The records of accepted attempts and what is wanted for them are served in order, each by the
first observed partition that is left, and what each of them finds suits it. -/
def allots (s : FabricState) (id : AcceleratorId) (demands : Bool) (observed : BackendLayout) :
    List Text → List (PartitionId × Option NativePartitionSpec) → Bool
  | _, [] => true
  | claimed, (p, spec) :: rest =>
    match s.findPartition p with
    | none => allots s id demands observed claimed rest
    | some r =>
      let found := spec.bind fun spec ↦ findUnclaimedNativeForSpec observed spec claimed
      suits s id demands observed r found &&
        allots s id demands observed
          (claimed ++ (found.map BackendNativePartition.nativeId).toList) rest

/-- The record at a position of an attempt's list, with what the attempt wants for it. -/
def PartitionAttempt.wanted (a : PartitionAttempt) (entry : PartitionId × ℕ) :
    PartitionId × Option NativePartitionSpec :=
  (entry.1, a.desired[entry.2]?.map PlannedPartition.spec)

/-- The records of the attempts under given keys, as far as a reconciliation accepts them. -/
def acceptedEntries (s : FabricState) (id : AcceleratorId) (layout : BackendLayout)
    (keys : List PartitionAttemptId) : List (PartitionId × Option NativePartitionSpec) :=
  keys.flatMap fun key ↦ (s.findAttempt key).toList.flatMap fun a ↦
    if a.ambiguousOn id && a.presentIn layout then a.partitions.zipIdx.map a.wanted else []

/-- The names that the records of a device in the layout have. -/
def namedBy (s : FabricState) (id : AcceleratorId) : List Text :=
  (s.partitions.values.filter fun r ↦ r.accelerator = id && inLayout r).map
    fun r ↦ r.nativeIdentity.nativeId

/-- A partition of an ambiguous attempt that is a destruction, or whose result is not there. -/
def Denied (s : FabricState) (id : AcceleratorId) (observed : BackendLayout) (p : PartitionId) :
    Prop :=
  ∃ key a, s.findAttempt key = some a ∧ a.accelerator = id ∧ a.state = .outcomeUnknown ∧
    (a.kind = .destroyPartition ∨ a.presentIn observed = false) ∧ p ∈ a.partitions

/-- What the device demands of its partitions once a reset that the layout shows is noted: nothing
is known of the capability of a device after its reset. -/
def demandsIdentity (a : AcceleratorRecord) (observed : BackendLayout) : Bool :=
  a.capability.declaresSupported && !showsReset observed a

/-- What an attempt desires is nothing that the layout shows. -/
def PartitionAttempt.Unserved (a : PartitionAttempt) (layout : BackendLayout) : Prop :=
  ∀ planned ∈ a.desired, ∀ native ∈ layout.partitions, planned.spec.admits native = false

/-- No record stands under any of the identities that are handed out next. -/
def Vacant (s : FabricState) (n : ℕ) : Prop :=
  ∀ p r, s.findPartition p = some r → p < s.ids.next ∨ s.ids.next.toNat + n ≤ p.toNat

/-- One reconciliation settles a device that demands identities or does not: the partitions that are
still there of every attempt that is not accepted stand as recorded, accepted attempts find what
suits their records, and no record is decided twice. -/
structure SettlesUnder (s : FabricState) (id : AcceleratorId) (demands : Bool)
    (observed : BackendLayout) : Prop where
  destructions : ∀ key a, s.findAttempt key = some a → a.accelerator = id →
    a.state = .outcomeUnknown → a.kind = .destroyPartition → a.Unserved observed
  denied : ∀ p, Denied s id observed p → ∀ r native, s.findPartition p = some r →
    r.accelerator = id → inLayout r = true →
    observedNative observed r.nativeIdentity.nativeId = some native →
      r.state ≠ .revalidationRequired ∧ r.state ≠ .offline ∧
        Observation.profileMatches s r native = true
  accepted : allots s id demands observed (namedBy s id)
    (acceptedEntries s id observed s.attempts.keys) = true
  once : ((acceptedEntries s id observed s.attempts.keys).map Prod.fst).Nodup
  apart : ∀ p ∈ (acceptedEntries s id observed s.attempts.keys).map Prod.fst,
    ¬ Denied s id observed p

/-- One reconciliation with a layout settles a device. It hands out an identity for its report and
at most one for each observed partition. -/
def SettlesAtOnce (s : FabricState) (id : AcceleratorId) (observed : BackendLayout) : Prop :=
  Vacant s (observed.partitions.length + 1) ∧
    ∀ a, s.findAccelerator id = some a → SettlesUnder s id (demandsIdentity a observed) observed

variable {id : AcceleratorId} {demands : Bool} {observed : BackendLayout} {claimed claimed' : List Text}
  {entries : List (PartitionId × Option NativePartitionSpec)}

/-- Only which observed partitions are claimed matters. -/
lemma findUnclaimed_congr (h : ∀ native ∈ observed.partitions,
    native.nativeId ∈ claimed ↔ native.nativeId ∈ claimed') (spec : NativePartitionSpec) :
    findUnclaimedNativeForSpec observed spec claimed =
      findUnclaimedNativeForSpec observed spec claimed' := by
  unfold findUnclaimedNativeForSpec
  apply List.find?_congr
  intro native hnative
  have hcontains : claimed.contains native.nativeId = claimed'.contains native.nativeId := by
    rw [Bool.eq_iff_iff, List.contains_iff_mem, List.contains_iff_mem]
    exact h native hnative
  rw [hcontains]

lemma allots_congr (h : ∀ native ∈ observed.partitions,
    native.nativeId ∈ claimed ↔ native.nativeId ∈ claimed') :
    allots s id demands observed claimed entries = allots s id demands observed claimed' entries := by
  induction entries generalizing claimed claimed' with
  | nil => rfl
  | cons entry rest ih =>
      obtain ⟨p, spec⟩ := entry
      unfold allots
      cases s.findPartition p with
      | none => exact ih h
      | some r =>
          have hfound : (fun spec ↦ findUnclaimedNativeForSpec observed spec claimed) =
              fun spec ↦ findUnclaimedNativeForSpec observed spec claimed' :=
            funext (findUnclaimed_congr h)
          simp only [hfound]
          congr 1
          apply ih
          intro native hnative
          rw [List.mem_append, List.mem_append, h native hnative]

lemma mem_namedBy {name : Text} : name ∈ namedBy s id ↔ ∃ p r, s.findPartition p = some r ∧
    r.accelerator = id ∧ inLayout r = true ∧ r.nativeIdentity.nativeId = name := by
  simp only [namedBy, List.mem_map, List.mem_filter, KeyedMap.mem_values, Bool.and_eq_true,
    decide_eq_true_eq]
  constructor
  · rintro ⟨r, ⟨⟨p, hr⟩, hdevice, hin⟩, hname⟩
    exact ⟨p, r, hr, hdevice, hin, hname⟩
  · rintro ⟨p, r, hr, hdevice, hin, hname⟩
    exact ⟨r, ⟨⟨p, hr⟩, hdevice, hin⟩, hname⟩

lemma suits_same (h : t.profiles = s.profiles) (r : PartitionRecord)
    (found : Option BackendNativePartition) :
    suits t id demands observed r found = suits s id demands observed r found := by
  have hmatches : Observation.profileMatches t r = Observation.profileMatches s r := by
    funext native
    exact profileMatches_congr h rfl
  cases found with
  | none =>
      unfold suits
      rw [hmatches]
  | some native =>
      unfold suits
      rw [hmatches]

lemma allots_same (h : SameRecords s t) : allots t id demands observed claimed entries =
    allots s id demands observed claimed entries := by
  induction entries generalizing claimed with
  | nil => rfl
  | cons entry rest ih =>
      obtain ⟨p, spec⟩ := entry
      have hfind : t.findPartition p = s.findPartition p :=
        congrArg (fun m : KeyedMap PartitionId PartitionRecord ↦ m.find? p) h.partitions
      unfold allots
      rw [hfind]
      cases s.findPartition p with
      | none => exact ih
      | some r =>
          simp only [suits_same h.profiles, ih]

lemma SettlesUnder.of_same (hs : SettlesUnder s id demands observed) (h : SameRecords s t) :
    SettlesUnder t id demands observed := by
  have hfind : ∀ p, t.findPartition p = s.findPartition p := fun p ↦
    congrArg (fun m : KeyedMap PartitionId PartitionRecord ↦ m.find? p) h.partitions
  have hattempt : ∀ key, t.findAttempt key = s.findAttempt key := fun key ↦
    congrArg (fun m : KeyedMap PartitionAttemptId PartitionAttempt ↦ m.find? key) h.attempts
  have hdenied : ∀ p, Denied t id observed p ↔ Denied s id observed p := fun p ↦ by
    unfold Denied
    simp only [hattempt]
  have hentries : acceptedEntries t id observed t.attempts.keys =
      acceptedEntries s id observed s.attempts.keys := by
    unfold acceptedEntries
    rw [h.attempts]
    simp only [hattempt]
  have hnames : namedBy t id = namedBy s id := by
    unfold namedBy
    rw [h.partitions]
  refine ⟨fun key a ha ↦ ?_, fun p hp r native hr ↦ ?_, ?_, ?_, fun p hp ↦ ?_⟩
  · exact hs.destructions key a ((hattempt key).symm.trans ha)
  · rw [profileMatches_congr h.profiles rfl]
    exact hs.denied p ((hdenied p).mp hp) r native ((hfind p).symm.trans hr)
  · rw [hentries, hnames, allots_same h]
    exact hs.accepted
  · rw [hentries]
    exact hs.once
  · rw [hentries] at hp
    rw [hdenied]
    exact hs.apart p hp

lemma Vacant.mono {n m : ℕ} (hs : Vacant s m) (hle : n ≤ m) : Vacant s n :=
  fun p r hr ↦ (hs p r hr).imp_right (Nat.add_le_add_left hle _).trans

lemma Vacant.ne {n : ℕ} {p : PartitionId} {r : PartitionRecord} (hs : Vacant s (n + 1))
    (hr : s.findPartition p = some r) : p ≠ s.ids.next := by
  rintro rfl
  rcases hs _ r hr with hlt | hle
  · exact absurd hlt (lt_irrefl _)
  · omega

/-- An identity is handed out. -/
lemma Vacant.allocate {n : ℕ} (hs : Vacant s (n + 1)) (hmax : s.ids.next ≠ uint64Max)
    (hids : t.ids.next = s.ids.next + 1)
    (h : ∀ p, p ≠ s.ids.next → t.findPartition p = s.findPartition p) : Vacant t n := by
  intro p r hr
  rw [hids, toNat_add_one hmax]
  by_cases hp : p = s.ids.next
  · rw [hp]
    exact Or.inl (lt_add_one hmax)
  · rcases hs p r ((h p hp).symm.trans hr) with hlt | hle
    · exact Or.inl (hlt.trans (lt_add_one hmax))
    · exact Or.inr (by omega)

end Allotting

section Settling

variable {o : Observation} {pass : Pass} {key : PartitionAttemptId} {p q : PartitionId}
  {record r r' : PartitionRecord} {claimed : List Text} {native : BackendNativePartition}
  {attempt : PartitionAttempt} {entries : List (PartitionId × Option NativePartitionSpec)}
  {Q : PartitionRecord → PartitionRecord → Prop} {t₁ u : FabricState}

/-- During the decisions every record of the device rests, every claimed partition is named by a
record of the layout, and what may be withdrawn is not up for it while the hardware shows it. -/
structure Consistent (o : Observation) (s₀ : FabricState) (claimed : List Text) (s : FabricState) :
    Prop where
  rests : ∀ p r, s.findPartition p = some r → r.accelerator = o.id → inLayout r = true →
    Rests s₀ o.accelerator.capability.declaresSupported o.layout r
  named : ∀ native ∈ o.layout.partitions, native.nativeId ∈ claimed →
    ∃ p r, s.findPartition p = some r ∧ o.meetsAs native.nativeId r = true
  denied : ∀ p, Denied s₀ o.id o.layout p → ∀ r, s.findPartition p = some r →
    r.accelerator = o.id → inLayout r = true → o.shows r → r.state ≠ .revalidationRequired
  present : ∀ p, s.findPartition p = none ↔ s₀.findPartition p = none
  ids : s.ids = s₀.ids
  surroundings : KeepsSurroundings s₀ s

/-- A change of one record keeps consistency when the record rests afterwards, keeps the observed
names that it has, and is not put up for withdrawal. -/
lemma Consistent.change (h : Consistent o s₀ claimed t) (hlocal : Localized q Q t u)
    (hframe : KeepsSurroundings t u)
    (hrests : ∀ r r', t.findPartition q = some r → Q r r' → r'.accelerator = o.id →
      inLayout r' = true → Rests s₀ o.accelerator.capability.declaresSupported o.layout r')
    (hnamed : ∀ r r', t.findPartition q = some r → Q r r' → ∀ native ∈ o.layout.partitions,
      o.meetsAs native.nativeId r = true → o.meetsAs native.nativeId r' = true)
    (hdenied : Denied s₀ o.id o.layout q → ∀ r r', t.findPartition q = some r → Q r r' →
      r'.accelerator = o.id → inLayout r' = true → o.shows r' →
        r'.state ≠ .revalidationRequired) : Consistent o s₀ claimed u := by
  refine ⟨?_, ?_, ?_, ?_, hlocal.ids.trans h.ids, trans_of KeepsSurroundings h.surroundings hframe⟩
  · intro p r' hr' hdevice hin
    by_cases hp : p = q
    · subst hp
      obtain ⟨r, hr, hrelated⟩ := hlocal.source hr'
      exact hrests r r' hr hrelated hdevice hin
    · exact h.rests p r' ((hlocal.others p hp).symm.trans hr') hdevice hin
  · intro native hnative hclaimed
    obtain ⟨p, r, hr, hmeets⟩ := h.named native hnative hclaimed
    by_cases hp : p = q
    · subst hp
      obtain ⟨r', hr', hrelated⟩ := hlocal.record r hr
      exact ⟨p, r', hr', hnamed r r' hr hrelated native hnative hmeets⟩
    · exact ⟨p, r, (hlocal.others p hp).trans hr, hmeets⟩
  · intro p hp r' hr' hdevice hin hshows
    by_cases hpq : p = q
    · subst hpq
      obtain ⟨r, hr, hrelated⟩ := hlocal.source hr'
      exact hdenied hp r r' hr hrelated hdevice hin hshows
    · exact h.denied p hp r' ((hlocal.others p hpq).symm.trans hr') hdevice hin hshows
  · intro p
    rw [← h.present p]
    by_cases hp : p = q
    · subst hp
      refine ⟨fun hnone ↦ ?_, hlocal.absent⟩
      cases hr : t.findPartition p with
      | none => rfl
      | some r =>
          obtain ⟨r', hr', -⟩ := hlocal.record r hr
          cases hnone.symm.trans hr'
    · rw [show u.findPartition p = t.findPartition p from hlocal.others p hp]

/-- Nothing happens to the records. -/
lemma Consistent.same (h : Consistent o s₀ claimed t) (hlocal : Localized q Eq t u)
    (hframe : KeepsSurroundings t u) : Consistent o s₀ claimed u := by
  apply h.change hlocal hframe
  · rintro r _ hr rfl
    exact h.rests q r hr
  · rintro r _ hr rfl native hnative hmeets
    exact hmeets
  · rintro hq r _ hr rfl
    exact h.denied q hq r hr

/-- A record that is taken out of the layout, or left as it is. -/
structure SetAside (r r' : PartitionRecord) : Prop where
  accelerator : r'.accelerator = r.accelerator
  aside : r' = r ∨ inLayout r' = false

instance : Std.Refl SetAside := ⟨fun _ ↦ ⟨rfl, Or.inl rfl⟩⟩

instance : IsTrans PartitionRecord SetAside where
  trans r r' r'' h h' := by
    refine ⟨h'.accelerator.trans h.accelerator, ?_⟩
    rcases h'.aside with rfl | hout
    · exact h.aside
    · exact Or.inr hout

/-- What the hardware does not show may be taken out of the layout. -/
lemma Consistent.setAside (h : Consistent o s₀ claimed t) (hlayout : o.layout.Distinct)
    (hlocal : Localized q SetAside t u) (hframe : KeepsSurroundings t u)
    (hunseen : ∀ r, t.findPartition q = some r → r.accelerator = o.id → inLayout r = true →
      ¬ o.shows r) : Consistent o s₀ claimed u := by
  have hin_of : ∀ {r r'}, SetAside r r' → inLayout r' = true → r' = r := by
    intro r r' haside hin
    apply haside.aside.resolve_right
    rw [hin]
    exact Bool.noConfusion
  apply h.change hlocal hframe
  · intro r r' hr haside hdevice hin
    obtain rfl := hin_of haside hin
    exact h.rests q r' hr hdevice hin
  · intro r r' hr _ native hnative hmeets
    simp only [Observation.meetsAs, Bool.and_eq_true, decide_eq_true_eq] at hmeets
    refine absurd ?_ (hunseen r hr hmeets.1.1 hmeets.1.2)
    rw [Observation.shows, hmeets.2]
    exact findNative_of_mem hlayout hnative
  · intro _ r r' hr haside hdevice hin hshows
    obtain rfl := hin_of haside hin
    exact absurd hshows (hunseen r' hr hdevice hin)

/-- What is left to serve, from the state after the comparisons: the records are untouched, and
what they find suits them. -/
structure Pending (o : Observation) (s₀ t₁ : FabricState)
    (entries : List (PartitionId × Option NativePartitionSpec)) (claimed : List Text)
    (s : FabricState) : Prop where
  untouched : ∀ p ∈ entries.map Prod.fst, s.findPartition p = t₁.findPartition p
  allots : allots s₀ o.id o.accelerator.capability.declaresSupported o.layout claimed entries = true
  once : (entries.map Prod.fst).Nodup
  apart : ∀ p ∈ entries.map Prod.fst, ¬ Denied s₀ o.id o.layout p

lemma Pending.others (h : Pending o s₀ t₁ entries claimed t) (hlocal : Localized q Q t u)
    (hq : q ∉ entries.map Prod.fst) : Pending o s₀ t₁ entries claimed u := by
  refine ⟨fun p hp ↦ ?_, h.allots, h.once, h.apart⟩
  have hne : p ≠ q := fun heq ↦ hq (heq ▸ hp)
  exact (hlocal.others p hne).trans (h.untouched p hp)

/-- A record that may be withdrawn is not to be served. -/
lemma Pending.not_mem (h : Pending o s₀ t₁ entries claimed t) (hq : Denied s₀ o.id o.layout q) :
    q ∉ entries.map Prod.fst := fun hmem ↦ h.apart q hmem hq

/-- Consistent with what is still to be served, and with attempts that stay as they are. -/
structure Underway (o : Observation) (s₀ t₁ : FabricState) (m : KeyedMap PartitionAttemptId
    PartitionAttempt) (entries : List (PartitionId × Option NativePartitionSpec))
    (claimed : List Text) (s : FabricState) : Prop where
  consistent : Consistent o s₀ claimed s
  pending : Pending o s₀ t₁ entries claimed s
  attempts : s.attempts = m

variable {m : KeyedMap PartitionAttemptId PartitionAttempt}

/-- A withdrawal takes its record out of the layout. -/
lemma setAside_withdrawPartition : Advances (Localized q SetAside) (o.withdrawPartition q) s := by
  apply advances_get_bind
  apply advances_when
  intro _
  apply advances_bind (advances_attempt (localized_transition fun r _ _ ↦ ⟨rfl, Or.inr rfl⟩))
  intro t status ht
  cases status with
  | error e => exact advances_pure _ _
  | ok u =>
      apply advances_modify
      apply localized_modify
      intro r hr
      have hstate : r.state = .unpartitioned := state_of_transition (attempt_eq_ok ht) hr
      refine ⟨by simp, Or.inr ?_⟩
      simp [inLayout, hstate]

/-- A destruction that took effect takes its record out of the layout. -/
lemma setAside_settleDestroyed :
    Advances (Localized q SetAside) (o.settlePartition .destroyPartition q record pass) s := by
  apply advances_bind (advances_attempt (localized_transition fun r _ _ ↦ ⟨rfl, Or.inr rfl⟩))
  intro t status ht
  cases status with
  | error e => exact advances_get_bind (advances_pure _ _)
  | ok u =>
      refine advances_modify_bind (localized_modify fun r hr ↦ ?_) (advances_pure _ _)
      have hstate : r.state = .retired := state_of_transition (attempt_eq_ok ht) hr
      refine ⟨by simp, Or.inr ?_⟩
      simp [inLayout, hstate, isTerminalState]

lemma underway_withdrawPartition (hlayout : o.layout.Distinct) (hq : Denied s₀ o.id o.layout q)
    (h : Underway o s₀ t₁ m entries claimed t) :
    Meets (fun _ ↦ False) (fun _ ↦ Underway o s₀ t₁ m entries claimed) (o.withdrawPartition q) t := by
  have hstep : Consistent o s₀ claimed (o.withdrawPartition q t).1 ∧
      Localized q SetAside t (o.withdrawPartition q t).1 := by
    have haside : Localized q SetAside t (o.withdrawPartition q t).1 := setAside_withdrawPartition
    refine ⟨?_, haside⟩
    by_cases hup : ∃ r, t.findPartition q = some r ∧ r.state = .revalidationRequired
    · obtain ⟨r, hr, hstate⟩ := hup
      apply h.consistent.setAside hlayout haside surroundings_withdrawPartition
      intro r₁ hr₁ hdevice hin hshows
      obtain rfl := Option.some.inj (hr.symm.trans hr₁)
      exact h.consistent.denied q hq r hr hdevice hin hshows hstate
    · -- only what awaits revalidation is withdrawn
      have hsame : Localized q Eq t (o.withdrawPartition q t).1 :=
        localized_withdrawPartition fun r hr hstate ↦ absurd ⟨r, hr, hstate⟩ hup
      exact h.consistent.same hsame surroundings_withdrawPartition
  apply withdrawPartition_ends.mono (R := fun t u ↦ Consistent o s₀ claimed u ∧
    Localized q SetAside t u) hstep
  rintro _ u _ ⟨hconsistent, hlocal⟩
  exact ⟨hconsistent, h.pending.others hlocal (h.pending.not_mem hq),
    hlocal.attempts.trans h.attempts⟩

lemma localized_releaseDecided [Std.Refl Q] [IsTrans PartitionRecord Q] :
    Advances (Localized q Q) (o.releaseDecided attempt) s := by
  apply advances_get_bind
  cases s.findReservation attempt.reservation with
  | none => exact advances_pure _ _
  | some reservation =>
      apply advances_when
      intro _
      refine advances_modify_bind (.of_eq rfl rfl rfl rfl rfl) ?_
      exact advances_when fun _ ↦ advances_ignore localized_onLedger

/-- A step that leaves the one record it touches as it is leaves every record as it is. -/
lemma Localized.find_eq (h : Localized q Eq t u) (p : PartitionId) :
    u.findPartition p = t.findPartition p := by
  by_cases hp : p = q
  · subst hp
    cases hr : t.findPartition p with
    | none => exact h.absent hr
    | some r =>
        obtain ⟨r', hr', rfl⟩ := h.record r hr
        exact hr'
  · exact h.others p hp

lemma Underway.same (h : Underway o s₀ t₁ m entries claimed t) (hlocal : Localized q Eq t u)
    (hframe : KeepsSurroundings t u) : Underway o s₀ t₁ m entries claimed u :=
  ⟨h.consistent.same hlocal hframe, ⟨fun p hp ↦ (hlocal.find_eq p).trans (h.pending.untouched p hp),
    h.pending.allots, h.pending.once, h.pending.apart⟩, hlocal.attempts.trans h.attempts⟩

/-- Only the history of the attempts changes. -/
lemma Underway.attempted (h : Underway o s₀ t₁ m entries claimed t)
    (m' : KeyedMap PartitionAttemptId PartitionAttempt) :
    Underway o s₀ t₁ m' entries claimed { t with attempts := m' } :=
  ⟨⟨h.consistent.rests, h.consistent.named, h.consistent.denied, h.consistent.present,
    h.consistent.ids, h.consistent.surroundings⟩,
    ⟨h.pending.untouched, h.pending.allots, h.pending.once, h.pending.apart⟩, rfl⟩

/-- What a decision leads to: the attempt is decided, and the rest is underway. -/
abbrev Decides (o : Observation) (s₀ t₁ : FabricState)
    (entries : List (PartitionId × Option NativePartitionSpec)) (key : PartitionAttemptId)
    (m : FabricM Pass) (t : FabricState) : Prop :=
  Meets (fun _ ↦ False) (fun pass u ↦ ∃ detail,
    Underway o s₀ t₁ (o.decideAttempt key detail t).attempts entries pass.claimed u) m t

lemma decides_rejectAttempt (hlayout : o.layout.Distinct)
    (hdenied : ∀ p ∈ attempt.partitions, Denied s₀ o.id o.layout p)
    (h : Underway o s₀ t₁ m entries pass.claimed t) :
    Decides o s₀ t₁ entries key (o.rejectAttempt key attempt pass) t := by
  let detail : Text := "reconciled: the intended physical result is absent"
  have hdecided := h.attempted (o.decideAttempt key detail t).attempts
  have hloop : Meets (fun _ ↦ False)
      (fun _ u ↦ (∀ p ∈ ([] : List PartitionId), Denied s₀ o.id o.layout p) ∧
        Underway o s₀ t₁ (o.decideAttempt key detail t).attempts entries pass.claimed u)
      (attempt.partitions.forM o.withdrawPartition) (o.decideAttempt key detail t) := by
    apply meets_forM (Q := fun ps u ↦ (∀ p ∈ ps, Denied s₀ o.id o.layout p) ∧
      Underway o s₀ t₁ (o.decideAttempt key detail t).attempts entries pass.claimed u) _
      ⟨hdenied, hdecided⟩
    rintro p rest u ⟨hrest, hu⟩
    apply (underway_withdrawPartition hlayout (hrest p List.mem_cons_self) hu).mono
      (R := fun _ _ ↦ True) trivial
    intro _ v hv _
    exact ⟨fun p hp ↦ hrest p (List.mem_cons_of_mem _ hp), hv⟩
  apply meets_modify_bind
  apply meets_bind hloop
  rintro _ u ⟨-, hu⟩
  have hrelease : Localized key Eq u (o.releaseDecided attempt u).1 ∧
      KeepsSurroundings u (o.releaseDecided attempt u).1 :=
    ⟨localized_releaseDecided, surroundings_releaseDecided⟩
  apply meets_bind (releaseDecided_ends.mono
    (R := fun u v ↦ Localized key Eq u v ∧ KeepsSurroundings u v) hrelease fun _ v _ hv ↦ hv)
  rintro _ v ⟨hlocal, hframe⟩
  exact meets_pure ⟨detail, hu.same hlocal hframe⟩

/-- Nothing is found for what the layout does not show. -/
lemma PartitionAttempt.Unserved.found (h : attempt.Unserved o.layout) (index : ℕ)
    (claimed : List Text) :
    (attempt.desired[index]?.bind fun planned ↦ o.evidence.unclaimed planned claimed) = none := by
  cases hplanned : attempt.desired[index]? with
  | none => rfl
  | some planned =>
      have hnone : findUnclaimedNativeForSpec o.layout planned.spec claimed = none := by
        refine List.find?_eq_none.mpr fun native hnative ↦ ?_
        rw [h planned (List.mem_of_getElem? hplanned) native hnative, Bool.and_false]
        exact Bool.false_ne_true
      exact congrArg (Option.map _) hnone

/-- A destruction that took effect retires records that the hardware does not show. -/
lemma underway_adoptDestroyed {entry : PartitionId × ℕ} (hlayout : o.layout.Distinct)
    (hkind : attempt.kind = .destroyPartition) (hdesired : attempt.Unserved o.layout)
    (hq : Denied s₀ o.id o.layout entry.1)
    (hunseen : ∀ r, t.findPartition entry.1 = some r → ¬ o.shows r)
    (h : Underway o s₀ t₁ m entries pass.claimed t) :
    Meets (fun _ ↦ False) (fun pass' u ↦ Underway o s₀ t₁ m entries pass'.claimed u ∧
      Localized entry.1 Quiet t u) (o.adoptProduced attempt pass entry) t := by
  obtain ⟨q, index⟩ := entry
  apply meets_get_bind
  cases hrecord : t.findPartition q with
  | none => exact meets_pure ⟨h, refl_of _ t⟩
  | some record =>
      simp only [hdesired.found]
      apply meets_modify_bind
      split
      · rw [hkind]
        have hstep : Localized q SetAside t
              (o.settlePartition .destroyPartition q record pass t).1 ∧
            Localized q Quiet t (o.settlePartition .destroyPartition q record pass t).1 ∧
            KeepsSurroundings t (o.settlePartition .destroyPartition q record pass t).1 :=
          ⟨setAside_settleDestroyed, quiet_settleDestroyed, surroundings_settlePartition⟩
        apply (keepsClaims_settlePartition : KeepsClaims pass _ _).mono
          (R := fun t u ↦ Localized q SetAside t u ∧ Localized q Quiet t u ∧
            KeepsSurroundings t u) hstep
        rintro pass' u hclaimed ⟨haside, hquiet, hframe⟩
        rw [hclaimed]
        refine ⟨⟨?_, h.pending.others haside (h.pending.not_mem hq),
          haside.attempts.trans h.attempts⟩, hquiet⟩
        exact h.consistent.setAside hlayout haside hframe fun r hr _ _ ↦ hunseen r hr
      · exact meets_pure ⟨h, refl_of _ t⟩

lemma decides_acceptDestroyed (hlayout : o.layout.Distinct)
    (hkind : attempt.kind = .destroyPartition) (hdesired : attempt.Unserved o.layout)
    (hdenied : ∀ p ∈ attempt.partitions, Denied s₀ o.id o.layout p)
    (hunseen : ∀ p ∈ attempt.partitions, ∀ r, t.findPartition p = some r → ¬ o.shows r)
    (h : Underway o s₀ t₁ m entries pass.claimed t) :
    Decides o s₀ t₁ entries key (o.acceptAttempt key attempt pass) t := by
  let detail : Text := "reconciled: the intended physical result is present"
  have hloop : Meets (fun _ ↦ False)
      (fun pass u ↦ Underway o s₀ t₁ (o.decideAttempt key detail t).attempts entries pass.claimed u ∧
        (∀ p ∈ attempt.partitions, ∀ r, u.findPartition p = some r → ¬ o.shows r) ∧
        ([] : List (PartitionId × ℕ)) ⊆ attempt.partitions.zipIdx)
      (attempt.partitions.zipIdx.foldlM (o.adoptProduced attempt) pass)
      (o.decideAttempt key detail t) := by
    apply meets_foldlM (Q := fun list (pass : Pass) u ↦
      Underway o s₀ t₁ (o.decideAttempt key detail t).attempts entries pass.claimed u ∧
        (∀ p ∈ attempt.partitions, ∀ r, u.findPartition p = some r → ¬ o.shows r) ∧
        list ⊆ attempt.partitions.zipIdx)
    · rintro entry rest pass u ⟨hu, hunseen, hsub⟩
      have hmem : entry.1 ∈ attempt.partitions :=
        List.fst_mem_of_mem_zipIdx (hsub List.mem_cons_self)
      apply (underway_adoptDestroyed hlayout hkind hdesired (hdenied _ hmem) (hunseen _ hmem)
        hu).mono (R := fun _ _ ↦ True) trivial
      rintro pass' v ⟨hv, hquiet⟩ -
      refine ⟨hv, fun p hp r' hr' ↦ ?_, fun e he ↦ hsub (List.mem_cons_of_mem _ he)⟩
      obtain ⟨r, hr, hrecord⟩ := hquiet.back hr'
      rcases hrecord.name with hname | hname
      · rw [Observation.shows, hname]
        exact hunseen p hp r hr
      · exact not_shows_empty hname
    · exact ⟨h.attempted _, hunseen, List.Subset.refl _⟩
  apply meets_modify_bind
  apply meets_bind hloop
  rintro pass' u ⟨hu, -, -⟩
  apply meets_modify_bind
  have hsame : Localized (0 : PartitionId) Eq u
      (o.settleDecided attempt .committed "committed after reconciliation" u) :=
    .of_eq rfl rfl rfl rfl rfl
  exact meets_pure ⟨detail, hu.same hsame rfl⟩

/-- What an accepted attempt does to one of its records: it binds the record to what it found, and
may make it active. -/
structure Adopts (found : Option BackendNativePartition) (r r' : PartitionRecord) : Prop where
  accelerator : r'.accelerator = r.accelerator
  profile : r'.profile = r.profile
  name : r'.nativeIdentity.nativeId =
    found.elim r.nativeIdentity.nativeId BackendNativePartition.nativeId
  state : r'.state = r.state ∨ r'.state = .active
  layout : inLayout r' = inLayout r

/-- A settled record keeps its place in the layout. -/
structure MayActivate (r r' : PartitionRecord) : Prop where
  accelerator : r'.accelerator = r.accelerator
  profile : r'.profile = r.profile
  native : r'.nativeIdentity = r.nativeIdentity
  state : r'.state = r.state ∨ r'.state = .active

instance : Std.Refl MayActivate := ⟨fun _ ↦ ⟨rfl, rfl, rfl, Or.inl rfl⟩⟩

instance : IsTrans PartitionRecord MayActivate where
  trans r r' r'' h h' := by
    refine ⟨h'.accelerator.trans h.accelerator, h'.profile.trans h.profile,
      h'.native.trans h.native, ?_⟩
    rcases h'.state with hstate | hactive
    · rw [hstate]
      exact h.state
    · exact Or.inr hactive

lemma mayActivate_settlePartition {kind : AttemptKind} (hkind : kind ≠ .destroyPartition) :
    Advances (Localized q MayActivate) (o.settlePartition kind q record pass) s := by
  have htarget : Observation.settledTarget kind = .active := if_neg hkind
  apply advances_bind (advances_attempt (localized_transition fun r _ _ ↦
    ⟨rfl, rfl, rfl, Or.inr htarget⟩))
  intro t status _
  cases status with
  | error e => exact advances_get_bind (advances_pure _ _)
  | ok u =>
      apply advances_ite
      · intro h
        exact absurd h hkind
      · intro _
        exact advances_pure _ _

lemma unclaimed_eq (planned : Option PlannedPartition) (claimed : List Text) :
    (planned.bind fun planned ↦ o.evidence.unclaimed planned claimed) =
      ((planned.map PlannedPartition.spec).bind fun spec ↦
        findUnclaimedNativeForSpec o.layout spec claimed).map fun native ↦ (o.layout, native) := by
  cases planned with
  | none => rfl
  | some planned => rfl

lemma claim_eq (claimed : List Text) (found : Option BackendNativePartition) :
    claim claimed (found.map fun native ↦ (o.layout, native)) =
      claimed ++ (found.map BackendNativePartition.nativeId).toList := by
  cases found with
  | none => exact (List.append_nil claimed).symm
  | some native => rfl

/-- A record that was bound, before it is settled. -/
structure FoundAs (found : Option BackendNativePartition) (r r' : PartitionRecord) : Prop where
  accelerator : r'.accelerator = r.accelerator
  profile : r'.profile = r.profile
  name : r'.nativeIdentity.nativeId =
    found.elim r.nativeIdentity.nativeId BackendNativePartition.nativeId
  state : r'.state = r.state

lemma foundAs_bindFound {backend : Text} {found : Option BackendNativePartition}
    (hr : s.findPartition q = some r) : Localized q (FoundAs found) s
      (bindFound q backend (found.map fun native ↦ (o.layout, native)) s) := by
  cases found with
  | none => exact localized_still hr ⟨rfl, rfl, rfl, rfl⟩
  | some native => exact localized_modify fun _ _ ↦ ⟨rfl, rfl, rfl, rfl⟩

/-- An accepted creation or reconfiguration binds each of its records to the first observed
partition that is left, and claims that. -/
lemma adopts_adoptProduced {index : ℕ} {found : Option BackendNativePartition}
    (hkind : attempt.kind ≠ .destroyPartition) (hr : t.findPartition q = some record)
    (hfound : found = (attempt.desired[index]?.map PlannedPartition.spec).bind fun spec ↦
      findUnclaimedNativeForSpec o.layout spec pass.claimed) :
    Meets (fun _ ↦ False) (fun pass' u ↦ pass'.claimed = pass.claimed ++
        (found.map BackendNativePartition.nativeId).toList ∧ Localized q (Adopts found) t u)
      (o.adoptProduced attempt pass (q, index)) t := by
  apply meets_get_bind
  simp only [hr, unclaimed_eq, ← hfound]
  apply meets_modify_bind
  have hbound : Localized q (FoundAs found) t
      (bindFound q o.accelerator.backend (found.map fun native ↦ (o.layout, native)) t) :=
    foundAs_bindFound hr
  split
  · rename_i hunsettled
    have hin : inLayout record = true := by
      simp only [Bool.or_eq_true, decide_eq_true_eq] at hunsettled
      unfold inLayout
      rcases hunsettled with hstate | hstate
      · rw [hstate]
        rfl
      · rw [hstate]
        rfl
    apply keepsClaims_settlePartition.mono (mayActivate_settlePartition hkind)
    intro pass' u hclaimed hsettled
    refine ⟨hclaimed.trans (claim_eq _ _), ?_⟩
    apply (hbound.comp hsettled (T := fun r r' ↦ inLayout r = true → Adopts found r r') ?_).weaken
      hr fun r' h ↦ h hin
    intro r r' r'' hfoundAs hactivate hin
    have hin'' : inLayout r'' = true := by
      unfold inLayout
      rcases hactivate.state with hstate | hstate
      · rw [hstate, hfoundAs.state]
        exact hin
      · rw [hstate]
        rfl
    refine ⟨hactivate.accelerator.trans hfoundAs.accelerator,
      hactivate.profile.trans hfoundAs.profile, ?_, ?_, hin''.trans hin.symm⟩
    · rw [hactivate.native, hfoundAs.name]
    · rw [← hfoundAs.state]
      exact hactivate.state
  · refine meets_pure ⟨claim_eq _ _, hbound.weaken hr fun r' h ↦ ?_⟩
    refine ⟨h.accelerator, h.profile, h.name, Or.inl h.state, ?_⟩
    unfold inLayout
    rw [h.state]

lemma observedNative_of_mem (hlayout : o.layout.Distinct) (h : native ∈ o.layout.partitions) :
    observedNative o.layout native.nativeId = some native := by
  obtain ⟨native', hnative'⟩ := Option.isSome_iff_exists.mp (findNative_of_mem hlayout h)
  obtain ⟨hmem, hname, -⟩ := findNative_eq_some hnative'
  obtain rfl := eq_of_nativeId hlayout hmem h hname
  exact hnative'

variable {r'' : PartitionRecord} {found : Option BackendNativePartition}

lemma Waits.adopted (hw : Waits s r') (ha : Adopts found r' r'') (hstate : r''.state = r'.state) :
    Waits s r'' := by
  unfold Waits
  rw [hstate, ha.accelerator]
  exact hw

/-- A record that found what suits it rests. -/
lemma Adopts.rests (hlayout : o.layout.Distinct) (hc : o.Compares s₀ r r')
    (hs : suits s₀ o.id o.accelerator.capability.declaresSupported o.layout r found = true)
    (hfound : ∀ native, found = some native → native ∈ o.layout.partitions)
    (ha : Adopts found r' r'') (hdevice : r''.accelerator = o.id) (hin : inLayout r'' = true) :
    Rests s₀ o.accelerator.capability.declaresSupported o.layout r'' := by
  have hdevice' : r'.accelerator = o.id := ha.accelerator.symm.trans hdevice
  have hin' : inLayout r' = true := ha.layout.symm.trans hin
  have hrests := hc.rests hdevice' hin'
  obtain ⟨hin₀, hstate₀⟩ := hc.state hin'
  have hprofile : ∀ native, Observation.profileMatches s₀ r'' native =
      Observation.profileMatches s₀ r native := fun native ↦
    profileMatches_congr rfl (ha.profile.trans hc.profile)
  have hactive : r''.state = .active → r''.state ≠ .offline := fun h ↦ by rw [h]; decide
  cases found with
  | none =>
      have hname : r''.nativeIdentity.nativeId = r.nativeIdentity.nativeId := by
        rw [ha.name, hc.native]
        rfl
      have hdevice₀ : r.accelerator = o.id := hc.accelerator.symm.trans hdevice'
      simp only [suits, hdevice₀, hin₀, decide_true, Bool.and_self, Bool.not_true, Bool.false_or,
        Bool.and_eq_true, Bool.or_eq_true, Bool.not_eq_true'] at hs
      obtain ⟨hnamed, hmatches⟩ := hs
      cases hrests with
      | unnamed hname' _ =>
          rw [hc.native] at hname'
          refine .unnamed (hname.trans hname') fun hdemands ↦ ?_
          rw [hname', hdemands] at hnamed
          exact absurd hnamed (by decide)
      | named hobserved hstands =>
          rw [hc.native] at hobserved
          rw [hobserved, Option.all_some] at hmatches
          refine .named (by rw [hname, hobserved]) ?_
          rcases ha.state with hstate | hstate
          · refine hstands.imp (·.adopted ha hstate) fun h ↦ ⟨(hprofile _).trans hmatches, ?_⟩
            rw [hstate]
            exact h.2
          · exact Or.inr ⟨(hprofile _).trans hmatches, hactive hstate⟩
  | some native =>
      simp only [suits, Bool.and_eq_true, decide_eq_true_eq, Bool.or_eq_true] at hs
      obtain ⟨⟨⟨⟨-, -⟩, hempty⟩, hmatches⟩, hoffline⟩ := hs
      have hname : r'.nativeIdentity.nativeId = [] := by
        rw [hc.native]
        exact List.isEmpty_iff.mp hempty
      have hobserved : observedNative o.layout r''.nativeIdentity.nativeId = some native := by
        rw [ha.name]
        exact observedNative_of_mem hlayout (hfound native rfl)
      refine .named hobserved ?_
      · by_cases hstate : r''.state = .offline
        · -- an offline record has no ledger, or the device demands nothing of it
          have hsame : r''.state = r'.state := ha.state.resolve_right fun h ↦ hactive h hstate
          cases hrests with
          | unnamed _ hwaits =>
              refine Or.inl ((hwaits ?_).adopted ha hsame)
              refine hoffline.resolve_right fun honline ↦ ?_
              rcases hstate₀ with hkept | hkept
              · exact honline (hkept.symm.trans (hsame.symm.trans hstate))
              · rw [← hsame, hstate] at hkept
                cases hkept
          | named hobserved _ => exact absurd hname (findNative_eq_some hobserved).2.2
        · exact Or.inr ⟨(hprofile _).trans hmatches, hstate⟩

/-- A record that found what suits it keeps the observed name that it has. -/
lemma Adopts.keeps_name (hlayout : o.layout.Distinct) (hc : o.Compares s₀ r r')
    (hs : suits s₀ o.id o.accelerator.capability.declaresSupported o.layout r found = true)
    (ha : Adopts found r' r'') (hnative : native ∈ o.layout.partitions)
    (hmeets : o.meetsAs native.nativeId r' = true) : o.meetsAs native.nativeId r'' = true := by
  simp only [Observation.meetsAs, Bool.and_eq_true, decide_eq_true_eq] at hmeets ⊢
  cases found with
  | none => exact ⟨⟨ha.accelerator.trans hmeets.1.1, ha.layout.trans hmeets.1.2⟩,
      ha.name.trans hmeets.2⟩
  | some native' =>
      simp only [suits, Bool.and_eq_true] at hs
      have hname : native.nativeId = [] := by
        rw [← hmeets.2, hc.native]
        exact List.isEmpty_iff.mp hs.1.1.2
      exact absurd hname (ne_nil_of_mem hlayout hnative)

/-- A record that found an observed partition names it. -/
lemma Adopts.names (hc : o.Compares s₀ r r')
    (hs : suits s₀ o.id o.accelerator.capability.declaresSupported o.layout r (some native) = true)
    (ha : Adopts (some native) r' r'') : o.meetsAs native.nativeId r'' = true := by
  simp only [suits, Bool.and_eq_true, decide_eq_true_eq] at hs
  obtain ⟨⟨⟨⟨hdevice, hin⟩, hempty⟩, -⟩, -⟩ := hs
  have hin' : inLayout r' = true :=
    hc.kept hin fun hmissing ↦ hmissing.2.2.1 (List.isEmpty_iff.mp hempty)
  simp only [Observation.meetsAs, Bool.and_eq_true, decide_eq_true_eq]
  exact ⟨⟨ha.accelerator.trans (hc.accelerator.trans hdevice), ha.layout.trans hin'⟩, ha.name⟩

/-- What was found is claimed when a record of the layout names it. -/
lemma Consistent.claim (h : Consistent o s₀ claimed t) (hlayout : o.layout.Distinct)
    (hfound : ∀ native, found = some native → native ∈ o.layout.partitions ∧
      ∃ p r, t.findPartition p = some r ∧ o.meetsAs native.nativeId r = true) :
    Consistent o s₀ (claimed ++ (found.map BackendNativePartition.nativeId).toList) t := by
  refine ⟨h.rests, fun native hnative hclaimed ↦ ?_, h.denied, h.present, h.ids, h.surroundings⟩
  rcases List.mem_append.mp hclaimed with hold | hnew
  · exact h.named native hnative hold
  · rw [Option.mem_toList, Option.map_eq_some_iff] at hnew
    obtain ⟨native', hfound', hname⟩ := hnew
    obtain ⟨hnative', hnamed⟩ := hfound native' hfound'
    obtain rfl := eq_of_nativeId hlayout hnative' hnative hname
    exact hnamed

/-- An accepted attempt serves the next of its records. -/
lemma underway_adoptProduced {index : ℕ} (hlayout : o.layout.Distinct)
    (hkind : attempt.kind ≠ .destroyPartition)
    (hcompared : ∀ p r', t₁.findPartition p = some r' →
      ∃ r, s₀.findPartition p = some r ∧ o.Compares s₀ r r')
    (h : Underway o s₀ t₁ m (attempt.wanted (q, index) :: entries) pass.claimed t) :
    Meets (fun _ ↦ False) (fun pass' u ↦ Underway o s₀ t₁ m entries pass'.claimed u)
      (o.adoptProduced attempt pass (q, index)) t := by
  obtain ⟨hconsistent, ⟨huntouched, hallots, honce, hapart⟩, hattempts⟩ := h
  simp only [PartitionAttempt.wanted, List.map_cons, List.nodup_cons]
    at huntouched hallots honce hapart
  obtain ⟨hq, honce⟩ := honce
  have hrest : ∀ claimed, allots s₀ o.id o.accelerator.capability.declaresSupported o.layout
      claimed entries = true → Pending o s₀ t₁ entries claimed t := fun claimed hleft ↦
    ⟨fun p hp ↦ huntouched p (List.mem_cons_of_mem _ hp), hleft, honce,
      fun p hp ↦ hapart p (List.mem_cons_of_mem _ hp)⟩
  unfold allots at hallots
  cases hrecord : t.findPartition q with
  | none =>
      rw [(hconsistent.present q).mp hrecord] at hallots
      unfold Observation.adoptProduced
      apply meets_get_bind
      simp only [hrecord]
      exact meets_pure ⟨hconsistent, hrest _ hallots, hattempts⟩
  | some r' =>
      obtain ⟨r, hr, hcompares⟩ := hcompared q r' ((huntouched q List.mem_cons_self).symm.trans hrecord)
      rw [hr] at hallots
      simp only [Bool.and_eq_true] at hallots
      obtain ⟨hsuits, hleft⟩ := hallots
      have hstep : KeepsSurroundings t (o.adoptProduced attempt pass (q, index) t).1 :=
        surroundings_adoptProduced
      apply (adopts_adoptProduced hkind hrecord rfl).mono (R := KeepsSurroundings) hstep
      rintro pass' u ⟨hclaimed, hlocal⟩ hframe
      have hfound : ∀ native, ((attempt.desired[index]?.map PlannedPartition.spec).bind fun spec ↦
          findUnclaimedNativeForSpec o.layout spec pass.claimed) = some native →
          native ∈ o.layout.partitions := by
        intro native heq
        obtain ⟨spec, -, hfind⟩ := Option.bind_eq_some_iff.mp heq
        exact List.mem_of_find?_eq_some hfind
      refine ⟨?_, ?_, hlocal.attempts.trans hattempts⟩
      · rw [hclaimed]
        apply Consistent.claim _ hlayout
        · intro native heq
          refine ⟨hfound native heq, ?_⟩
          obtain ⟨r'', hr'', hadopts⟩ := hlocal.record r' hrecord
          rw [heq] at hsuits hadopts
          exact ⟨q, r'', hr'', hadopts.names hcompares hsuits⟩
        · apply hconsistent.change hlocal hframe
          · intro r₁ r'' hr₁ hadopts hdevice hin
            obtain rfl := Option.some.inj (hr₁.symm.trans hrecord)
            exact hadopts.rests hlayout hcompares hsuits hfound hdevice hin
          · intro r₁ r'' hr₁ hadopts native hnative hmeets
            obtain rfl := Option.some.inj (hr₁.symm.trans hrecord)
            exact hadopts.keeps_name hlayout hcompares hsuits hnative hmeets
          · intro hdenied
            exact absurd hdenied (hapart q List.mem_cons_self)
      · rw [hclaimed]
        exact (hrest _ hleft).others hlocal hq

/-- An accepted creation or reconfiguration serves all its records. -/
lemma decides_acceptAttempt (hlayout : o.layout.Distinct) (hkind : attempt.kind ≠ .destroyPartition)
    (hcompared : ∀ p r', t₁.findPartition p = some r' →
      ∃ r, s₀.findPartition p = some r ∧ o.Compares s₀ r r')
    (h : Underway o s₀ t₁ m (attempt.partitions.zipIdx.map attempt.wanted ++ entries)
      pass.claimed t) :
    Decides o s₀ t₁ entries key (o.acceptAttempt key attempt pass) t := by
  let detail : Text := "reconciled: the intended physical result is present"
  have hloop : Meets (fun _ ↦ False)
      (fun pass u ↦ Underway o s₀ t₁ (o.decideAttempt key detail t).attempts
        (([] : List (PartitionId × ℕ)).map attempt.wanted ++ entries) pass.claimed u)
      (attempt.partitions.zipIdx.foldlM (o.adoptProduced attempt) pass)
      (o.decideAttempt key detail t) := by
    apply meets_foldlM (Q := fun list (pass : Pass) u ↦
      Underway o s₀ t₁ (o.decideAttempt key detail t).attempts
        (list.map attempt.wanted ++ entries) pass.claimed u)
    · rintro ⟨q, index⟩ rest pass u hu
      exact underway_adoptProduced hlayout hkind hcompared hu
    · exact h.attempted _
  apply meets_modify_bind
  apply meets_bind hloop
  intro pass' u hu
  apply meets_modify_bind
  have hsame : Localized (0 : PartitionId) Eq u
      (o.settleDecided attempt .committed "committed after reconciliation" u) :=
    .of_eq rfl rfl rfl rfl rfl
  exact meets_pure ⟨detail, hu.same hsame rfl⟩

/-- What holds before the decision of the attempts that are left. -/
structure Resolving (o : Observation) (s₀ t₁ : FabricState) (keys : List PartitionAttemptId)
    (pass : Pass) (s : FabricState) : Prop where
  underway : Underway o s₀ t₁ s.attempts (acceptedEntries s₀ o.id o.layout keys) pass.claimed s
  left : ∀ key ∈ keys, s.findAttempt key = s₀.findAttempt key
  decided : ∀ key, key ∉ keys → ∀ a, s.findAttempt key = some a → a.accelerator = o.id →
    a.state ≠ .outcomeUnknown
  nodup : keys.Nodup

variable {keys : List PartitionAttemptId}

lemma acceptedEntries_cons : acceptedEntries s o.id o.layout (key :: keys) =
    acceptedEntries s o.id o.layout [key] ++ acceptedEntries s o.id o.layout keys := by
  simp [acceptedEntries]

lemma acceptedEntries_passed (h : ∀ a, s.findAttempt key = some a → a.ambiguousOn o.id = true →
    a.presentIn o.layout = false) : acceptedEntries s o.id o.layout [key] = [] := by
  unfold acceptedEntries
  rw [List.flatMap_singleton]
  cases hfind : s.findAttempt key with
  | none => rfl
  | some a =>
      have hnot : ¬ (a.ambiguousOn o.id && a.presentIn o.layout) = true := by
        rw [Bool.and_eq_true]
        rintro ⟨hambiguous, hpresent⟩
        rw [h a hfind hambiguous] at hpresent
        cases hpresent
      rw [Option.toList_some, List.flatMap_singleton, if_neg hnot]

/-- A decision leaves the other attempts to be decided. -/
lemma Resolving.decide {pass' : Pass} (h : Resolving o s₀ t₁ (key :: keys) pass t) {detail : Text}
    (hu : Underway o s₀ t₁ (o.decideAttempt key detail t).attempts
      (acceptedEntries s₀ o.id o.layout keys) pass'.claimed u) : Resolving o s₀ t₁ keys pass' u := by
  obtain ⟨hkey, hnodup⟩ := List.nodup_cons.mp h.nodup
  have hothers : ∀ k, k ≠ key → u.findAttempt k = t.findAttempt k := by
    intro k hk
    rw [FabricState.findAttempt, hu.attempts]
    exact KeyedMap.find?_modify_of_ne _ _ hk
  refine ⟨⟨hu.consistent, hu.pending, rfl⟩, fun k hk ↦ ?_, fun k hk a ha hdevice ↦ ?_, hnodup⟩
  · have hne : k ≠ key := fun heq ↦ hkey (heq ▸ hk)
    exact (hothers k hne).trans (h.left k (List.mem_cons_of_mem _ hk))
  · by_cases heq : k = key
    · subst heq
      rw [FabricState.findAttempt, hu.attempts, Observation.decideAttempt,
        FabricState.modifyAttempt, KeyedMap.find?_modify, if_pos rfl] at ha
      obtain ⟨a₀, -, rfl⟩ := Option.map_eq_some_iff.mp ha
      simp
    · rw [hothers k heq] at ha
      exact h.decided k (by simp [heq, hk]) a ha hdevice

lemma resolving_resolveAttempt (hlayout : o.layout.Distinct)
    (hcompared : ∀ p r', t₁.findPartition p = some r' →
      ∃ r, s₀.findPartition p = some r ∧ o.Compares s₀ r r')
    (hdestructions : ∀ key a, s₀.findAttempt key = some a → a.accelerator = o.id →
      a.state = .outcomeUnknown → a.kind = .destroyPartition → a.Unserved o.layout)
    (h : Resolving o s₀ t₁ (key :: keys) pass t) :
    Meets (fun _ ↦ False) (Resolving o s₀ t₁ keys) (o.resolveAttempt pass key) t := by
  have hsame := h.left key List.mem_cons_self
  have hunderway := h.underway
  rw [acceptedEntries_cons] at hunderway
  have hpassed : (∀ a, s₀.findAttempt key = some a → a.ambiguousOn o.id = true →
      a.presentIn o.layout = false) → Underway o s₀ t₁ t.attempts
        (acceptedEntries s₀ o.id o.layout keys) pass.claimed t := by
    intro hnot
    rwa [acceptedEntries_passed hnot, List.nil_append] at hunderway
  have hfinish : ∀ {m : FabricM Pass},
      Decides o s₀ t₁ (acceptedEntries s₀ o.id o.layout keys) key m t →
      Meets (fun _ ↦ False) (Resolving o s₀ t₁ keys) m t := by
    intro m hm
    apply hm.mono (R := fun _ _ ↦ True) trivial
    rintro pass' u ⟨detail, hu⟩ -
    exact h.decide hu
  apply meets_get_bind
  cases hattempt : (t.findAttempt key).filter fun a ↦
      a.accelerator = o.id && a.state = .outcomeUnknown with
  | none =>
      obtain ⟨-, hnodup⟩ := List.nodup_cons.mp h.nodup
      have hdecided : ∀ a, t.findAttempt key = some a → a.accelerator = o.id →
          a.state ≠ .outcomeUnknown := by
        intro a ha hdevice hstate
        have hnone := Option.filter_eq_none_iff.mp hattempt a ha
        simp [hdevice, hstate] at hnone
      refine meets_pure ⟨hpassed fun a ha hambiguous ↦ ?_,
        fun k hk ↦ h.left k (List.mem_cons_of_mem _ hk), fun k hk a ha hdevice ↦ ?_, hnodup⟩
      · simp only [PartitionAttempt.ambiguousOn, Bool.and_eq_true, decide_eq_true_eq] at hambiguous
        exact absurd hambiguous.1.2 (hdecided a (hsame.trans ha) hambiguous.1.1)
      · by_cases heq : k = key
        · exact hdecided a (heq ▸ ha) hdevice
        · exact h.decided k (by simp [heq, hk]) a ha hdevice
  | some attempt =>
      obtain ⟨hfind, hcond⟩ := Option.filter_eq_some_iff.mp hattempt
      have hfind₀ : s₀.findAttempt key = some attempt := hsame.symm.trans hfind
      simp only [Bool.and_eq_true, decide_eq_true_eq] at hcond
      have hdenied : attempt.kind = .destroyPartition ∨ attempt.presentIn o.layout = false →
          ∀ p ∈ attempt.partitions, Denied s₀ o.id o.layout p := fun hnot p hp ↦
        ⟨key, attempt, hfind₀, hcond.1, hcond.2, hnot, hp⟩
      simp only
      apply hfinish
      by_cases hkind : attempt.kind = .destroyPartition
      · have hleft := hpassed fun a ha hambiguous ↦ by
          obtain rfl := Option.some.inj (hfind₀.symm.trans ha)
          simp [PartitionAttempt.ambiguousOn, hkind] at hambiguous
        split
        · rename_i hsatisfied
          apply decides_acceptDestroyed hlayout hkind
            (hdestructions key attempt hfind₀ hcond.1 hcond.2 hkind) (hdenied (Or.inl hkind))
          · intro p hp r hr hshows
            rw [Observation.satisfied, if_pos hkind, Bool.not_eq_true',
              List.any_eq_false] at hsatisfied
            refine hsatisfied p hp ((Option.any_eq_true _ _).mpr ⟨r, hr, ?_⟩)
            obtain ⟨native, hnative⟩ := Option.isSome_iff_exists.mp hshows
            simp only [Bool.and_eq_true, Bool.not_eq_true', List.isEmpty_eq_false_iff]
            exact ⟨(findNative_eq_some hnative).2.2, hshows⟩
          · exact hleft
        · apply decides_rejectAttempt hlayout (hdenied (Or.inl hkind))
          exact hleft
      · have hambiguous : attempt.ambiguousOn o.id = true := by
          simp [PartitionAttempt.ambiguousOn, hcond, hkind]
        have hsatisfied : o.satisfied t attempt = attempt.presentIn o.layout := if_neg hkind
        rw [hsatisfied]
        split
        · rename_i hpresent
          apply decides_acceptAttempt hlayout hkind hcompared
          have hentries : acceptedEntries s₀ o.id o.layout [key] =
              attempt.partitions.zipIdx.map attempt.wanted := by
            simp [acceptedEntries, hfind₀, hambiguous, hpresent]
          rwa [hentries] at hunderway
        · rename_i habsent
          have hnot : attempt.presentIn o.layout = false := by simpa using habsent
          apply decides_rejectAttempt hlayout (hdenied (Or.inr hnot))
          apply hpassed
          intro a ha _
          obtain rfl := Option.some.inj (hfind₀.symm.trans ha)
          exact hnot

end Settling

section Recording

variable {o : Observation} {record : PartitionRecord} {report : ReconciliationReport}
  {claimed : List Text} {l : List BackendNativePartition} {u : FabricState} {q : PartitionId}

/-- What is held as unexpected keeps its state where policy does not adopt it, and nothing but a
ledger changes. -/
lemma waits_holdUnexpected (hwaits : record.state = .revalidationRequired) :
    Meets (fun _ ↦ False) (fun entry t ↦ (∃ held, entry.1 = { record with heldBucket := held }) ∧
      Localized q Eq s t ∧ KeepsSurroundings s t) (o.holdUnexpected record report) s := by
  apply meets_get_bind
  cases s.findLedger o.id with
  | none => exact meets_pure ⟨⟨record.heldBucket, rfl⟩, refl_of _ s, refl_of _ s⟩
  | some ledger =>
      simp only
      have hledger : Advances (fun s t ↦ Localized q Eq s t ∧ KeepsSurroundings s t)
          (onLedger o.id (CapacityLedger.moveBetween CapacityBucket.free.raw
            CapacityBucket.reconfigurationHeld.raw record.resources)) s :=
        ⟨localized_onLedger (s := s), surroundings_onLedger (s := s)⟩
      apply meets_attempt_bind hledger
      intro status t ht
      cases status with
      | error e => exact meets_pure ⟨⟨record.heldBucket, rfl⟩, ht⟩
      | ok v =>
          simp only
          have hpromoted : o.promoteHeld record t =
              (t, .ok { record with heldBucket := some .reconfigurationHeld }) := by
            unfold Observation.promoteHeld
            rw [if_neg (by rw [hwaits]; decide)]
            rfl
          unfold Meets
          rw [bind_ok hpromoted]
          exact ⟨⟨some .reconfigurationHeld, rfl⟩, ht⟩

/-- What recording the unexplained partitions of a list leads to: the records that were there stay,
the new ones rest, and every partition of the list is claimed or named unless the identities are
used up. -/
structure RecordsRest (o : Observation) (s₀ : FabricState) (claimed : List Text)
    (l : List BackendNativePartition) (s t : FabricState) : Prop where
  kept : ∀ p r, s.findPartition p = some r → t.findPartition p = some r
  new : ∀ p r, t.findPartition p = some r → s.findPartition p = some r ∨
    Rests s₀ o.accelerator.capability.declaresSupported o.layout r
  named : ∀ native ∈ l, native.nativeId ∈ claimed ∨
    (∃ p r, t.findPartition p = some r ∧ o.meetsAs native.nativeId r = true) ∨
    t.ids.next = uint64Max
  attempts : t.attempts = s.attempts
  surroundings : KeepsSurroundings s t

/-- The record of one unexplained partition is new, names it and awaits revalidation. -/
structure RecordsOne (o : Observation) (native : BackendNativePartition) (s t : FabricState) :
    Prop where
  record : ∃ r, t.findPartition s.ids.next = some r ∧ r.accelerator = o.id ∧
    r.state = .revalidationRequired ∧ r.nativeIdentity.nativeId = native.nativeId
  others : ∀ p, p ≠ s.ids.next → t.findPartition p = s.findPartition p
  ids : t.ids.next = s.ids.next + 1
  attempts : t.attempts = s.attempts
  surroundings : KeepsSurroundings s t

lemma recordsOne_stamp {native : BackendNativePartition} {held : Option CapacityBucket}
    (hpolicy : s.policy.allowExternalAdoption = false)
    (hlocal : Localized q Eq { s with ids := ⟨s.ids.next + 1⟩ } t)
    (hframe : KeepsSurroundings { s with ids := ⟨s.ids.next + 1⟩ } t)
    (hrecord : record = { o.unexpectedRecord { s with ids := ⟨s.ids.next + 1⟩ } native s.ids.next
      with heldBucket := held }) :
    RecordsOne o native s (o.evidence.stamp s.ids.next
      { t with partitions := t.partitions.insert s.ids.next record }) := by
  have hstamp : Localized s.ids.next (fun r r' ↦ r'.unstamped = r.unstamped)
      { t with partitions := t.partitions.insert s.ids.next record }
      (o.evidence.stamp s.ids.next { t with partitions := t.partitions.insert s.ids.next record }) :=
    localized_stamp fun _ _ ↦ rfl
  have hstamped : KeepsSurroundings { t with partitions := t.partitions.insert s.ids.next record }
      (o.evidence.stamp s.ids.next { t with partitions := t.partitions.insert s.ids.next record }) :=
    surroundings_stamp
  refine ⟨?_, fun p hp ↦ ?_, ?_, hstamp.attempts.trans hlocal.attempts, hstamped.trans hframe⟩
  · obtain ⟨r, hr, hunstamped⟩ := hstamp.record record (KeyedMap.find?_insert_self _ _ _)
    obtain ⟨evidence, provenance, rfl⟩ := eq_of_unstamped hunstamped
    refine ⟨_, hr, ?_⟩
    have hstate : record.state = .revalidationRequired := by
      rw [hrecord]
      exact if_neg (by rw [hpolicy]; exact Bool.false_ne_true)
    refine ⟨?_, hstate, ?_⟩
    · change record.accelerator = o.id
      rw [hrecord]
      rfl
    · change record.nativeIdentity.nativeId = native.nativeId
      rw [hrecord]
      rfl
  · have hinserted : (t.partitions.insert s.ids.next record).find? p = t.partitions.find? p :=
      KeyedMap.find?_insert_of_ne _ _ hp
    exact (hstamp.others p hp).trans (hinserted.trans (hlocal.find_eq p))
  · rw [hstamp.ids]
    exact congrArg IdAllocator.next hlocal.ids

lemma recordsRest_recordUnexpected (hlayout : o.layout.Distinct) (hl : l ⊆ o.layout.partitions)
    (hpolicy : s.policy.allowExternalAdoption = false)
    (hvacant : Vacant s l.length) :
    Meets (fun _ ↦ False) (fun _ t ↦ RecordsRest o s₀ claimed l s t)
      (o.recordUnexpected claimed l report) s := by
  induction l generalizing s report with
  | nil =>
      exact meets_pure ⟨fun _ _ h ↦ h, fun _ _ h ↦ Or.inl h, by simp, rfl, refl_of _ s⟩
  | cons native rest ih =>
      have hrest : rest ⊆ o.layout.partitions := fun n hn ↦ hl (List.mem_cons_of_mem _ hn)
      unfold Observation.recordUnexpected
      split
      · rename_i hclaimed
        apply (ih hrest hpolicy (hvacant.mono (Nat.le_succ _))).mono (R := fun _ _ ↦ True) trivial
        intro _ t ht _
        refine ⟨ht.kept, ht.new, fun n hn ↦ ?_, ht.attempts, ht.surroundings⟩
        rcases List.mem_cons.mp hn with rfl | hn
        · exact Or.inl (List.contains_iff_mem.mp hclaimed)
        · exact ht.named n hn
      · by_cases hmax : s.ids.next = uint64Max
        · unfold Meets
          simp only
          rw [bind_ok (attempt_allocateId_exhausted hmax)]
          exact ⟨fun _ _ h ↦ h, fun _ _ h ↦ Or.inl h, fun _ _ ↦ Or.inr (Or.inr hmax), rfl,
            refl_of _ s⟩
        · unfold Meets
          simp only
          rw [bind_ok (attempt_allocateId hmax)]
          simp only [get_bind]
          have hwaits : (o.unexpectedRecord { s with ids := ⟨s.ids.next + 1⟩ } native
              s.ids.next).state = .revalidationRequired :=
            if_neg (by rw [hpolicy]; exact Bool.false_ne_true)
          apply meets_bind (waits_holdUnexpected (q := s.ids.next) hwaits)
          rintro ⟨record, report'⟩ t ⟨⟨held, hrecord⟩, hlocal, hframe⟩
          apply meets_modify_bind
          apply meets_modify_bind
          have hone := recordsOne_stamp hpolicy hlocal hframe hrecord
          generalize o.evidence.stamp s.ids.next
            { t with partitions := t.partitions.insert s.ids.next record } = v at hone ⊢
          obtain ⟨r, hr, hdevice, hstate, hname⟩ := hone.record
          have hvacant' : Vacant v rest.length := hvacant.allocate hmax hone.ids hone.others
          apply (ih hrest (hone.surroundings.policy ▸ hpolicy) hvacant').mono (R := fun _ _ ↦ True)
            trivial
          intro _ w hw _
          refine ⟨?_, ?_, ?_, hw.attempts.trans hone.attempts,
            trans_of KeepsSurroundings hone.surroundings hw.surroundings⟩
          · intro p r' hr'
            have hp : p ≠ s.ids.next := hvacant.ne hr'
            exact hw.kept p r' ((hone.others p hp).trans hr')
          · intro p r' hr'
            rcases hw.new p r' hr' with hold | hrests
            · by_cases hp : p = s.ids.next
              · subst hp
                obtain rfl := Option.some.inj (hr.symm.trans hold)
                have hobserved : observedNative o.layout r.nativeIdentity.nativeId = some native := by
                  rw [hname]
                  exact observedNative_of_mem hlayout (hl List.mem_cons_self)
                exact Or.inr (.named hobserved (Or.inl (Or.inl hstate)))
              · exact Or.inl ((hone.others p hp).symm.trans hold)
            · exact Or.inr hrests
          · intro n hn
            rcases List.mem_cons.mp hn with rfl | hn
            · refine Or.inr (Or.inl ⟨s.ids.next, r, hw.kept _ r hr, ?_⟩)
              simp [Observation.meetsAs, hdevice, hname, inLayout, hstate, isTerminalState]
            · exact hw.named n hn

end Recording

section Reconciled

variable {o : Observation} {pass : Pass} {report : ReconciliationReport}

/-- After the comparisons, what accepted attempts are to serve is pending. -/
lemma ComparedTo.resolving (h : ComparedTo o s [] pass t) (hlayout : o.layout.Distinct)
    (hs : SettlesUnder s o.id o.accelerator.capability.declaresSupported o.layout) :
    Resolving o s t t.attempts.keys pass t := by
  have hattempt : ∀ key, t.findAttempt key = s.findAttempt key := fun key ↦
    congrArg (fun m : KeyedMap PartitionAttemptId PartitionAttempt ↦ m.find? key) h.attempts
  refine ⟨⟨?_, ?_, rfl⟩, fun key _ ↦ hattempt key, fun key hkey a ha ↦ ?_, KeyedMap.keys_nodup _⟩
  · refine ⟨?_, ?_, ?_, fun p ↦ ⟨h.present p, fun hnone ↦ ?_⟩, h.ids, h.surroundings⟩
    · intro p r' hr' hdevice hin
      obtain ⟨r, -, hcompares⟩ := h.records p List.not_mem_nil r' hr'
      exact hcompares.rests hdevice hin
    · intro native hnative hclaimed
      obtain ⟨p, r, -, hr, hmeets⟩ := (h.claimed native hnative).mp hclaimed
      simp only [Observation.meetsAs, Bool.and_eq_true, decide_eq_true_eq] at hmeets
      obtain ⟨⟨hdevice, hin⟩, hname⟩ := hmeets
      cases hr' : t.findPartition p with
      | none =>
          rw [h.present p hr'] at hr
          cases hr
      | some r' =>
          obtain ⟨r₁, hr₁, hcompares⟩ := h.records p List.not_mem_nil r' hr'
          obtain rfl := Option.some.inj (hr.symm.trans hr₁)
          have hin' : inLayout r' = true := by
            apply hcompares.kept hin
            rintro ⟨-, -, -, hunseen⟩
            rw [hname, observedNative_of_mem hlayout hnative] at hunseen
            cases hunseen
          refine ⟨p, r', hr', ?_⟩
          simp [Observation.meetsAs, hcompares.accelerator, hcompares.native, hdevice, hin', hname]
    · intro p hp r' hr' hdevice hin hshows
      obtain ⟨r, hr, hcompares⟩ := h.records p List.not_mem_nil r' hr'
      rw [Observation.shows, hcompares.native] at hshows
      obtain ⟨native, hobserved⟩ := Option.isSome_iff_exists.mp hshows
      obtain ⟨hidle, honline, hprofile⟩ := hs.denied p hp r native hr
        (hcompares.accelerator.symm.trans hdevice) (hcompares.state hin).1 hobserved
      rw [hcompares.steady native hobserved hprofile honline]
      exact hidle
    · cases hr' : t.findPartition p with
      | none => rfl
      | some r' =>
          obtain ⟨r, hr, -⟩ := h.records p List.not_mem_nil r' hr'
          cases hnone.symm.trans hr
  · rw [h.attempts]
    refine ⟨fun _ _ ↦ rfl, ?_, hs.once, hs.apart⟩
    refine (allots_congr fun native hnative ↦ ?_).trans hs.accepted
    rw [h.claimed native hnative, mem_namedBy]
    simp [Observation.meetsAs, and_assoc]
  · exact absurd (KeyedMap.mem_keys.mpr ⟨a, ha⟩) hkey

/-- What the passes lead to: the records rest, every observed partition is named unless the
identities are used up, and every attempt is decided. -/
structure Reconciled (o : Observation) (s₀ s : FabricState) : Prop where
  records : ∀ p r, s.findPartition p = some r → r.accelerator = o.id → inLayout r = true →
    Rests s₀ o.accelerator.capability.declaresSupported o.layout r
  named : ∀ native ∈ o.layout.partitions,
    (∃ p r, s.findPartition p = some r ∧ o.meetsAs native.nativeId r = true) ∨
      s.ids.next = uint64Max
  decided : ∀ key a, s.findAttempt key = some a → a.accelerator = o.id → a.state ≠ .outcomeUnknown
  surroundings : KeepsSurroundings s₀ s

lemma reconciled_reconcilePasses (hlayout : o.layout.Distinct)
    (hpolicy : s.policy.allowExternalAdoption = false)
    (hvacant : Vacant s o.layout.partitions.length)
    (hs : SettlesUnder s o.id o.accelerator.capability.declaresSupported o.layout) :
    Meets (fun _ ↦ False) (fun _ t ↦ Reconciled o s t) (o.reconcilePasses report) s := by
  apply meets_get_bind
  apply meets_bind (comparedTo_all hlayout hpolicy)
  intro pass t ht
  apply meets_get_bind
  have hcompared : ∀ p r', t.findPartition p = some r' →
      ∃ r, s.findPartition p = some r ∧ o.Compares s r r' := fun p ↦ ht.records p List.not_mem_nil
  have hloop : Meets (fun _ ↦ False) (Resolving o s t [])
      (t.attempts.keys.foldlM o.resolveAttempt pass) t :=
    meets_foldlM (fun _ _ _ _ h ↦ resolving_resolveAttempt hlayout hcompared hs.destructions h)
      (ht.resolving hlayout hs)
  apply meets_bind hloop
  intro pass' u hu
  have hconsistent := hu.underway.consistent
  have hvacant' : Vacant u o.layout.partitions.length := by
    intro p r hr
    rw [hconsistent.ids]
    cases hold : s.findPartition p with
    | some r₀ => exact hvacant p r₀ hold
    | none => cases hr.symm.trans ((hconsistent.present p).mpr hold)
  have hrecords : Meets (fun _ ↦ False)
      (fun _ v ↦ RecordsRest o s pass'.claimed o.layout.partitions u v)
      (o.recordUnexpected pass'.claimed o.layout.partitions pass'.report) u :=
    recordsRest_recordUnexpected hlayout (List.Subset.refl _)
      (hconsistent.surroundings.policy ▸ hpolicy) hvacant'
  apply hrecords.mono (R := fun _ _ ↦ True) trivial
  intro _ v hv _
  refine ⟨fun p r hr hdevice hin ↦ ?_, fun native hnative ↦ ?_, fun key a ha hdevice ↦ ?_,
    trans_of KeepsSurroundings hconsistent.surroundings hv.surroundings⟩
  · rcases hv.new p r hr with hold | hrests
    · exact hconsistent.rests p r hold hdevice hin
    · exact hrests
  · rcases hv.named native hnative with hclaimed | hnamed
    · obtain ⟨p, r, hr, hmeets⟩ := hconsistent.named native hnative hclaimed
      exact Or.inl ⟨p, r, hv.kept p r hr, hmeets⟩
    · exact hnamed
  · rw [FabricState.findAttempt, hv.attempts] at ha
    exact hu.decided key List.not_mem_nil a ha hdevice

/-- After a reset is noted, the passes see the incarnation that the layout shows. -/
lemma noteReset_settled (hfind : s.findAccelerator o.id = some o.accelerator) :
    Ensures (fun entry t ↦ (entry.1.id = o.id ∧ entry.1.layout = o.layout ∧ SameRecords s t) ∧
      t.ids = s.ids ∧ t.findAccelerator o.id = some entry.1.accelerator ∧
      showsReset o.layout entry.1.accelerator = false ∧
      entry.1.accelerator.capability.declaresSupported = demandsIdentity o.accelerator o.layout)
      (o.noteReset report) s := by
  intro t entry hrun
  refine ⟨noteReset_same t entry hrun, ?_⟩
  unfold Observation.noteReset at hrun
  split at hrun
  · rename_i hreset
    obtain ⟨u, generation, hnext, hrun⟩ := bind_eq_ok.mp hrun
    obtain rfl : s = u := (Prod.mk.inj hnext).1
    obtain ⟨rfl, hentry⟩ := Prod.mk.inj hrun
    obtain rfl := Except.ok.inj hentry
    have hreset' : showsReset o.layout o.accelerator = true := hreset
    refine ⟨rfl, ?_, ?_, ?_⟩
    · refine (KeyedMap.find?_modify _ _ _ _).trans ?_
      rw [if_pos rfl, show s.accelerators.find? o.id = some o.accelerator from hfind]
      rfl
    · simp [showsReset]
    · unfold demandsIdentity
      rw [hreset', Bool.not_true, Bool.and_false]
      rfl
  · rename_i hcalm
    have hcalm' : showsReset o.layout o.accelerator = false := by
      unfold showsReset
      simpa using hcalm
    obtain ⟨rfl, hentry⟩ := Prod.mk.inj hrun
    obtain rfl := Except.ok.inj hentry
    refine ⟨rfl, hfind, hcalm', ?_⟩
    unfold demandsIdentity
    rw [hcalm', Bool.not_false, Bool.and_true]

lemma mirrors_reconcilePresent (hlayout : o.layout.Distinct)
    (hpolicy : s.policy.allowExternalAdoption = false)
    (hfind : s.findAccelerator o.id = some o.accelerator)
    (hvacant : Vacant s o.layout.partitions.length)
    (hs : SettlesUnder s o.id (demandsIdentity o.accelerator o.layout) o.layout) :
    Ensures (fun _ t ↦ (Mirrors t o.id o.layout ∨ t.ids.next = uint64Max) ∧ t.policy = s.policy)
      (o.reconcilePresent report) s := by
  apply ensures_bind
  rintro t ⟨o', report'⟩ hnoted
  obtain ⟨⟨hid, hsame, hrecords⟩, hids, hfound, hcalm, hdemands⟩ :=
    noteReset_settled hfind t _ hnoted
  simp only at hid hsame hfound hcalm hdemands
  rw [← hid, ← hsame]
  have hs' : SettlesUnder t o'.id o'.accelerator.capability.declaresSupported o'.layout := by
    rw [hid, hsame, hdemands]
    exact hs.of_same hrecords
  have hvacant' : Vacant t o'.layout.partitions.length := by
    intro p r hr
    rw [hids, hsame]
    rw [FabricState.findPartition, hrecords.partitions] at hr
    exact hvacant p r hr
  have hpasses : Meets (fun _ ↦ False) (fun _ u ↦ Reconciled o' t u)
      (o'.reconcilePasses (o'.noteDevice report')) t :=
    reconciled_reconcilePasses (hsame ▸ hlayout) (hrecords.policy ▸ hpolicy) hvacant' hs'
  apply ensures_bind
  intro u report'' hrun
  unfold Meets at hpasses
  rw [hrun] at hpasses
  apply ensures_modify_bind
  apply ensures_modify_bind
  apply ensures_pure
  have hstamped : Restamped u (o'.refreshEvidence u).bumpStateGeneration :=
    trans_of Restamped restamped_refreshEvidence restamped_bump
  obtain ⟨generation, hbump⟩ := bumpStateGeneration_eq (o'.refreshEvidence u)
  refine ⟨?_, (hstamped.policy.trans hpasses.surroundings.policy).trans hrecords.policy⟩
  rw [hbump] at hstamped ⊢
  have haccelerator : ∀ a, ({ o'.refreshEvidence u with
      stateGeneration := generation } : FabricState).findAccelerator o'.id = some a →
        ∃ evidence, a = { o'.accelerator with evidence := evidence } := by
    intro a ha
    rw [FabricState.findAccelerator, Observation.refreshEvidence, FabricState.modifyAccelerator,
      KeyedMap.find?_modify, if_pos rfl, hpasses.surroundings.accelerators, hid,
      show t.accelerators.find? o.id = some o'.accelerator from hfound] at ha
    exact ⟨_, (Option.some.inj ha).symm⟩
  by_cases hmax : u.ids.next = uint64Max
  · exact Or.inr hmax
  · refine Or.inl ⟨fun a ha ↦ ?_, fun a ha p r hr hdevice hin ↦ ?_, fun native hnative ↦ ?_,
      hpasses.decided⟩
    · obtain ⟨evidence, rfl⟩ := haccelerator a ha
      exact hsame ▸ hcalm
    · obtain ⟨evidence, rfl⟩ := haccelerator a ha
      exact (rests_congr hpasses.surroundings (hpasses.records p r hr hdevice hin)).restamped
        hstamped rfl
    · obtain ⟨p, r, hr, hmeets⟩ := (hpasses.named native hnative).resolve_right hmax
      simp only [Observation.meetsAs, Bool.and_eq_true, decide_eq_true_eq] at hmeets
      exact ⟨p, r, hr, hmeets.1.1, hmeets.1.2, hmeets.2⟩

end Reconciled

end PartitionFabric
