import PartitionFabric.Invariants.Passes
import PartitionFabric.Invariants.Publication

/-!
Reconciliation is conservative: the capacity of a partition that the hardware still shows is not
returned.
-/

namespace PartitionFabric

open Procedure

variable {s t : FabricState} {key : PartitionId} {o : Observation} {p : PartitionId} {pass : Pass}

/-- The record keeps its capacity and stays listed, and does not fall back to revalidation. -/
structure Anchored (o : Observation) (r r' : PartitionRecord) : Prop where
  held : r.heldBucket.isSome = true → r'.heldBucket.isSome = true
  shown : o.shows r → o.shows r'
  state : r.state ≠ .revalidationRequired → r'.state ≠ .revalidationRequired

instance : Std.Refl (Anchored o) := ⟨fun _ ↦ ⟨fun h ↦ h, fun h ↦ h, fun h ↦ h⟩⟩

instance : IsTrans PartitionRecord (Anchored o) :=
  ⟨fun _ _ _ h h' ↦ ⟨h'.held ∘ h.held, h'.shown ∘ h.shown, h'.state ∘ h.state⟩⟩

lemma anchored_bindFound {planned : Option PlannedPartition} {claimed : List Text} {backend : Text}
    (hlayout : o.layout.Distinct) :
    Localized p (Anchored o) s (bindFound p backend
      (planned.bind fun planned ↦ o.evidence.unclaimed planned claimed) s) := by
  unfold bindFound
  split
  · exact refl_of _ s
  · rename_i layout native hfound
    obtain ⟨planned, -, hunclaimed⟩ := Option.bind_eq_some_iff.mp hfound
    refine localized_modify fun r _ ↦ ⟨fun h ↦ h, fun _ ↦ ?_, fun h ↦ h⟩
    exact findNative_of_mem hlayout (unclaimed_mem hunclaimed).1

lemma anchored_settlePartition {kind : AttemptKind} {record : PartitionRecord}
    (hkind : kind ≠ .destroyPartition) :
    Advances (Localized p (Anchored o)) (o.settlePartition kind p record pass) s := by
  refine advances_bind (advances_attempt (localized_transition fun r _ _ ↦ ?_)) fun t status _ ↦ ?_
  · rw [Observation.settledTarget, if_neg hkind]
    exact ⟨fun _ ↦ rfl, fun h ↦ h, fun _ ↦ by simp [PartitionRecord.moved]⟩
  · cases status with
    | error e => exact advances_get_bind (advances_pure _ _)
    | ok u =>
        rw [if_neg hkind]
        exact advances_pure _ _

/-- A satisfied creation or reconfiguration anchors its records. -/
lemma anchored_adoptProduced {attempt : PartitionAttempt} {index : ℕ}
    (hkind : attempt.kind ≠ .destroyPartition) (hlayout : o.layout.Distinct) :
    Advances (Localized p (Anchored o)) (o.adoptProduced attempt pass (p, index)) s := by
  refine advances_get_bind ?_
  cases s.findPartition p with
  | none => exact advances_pure _ _
  | some record =>
      refine advances_modify_bind (anchored_bindFound hlayout) ?_
      exact advances_ite (fun _ ↦ anchored_settlePartition hkind) fun _ ↦ advances_pure _ _

/-- Only a record in revalidation is withdrawn. -/
lemma anchored_withdrawPartition
    (hstate : ∀ r, s.partitions.find? p = some r → r.state ≠ .revalidationRequired) :
    Advances (Localized p (Anchored o)) (o.withdrawPartition p) s :=
  localized_withdrawPartition fun r hr h ↦ absurd h (hstate r hr)

/-- An ambiguous attempt of the device whose result the layout does not show, and the record. -/
def Observation.denies (o : Observation) (s : FabricState) (p : PartitionId) : Prop :=
  ∃ key a, s.attempts.find? key = some a ∧ a.accelerator = o.id ∧ a.state = .outcomeUnknown ∧
    (a.kind = .destroyPartition ∨
      layoutSatisfies o.layout (a.desired.map PlannedPartition.spec) = false) ∧ p ∈ a.partitions

/-- The attempts that are still to be decided are those of an earlier state. -/
def Undecided (s₀ s : FabricState) : Prop :=
  ∀ key a, s.attempts.find? key = some a → a.state = .outcomeUnknown →
    s₀.attempts.find? key = some a

/-- The record holds its capacity, is listed, and is not up for withdrawal if it may be. -/
structure Secured (o : Observation) (s₀ : FabricState) (p : PartitionId) (s : FabricState) :
    Prop where
  record : ∃ r, s.partitions.find? p = some r ∧ r.heldBucket.isSome = true ∧ o.shows r ∧
    (o.denies s₀ p → r.state ≠ .revalidationRequired)
  undecided : Undecided s₀ s
  below : p < s.ids.next

/-- A step that keeps a record secured. -/
def KeepsSecured (o : Observation) (s₀ : FabricState) (p : PartitionId) (s t : FabricState) : Prop :=
  Secured o s₀ p s → Secured o s₀ p t

variable {s₀ : FabricState}

instance : Std.Refl (KeepsSecured o s₀ p) := ⟨fun _ h ↦ h⟩

instance : IsTrans FabricState (KeepsSecured o s₀ p) := ⟨fun _ _ _ h h' ↦ h' ∘ h⟩

lemma Secured.anchored (hs : Secured o s₀ p s) (h : Localized p (Anchored o) s t) :
    Secured o s₀ p t := by
  obtain ⟨⟨r, hr, hheld, hshown, hstate⟩, hundecided, hbelow⟩ := hs
  obtain ⟨r', hr', hanchored⟩ := h.record r hr
  refine ⟨⟨r', hr', hanchored.held hheld, hanchored.shown hshown,
    fun hd ↦ hanchored.state (hstate hd)⟩, fun key a ha ↦ hundecided key a ?_, by rwa [h.ids]⟩
  rwa [← h.attempts]

lemma Secured.others (hs : Secured o s₀ p s) (h : Localized key AnyChange s t) (hne : p ≠ key) :
    Secured o s₀ p t := by
  obtain ⟨⟨r, hr, hrest⟩, hundecided, hbelow⟩ := hs
  refine ⟨⟨r, (h.others p hne).trans hr, hrest⟩, fun key a ha ↦ hundecided key a ?_,
    by rwa [h.ids]⟩
  rwa [← h.attempts]

lemma secured_decideAttempt {key : PartitionAttemptId} {detail : Text} :
    KeepsSecured o s₀ p s (o.decideAttempt key detail s) := by
  rintro ⟨hrecord, hundecided, hbelow⟩
  refine ⟨hrecord, fun k a ha hstate ↦ ?_, hbelow⟩
  rw [Observation.decideAttempt, FabricState.modifyAttempt, KeyedMap.find?_modify] at ha
  split at ha
  · obtain ⟨a₀, -, rfl⟩ := Option.map_eq_some_iff.mp ha
    exact absurd hstate (by simp)
  · exact hundecided k a ha hstate

lemma secured_settleDecided {attempt : PartitionAttempt} {lifecycle : ReservationLifecycle}
    {reason : Text} : KeepsSecured o s₀ p s (o.settleDecided attempt lifecycle reason s) :=
  fun hs ↦ ⟨hs.record, hs.undecided, hs.below⟩

/-- A destruction that the layout shows as done does not list a record that is shown. -/
lemma satisfied_destruction {attempt : PartitionAttempt} (hs : Secured o s₀ p s)
    (h : o.satisfied s attempt = true) (hkind : attempt.kind = .destroyPartition) :
    p ∉ attempt.partitions := by
  intro hp
  obtain ⟨r, hr, -, hshown, -⟩ := hs.record
  rw [Observation.satisfied, if_pos hkind, Bool.not_eq_true', List.any_eq_false] at h
  refine h p hp ((Option.any_eq_true _ _).mpr ⟨r, hr, ?_⟩)
  obtain ⟨native, hnative⟩ := Option.isSome_iff_exists.mp hshown
  have hnamed := (findNative_eq_some hnative).2.2
  simp only [Bool.and_eq_true, Bool.not_eq_true', List.isEmpty_eq_false_iff]
  exact ⟨hnamed, hshown⟩

lemma secured_acceptAttempt {key : PartitionAttemptId} {attempt : PartitionAttempt}
    (hlayout : o.layout.Distinct)
    (hkind : attempt.kind = .destroyPartition → p ∉ attempt.partitions) :
    Advances (KeepsSecured o s₀ p) (o.acceptAttempt key attempt pass) s := by
  refine advances_modify_bind secured_decideAttempt ?_
  refine advances_bind (advances_foldlM fun pass entry hentry t _ hs ↦ ?_) fun _ _ _ ↦
    advances_modify_bind secured_settleDecided (advances_pure _ _)
  obtain ⟨q, index⟩ := entry
  by_cases hq : p = q
  · subst hq
    have hmem := List.fst_mem_of_mem_zipIdx hentry
    exact hs.anchored (anchored_adoptProduced (fun hd ↦ hkind hd hmem) hlayout)
  · exact hs.others localized_adoptProduced hq

lemma secured_rejectAttempt {key : PartitionAttemptId} {attempt : PartitionAttempt}
    (hdenied : p ∈ attempt.partitions → o.denies s₀ p) :
    Advances (KeepsSecured o s₀ p) (o.rejectAttempt key attempt pass) s := by
  refine advances_modify_bind secured_decideAttempt ?_
  refine advances_bind (advances_forM fun q hq t _ hs ↦ ?_) fun _ _ _ ↦ ?_
  · by_cases hpq : p = q
    · subst hpq
      refine hs.anchored (anchored_withdrawPartition fun r hr ↦ ?_)
      obtain ⟨r', hr', -, -, hstate⟩ := hs.record
      obtain rfl := Option.some.inj (hr'.symm.trans hr)
      exact hstate (hdenied hq)
    · exact hs.others (localized_withdrawPartition fun _ _ _ ↦ ⟨trivial, fun _ ↦ trivial⟩) hpq
  · refine advances_bind (advances_get_bind ?_) fun _ _ _ ↦ advances_pure _ _
    cases FabricState.findReservation _ attempt.reservation with
    | none => exact advances_pure _ _
    | some reservation =>
        refine advances_when fun _ ↦ advances_modify_bind secured_settleDecided ?_
        refine advances_when fun _ ↦ advances_ignore fun hs ↦ ?_
        exact hs.anchored localized_onLedger

lemma secured_resolveAttempt {key : PartitionAttemptId} (hlayout : o.layout.Distinct) :
    Advances (KeepsSecured o s₀ p) (o.resolveAttempt pass key) s := by
  refine advances_get_bind fun hs ↦ ?_
  cases hattempt : (s.findAttempt key).filter fun a ↦
      a.accelerator = o.id && a.state = .outcomeUnknown with
  | none => exact hs
  | some attempt =>
      obtain ⟨hfind, hcond⟩ := Option.filter_eq_some_iff.mp hattempt
      simp only [Bool.and_eq_true, decide_eq_true_eq] at hcond
      refine advances_ite (R := KeepsSecured o s₀ p) (fun hsatisfied ↦ ?_)
        (fun hunsatisfied ↦ ?_) hs
      · exact secured_acceptAttempt hlayout (satisfied_destruction hs hsatisfied)
      · refine secured_rejectAttempt fun hp ↦ ⟨key, attempt, hs.undecided key attempt hfind hcond.2,
          hcond.1, hcond.2, ?_, hp⟩
        by_cases hkind : attempt.kind = .destroyPartition
        · exact Or.inl hkind
        · rw [Observation.satisfied, if_neg hkind] at hunsatisfied
          exact Or.inr (by simpa using hunsatisfied)

/-- The record holds its capacity and is listed; if it may be withdrawn, the hardware shows it as
recorded and its state needs no decision. -/
structure Settled (o : Observation) (s₀ : FabricState) (p : PartitionId) (s : FabricState) :
    Prop where
  record : ∃ r native, s.partitions.find? p = some r ∧ r.heldBucket.isSome = true ∧
    observedNative o.layout r.nativeIdentity.nativeId = some native ∧
    (o.denies s₀ p → r.state ≠ .offline ∧ r.state ≠ .revalidationRequired ∧
      Observation.profileMatches s r native = true)
  attempts : s.attempts = s₀.attempts
  below : p < s.ids.next

lemma Settled.secured (h : Settled o s₀ p s) : Secured o s₀ p s := by
  obtain ⟨⟨r, native, hr, hheld, hnative, hstate⟩, hattempts, hbelow⟩ := h
  refine ⟨⟨r, hr, hheld, ?_, fun hd ↦ (hstate hd).2.1⟩, fun key a ha _ ↦ hattempts ▸ ha, hbelow⟩
  exact Option.isSome_iff_exists.mpr ⟨native, hnative⟩

/-- A step that keeps a record settled. -/
def KeepsSettled (o : Observation) (s₀ : FabricState) (p : PartitionId) (s t : FabricState) : Prop :=
  Settled o s₀ p s → Settled o s₀ p t

instance : Std.Refl (KeepsSettled o s₀ p) := ⟨fun _ h ↦ h⟩

instance : IsTrans FabricState (KeepsSettled o s₀ p) := ⟨fun _ _ _ h h' ↦ h' ∘ h⟩

lemma profileMatches_congr {r r' : PartitionRecord} {native : BackendNativePartition}
    (hs : t.profiles = s.profiles) (hr : r'.profile = r.profile) :
    Observation.profileMatches t r' native = Observation.profileMatches s r native := by
  unfold Observation.profileMatches FabricState.findProfile
  rw [hs, hr]

lemma settled_matchRecord : Advances (KeepsSettled o s₀ p) (o.matchRecord pass key) s := by
  rintro ⟨⟨r, native, hr, hheld, hnative, hstate⟩, hattempts, hbelow⟩
  by_cases hp : p = key
  · subst hp
    have hkept : Localized p (Kept (o.denies s₀ p)) s (o.matchRecord pass p s).1 := by
      refine kept_matchRecord (fun r' hr' hmissing ↦ ?_) fun hd r' hr' ↦ ?_
      · obtain rfl := Option.some.inj (hr.symm.trans hr')
        rw [hmissing.2.2.2] at hnative
        cases hnative
      · obtain rfl := Option.some.inj (hr.symm.trans hr')
        obtain ⟨hoffline, hrevalidation, hprofile⟩ := hstate hd
        exact ⟨hoffline, hrevalidation, native, hnative, hprofile⟩
    obtain ⟨r', hr', hrecord⟩ := hkept.record r hr
    refine ⟨⟨r', native, hr', hrecord.held hheld, by rw [hrecord.native, hnative],
      fun hd ↦ ?_⟩, hkept.attempts.trans hattempts, by rwa [hkept.ids]⟩
    rw [hrecord.state hd, profileMatches_congr hkept.profiles hrecord.profile]
    exact hstate hd
  · have hother : Localized key AnyChange s (o.matchRecord pass key s).1 := localized_matchRecord
    refine ⟨⟨r, native, (hother.others p hp).trans hr, hheld, hnative, fun hd ↦ ?_⟩,
      hother.attempts.trans hattempts, by rwa [hother.ids]⟩
    rw [profileMatches_congr hother.profiles rfl]
    exact hstate hd

/-- The record under the key accounts for its capacity. -/
def Holds (s : FabricState) (p : PartitionId) : Prop :=
  ∃ r, s.partitions.find? p = some r ∧ r.heldBucket.isSome = true

lemma Secured.holds (h : Secured o s₀ p s) : Holds s p := by
  obtain ⟨r, hr, hheld, -⟩ := h.record
  exact ⟨r, hr, hheld⟩

lemma holds_reconcilePasses {report : ReconciliationReport} (hlayout : o.layout.Distinct)
    (h : Settled o s₀ p s) : Holds (o.reconcilePasses report s).1 p := by
  have hmatch : ∀ t result, s.partitions.keys.foldlM o.matchRecord ⟨[], report⟩ s = (t, result) →
      Settled o s₀ p t := by
    intro t result ht
    have hkeep : Advances (KeepsSettled o s₀ p)
        (s.partitions.keys.foldlM o.matchRecord ⟨[], report⟩) s :=
      advances_foldlM fun _ _ _ _ _ ↦ settled_matchRecord
    unfold Advances at hkeep
    rw [ht] at hkeep
    exact hkeep h
  refine bind_fst (fun t e ht ↦ (hmatch t _ ht).secured.holds) fun t pass ht ↦ ?_
  have hresolve : ∀ u result, t.attempts.keys.foldlM o.resolveAttempt pass t = (u, result) →
      Secured o s₀ p u := by
    intro u result hu
    have hkeep : Advances (KeepsSecured o s₀ p)
        (t.attempts.keys.foldlM o.resolveAttempt pass) t :=
      advances_foldlM fun _ _ _ _ _ ↦ secured_resolveAttempt hlayout
    unfold Advances at hkeep
    rw [hu] at hkeep
    exact hkeep (hmatch t _ ht).secured
  refine bind_fst (fun u e hu ↦ (hresolve u _ hu).holds) fun u pass' hu ↦ ?_
  have hsecured := hresolve u _ hu
  obtain ⟨r, hr, hheld, -⟩ := hsecured.record
  have hbelow : Below p u (o.recordUnexpected pass'.claimed o.layout.partitions pass'.report u).1 :=
    below_recordUnexpected
  exact ⟨r, (hbelow hsecured.below).1.trans hr, hheld⟩

/-- The capacity of a listed record survives every decision about the ambiguous attempts. -/
def denialsHarmless (s : FabricState) (id : AcceleratorId) (observed : BackendLayout) : Prop :=
  ∀ key a, s.findAttempt key = some a → a.accelerator = id → a.state = .outcomeUnknown →
    (a.kind = .destroyPartition ∨
      layoutSatisfies observed (a.desired.map PlannedPartition.spec) = false) →
    ∀ p ∈ a.partitions, ∀ r, s.findPartition p = some r → r.heldBucket.isSome = true →
      ∀ native, findNative observed r.nativeIdentity.nativeId = some native →
        r.state ≠ .offline ∧ r.state ≠ .revalidationRequired ∧
          Observation.profileMatches s r native = true

/-- Reconciliations meet the records they may withdraw in harmless states, and an allocator that
stands above every record. -/
def withdrawsHarmlessly (s : FabricState) : Op → Prop
  | .reconcile id observed _ =>
    (∀ p r, s.findPartition p = some r → p < s.ids.next) ∧ denialsHarmless s id observed
  | _ => True

/-- A reconciliation with a present device returns the capacity of a named partition only when
the device does not list it. -/
def Conserves (s : FabricState) (op : Op) : Prop :=
  ∀ id observed now, op = .reconcile id observed now → observed.devicePresent = true →
    ∀ p r, s.findPartition p = some r → r.nativeIdentity.nativeId ≠ [] → Holds s p →
      ¬ Holds (op.step s) p → findNative observed r.nativeIdentity.nativeId = none

lemma settled_of_harmless {id : AcceleratorId} {observed : BackendLayout} {r : PartitionRecord}
    {native : BackendNativePartition} (h : denialsHarmless s id observed)
    (hr : s.partitions.find? p = some r) (hheld : r.heldBucket.isSome = true)
    (hnative : findNative observed r.nativeIdentity.nativeId = some native)
    (hbelow : p < s.ids.next) (hid : o.id = id) (hlayout : o.layout = observed)
    (hsame : SameRecords s t) : Settled o s p t := by
  subst hid hlayout
  refine ⟨⟨r, native, by rw [hsame.partitions, hr], hheld, hnative, ?_⟩, hsame.attempts,
    lt_of_lt_of_le hbelow hsame.ids⟩
  rintro ⟨key, a, hattempt, hacc, hstate, hdenied, hmem⟩
  rw [profileMatches_congr hsame.profiles rfl]
  exact h key a hattempt hacc hstate hdenied p hmem r hr hheld native hnative

lemma conserves_of_harmless {op : Op} (h : withdrawsHarmlessly s op) : Conserves s op := by
  rintro id observed now rfl hpresent p r hr - ⟨r', hr', hheld⟩ hlost
  obtain ⟨hbelow, hharmless⟩ := h
  obtain rfl := Option.some.inj (hr'.symm.trans hr)
  cases hnative : findNative observed r'.nativeIdentity.nativeId with
  | none => rfl
  | some native =>
      refine absurd ?_ hlost
      refine reconcile_partitions (P := fun m ↦ ∃ r, m.find? p = some r ∧ r.heldBucket.isSome = true)
        hpresent ⟨r', hr', hheld⟩ fun o report t hid hlayout hdistinct hsame ↦ ?_
      exact holds_reconcilePasses (hlayout ▸ hdistinct)
        (settled_of_harmless hharmless hr' hheld hnative (hbelow p r' hr') hid hlayout hsame)

/-- In every run whose reconciliations withdraw harmlessly, every reconciliation conserves the
capacity of the partitions that the device lists. -/
theorem reconcile_conserves {options : FabricOptions} {now : UInt64} {ops : List Op}
    (h : fabric.Follows withdrawsHarmlessly ops (FabricState.opened options now)) :
    fabric.Follows Conserves ops (FabricState.opened options now) :=
  h.mono fun _ _ hop ↦ conserves_of_harmless hop

namespace Sample

/-- The slice is drained and its destruction dispatched as attempt 8, whose result nothing verifies. -/
def destructionLost : List Op :=
  created ++ [.beginDrain 4 [] 6, .destroyPartition 4 7, .applyMutationResult 8 accepted none 8]

/-- The device still has the slice. -/
def stillThere : Op := .reconcile 1 (layout ["a"]) 9

end Sample

/-- A lost destruction that did not happen frees the capacity of the slice that is still there. -/
theorem reconcile_frees_observed :
    ¬ fabric.Follows Conserves (Sample.destructionLost ++ [Sample.stillThere]) Sample.opened := by
  intro h
  obtain ⟨-, hlast, -⟩ := System.follows_append.mp h
  let s := fabric.run Sample.destructionLost Sample.opened
  have hbefore : (s.findPartition 4).any (fun r ↦
      r.nativeIdentity.nativeId = ("a" : Text) && r.heldBucket.isSome) = true := by decide +kernel
  have hafter : ((Sample.stillThere.step s).findPartition 4).all (fun r ↦
      r.heldBucket.isNone) = true := by decide +kernel
  obtain ⟨r, hr, hboth⟩ := (Option.any_eq_true _ _).mp hbefore
  obtain ⟨hnative, hheld⟩ := Bool.and_eq_true_iff.mp hboth
  have hnamed : r.nativeIdentity.nativeId = ("a" : Text) := of_decide_eq_true hnative
  have hfree : ¬ Holds (Sample.stillThere.step s) 4 := by
    rintro ⟨r', hr', hheld'⟩
    rw [FabricState.findPartition, hr', Option.all_some, Option.isNone_iff_eq_none] at hafter
    rw [hafter] at hheld'
    cases hheld'
  have habsent := hlast _ _ _ rfl rfl 4 r hr (by rw [hnamed]; decide) ⟨r, hr, hheld⟩ hfree
  rw [hnamed] at habsent
  exact absurd habsent (by decide +kernel)

theorem reconcile_conserves_created :
    fabric.Follows Conserves (Sample.created ++ [.reconcile 1 (Sample.layout ["a"]) 6])
      Sample.opened := by
  let s := fabric.run Sample.created Sample.opened
  have hbelow : s.partitions.keys.all (· < s.ids.next) = true := by decide +kernel
  have hdecided : ∀ a ∈ s.attempts.values, a.state ≠ .outcomeUnknown := by decide +kernel
  refine reconcile_conserves (System.follows_append.mpr ⟨?_, ?_, trivial⟩)
  · exact ⟨trivial, trivial, trivial, trivial, trivial, trivial⟩
  · change withdrawsHarmlessly s _
    clear_value s
    rw [List.all_eq_true] at hbelow
    refine ⟨fun p r hr ↦ of_decide_eq_true (hbelow p (KeyedMap.mem_keys.mpr ⟨r, hr⟩)),
      fun key a ha _ hunknown ↦ ?_⟩
    exact absurd hunknown (hdecided a (KeyedMap.mem_values.mpr ⟨key, ha⟩))

end PartitionFabric
