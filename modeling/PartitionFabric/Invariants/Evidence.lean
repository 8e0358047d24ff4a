import PartitionFabric.Invariants.Conservation

/-!
Ambiguous creations and reconfigurations are decided by evidence of their own.

A reconciliation accepts such an attempt when the whole layout holds what it intended, and then
binds its partitions to observed ones that nothing claimed. The two agree when the observed
partitions that no record names suffice for everything that is accepted.
-/

namespace PartitionFabric

open Procedure

variable {s t : FabricState}

section FirstFit

/-- The first free element that passes a test exists when a free sublist has one, and is not among
what is left of the sublist without its own first such element. -/
lemma find?_of_sublist {α : Type} {l unused : List α} {free test : α → Bool}
    (hsub : unused.Sublist l) (hnodup : l.Nodup) (hfree : ∀ a ∈ unused, free a = true)
    (hany : unused.any test = true) :
    ∃ a, l.find? (fun a ↦ free a && test a) = some a ∧ a ∉ unused.eraseP test := by
  induction hsub with
  | slnil => simp at hany
  | @cons u l b hsub ih =>
      obtain ⟨hb, hl⟩ := List.nodup_cons.mp hnodup
      by_cases hfirst : (free b && test b) = true
      · refine ⟨b, List.find?_cons_of_pos hfirst, ?_⟩
        intro hmem
        exact hb (hsub.subset (List.mem_of_mem_eraseP hmem))
      · obtain ⟨a, ha, hleft⟩ := ih hl hfree hany
        exact ⟨a, (List.find?_cons_of_neg (p := fun a ↦ free a && test a) hfirst).trans ha, hleft⟩
  | @cons_cons u l b hsub ih =>
      obtain ⟨hb, hl⟩ := List.nodup_cons.mp hnodup
      have hbfree := hfree b List.mem_cons_self
      by_cases htest : test b = true
      · refine ⟨b, List.find?_cons_of_pos (by rw [hbfree, htest]; rfl), ?_⟩
        rw [List.eraseP_cons_of_pos htest]
        exact fun hmem ↦ hb (hsub.subset hmem)
      · have hany' : u.any test = true := by simpa [htest] using hany
        obtain ⟨a, ha, hleft⟩ := ih hl (fun c hc ↦ hfree c (List.mem_cons_of_mem _ hc)) hany'
        have hskip : ¬ (free b && test b) = true := by simp [htest]
        refine ⟨a, (List.find?_cons_of_neg (p := fun a ↦ free a && test a) hskip).trans ha, ?_⟩
        rw [List.eraseP_cons_of_neg htest, List.mem_cons, not_or]
        refine ⟨?_, hleft⟩
        rintro rfl
        exact hb (List.mem_of_find?_eq_some ha)

/-- Enough observed partitions are unclaimed to serve specs in order. -/
def Spares (layout : BackendLayout) (claimed : List Text) (specs : List NativePartitionSpec) :
    Prop :=
  ∃ unused : List BackendNativePartition, unused.Sublist layout.partitions ∧
    (∀ native ∈ unused, native.nativeId ∉ claimed) ∧ serveSpecs specs unused = true

variable {layout : BackendLayout} {claimed : List Text} {specs rest : List NativePartitionSpec}
  {spec : NativePartitionSpec}

lemma nodup_of_distinct (h : layout.Distinct) : layout.partitions.Nodup :=
  List.Nodup.of_map _ h.2

lemma eq_of_nativeId {native native' : BackendNativePartition} (h : layout.Distinct)
    (hn : native ∈ layout.partitions) (hn' : native' ∈ layout.partitions)
    (heq : native.nativeId = native'.nativeId) : native = native' :=
  List.inj_on_of_nodup_map h.2 hn hn' heq

/-- The first spec is served, and what is left still serves the others. -/
lemma Spares.take (hlayout : layout.Distinct) (h : Spares layout claimed (spec :: rest)) :
    ∃ native, findUnclaimedNativeForSpec layout spec claimed = some native ∧
      Spares layout (claimed ++ [native.nativeId]) rest := by
  obtain ⟨unused, hsub, hfree, hserve⟩ := h
  rw [serveSpecs, Bool.and_eq_true] at hserve
  obtain ⟨hany, hrest⟩ := hserve
  have hfree' : ∀ n ∈ unused, (!claimed.contains n.nativeId) = true := by
    intro n hn
    simpa using hfree n hn
  obtain ⟨native, hfind, hleft⟩ :=
    find?_of_sublist hsub (nodup_of_distinct hlayout) hfree' hany
  have hmem := List.mem_of_find?_eq_some hfind
  refine ⟨native, hfind, unused.eraseP spec.admits, (List.eraseP_sublist).trans hsub, ?_, hrest⟩
  intro n hn hclaimed
  have hn' := List.mem_of_mem_eraseP hn
  rcases List.mem_append.mp hclaimed with hold | hnew
  · exact hfree n hn' hold
  · have heq := eq_of_nativeId hlayout (hsub.subset hn') hmem (List.mem_singleton.mp hnew)
    exact hleft (heq ▸ hn)

/-- Specs that are not served leave more for the others. -/
lemma Spares.skip (h : Spares layout claimed (specs ++ rest)) : Spares layout claimed rest := by
  induction specs with
  | nil => exact h
  | cons spec specs ih =>
      apply ih
      obtain ⟨unused, hsub, hfree, hserve⟩ := h
      rw [List.cons_append, serveSpecs, Bool.and_eq_true] at hserve
      exact ⟨unused.eraseP spec.admits, (List.eraseP_sublist).trans hsub,
        fun n hn ↦ hfree n (List.mem_of_mem_eraseP hn), hserve.2⟩

end FirstFit

section Sources

variable {p q : PartitionId} {Q : PartitionRecord → PartitionRecord → Prop}

/-- The record under the key comes from one before. -/
lemma Localized.source (h : Localized q Q s t) {r' : PartitionRecord}
    (hr' : t.partitions.find? q = some r') :
    ∃ r, s.partitions.find? q = some r ∧ Q r r' := by
  cases hr : s.partitions.find? q with
  | none =>
      rw [h.absent hr] at hr'
      cases hr'
  | some r =>
      obtain ⟨r'', hr'', hq⟩ := h.record r hr
      obtain rfl := Option.some.inj (hr''.symm.trans hr')
      exact ⟨r, rfl, hq⟩

/-- Every record comes from one before. -/
lemma Localized.back [Std.Refl Q] (h : Localized q Q s t) {r' : PartitionRecord}
    (hr' : t.partitions.find? p = some r') :
    ∃ r, s.partitions.find? p = some r ∧ Q r r' := by
  by_cases hp : p = q
  · subst hp
    exact h.source hr'
  · exact ⟨r', (h.others p hp).symm.trans hr', refl_of Q r'⟩

end Sources

section Matching

variable {key : PartitionId} {o : Observation} {pass : Pass} {adoptable : Prop}

/-- What the comparison with the layout may do to a record. -/
structure Matched (adoptable : Prop) (r r' : PartitionRecord) : Prop where
  accelerator : r'.accelerator = r.accelerator
  native : r'.nativeIdentity = r.nativeIdentity
  live : isTerminalState r'.state = false → isTerminalState r.state = false
  active : r'.state = .active → r.state = .active ∨ adoptable

instance : Std.Refl (Matched adoptable) := ⟨fun _ ↦ ⟨rfl, rfl, id, Or.inl⟩⟩

instance : IsTrans PartitionRecord (Matched adoptable) where
  trans r r' r'' h h' := by
    refine ⟨h'.accelerator.trans h.accelerator, h'.native.trans h.native, h.live ∘ h'.live, ?_⟩
    intro hactive
    rcases h'.active hactive with hactive' | hadoptable
    · exact h.active hactive'
    · exact Or.inr hadoptable

/-- What ends stays ended. -/
lemma live_of_allowed {source target : PartitionState} (h : Allowed source target)
    (ht : isTerminalState target = false) : isTerminalState source = false := by
  revert h ht
  cases source <;> cases target <;> decide

lemma matched_transition {now : UInt64} {target : PartitionState} {reason : Text}
    (htarget : target = .active → adoptable) :
    Advances (Localized key (Matched adoptable)) (transitionPartition now key target reason) s := by
  apply localized_transition
  intro r _ hallowed
  exact ⟨rfl, rfl, live_of_allowed hallowed, fun h ↦ Or.inr (htarget h)⟩

lemma matched_revalidateUncorrelated {record : PartitionRecord} :
    Advances (Localized key (Matched adoptable)) (o.revalidateUncorrelated key record pass) s := by
  apply advances_ite
  · intro _
    exact advances_bind (advances_attempt (matched_transition (by simp))) fun _ _ _ ↦
      advances_pure _ _
  · intro _
    exact advances_pure _ _

lemma matched_fenceChanged {record : PartitionRecord} {native : BackendNativePartition} :
    Advances (Localized key (Matched adoptable)) (o.fenceChanged key record native pass) s :=
  advances_bind (advances_attempt (advances_when fun _ ↦ matched_transition (by simp)))
    fun _ _ _ ↦ advances_pure _ _

lemma matched_adoptMatched {record : PartitionRecord} {native : BackendNativePartition}
    (h : adoptable) :
    Advances (Localized key (Matched adoptable)) (o.adoptMatched key record native pass) s := by
  apply advances_bind (advances_attempt (matched_transition fun _ ↦ h))
  intro t status _
  cases status with
  | error e => exact advances_pure _ _
  | ok u =>
      refine advances_modify_bind (localized_modify ?_) (advances_pure _ _)
      intro r _
      exact ⟨rfl, rfl, id, Or.inl⟩

lemma matched_confirmMatched {record : PartitionRecord} {native : BackendNativePartition}
    (h : s.policy.allowExternalAdoption = true → record.state = .revalidationRequired →
      adoptable) :
    Advances (Localized key (Matched adoptable)) (o.confirmMatched key record native pass) s := by
  have hstamp : Localized key (Matched adoptable) s (o.evidence.stamp key s) :=
    localized_stamp fun _ _ ↦ ⟨rfl, rfl, id, Or.inl⟩
  apply advances_modify_bind hstamp
  apply advances_get_bind
  apply advances_ite
  · intro _
    exact advances_bind (advances_ignore (matched_transition (by simp))) fun _ _ _ ↦
      advances_pure _ _
  · intro _
    apply advances_ite
    · intro hstate
      apply advances_ite
      · intro hpolicy
        rw [hstamp.policy] at hpolicy
        exact matched_adoptMatched (h hpolicy hstate)
      · intro _
        exact advances_pure _ _
    · intro _
      exact advances_pure _ _

lemma matched_retireMissing {record : PartitionRecord}
    (hrecord : s.partitions.find? key = some record) :
    Advances (Localized key (Matched adoptable)) (o.retireMissing key record pass) s := by
  have hrelease : Advances (Localized key (Matched adoptable)) (o.releaseMissing record) s := by
    unfold Observation.releaseMissing
    cases record.heldBucket with
    | none => exact advances_pure _ _
    | some bucket => exact localized_onLedger
  apply advances_bind (advances_attempt hrelease)
  intro t released ht
  have hkeeps : t.partitions = s.partitions := by
    have h := keeps_releaseMissing o record s
    unfold Advances at h
    rwa [(Prod.mk.inj ht).1] at h
  refine advances_modify_bind (localized_modify ?_) (advances_get_bind ?_)
  · intro r hr
    rw [hkeeps, hrecord] at hr
    obtain rfl := Option.some.inj hr
    have hstate : (o.missingRecord record).state = .retired := by
      simp [Observation.missingRecord, PartitionRecord.retire]
    refine ⟨?_, ?_, fun h ↦ absurd h ?_, fun h ↦ absurd h ?_⟩
    · simp [Observation.missingRecord, PartitionRecord.retire]
    · simp [Observation.missingRecord, PartitionRecord.retire]
    · rw [hstate]
      decide
    · rw [hstate]
      decide
  · exact advances_modify_bind localized_dropAssignments (advances_pure _ _)

/-- A comparison touches one record; only where the policy allows it does it restore authority, and
only of a record of the device whose profile the observed partition has. -/
lemma matched_compared
    (h : s.policy.allowExternalAdoption = true → ∀ r native, s.partitions.find? key = some r →
      r.accelerator = o.id → r.state = .revalidationRequired →
      r.nativeIdentity.nativeId.isEmpty = false →
      observedNative o.layout r.nativeIdentity.nativeId = some native →
      Observation.profileMatches s r native = true → adoptable) :
    Advances (Localized key (Matched adoptable)) (o.matchRecord pass key) s := by
  apply advances_get_bind
  cases hfilter : (s.findPartition key).filter fun r ↦ r.accelerator = o.id && inLayout r with
  | none => exact advances_pure _ _
  | some record =>
      obtain ⟨hrecord, hcond⟩ := Option.filter_eq_some_iff.mp hfilter
      have hdevice : record.accelerator = o.id := by
        simp only [Bool.and_eq_true, decide_eq_true_eq] at hcond
        exact hcond.1
      apply advances_ite
      · intro _
        exact matched_revalidateUncorrelated
      · intro hnamed
        cases hobserved : observedNative o.layout record.nativeIdentity.nativeId with
        | none => exact matched_retireMissing hrecord
        | some native =>
            apply advances_ite
            · intro hprofile
              apply matched_confirmMatched
              intro hpolicy hstate
              exact h hpolicy record native hrecord hdevice hstate (Bool.eq_false_iff.mpr hnamed)
                hobserved hprofile
            · intro _
              exact matched_fenceChanged

lemma matched_matchRecord
    (h : s.policy.allowExternalAdoption = true → ∀ r, s.partitions.find? key = some r →
      r.state = .revalidationRequired → o.shows r → adoptable) :
    Advances (Localized key (Matched adoptable)) (o.matchRecord pass key) s := by
  apply matched_compared
  intro hpolicy r native hr _ hstate _ hobserved _
  exact h hpolicy r hr hstate (Option.isSome_iff_exists.mpr ⟨native, hobserved⟩)

/-- The policy lets the comparison restore the authority of a record. -/
def Observation.adopts (o : Observation) (s : FabricState) (p : PartitionId) : Prop :=
  s.policy.allowExternalAdoption = true ∧
    ∃ r, s.partitions.find? p = some r ∧ r.state = .revalidationRequired ∧ o.shows r

/-- A record that the comparison with the layout meets under a name. -/
def Observation.meetsAs (o : Observation) (name : Text) (r : PartitionRecord) : Bool :=
  r.accelerator = o.id && inLayout r && r.nativeIdentity.nativeId = name

/-- Every live record of the device that names an observed partition has claimed it. -/
def Claims (o : Observation) (claimed : List Text) (s : FabricState) (p : PartitionId) : Prop :=
  ∀ r, s.partitions.find? p = some r → r.accelerator = o.id → isTerminalState r.state = false →
    o.shows r → r.nativeIdentity.nativeId ∈ claimed

/-- What holds before the comparison of the records that are left, from the state that the
comparisons started in. -/
structure Comparing (o : Observation) (s₀ : FabricState) (keys : List PartitionId) (pass : Pass)
    (s : FabricState) : Prop where
  untouched : ∀ p ∈ keys, s.partitions.find? p = s₀.partitions.find? p
  matched : ∀ p r', s.partitions.find? p = some r' →
    ∃ r, s₀.partitions.find? p = some r ∧ Matched (o.adopts s₀ p) r r'
  claims : ∀ p, p ∉ keys → Claims o pass.claimed s p
  claimed : ∀ name ∈ pass.claimed, ∃ p r, s₀.partitions.find? p = some r ∧ o.meetsAs name r = true
  attempts : s.attempts = s₀.attempts
  policy : s.policy = s₀.policy
  ids : s.ids = s₀.ids
  nodup : keys.Nodup

variable {s₀ : FabricState} {rest : List PartitionId}

/-- A procedure that ends well with the same claims. -/
abbrev KeepsClaims (pass : Pass) (m : FabricM Pass) (s : FabricState) : Prop :=
  Meets (fun _ ↦ False) (fun pass' _ ↦ pass'.claimed = pass.claimed) m s

lemma keepsClaims_revalidateUncorrelated {record : PartitionRecord} :
    KeepsClaims pass (o.revalidateUncorrelated key record pass) s := by
  unfold Observation.revalidateUncorrelated
  split
  · exact meets_attempt_bind_of_forall fun _ _ ↦ meets_pure rfl
  · exact meets_pure rfl

lemma keepsClaims_fenceChanged {record : PartitionRecord} {native : BackendNativePartition} :
    KeepsClaims pass (o.fenceChanged key record native pass) s :=
  meets_attempt_bind_of_forall fun _ _ ↦ meets_pure rfl

lemma keepsClaims_retireMissing {record : PartitionRecord} :
    KeepsClaims pass (o.retireMissing key record pass) s :=
  meets_attempt_bind_of_forall fun _ _ ↦ meets_modify_bind (meets_get_bind
    (meets_modify_bind (meets_pure rfl)))

lemma keepsClaims_confirmMatched {record : PartitionRecord} {native : BackendNativePartition} :
    KeepsClaims pass (o.confirmMatched key record native pass) s := by
  apply meets_modify_bind
  apply meets_get_bind
  split
  · exact meets_ignore_bind fun _ ↦ meets_pure rfl
  · split
    · split
      · apply meets_attempt_bind_of_forall
        intro status t
        cases status with
        | error e => exact meets_pure rfl
        | ok u => exact meets_modify_bind (meets_pure rfl)
      · exact meets_pure rfl
    · exact meets_pure rfl

/-- The comparison of one record claims the partition that it names, if that is observed. -/
lemma claimed_matchRecord (o : Observation) (pass : Pass) (key : PartitionId) (s : FabricState) :
    Meets (fun _ ↦ False) (fun pass' _ ↦
      (pass'.claimed = pass.claimed ∧
        ∀ r, s.partitions.find? key = some r → o.meetsAs r.nativeIdentity.nativeId r = true →
          ¬ o.shows r) ∨
      ∃ r, s.partitions.find? key = some r ∧ o.meetsAs r.nativeIdentity.nativeId r = true ∧
        pass'.claimed = pass.claimed ++ [r.nativeIdentity.nativeId])
      (o.matchRecord pass key) s := by
  apply meets_get_bind
  cases hfilter : (s.findPartition key).filter fun r ↦ r.accelerator = o.id && inLayout r with
  | none =>
      refine meets_pure (Or.inl ⟨rfl, fun r hr hmeets ↦ ?_⟩)
      have hnone := Option.filter_eq_none_iff.mp hfilter r hr
      simp only [Observation.meetsAs, decide_true, Bool.and_true] at hmeets
      exact absurd hmeets hnone
  | some record =>
      obtain ⟨hrecord, hcond⟩ := Option.filter_eq_some_iff.mp hfilter
      have hmeets : o.meetsAs record.nativeIdentity.nativeId record = true := by
        simpa [Observation.meetsAs] using hcond
      have hunseen : observedNative o.layout record.nativeIdentity.nativeId = none →
          ∀ r, s.partitions.find? key = some r →
            o.meetsAs r.nativeIdentity.nativeId r = true → ¬ o.shows r := by
        intro hnone r hr _ hshows
        obtain rfl := Option.some.inj (hrecord.symm.trans hr)
        rw [Observation.shows, hnone] at hshows
        exact absurd hshows (by decide)
      simp only
      split
      · rename_i hempty
        have hnone : observedNative o.layout record.nativeIdentity.nativeId = none := by
          rw [List.isEmpty_iff.mp hempty]
          simp [observedNative, findNative]
        exact keepsClaims_revalidateUncorrelated.mono (R := fun _ _ ↦ True) trivial
          fun _ _ h _ ↦ Or.inl ⟨h, hunseen hnone⟩
      · cases hobserved : observedNative o.layout record.nativeIdentity.nativeId with
        | none =>
            exact keepsClaims_retireMissing.mono (R := fun _ _ ↦ True) trivial
              fun _ _ h _ ↦ Or.inl ⟨h, hunseen hobserved⟩
        | some native =>
            have hname := (findNative_eq_some hobserved).2.1
            have hclaims : ∀ pass' : Pass, pass'.claimed = pass.claimed ++ [native.nativeId] →
                ∃ r, s.partitions.find? key = some r ∧
                  o.meetsAs r.nativeIdentity.nativeId r = true ∧
                  pass'.claimed = pass.claimed ++ [r.nativeIdentity.nativeId] := by
              intro pass' h
              exact ⟨record, hrecord, hmeets, by rw [h, hname]⟩
            simp only
            split
            · exact keepsClaims_confirmMatched.mono (R := fun _ _ ↦ True) trivial
                fun pass' _ h _ ↦ Or.inr (hclaims pass' h)
            · exact keepsClaims_fenceChanged.mono (R := fun _ _ ↦ True) trivial
                fun pass' _ h _ ↦ Or.inr (hclaims pass' h)

/-- The first comparison starts with nothing claimed. -/
lemma comparing_initial {report : ReconciliationReport} :
    Comparing o s s.partitions.keys ⟨[], report⟩ s := by
  refine ⟨fun _ _ ↦ rfl, fun p r hr ↦ ⟨r, hr, refl_of _ r⟩, ?_, ?_, rfl, rfl, rfl,
    KeyedMap.keys_nodup _⟩
  · intro p hp r hr
    exact absurd (KeyedMap.mem_keys.mpr ⟨r, hr⟩) hp
  · intro name hname
    cases hname

/-- Withdrawn records do not name observed partitions. -/
def Observation.withdrawnUnseen (o : Observation) (s : FabricState) : Prop :=
  ∀ p r, s.partitions.find? p = some r → r.accelerator = o.id → r.state = .unpartitioned →
    ¬ o.shows r

/-- A comparison claims what the record under its key names. -/
lemma claims_matchRecord {pass' : Pass} (hunseen : o.withdrawnUnseen s₀)
    (hstart : s.partitions.find? key = s₀.partitions.find? key)
    (hlocal : Localized key (Matched (o.adopts s₀ key)) s t)
    (hclaimed : (pass'.claimed = pass.claimed ∧ ∀ r, s.partitions.find? key = some r →
        o.meetsAs r.nativeIdentity.nativeId r = true → ¬ o.shows r) ∨
      ∃ r, s.partitions.find? key = some r ∧ o.meetsAs r.nativeIdentity.nativeId r = true ∧
        pass'.claimed = pass.claimed ++ [r.nativeIdentity.nativeId]) :
    Claims o pass'.claimed t key := by
  intro r' hr' hacc hlive hshows
  obtain ⟨r, hr, hmatched⟩ := hlocal.source hr'
  have hshows' : o.shows r := by rwa [Observation.shows, ← hmatched.native]
  have hacc' : r.accelerator = o.id := hmatched.accelerator ▸ hacc
  have hwithdrawn : r.state ≠ .unpartitioned :=
    fun h ↦ hunseen key r (hstart ▸ hr) hacc' h hshows'
  have hmeets : o.meetsAs r.nativeIdentity.nativeId r = true := by
    simp [Observation.meetsAs, inLayout, hacc', hmatched.live hlive, hwithdrawn]
  rcases hclaimed with ⟨-, hnot⟩ | ⟨r₁, hr₁, -, hclaimed⟩
  · exact absurd hshows' (hnot r hr hmeets)
  · obtain rfl := Option.some.inj (hr.symm.trans hr₁)
    rw [hclaimed, hmatched.native]
    simp

lemma comparing_matchRecord (hunseen : o.withdrawnUnseen s₀)
    (h : Comparing o s₀ (key :: rest) pass s) :
    Meets (fun _ ↦ False) (Comparing o s₀ rest) (o.matchRecord pass key) s := by
  obtain ⟨hkey, hnodup⟩ := List.nodup_cons.mp h.nodup
  have hstart := h.untouched key List.mem_cons_self
  have hlocal : Advances (Localized key (Matched (o.adopts s₀ key))) (o.matchRecord pass key) s := by
    apply matched_matchRecord
    intro hpolicy r hr hstate hshows
    exact ⟨h.policy ▸ hpolicy, r, hstart ▸ hr, hstate, hshows⟩
  apply (claimed_matchRecord o pass key s).mono hlocal
  intro pass' t hclaimed hlocal
  have hgrows : pass.claimed ⊆ pass'.claimed := by
    rcases hclaimed with ⟨heq, -⟩ | ⟨r, -, -, heq⟩
    · exact heq ▸ List.Subset.refl _
    · exact heq ▸ List.subset_append_left _ _
  constructor
  · intro p hp
    have hne : p ≠ key := fun heq ↦ hkey (heq ▸ hp)
    exact (hlocal.others p hne).trans (h.untouched p (List.mem_cons_of_mem _ hp))
  · intro p r' hr'
    by_cases hp : p = key
    · subst hp
      obtain ⟨r, hr, hmatched⟩ := hlocal.source hr'
      exact ⟨r, hstart ▸ hr, hmatched⟩
    · exact h.matched p r' ((hlocal.others p hp).symm.trans hr')
  · intro p hp
    by_cases hpkey : p = key
    · subst hpkey
      exact claims_matchRecord hunseen hstart hlocal hclaimed
    · intro r' hr' hacc hlive hshows
      rw [hlocal.others p hpkey] at hr'
      have hleft : p ∉ key :: rest := by simp [hpkey, hp]
      exact hgrows (h.claims p hleft r' hr' hacc hlive hshows)
  · intro name hname
    rcases hclaimed with ⟨heq, -⟩ | ⟨r, hr, hmeets, heq⟩
    · exact h.claimed name (heq ▸ hname)
    · rw [heq, List.mem_append, List.mem_singleton] at hname
      rcases hname with hold | rfl
      · exact h.claimed name hold
      · exact ⟨key, r, hstart ▸ hr, hmeets⟩
  · exact hlocal.attempts.trans h.attempts
  · exact hlocal.policy.trans h.policy
  · exact hlocal.ids.trans h.ids
  · exact hnodup

/-- After the comparisons every live record of the device that names an observed partition has
claimed it. -/
lemma comparing_all {report : ReconciliationReport} (hunseen : o.withdrawnUnseen s) :
    Meets (fun _ ↦ False) (Comparing o s [])
      (s.partitions.keys.foldlM o.matchRecord ⟨[], report⟩) s :=
  meets_foldlM (fun _ _ _ _ h ↦ comparing_matchRecord hunseen h) comparing_initial

end Matching

section Deciding

/-- An ambiguous creation or reconfiguration of a device. -/
def PartitionAttempt.ambiguousOn (a : PartitionAttempt) (id : AcceleratorId) : Bool :=
  a.accelerator = id && a.state = .outcomeUnknown && a.kind ≠ .destroyPartition

/-- The layout as a whole holds what an attempt intended. -/
def PartitionAttempt.presentIn (a : PartitionAttempt) (layout : BackendLayout) : Bool :=
  layoutSatisfies layout (a.desired.map PlannedPartition.spec)

/-- What an attempt wants for a partition at a position of its list. -/
def PartitionAttempt.wants (a : PartitionAttempt) (entry : PartitionId × ℕ) :
    List NativePartitionSpec :=
  (a.desired[entry.2]?.map PlannedPartition.spec).toList

/-- What the attempts under given keys want, as far as a reconciliation accepts them. -/
def acceptedSpecs (s : FabricState) (id : AcceleratorId) (layout : BackendLayout)
    (keys : List PartitionAttemptId) : List NativePartitionSpec :=
  keys.flatMap fun key ↦ (s.findAttempt key).toList.flatMap fun a ↦
    if a.ambiguousOn id && a.presentIn layout then a.partitions.zipIdx.flatMap a.wants else []

/-- An ambiguous attempt plans a partition for a record. -/
def Intended (s : FabricState) (id : AcceleratorId) (p : PartitionId)
    (planned : PlannedPartition) : Prop :=
  ∃ key a, ∃ index : ℕ, s.findAttempt key = some a ∧ a.ambiguousOn id = true ∧
    a.partitions[index]? = some p ∧ a.desired[index]? = some planned

/-- No other live record of the device names a partition. -/
def Sole (m : KeyedMap PartitionId PartitionRecord) (id : AcceleratorId) (p : PartitionId)
    (name : Text) : Prop :=
  ∀ q r, q ≠ p → m.find? q = some r → r.accelerator = id → isTerminalState r.state = false →
    r.nativeIdentity.nativeId ≠ name

/-- An active record is bound to an observed partition that answers what an ambiguous attempt plans
for it and that no other live record of the device names. -/
def Evidenced (s₀ : FabricState) (id : AcceleratorId) (layout : BackendLayout) (p : PartitionId)
    (m : KeyedMap PartitionId PartitionRecord) : Prop :=
  ∀ r, m.find? p = some r → r.state = .active → ∃ planned, Intended s₀ id p planned ∧
    ∃ native ∈ layout.partitions, planned.spec.admits native = true ∧
      r.nativeIdentity.nativeId = native.nativeId ∧ Sole m id p native.nativeId

/-- A record that needs no evidence, or has it from a claimed partition. -/
def Decided (o : Observation) (s₀ : FabricState) (p : PartitionId) (claimed : List Text)
    (s : FabricState) : Prop :=
  ∀ r, s.partitions.find? p = some r → r.state = .active → ∃ planned, Intended s₀ o.id p planned ∧
    ∃ native ∈ o.layout.partitions, planned.spec.admits native = true ∧
      r.nativeIdentity.nativeId = native.nativeId ∧ native.nativeId ∈ claimed ∧
      Sole s.partitions o.id p native.nativeId

/-- What holds before the decision of the attempts that are left: what they want is spared, and
the record is decided unless its evidence is still due. -/
structure Deciding (o : Observation) (s₀ : FabricState) (p : PartitionId)
    (keys : List PartitionAttemptId) (specs : List NativePartitionSpec) (due : Prop) (pass : Pass)
    (s : FabricState) : Prop where
  claims : ∀ q, Claims o pass.claimed s q
  spares : Spares o.layout pass.claimed specs
  attempts : ∀ key ∈ keys, s.findAttempt key = s₀.findAttempt key
  fate : Decided o s₀ p pass.claimed s ∨ due
  below : p < s.ids.next

/-- What may happen to a record that is not bound: it may lose its name and its standing. -/
structure Quiet (r r' : PartitionRecord) : Prop where
  accelerator : r'.accelerator = r.accelerator
  name : r'.nativeIdentity.nativeId = r.nativeIdentity.nativeId ∨ r'.nativeIdentity.nativeId = []
  live : isTerminalState r'.state = false → isTerminalState r.state = false
  active : r'.state = .active → r' = r

instance : Std.Refl Quiet := ⟨fun _ ↦ ⟨rfl, Or.inl rfl, id, fun _ ↦ rfl⟩⟩

instance : IsTrans PartitionRecord Quiet where
  trans r r' r'' h h' := by
    refine ⟨h'.accelerator.trans h.accelerator, ?_, h.live ∘ h'.live, fun hactive ↦ ?_⟩
    · rcases h'.name with hname | hname
      · rw [hname]
        exact h.name
      · exact Or.inr hname
    · obtain rfl := h'.active hactive
      exact h.active hactive

variable {o : Observation} {s₀ : FabricState} {p q : PartitionId} {pass : Pass}
  {keys : List PartitionAttemptId} {specs : List NativePartitionSpec} {due : Prop}
  {Q Q' T : PartitionRecord → PartitionRecord → Prop}

lemma Localized.comp {u : FabricState} (h : Localized q Q s t) (h' : Localized q Q' t u)
    (hcomp : ∀ r r' r'', Q r r' → Q' r' r'' → T r r'') : Localized q T s u := by
  refine ⟨fun r hr ↦ ?_, h'.absent ∘ h.absent, fun p hp ↦ (h'.others p hp).trans (h.others p hp),
    h'.profiles.trans h.profiles, h'.policy.trans h.policy, h'.attempts.trans h.attempts,
    h'.ids.trans h.ids⟩
  obtain ⟨r', hr', hq⟩ := h.record r hr
  obtain ⟨r'', hr'', hq'⟩ := h'.record r' hr'
  exact ⟨r'', hr'', hcomp r r' r'' hq hq'⟩

lemma not_shows {r : PartitionRecord} (h : findNative o.layout r.nativeIdentity.nativeId = none) :
    ¬ o.shows r := by
  rw [Observation.shows, observedNative, h]
  simp

lemma not_shows_empty {r : PartitionRecord} (h : r.nativeIdentity.nativeId = []) : ¬ o.shows r := by
  apply not_shows
  rw [h]
  simp [findNative]

lemma ne_nil_of_mem {native : BackendNativePartition} (hlayout : o.layout.Distinct)
    (h : native ∈ o.layout.partitions) : native.nativeId ≠ [] := by
  have hempty := hlayout.1 native h
  intro hnil
  rw [hnil] at hempty
  exact absurd hempty (by decide)

lemma Quiet.claims {claimed : List Text} (hs : ∀ q, Claims o claimed s q)
    (h : Localized q Quiet s t) : ∀ q, Claims o claimed t q := by
  intro p r' hr' hacc hlive hshows
  obtain ⟨r, hr, hquiet⟩ := h.back hr'
  rcases hquiet.name with hname | hname
  · rw [hname]
    have hshows' : o.shows r := by rwa [Observation.shows, ← hname]
    exact hs p r hr (hquiet.accelerator ▸ hacc) (hquiet.live hlive) hshows'
  · exact absurd hshows (not_shows_empty hname)

lemma Quiet.sole {name : Text} (hname : name ≠ []) (hs : Sole s.partitions o.id p name)
    (h : Localized q Quiet s t) : Sole t.partitions o.id p name := by
  intro x r' hx hr' hacc hlive
  obtain ⟨r, hr, hquiet⟩ := h.back hr'
  rcases hquiet.name with heq | heq
  · rw [heq]
    exact hs x r hx hr (hquiet.accelerator ▸ hacc) (hquiet.live hlive)
  · rw [heq]
    exact hname.symm

/-- A quiet change keeps everything that holds during the decisions. -/
lemma Deciding.quiet (hlayout : o.layout.Distinct) (h : Deciding o s₀ p keys specs due pass s)
    (hquiet : Localized q Quiet s t) : Deciding o s₀ p keys specs due pass t := by
  refine ⟨Quiet.claims h.claims hquiet, h.spares, ?_, ?_, by rw [hquiet.ids]; exact h.below⟩
  · intro key hkey
    rw [FabricState.findAttempt, hquiet.attempts]
    exact h.attempts key hkey
  · rcases h.fate with hdecided | hdue
    · left
      intro r' hr' hactive
      obtain ⟨r, hr, hrecord⟩ := hquiet.back hr'
      obtain rfl := hrecord.active hactive
      obtain ⟨planned, hplanned, native, hnative, hadmits, hname, hclaimed, hsole⟩ :=
        hdecided r' hr hactive
      exact ⟨planned, hplanned, native, hnative, hadmits, hname, hclaimed,
        Quiet.sole (ne_nil_of_mem hlayout hnative) hsole hquiet⟩
    · exact Or.inr hdue

/-- What binding a record to an observed partition does to it. -/
structure BoundTo (native : BackendNativePartition) (r r' : PartitionRecord) : Prop where
  accelerator : r'.accelerator = r.accelerator
  name : r'.nativeIdentity.nativeId = native.nativeId
  live : isTerminalState r'.state = false → isTerminalState r.state = false

/-- A record that is bound to an unclaimed partition claims it. -/
lemma Deciding.bind {native : BackendNativePartition} {pass' : Pass} {spec : NativePartitionSpec}
    {due' : Prop} (hlayout : o.layout.Distinct)
    (h : Deciding o s₀ p keys (spec :: specs) due pass s)
    (hfind : findUnclaimedNativeForSpec o.layout spec pass.claimed = some native)
    (hbound : Localized q (BoundTo native) s t)
    (hclaimed : pass'.claimed = pass.claimed ++ [native.nativeId])
    (hplanned : q = p → ∃ planned, Intended s₀ o.id p planned ∧ planned.spec = spec)
    (hdue : due → q = p ∨ due') : Deciding o s₀ p keys specs due' pass' t := by
  have hcond := List.find?_some hfind
  simp only [Bool.and_eq_true, Bool.not_eq_true', List.contains_eq_mem, decide_eq_false_iff_not]
    at hcond
  obtain ⟨hfree, hadmits⟩ := hcond
  have hmem := List.mem_of_find?_eq_some hfind
  have hfresh : ∀ x r, s.partitions.find? x = some r → r.accelerator = o.id →
      isTerminalState r.state = false → r.nativeIdentity.nativeId ≠ native.nativeId := by
    intro x r hr hacc hlive hname
    refine hfree (hname ▸ h.claims x r hr hacc hlive ?_)
    rw [Observation.shows, hname]
    exact findNative_of_mem hlayout hmem
  constructor
  · intro x r' hr' hacc hlive hshows
    rw [hclaimed, List.mem_append]
    by_cases hx : x = q
    · subst hx
      obtain ⟨r, -, hb⟩ := hbound.source hr'
      rw [hb.name]
      simp
    · rw [hbound.others x hx] at hr'
      exact Or.inl (h.claims x r' hr' hacc hlive hshows)
  · obtain ⟨native', hfind', hspares⟩ := h.spares.take hlayout
    obtain rfl := Option.some.inj (hfind.symm.trans hfind')
    rw [hclaimed]
    exact hspares
  · intro key hkey
    rw [FabricState.findAttempt, hbound.attempts]
    exact h.attempts key hkey
  · by_cases hq : q = p
    · left
      subst hq
      obtain ⟨planned, hintended, rfl⟩ := hplanned rfl
      intro r' hr' hactive
      obtain ⟨r, -, hb⟩ := hbound.source hr'
      refine ⟨planned, hintended, native, hmem, hadmits, hb.name, ?_, ?_⟩
      · rw [hclaimed]
        simp
      · intro x r₁ hx hr₁ hacc hlive
        rw [hbound.others x hx] at hr₁
        exact hfresh x r₁ hr₁ hacc hlive
    · rcases h.fate with hdecided | hpending
      · left
        intro r' hr' hactive
        rw [hbound.others p (Ne.symm hq)] at hr'
        obtain ⟨planned, hintended, native', hnative', hadmits', hname, hin, hsole⟩ :=
          hdecided r' hr' hactive
        refine ⟨planned, hintended, native', hnative', hadmits', hname, ?_, ?_⟩
        · rw [hclaimed]
          exact List.mem_append_left _ hin
        · intro x r₁ hx hr₁ hacc hlive
          by_cases hxq : x = q
          · subst hxq
            obtain ⟨r, -, hb⟩ := hbound.source hr₁
            rw [hb.name]
            intro heq
            exact hfree (heq ▸ hin)
          · rw [hbound.others x hxq] at hr₁
            exact hsole x r₁ hx hr₁ hacc hlive
      · exact Or.inr ((hdue hpending).resolve_left hq)
  · rw [hbound.ids]
    exact h.below

/-- What is due and spared may be replaced by what is left of it. -/
lemma Deciding.weaken {specs' : List NativePartitionSpec} {due' : Prop}
    (h : Deciding o s₀ p keys (specs ++ specs') due pass s)
    (hdue : due → Decided o s₀ p pass.claimed s ∨ due') :
    Deciding o s₀ p keys specs' due' pass s :=
  ⟨h.claims, h.spares.skip, h.attempts, h.fate.elim Or.inl hdue, h.below⟩

/-- Other parts of the state do not matter. -/
lemma Deciding.of_eq {pass' : Pass} (h : Deciding o s₀ p keys specs due pass s)
    (hp : t.partitions = s.partitions) (hi : t.ids = s.ids) (hclaimed : pass'.claimed = pass.claimed)
    (ha : ∀ key ∈ keys, t.findAttempt key = s.findAttempt key) :
    Deciding o s₀ p keys specs due pass' t := by
  refine ⟨?_, hclaimed ▸ h.spares, fun key hkey ↦ (ha key hkey).trans (h.attempts key hkey), ?_,
    by rw [hi]; exact h.below⟩
  · intro q r hr
    rw [hclaimed]
    exact h.claims q r (hp ▸ hr)
  · unfold Decided
    rw [hp, hclaimed]
    exact h.fate

variable {attempt : PartitionAttempt} {entry : PartitionId × ℕ}

lemma keepsClaims_settlePartition {kind : AttemptKind} {record : PartitionRecord} :
    KeepsClaims pass (o.settlePartition kind q record pass) s := by
  apply meets_attempt_bind_of_forall
  intro status t
  cases status with
  | error e => exact meets_get_bind (meets_pure rfl)
  | ok u =>
      simp only
      split
      · exact meets_modify_bind (meets_pure rfl)
      · exact meets_pure rfl

/-- Settling a created partition keeps its identity. -/
lemma matched_settlePartition {kind : AttemptKind} {record : PartitionRecord}
    (hkind : kind ≠ .destroyPartition) :
    Advances (Localized q (Matched True)) (o.settlePartition kind q record pass) s := by
  apply advances_bind (advances_attempt (matched_transition fun _ ↦ trivial))
  intro t status _
  cases status with
  | error e => exact advances_get_bind (advances_pure _ _)
  | ok u =>
      apply advances_ite
      · intro h
        exact absurd h hkind
      · intro _
        exact advances_pure _ _

lemma localized_bindNative {backend : Text} {layout : BackendLayout}
    {native : BackendNativePartition} :
    Localized q (BoundTo native) s
      (s.modifyPartition q fun record ↦ record.bindNative backend layout native) :=
  localized_modify fun _ _ ↦ ⟨rfl, rfl, id⟩

/-- An accepted attempt binds the record at a position to an observed partition of its own. -/
lemma deciding_adoptProduced {rest : List (PartitionId × ℕ)} (hlayout : o.layout.Distinct)
    (hkind : attempt.kind ≠ .destroyPartition) {planned : PlannedPartition}
    (hwants : attempt.desired[entry.2]? = some planned)
    (hintended : entry.1 = p → Intended s₀ o.id p planned)
    (h : Deciding o s₀ p keys ((entry :: rest).flatMap attempt.wants ++ specs)
      (p ∈ (entry :: rest).map Prod.fst ∨ due) pass s) :
    Meets (fun _ ↦ False) (Deciding o s₀ p keys (rest.flatMap attempt.wants ++ specs)
      (p ∈ rest.map Prod.fst ∨ due)) (o.adoptProduced attempt pass entry) s := by
  obtain ⟨q, index⟩ := entry
  have hspecs : attempt.wants (q, index) = [planned.spec] := by
    simp [PartitionAttempt.wants, hwants]
  rw [List.flatMap_cons, hspecs, List.append_assoc] at h
  have hleft : (p ∈ ((q, index) :: rest).map Prod.fst ∨ due) →
      q = p ∨ p ∈ rest.map Prod.fst ∨ due := by
    rw [List.map_cons, List.mem_cons]
    tauto
  apply meets_get_bind
  cases hrecord : s.findPartition q with
  | none =>
      apply meets_pure
      apply h.weaken
      intro hdue
      rcases hleft hdue with rfl | hdue
      · left
        intro r hr
        rw [FabricState.findPartition] at hrecord
        rw [hrecord] at hr
        cases hr
      · exact Or.inr hdue
  | some record =>
      obtain ⟨native, hfind, -⟩ := h.spares.take hlayout
      have hfound : (attempt.desired[index]?.bind fun planned ↦
          o.evidence.unclaimed planned pass.claimed) = some (o.layout, native) := by
        rw [hwants]
        simp [CommitEvidence.unclaimed, Observation.evidence, hfind]
      simp only [hfound]
      apply meets_modify_bind
      have hbound : Localized q (BoundTo native) s (bindFound q o.accelerator.backend
          (some (o.layout, native)) s) := localized_bindNative
      have hfate : ∀ pass' t, Localized q (BoundTo native) s t →
          pass'.claimed = pass.claimed ++ [native.nativeId] →
          Deciding o s₀ p keys (rest.flatMap attempt.wants ++ specs)
            (p ∈ rest.map Prod.fst ∨ due) pass' t := by
        intro pass' t hlocal hclaimed
        exact h.bind hlayout hfind hlocal hclaimed (fun hq ↦ ⟨planned, hintended hq, rfl⟩) hleft
      split
      · apply keepsClaims_settlePartition.mono (matched_settlePartition hkind)
        intro pass' t hclaimed hlocal
        apply hfate pass' t _ hclaimed
        apply hbound.comp hlocal
        intro r r' r'' hb hm
        refine ⟨hm.accelerator.trans hb.accelerator, ?_, hb.live ∘ hm.live⟩
        rw [hm.native, hb.name]
      · exact meets_pure (hfate _ _ hbound rfl)

lemma quiet_transition {target : PartitionState} {now : UInt64} {reason : Text}
    (htarget : target ≠ .active) :
    Advances (Localized q Quiet) (transitionPartition now q target reason) s := by
  apply localized_transition
  intro r _ hallowed
  exact ⟨rfl, Or.inl rfl, live_of_allowed hallowed, fun h ↦ absurd h htarget⟩

/-- A transition that went through left the state it was to reach. -/
lemma state_of_transition {target : PartitionState} {now : UInt64} {reason : Text} {u : Unit}
    (h : transitionPartition now q target reason s = (t, .ok u)) {r : PartitionRecord}
    (hr : t.partitions.find? q = some r) : r.state = target := by
  unfold transitionPartition at h
  cases hrecord : s.findPartition q with
  | none =>
      rw [hrecord] at h
      obtain rfl := (Prod.mk.inj h).1
      rw [FabricState.findPartition] at hrecord
      rw [hrecord] at hr
      cases hr
  | some record =>
      rw [hrecord] at h
      simp only at h
      cases hvalid : validateTransition record.state target with
      | error e =>
          rw [hvalid] at h
          exact absurd (Prod.mk.inj h).2 (failure_ne_ok _ _ _ _)
      | ok v =>
          rw [hvalid] at h
          simp only at h
          split at h
          · rename_i hsame
            obtain rfl := (Prod.mk.inj h).1
            obtain rfl := Option.some.inj (hrecord.symm.trans hr)
            exact hsame
          · cases hledger : s.findLedger record.accelerator with
            | none =>
                rw [hledger] at h
                exact absurd (Prod.mk.inj h).2 (failure_ne_ok _ _ _ _)
            | some ledger =>
                rw [hledger] at h
                simp only at h
                split at h
                · exact absurd (Prod.mk.inj h).2 (by simp)
                · obtain rfl := (Prod.mk.inj h).1
                  rw [KeyedMap.find?_insert_self] at hr
                  rw [← Option.some.inj hr]

/-- A record that is not active may be superseded and lose its name. -/
lemma quiet_supersede {r : PartitionRecord} (hstate : r.state ≠ .active)
    (identity : PartitionNativeIdentity)
    (hname : identity = r.nativeIdentity ∨ identity.nativeId = []) :
    Quiet r { r.supersede with nativeIdentity := identity } := by
  refine ⟨by simp, ?_, by simp, fun hactive ↦ ?_⟩
  · rcases hname with rfl | hname
    · exact Or.inl rfl
    · exact Or.inr hname
  · rw [PartitionRecord.supersede_state] at hactive
    exact absurd hactive hstate

/-- A withdrawal is quiet. -/
lemma quiet_withdrawPartition : Advances (Localized q Quiet) (o.withdrawPartition q) s := by
  apply advances_get_bind
  apply advances_when
  intro _
  apply advances_bind (advances_attempt (quiet_transition (by decide)))
  intro t status ht
  cases status with
  | error e => exact advances_pure _ _
  | ok u =>
      apply advances_modify
      apply localized_modify
      intro r hr
      have hstate := state_of_transition (attempt_eq_ok ht) hr
      exact quiet_supersede (by rw [hstate]; decide) {} (Or.inr rfl)

/-- Retiring what a destruction removed is quiet. -/
lemma quiet_settleDestroyed {record : PartitionRecord} :
    Advances (Localized q Quiet) (o.settlePartition .destroyPartition q record pass) s := by
  apply advances_bind (advances_attempt (quiet_transition (by decide)))
  intro t status ht
  cases status with
  | error e => exact advances_get_bind (advances_pure _ _)
  | ok u =>
      refine advances_modify_bind (localized_modify fun r hr ↦ ?_) (advances_pure _ _)
      have hstate : r.state = .retired := state_of_transition (attempt_eq_ok ht) hr
      have hquiet := quiet_supersede (r := r) (by rw [hstate]; decide) r.nativeIdentity (Or.inl rfl)
      rwa [← r.supersede_nativeIdentity] at hquiet

/-- A destruction that plans nothing binds nothing. -/
lemma deciding_adoptDestroyed (hlayout : o.layout.Distinct)
    (hkind : attempt.kind = .destroyPartition) (hdesired : attempt.desired = [])
    (h : Deciding o s₀ p keys specs due pass s) :
    Meets (fun _ ↦ False) (Deciding o s₀ p keys specs due) (o.adoptProduced attempt pass entry) s := by
  obtain ⟨q, index⟩ := entry
  apply meets_get_bind
  cases hrecord : s.findPartition q with
  | none => exact meets_pure h
  | some record =>
      simp only [hdesired, List.getElem?_nil, Option.bind_none]
      apply meets_modify_bind
      split
      · rw [hkind]
        apply keepsClaims_settlePartition.mono quiet_settleDestroyed
        intro pass' t hclaimed hquiet
        exact (h.quiet hlayout hquiet).of_eq rfl rfl hclaimed fun _ _ ↦ rfl
      · exact meets_pure (h.of_eq rfl rfl rfl fun _ _ ↦ rfl)

/-- The decision about an attempt is recorded with that attempt only. -/
lemma deciding_decideAttempt {key : PartitionAttemptId} (detail : Text) (hkey : key ∉ keys)
    (h : Deciding o s₀ p keys specs due pass s) :
    Deciding o s₀ p keys specs due pass (o.decideAttempt key detail s) := by
  refine h.of_eq (t := o.decideAttempt key detail s) rfl rfl rfl ?_
  intro k hk
  have hne : k ≠ key := fun heq ↦ hkey (heq ▸ hk)
  exact KeyedMap.find?_modify_of_ne _ _ hne

lemma deciding_settleDecided (lifecycle : ReservationLifecycle) (reason : Text)
    (h : Deciding o s₀ p keys specs due pass s) :
    Deciding o s₀ p keys specs due pass (o.settleDecided attempt lifecycle reason s) :=
  h.of_eq (t := o.settleDecided attempt lifecycle reason s) rfl rfl rfl fun _ _ ↦ rfl

lemma withdrawPartition_ends :
    Meets (fun _ ↦ False) (fun _ _ ↦ True) (o.withdrawPartition q) s := by
  apply meets_get_bind
  apply meets_when
  · intro _
    apply meets_attempt_bind_of_forall
    intro status t
    cases status with
    | error e => exact meets_pure trivial
    | ok u => exact trivial
  · intro _
    trivial

lemma deciding_releaseDecided (hlayout : o.layout.Distinct)
    (h : Deciding o s₀ p keys specs due pass s) :
    Meets (fun _ ↦ False) (fun _ ↦ Deciding o s₀ p keys specs due pass)
      (o.releaseDecided attempt) s := by
  apply meets_get_bind
  cases s.findReservation attempt.reservation with
  | none => exact meets_pure h
  | some reservation =>
      apply meets_when
      · intro _
        apply meets_modify_bind
        have hsettled : Deciding o s₀ p keys specs due pass
            (o.settleDecided attempt .released "released after reconciliation" s) :=
          deciding_settleDecided .released "released after reconciliation" h
        apply meets_when
        · intro _
          have hledger : Localized p Quiet
              (o.settleDecided attempt .released "released after reconciliation" s)
              (onLedger o.id (CapacityLedger.releaseReserved reservation.resources)
                (o.settleDecided attempt .released "released after reconciliation" s)).1 :=
            localized_onLedger
          exact hsettled.quiet hlayout hledger
        · intro _
          exact hsettled
      · intro _
        exact h

lemma deciding_rejectAttempt {key : PartitionAttemptId} (hlayout : o.layout.Distinct)
    (hkey : key ∉ keys) (h : Deciding o s₀ p keys specs due pass s) :
    Meets (fun _ ↦ False) (Deciding o s₀ p keys specs due) (o.rejectAttempt key attempt pass) s := by
  apply meets_modify_bind
  have hdecided := deciding_decideAttempt "reconciled: the intended physical result is absent"
    hkey h
  have hloop : Meets (fun _ ↦ False) (fun _ ↦ Deciding o s₀ p keys specs due pass)
      (attempt.partitions.forM o.withdrawPartition)
      (o.decideAttempt key "reconciled: the intended physical result is absent" s) := by
    apply meets_forM (Q := fun _ ↦ Deciding o s₀ p keys specs due pass) _ hdecided
    intro q rest t ht
    apply withdrawPartition_ends.mono quiet_withdrawPartition
    intro _ u _ hquiet
    exact ht.quiet hlayout hquiet
  apply meets_bind hloop
  intro _ t ht
  apply meets_bind (deciding_releaseDecided hlayout ht)
  intro _ u hu
  exact meets_pure hu

lemma deciding_acceptDestroyed {key : PartitionAttemptId} (hlayout : o.layout.Distinct)
    (hkind : attempt.kind = .destroyPartition) (hdesired : attempt.desired = [])
    (hkey : key ∉ keys) (h : Deciding o s₀ p keys specs due pass s) :
    Meets (fun _ ↦ False) (Deciding o s₀ p keys specs due) (o.acceptAttempt key attempt pass) s := by
  apply meets_modify_bind
  have hdecided := deciding_decideAttempt "reconciled: the intended physical result is present"
    hkey h
  apply meets_bind (meets_foldlM (Q := fun _ ↦ Deciding o s₀ p keys specs due)
    (fun _ _ _ _ ht ↦ deciding_adoptDestroyed hlayout hkind hdesired ht) hdecided)
  intro pass' t ht
  exact meets_modify_bind (meets_pure (deciding_settleDecided .committed
    "committed after reconciliation" ht))

/-- An accepted attempt binds every record that it lists. -/
lemma deciding_acceptAttempt {key : PartitionAttemptId} (hlayout : o.layout.Distinct)
    (hfind : s₀.findAttempt key = some attempt) (hambiguous : attempt.ambiguousOn o.id = true)
    (hplanned : attempt.partitions.length ≤ attempt.desired.length) (hkey : key ∉ keys)
    (h : Deciding o s₀ p keys (attempt.partitions.zipIdx.flatMap attempt.wants ++ specs)
      (p ∈ attempt.partitions ∨ due) pass s) :
    Meets (fun _ ↦ False) (Deciding o s₀ p keys specs due) (o.acceptAttempt key attempt pass) s := by
  have hkind : attempt.kind ≠ .destroyPartition := by
    simp only [PartitionAttempt.ambiguousOn, Bool.and_eq_true, decide_eq_true_eq] at hambiguous
    exact hambiguous.2
  apply meets_modify_bind
  have hdecided := deciding_decideAttempt "reconciled: the intended physical result is present"
    hkey h
  have hloop : Meets (fun _ ↦ False)
      (fun pass t ↦ Deciding o s₀ p keys specs (p ∈ ([] : List PartitionId) ∨ due) pass t ∧
        ([] : List (PartitionId × ℕ)) ⊆ attempt.partitions.zipIdx)
      (attempt.partitions.zipIdx.foldlM (o.adoptProduced attempt) pass)
      (o.decideAttempt key "reconciled: the intended physical result is present" s) := by
    apply meets_foldlM (Q := fun entries pass t ↦
      Deciding o s₀ p keys (entries.flatMap attempt.wants ++ specs)
        (p ∈ entries.map Prod.fst ∨ due) pass t ∧ entries ⊆ attempt.partitions.zipIdx)
    · rintro entry rest pass t ⟨ht, hsub⟩
      have hentry := List.mem_zipIdx_iff_getElem?.mp (hsub List.mem_cons_self)
      have hlt : entry.2 < attempt.desired.length := by
        obtain ⟨hlt, -⟩ := List.getElem?_eq_some_iff.mp hentry
        omega
      have hwants : attempt.desired[entry.2]? = some attempt.desired[entry.2] :=
        List.getElem?_eq_getElem hlt
      apply (deciding_adoptProduced hlayout hkind hwants _ ht).mono (R := fun _ _ ↦ True) trivial
      · intro pass' u hu _
        exact ⟨hu, fun e he ↦ hsub (List.mem_cons_of_mem _ he)⟩
      · rintro rfl
        exact ⟨key, attempt, entry.2, hfind, hambiguous, hentry, hwants⟩
    · refine ⟨?_, List.Subset.refl _⟩
      rwa [List.zipIdx_map_fst]
  apply meets_bind hloop
  rintro pass' t ⟨ht, -⟩
  apply meets_modify_bind
  apply meets_pure
  apply deciding_settleDecided
  exact ⟨ht.claims, ht.spares, ht.attempts, ht.fate.imp_right fun h ↦ h.resolve_left (by simp),
    ht.below⟩

/-- The record is still to be bound by an accepted attempt. -/
def Observation.awaits (o : Observation) (s : FabricState) (p : PartitionId)
    (keys : List PartitionAttemptId) : Prop :=
  ∃ key ∈ keys, ∃ a, s.findAttempt key = some a ∧ a.ambiguousOn o.id = true ∧
    a.presentIn o.layout = true ∧ p ∈ a.partitions

/-- What the decisions rely on: accepted attempts plan what they list, and destructions plan
nothing. -/
structure Planful (s : FabricState) (id : AcceleratorId) (layout : BackendLayout) : Prop where
  accepted : ∀ key a, s.findAttempt key = some a → a.ambiguousOn id = true →
    a.presentIn layout = true → a.partitions.length ≤ a.desired.length
  destructions : ∀ key a, s.findAttempt key = some a → a.accelerator = id →
    a.state = .outcomeUnknown → a.kind = .destroyPartition → a.desired = []

lemma acceptedSpecs_cons {key : PartitionAttemptId} :
    acceptedSpecs s₀ o.id o.layout (key :: keys) =
      acceptedSpecs s₀ o.id o.layout [key] ++ acceptedSpecs s₀ o.id o.layout keys := by
  simp [acceptedSpecs]

lemma acceptedSpecs_accepted {key : PartitionAttemptId} (hfind : s₀.findAttempt key = some attempt)
    (hambiguous : attempt.ambiguousOn o.id = true) (hpresent : attempt.presentIn o.layout = true) :
    acceptedSpecs s₀ o.id o.layout [key] = attempt.partitions.zipIdx.flatMap attempt.wants := by
  simp [acceptedSpecs, hfind, hambiguous, hpresent]

/-- A step of the decisions, with what is left to want and to await. -/
abbrev DecidingLeft (o : Observation) (s₀ : FabricState) (p : PartitionId)
    (keys : List PartitionAttemptId) (pass : Pass) (s : FabricState) : Prop :=
  Deciding o s₀ p keys (acceptedSpecs s₀ o.id o.layout keys) (o.awaits s₀ p keys) pass s ∧
    keys.Nodup

lemma deciding_resolveAttempt {key : PartitionAttemptId} (hlayout : o.layout.Distinct)
    (hplanful : Planful s₀ o.id o.layout) (h : DecidingLeft o s₀ p (key :: keys) pass s) :
    Meets (fun _ ↦ False) (DecidingLeft o s₀ p keys) (o.resolveAttempt pass key) s := by
  obtain ⟨h, hnodup⟩ := h
  obtain ⟨hkey, hnodup⟩ := List.nodup_cons.mp hnodup
  have hsame := h.attempts key List.mem_cons_self
  rw [acceptedSpecs_cons] at h
  have hrest : ∀ specs due, Deciding o s₀ p (key :: keys) specs due pass s →
      Deciding o s₀ p keys specs due pass s := fun specs due hd ↦
    ⟨hd.claims, hd.spares, fun k hk ↦ hd.attempts k (List.mem_cons_of_mem _ hk), hd.fate, hd.below⟩
  have hfinish : ∀ {m : FabricM Pass}, Meets (fun _ ↦ False) (Deciding o s₀ p keys
      (acceptedSpecs s₀ o.id o.layout keys) (o.awaits s₀ p keys)) m s →
      Meets (fun _ ↦ False) (DecidingLeft o s₀ p keys) m s := fun hm ↦
    hm.mono (R := fun _ _ ↦ True) trivial fun _ _ hd _ ↦ ⟨hd, hnodup⟩
  -- an attempt that is not accepted as a creation leaves what is awaited to the others
  have hpassed : (∀ a, s₀.findAttempt key = some a → a.ambiguousOn o.id = true →
      a.presentIn o.layout = false) → Deciding o s₀ p keys (acceptedSpecs s₀ o.id o.layout keys)
        (o.awaits s₀ p keys) pass s := by
    intro hnot
    apply hrest
    apply h.weaken
    rintro ⟨k, hk, a, ha, hambiguous, hpresent, hp⟩
    rcases List.mem_cons.mp hk with rfl | hk
    · rw [hnot a ha hambiguous] at hpresent
      cases hpresent
    · exact Or.inr ⟨k, hk, a, ha, hambiguous, hpresent, hp⟩
  apply hfinish
  apply meets_get_bind
  cases hattempt : (s.findAttempt key).filter fun a ↦
      a.accelerator = o.id && a.state = .outcomeUnknown with
  | none =>
      apply meets_pure
      apply hpassed
      intro a ha hambiguous
      have hnone := Option.filter_eq_none_iff.mp hattempt a (hsame.trans ha)
      simp only [PartitionAttempt.ambiguousOn, Bool.and_eq_true, decide_eq_true_eq] at hambiguous hnone
      exact absurd hambiguous.1 hnone
  | some attempt =>
      obtain ⟨hfind, hcond⟩ := Option.filter_eq_some_iff.mp hattempt
      have hfind₀ : s₀.findAttempt key = some attempt := hsame.symm.trans hfind
      simp only [Bool.and_eq_true, decide_eq_true_eq] at hcond
      have hnoted : ∀ {specs due}, Deciding o s₀ p keys specs due pass s →
          Deciding o s₀ p keys specs due
            { pass with report := { pass.report with reconciliationRequired := true } } s :=
        fun hd ↦ hd.of_eq rfl rfl rfl fun _ _ ↦ rfl
      simp only
      by_cases hkind : attempt.kind = .destroyPartition
      · have hdesired := hplanful.destructions key attempt hfind₀ hcond.1 hcond.2 hkind
        have hleft := hnoted (hpassed fun a ha hambiguous ↦ by
          obtain rfl := Option.some.inj (hfind₀.symm.trans ha)
          simp [PartitionAttempt.ambiguousOn, hkind] at hambiguous)
        split
        · exact deciding_acceptDestroyed hlayout hkind hdesired hkey hleft
        · exact deciding_rejectAttempt hlayout hkey hleft
      · have hambiguous : attempt.ambiguousOn o.id = true := by
          simp [PartitionAttempt.ambiguousOn, hcond, hkind]
        have hsatisfied : o.satisfied s attempt = attempt.presentIn o.layout := if_neg hkind
        rw [hsatisfied]
        split
        · rename_i hpresent
          apply deciding_acceptAttempt hlayout hfind₀ hambiguous
            (hplanful.accepted key attempt hfind₀ hambiguous hpresent) hkey
          rw [acceptedSpecs_accepted hfind₀ hambiguous hpresent] at h
          have hall := hnoted (hrest _ _ h)
          refine ⟨hall.claims, hall.spares, hall.attempts, hall.fate.imp_right ?_, hall.below⟩
          rintro ⟨k, hk, a, ha, ha', hpresent', hp⟩
          rcases List.mem_cons.mp hk with rfl | hk
          · obtain rfl := Option.some.inj (hfind₀.symm.trans ha)
            exact Or.inl hp
          · exact Or.inr ⟨k, hk, a, ha, ha', hpresent', hp⟩
        · rename_i habsent
          apply deciding_rejectAttempt hlayout hkey
          apply hnoted
          apply hpassed
          intro a ha _
          obtain rfl := Option.some.inj (hfind₀.symm.trans ha)
          simpa using habsent

end Deciding

section Reconciling

variable {o : Observation} {p : PartitionId}

/-- Records that are new name partitions that were not claimed. -/
def NewUnclaimed (claimed : List Text) (s t : FabricState) : Prop :=
  ∀ q r, t.partitions.find? q = some r →
    s.partitions.find? q = some r ∨ r.nativeIdentity.nativeId ∉ claimed

instance {claimed : List Text} : Std.Refl (NewUnclaimed claimed) := ⟨fun _ _ _ h ↦ Or.inl h⟩

instance {claimed : List Text} : IsTrans FabricState (NewUnclaimed claimed) where
  trans s t u hst htu q r hr := by
    rcases htu q r hr with ht | hnew
    · exact hst q r ht
    · exact Or.inr hnew

lemma NewUnclaimed.of_eq {claimed : List Text} (h : t.partitions = s.partitions) :
    NewUnclaimed claimed s t := fun _ _ hr ↦ Or.inl (h ▸ hr)

lemma newUnclaimed_holdUnexpected {claimed : List Text} {record : PartitionRecord}
    {report : ReconciliationReport} :
    Advances (NewUnclaimed claimed) (o.holdUnexpected record report) s :=
  advances_holdUnexpected_of fun _ _ _ t ↦
    .of_eq (keeps_onLedger (s := t) FabricState.partitions fun _ _ ↦ rfl)

lemma newUnclaimed_recordUnexpected {claimed : List Text} {l : List BackendNativePartition}
    {report : ReconciliationReport} :
    Advances (NewUnclaimed claimed) (o.recordUnexpected claimed l report) s := by
  induction l generalizing s report with
  | nil => exact advances_pure _ _
  | cons native rest ih =>
      apply advances_ite
      · intro _
        exact ih
      · intro hunclaimed
        have hfree : native.nativeId ∉ claimed := by simpa using hunclaimed
        have hallocate : Advances (NewUnclaimed claimed) allocateId s :=
          advances_allocateId_of fun _ ↦ .of_eq rfl
        apply advances_bind (advances_attempt hallocate)
        intro t status _
        cases status with
        | error e => exact advances_pure _ _
        | ok id =>
            apply advances_get_bind
            apply advances_bind newUnclaimed_holdUnexpected
            rintro u ⟨record, report'⟩ hheld
            obtain ⟨state, held, hrecord⟩ := holdUnexpected_same u _ hheld
            simp only at hrecord
            have hname : record.nativeIdentity.nativeId = native.nativeId := by
              rw [hrecord]
              rfl
            apply advances_modify_modify_bind _ ih
            intro q r hr
            have hstamp : Localized id (fun r r' ↦ r'.nativeIdentity = r.nativeIdentity)
                { u with partitions := u.partitions.insert id record }
                (o.evidence.stamp id { u with partitions := u.partitions.insert id record }) :=
              localized_stamp fun _ _ ↦ rfl
            by_cases hq : q = id
            · subst hq
              obtain ⟨r₀, hr₀, hsame⟩ := hstamp.source hr
              rw [KeyedMap.find?_insert_self] at hr₀
              rw [hsame, ← Option.some.inj hr₀, hname]
              exact Or.inr hfree
            · rw [hstamp.others q hq] at hr
              exact Or.inl ((KeyedMap.find?_insert_of_ne _ _ hq).symm.trans hr)

/-- What was decided stands when the unexplained partitions are recorded. -/
lemma Deciding.evidenced {s₀ : FabricState} {pass : Pass} {report : ReconciliationReport}
    {specs : List NativePartitionSpec}
    (h : Deciding o s₀ p [] specs (o.awaits s₀ p []) pass s) :
    Evidenced s₀ o.id o.layout p
      (o.recordUnexpected pass.claimed o.layout.partitions report s).1.partitions := by
  have hdecided : Decided o s₀ p pass.claimed s := by
    apply h.fate.resolve_right
    rintro ⟨key, hkey, -⟩
    cases hkey
  have hbelow : Below p s (o.recordUnexpected pass.claimed o.layout.partitions report s).1 :=
    below_recordUnexpected
  have hnew : NewUnclaimed pass.claimed s
      (o.recordUnexpected pass.claimed o.layout.partitions report s).1 :=
    newUnclaimed_recordUnexpected
  intro r hr hactive
  rw [(hbelow h.below).1] at hr
  obtain ⟨planned, hplanned, native, hnative, hadmits, hname, hclaimed, hsole⟩ :=
    hdecided r hr hactive
  refine ⟨planned, hplanned, native, hnative, hadmits, hname, ?_⟩
  intro q r' hq hr' hacc hlive
  rcases hnew q r' hr' with hold | hfresh
  · exact hsole q r' hq hold hacc hlive
  · intro heq
    exact hfresh (heq ▸ hclaimed)

/-- The observed partitions that no record of the layout of a device names. -/
def unnamedPartitions (s : FabricState) (id : AcceleratorId) (layout : BackendLayout) :
    List BackendNativePartition :=
  layout.partitions.filter fun native ↦ !s.partitions.values.any fun r ↦
    r.accelerator = id && inLayout r && r.nativeIdentity.nativeId = native.nativeId

/-- The evidence that a reconciliation needs to decide every ambiguous attempt of a device by
partitions of its own. -/
structure EvidenceSuffices (s : FabricState) (id : AcceleratorId) (observed : BackendLayout) :
    Prop where
  below : ∀ p r, s.findPartition p = some r → p < s.ids.next
  planful : Planful s id observed
  spare : serveSpecs (acceptedSpecs s id observed s.attempts.keys)
    (unnamedPartitions s id observed) = true
  withdrawn : ∀ p r, s.findPartition p = some r → r.accelerator = id →
    r.state = .unpartitioned → findNative observed r.nativeIdentity.nativeId = none
  adoption : s.policy.allowExternalAdoption = true → ∀ key a, s.findAttempt key = some a →
    a.ambiguousOn id = true → a.presentIn observed = false → ∀ p ∈ a.partitions, ∀ r,
      s.findPartition p = some r → r.state = .revalidationRequired →
        findNative observed r.nativeIdentity.nativeId = none

lemma EvidenceSuffices.of_same {id : AcceleratorId} {observed : BackendLayout}
    (h : EvidenceSuffices s id observed) (hsame : SameRecords s t) :
    EvidenceSuffices t id observed := by
  obtain ⟨hbelow, hplanful, hspare, hwithdrawn, hadoption⟩ := h
  have hfind : ∀ p, t.findPartition p = s.findPartition p := fun p ↦ by
    rw [FabricState.findPartition, FabricState.findPartition, hsame.partitions]
  have hattempt : ∀ key, t.findAttempt key = s.findAttempt key := fun key ↦ by
    rw [FabricState.findAttempt, FabricState.findAttempt, hsame.attempts]
  refine ⟨fun p r hr ↦ lt_of_lt_of_le (hbelow p r (hfind p ▸ hr)) hsame.ids, ⟨?_, ?_⟩, ?_, ?_, ?_⟩
  · intro key a ha
    exact hplanful.accepted key a (hattempt key ▸ ha)
  · intro key a ha
    exact hplanful.destructions key a (hattempt key ▸ ha)
  · unfold acceptedSpecs unnamedPartitions
    rw [hsame.partitions, hsame.attempts]
    simp only [hattempt]
    exact hspare
  · intro p r hr
    exact hwithdrawn p r (hfind p ▸ hr)
  · intro hpolicy key a ha hambiguous hpresent p hp r hr
    exact hadoption (hsame.policy ▸ hpolicy) key a (hattempt key ▸ ha) hambiguous hpresent p hp r
      (hfind p ▸ hr)

/-- After the comparisons, what the accepted attempts want is spared. -/
lemma Comparing.deciding {pass : Pass} {r : PartitionRecord} {key : PartitionAttemptId}
    {a : PartitionAttempt} (h : Comparing o s [] pass t) (hs : EvidenceSuffices s o.id o.layout)
    (hr : s.findPartition p = some r) (hinactive : r.state ≠ .active)
    (ha : s.findAttempt key = some a) (hambiguous : a.ambiguousOn o.id = true)
    (hp : p ∈ a.partitions) : DecidingLeft o s p t.attempts.keys pass t := by
  have hattempts : ∀ k, t.findAttempt k = s.findAttempt k := fun k ↦ by
    rw [FabricState.findAttempt, FabricState.findAttempt, h.attempts]
  refine ⟨⟨fun q ↦ h.claims q List.not_mem_nil, ?_, fun k _ ↦ hattempts k, ?_, ?_⟩,
    KeyedMap.keys_nodup _⟩
  · rw [h.attempts]
    refine ⟨unnamedPartitions s o.id o.layout, List.filter_sublist, ?_, hs.spare⟩
    intro native hnative hclaimed
    obtain ⟨q, r', hr', hmeets⟩ := h.claimed _ hclaimed
    have hunnamed := (List.mem_filter.mp hnative).2
    rw [Bool.not_eq_true', List.any_eq_false] at hunnamed
    exact hunnamed r' (KeyedMap.mem_values.mpr ⟨q, hr'⟩) hmeets
  · by_cases hactive : ∃ r', t.partitions.find? p = some r' ∧ r'.state = .active
    · right
      obtain ⟨r', hr', hactive⟩ := hactive
      obtain ⟨r₀, hr₀, hmatched⟩ := h.matched p r' hr'
      obtain rfl := Option.some.inj (hr₀.symm.trans hr)
      obtain ⟨hpolicy, r₁, hr₁, hstate, hshows⟩ := (hmatched.active hactive).resolve_left hinactive
      have hkey : key ∈ t.attempts.keys := by
        rw [h.attempts]
        exact KeyedMap.mem_keys.mpr ⟨a, ha⟩
      refine ⟨key, hkey, a, ha, hambiguous, ?_, hp⟩
      by_contra hpresent
      exact not_shows (hs.adoption hpolicy key a ha hambiguous (by simpa using hpresent) p hp r₁ hr₁
        hstate) hshows
    · left
      intro r' hr' hstate
      exact absurd ⟨r', hr', hstate⟩ hactive
  · rw [h.ids]
    exact hs.below p r hr

/-- The passes of a reconciliation make a partition of an ambiguous attempt active by evidence of
its own only. -/
lemma evidenced_reconcilePasses {report : ReconciliationReport} {r : PartitionRecord}
    {key : PartitionAttemptId} {a : PartitionAttempt} (hlayout : o.layout.Distinct)
    (hs : EvidenceSuffices s o.id o.layout) (hr : s.findPartition p = some r)
    (hinactive : r.state ≠ .active) (ha : s.findAttempt key = some a)
    (hambiguous : a.ambiguousOn o.id = true) (hp : p ∈ a.partitions) :
    Evidenced s o.id o.layout p (o.reconcilePasses report s).1.partitions := by
  have hunseen : o.withdrawnUnseen s := by
    intro q r' hr' hacc hstate
    exact not_shows (hs.withdrawn q r' hr' hacc hstate)
  have hpasses : Meets (fun t ↦ Evidenced s o.id o.layout p t.partitions)
      (fun _ t ↦ Evidenced s o.id o.layout p t.partitions) (o.reconcilePasses report) s := by
    apply meets_get_bind
    apply meets_bind (comparing_all hunseen).of_never
    intro pass t ht
    apply meets_get_bind
    have hloop : Meets (fun _ ↦ False) (DecidingLeft o s p [])
        (t.attempts.keys.foldlM o.resolveAttempt pass) t :=
      meets_foldlM (fun _ _ _ _ h ↦ deciding_resolveAttempt hlayout hs.planful h)
        (ht.deciding hs hr hinactive ha hambiguous hp)
    apply meets_bind hloop.of_never
    rintro pass' u ⟨hu, -⟩
    have hdone : Evidenced s o.id o.layout p
        (o.recordUnexpected pass'.claimed o.layout.partitions pass'.report u).1.partitions :=
      hu.evidenced
    exact meets_of_advances
      (R := fun _ (v : FabricState) ↦ Evidenced s o.id o.layout p v.partitions) hdone
      (fun _ h ↦ h) fun _ _ h ↦ h
  exact hpasses.fst fun _ _ h ↦ h

/-- A reconciliation makes a partition of an ambiguous creation or reconfiguration active only by
binding it to an observed partition that answers what was planned for it and that no other live
record of the device names. -/
def DecidesByEvidence (s : FabricState) (op : Op) : Prop :=
  ∀ id observed now, op = .reconcile id observed now →
    ∀ key a p r, s.findAttempt key = some a → a.ambiguousOn id = true → p ∈ a.partitions →
      s.findPartition p = some r → r.state ≠ .active →
        Evidenced s id observed p (op.step s).partitions

/-- Reconciliations find evidence enough. -/
def evidenceSufficient (s : FabricState) : Op → Prop
  | .reconcile id observed _ => EvidenceSuffices s id observed
  | _ => True

lemma staysActive_takeOffline {report : ReconciliationReport} {key : PartitionId} :
    Advances StaysActive (o.takeOffline report key) s := by
  apply advances_get_bind
  cases (s.findPartition key).filter _ with
  | none => exact advances_pure _ _
  | some record =>
      exact advances_bind (advances_attempt (staysActive_transition (by decide)))
        fun _ _ _ ↦ advances_pure _ _

/-- Nothing becomes active on a device that is gone. -/
lemma staysActive_reconcileAbsent {report : ReconciliationReport} :
    Advances StaysActive (o.reconcileAbsent report) s := by
  apply advances_get_bind
  apply advances_bind (advances_foldlM fun _ _ _ _ _ ↦ staysActive_takeOffline)
  intro report' t _
  refine advances_modify_bind (.of_eq rfl) ?_
  exact advances_modify_bind staysActive_bump (advances_pure _ _)

lemma staysActive_reconcile {id : AcceleratorId} {observed : BackendLayout} {now : UInt64}
    (habsent : observed.devicePresent = false) :
    Advances StaysActive (reconcile id observed now) s := by
  apply advances_get_bind
  cases s.findAccelerator id with
  | none => exact advances_throw _ _
  | some accelerator =>
      apply advances_lift_bind
      intro _ _
      have hallocate : Advances StaysActive allocateId s :=
        advances_allocateId_of fun _ ↦ .of_eq rfl
      apply advances_bind hallocate
      intro t reportId _
      apply advances_ite
      · intro hpresent
        rw [habsent] at hpresent
        cases hpresent
      · intro _
        exact staysActive_reconcileAbsent

lemma decidesByEvidence_of_guard {op : Op} (h : evidenceSufficient s op) :
    DecidesByEvidence s op := by
  rintro id observed now rfl key a p r ha hambiguous hp hr hinactive
  have hstart : Evidenced s id observed p s.partitions := by
    intro r' hr' hactive
    obtain rfl := Option.some.inj (hr'.symm.trans hr)
    exact absurd hactive hinactive
  cases hpresent : observed.devicePresent with
  | true =>
      apply reconcile_partitions (P := Evidenced s id observed p) hpresent hstart
      intro o report t hid hlayout hdistinct hsame
      subst hid hlayout
      have hfind : ∀ k, t.findAttempt k = s.findAttempt k := fun k ↦ by
        rw [FabricState.findAttempt, FabricState.findAttempt, hsame.attempts]
      have ht : Evidenced t o.id o.layout p (o.reconcilePasses report t).1.partitions :=
        evidenced_reconcilePasses hdistinct (h.of_same hsame)
          ((congrArg (·.find? p) hsame.partitions).trans hr) hinactive ((hfind key).trans ha)
          hambiguous hp
      intro r' hr' hactive
      obtain ⟨planned, ⟨k, a', index, ha', hrest⟩, hnative⟩ := ht r' hr' hactive
      exact ⟨planned, ⟨k, a', index, (hfind k).symm.trans ha', hrest⟩, hnative⟩
  | false =>
      intro r' hr' hactive
      have hstays : StaysActive s (reconcile id observed now s).1 := staysActive_reconcile hpresent
      refine absurd ⟨?_, ?_⟩ (hstays.noActivation p)
      · rw [FabricState.findPartition]
        exact (congrArg (Option.map PartitionRecord.state) hr').trans (congrArg some hactive)
      · rw [hr]
        exact fun heq ↦ hinactive (Option.some.inj heq)

/-- In every run whose reconciliations find evidence enough, every reconciliation decides ambiguous
creations and reconfigurations by evidence of their own. -/
theorem ambiguous_decided_by_evidence {options : FabricOptions} {now : UInt64} {ops : List Op}
    (h : fabric.Follows evidenceSufficient ops (FabricState.opened options now)) :
    fabric.Follows DecidesByEvidence ops (FabricState.opened options now) :=
  h.mono fun _ _ hop ↦ decidesByEvidence_of_guard hop

end Reconciling

namespace Sample

/-- A second slice is planned as 6, reserved as 7 with partition 8, and its creation dispatched as
attempt 9, whose result nothing verifies. -/
def creationLost : List Op :=
  created ++ [.discardPlan 2, .plan { profile := profile.id } 6, .reserve 6 7, .execute 7 8,
    .applyMutationResult 9 accepted none 9]

/-- The device reports the given slices. -/
def observes (natives : List Text) : Op := .reconcile 1 (layout natives) 10

end Sample

/-- The slice that was there before stands in for the second one, which becomes active without a
physical partition. -/
theorem ambiguous_accepted_without_evidence :
    ¬ fabric.Follows DecidesByEvidence (Sample.creationLost ++ [Sample.observes ["a"]])
      Sample.opened := by
  intro h
  obtain ⟨-, hlast, -⟩ := System.follows_append.mp h
  let s := fabric.run Sample.creationLost Sample.opened
  have hattempt : (s.findAttempt 9).any (fun a ↦ a.ambiguousOn 1 && a.partitions.contains 8) =
      true := by decide +kernel
  have hbefore : (s.findPartition 8).any (fun r ↦ r.state ≠ .active) = true := by decide +kernel
  have hafter : (((Sample.observes ["a"]).step s).findPartition 8).any (fun r ↦
      r.state = .active && r.nativeIdentity.nativeId.isEmpty) = true := by decide +kernel
  obtain ⟨a, ha, hboth⟩ := (Option.any_eq_true _ _).mp hattempt
  obtain ⟨hambiguous, hp⟩ := Bool.and_eq_true_iff.mp hboth
  obtain ⟨r, hr, hinactive⟩ := (Option.any_eq_true _ _).mp hbefore
  obtain ⟨r', hr', hactive⟩ := (Option.any_eq_true _ _).mp hafter
  obtain ⟨hactive, hempty⟩ := Bool.and_eq_true_iff.mp hactive
  obtain ⟨-, -, native, hnative, -, hname, -⟩ := hlast 1 _ _ rfl 9 a 8 r ha hambiguous
    (List.contains_iff_mem.mp hp) hr (by simpa using hinactive) r' hr' (by simpa using hactive)
  have hnamed : ∀ native ∈ (Sample.layout ["a"]).partitions, native.nativeId ≠ [] := by
    decide +kernel
  exact hnamed native hnative (hname.symm.trans (List.isEmpty_iff.mp hempty))

theorem ambiguous_decided_by_evidence_created :
    fabric.Follows DecidesByEvidence (Sample.creationLost ++ [Sample.observes ["a", "b"]])
      Sample.opened := by
  let s := fabric.run Sample.creationLost Sample.opened
  have hbelow : s.partitions.keys.all (· < s.ids.next) = true := by decide +kernel
  have hplans : ∀ a ∈ s.attempts.values, a.partitions.length ≤ a.desired.length ∧
      a.kind ≠ .destroyPartition := by decide +kernel
  have hspare : serveSpecs (acceptedSpecs s 1 (Sample.layout ["a", "b"]) s.attempts.keys)
      (unnamedPartitions s 1 (Sample.layout ["a", "b"])) = true := by decide +kernel
  have hstates : ∀ r ∈ s.partitions.values, r.state ≠ .unpartitioned := by decide +kernel
  have hpolicy : s.policy.allowExternalAdoption = false := by decide +kernel
  apply ambiguous_decided_by_evidence
  refine System.follows_append.mpr ⟨?_, ?_, trivial⟩
  · exact ⟨trivial, trivial, trivial, trivial, trivial, trivial, trivial, trivial, trivial, trivial,
      trivial⟩
  · change EvidenceSuffices s 1 (Sample.layout ["a", "b"])
    clear_value s
    rw [List.all_eq_true] at hbelow
    refine ⟨fun p r hr ↦ of_decide_eq_true (hbelow p (KeyedMap.mem_keys.mpr ⟨r, hr⟩)), ⟨?_, ?_⟩,
      hspare, ?_, ?_⟩
    · intro key a ha _ _
      exact (hplans a (KeyedMap.mem_values.mpr ⟨key, ha⟩)).1
    · intro key a ha _ _ hkind
      exact absurd hkind (hplans a (KeyedMap.mem_values.mpr ⟨key, ha⟩)).2
    · intro p r hr _ hstate
      exact absurd hstate (hstates r (KeyedMap.mem_values.mpr ⟨p, hr⟩))
    · intro hadopts
      rw [hpolicy] at hadopts
      cases hadopts

end PartitionFabric
