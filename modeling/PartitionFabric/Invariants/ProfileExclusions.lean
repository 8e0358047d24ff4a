import PartitionFabric.Invariants.DeviceAtomicity
import PartitionFabric.Invariants.PlanUse

/-!
The profile registry under registration. A registered profile is valid when it comes in, but its
registration also adds its identity to the exclusion lists of the profiles that it excludes,
without looking at what these lists hold already or at their bound.
-/

namespace PartitionFabric

open Procedure

variable {s t : FabricState} {profile other : PartitionProfile} {limits : Limits}

section Validation

lemma status_bind {m : Status} {f : Unit → Status} :
    (m >>= f) = success ↔ m = success ∧ f () = success := by
  cases m with
  | error e => exact iff_of_false (by rintro ⟨⟩) (by rintro ⟨⟨⟩, -⟩)
  | ok u => exact ⟨fun h ↦ ⟨rfl, h⟩, fun h ↦ h.2⟩

lemma status_reject {c : Prop} [Decidable c] {code : ErrorCode} {text detail : Text} {m : Status} :
    (if c then failure code text detail else m) = success ↔ ¬c ∧ m = success := by
  by_cases h : c
  · rw [if_pos h]
    exact iff_of_false (by rintro ⟨⟩) fun hnot ↦ hnot.1 h
  · rw [if_neg h]
    exact ⟨fun hm ↦ ⟨h, hm⟩, And.right⟩

lemma checkExclusions_iff (l : List PartitionProfileId) :
    PartitionProfile.validate.checkExclusions profile l = success ↔
      profile.id ∉ l ∧ l.Nodup := by
  induction l with
  | nil => exact iff_of_true rfl ⟨List.not_mem_nil, List.nodup_nil⟩
  | cons entry rest ih =>
    rw [PartitionProfile.validate.checkExclusions, status_reject, status_reject, ih]
    simp only [List.contains_iff_mem, List.mem_cons, not_or, List.nodup_cons]
    rw [eq_comm (a := entry)]
    tauto

/-- A profile with another exclusion list. -/
def PartitionProfile.withExclusions (profile : PartitionProfile)
    (exclusions : List PartitionProfileId) : PartitionProfile :=
  { profile with mutuallyExclusiveWith := exclusions }

/-- What validation demands of an exclusion list. -/
structure ExclusionsAdmitted (limits : Limits) (id : PartitionProfileId)
    (exclusions : List PartitionProfileId) : Prop where
  bound : exclusions.length ≤ limits.maxProfileExclusions
  others : id ∉ exclusions
  distinct : exclusions.Nodup

/-- The checks of a profile apart from those of its exclusion list. -/
def ShapeAdmitted (limits : Limits) (profile : PartitionProfile) : Prop :=
  (profile.withExclusions []).validate limits = success

theorem validate_iff : profile.validate limits = success ↔
    ShapeAdmitted limits profile ∧
      ExclusionsAdmitted limits profile.id profile.mutuallyExclusiveWith := by
  have hsplit : ExclusionsAdmitted limits profile.id profile.mutuallyExclusiveWith ↔
      profile.mutuallyExclusiveWith.length ≤ limits.maxProfileExclusions ∧
        profile.id ∉ profile.mutuallyExclusiveWith ∧ profile.mutuallyExclusiveWith.Nodup :=
    ⟨fun h ↦ ⟨h.1, h.2, h.3⟩, fun h ↦ ⟨h.1, h.2.1, h.2.2⟩⟩
  rw [hsplit]
  unfold ShapeAdmitted PartitionProfile.withExclusions PartitionProfile.validate
  simp only [status_reject, status_bind, checkExclusions_iff]
  simp only [List.length_nil, Nat.not_lt_zero, gt_iff_lt, not_false_eq_true, true_and, not_lt,
    List.not_mem_nil, List.nodup_nil]
  tauto

end Validation

section Registration

/-- A registration passes its checks. -/
structure RegistersProfile (s : FabricState) (profile : PartitionProfile) : Prop where
  opened : s.closed = false
  valid : profile.validate s.limits = success
  current : ∀ e, s.profiles.find? profile.id = some e → profile.generation ≤ e.generation →
    e.name = profile.name
  room : s.profiles.size < s.limits.maxProfiles ∨ ∃ e, s.profiles.find? profile.id = some e

/-- The registry once a profile is registered: every profile that it excludes lists it once more. -/
def FabricState.profilesWith (s : FabricState) (profile : PartitionProfile)
    (id : PartitionProfileId) : Option PartitionProfile :=
  ((s.profiles.insert profile.id profile).find? id).map fun other ↦
    if id ∈ profile.mutuallyExclusiveWith then
      other.withExclusions (other.mutuallyExclusiveWith ++ [profile.id])
    else other

lemma profiles_foldl_modify {f : PartitionProfile → PartitionProfile}
    {l : List PartitionProfileId} (hl : l.Nodup) (s : FabricState) (id : PartitionProfileId) :
    (l.foldl (fun t k ↦ ({ t with profiles := t.profiles.modify k f } : FabricState))
        s).profiles.find? id =
      (s.profiles.find? id).map fun v ↦ if id ∈ l then f v else v := by
  induction l generalizing s with
  | nil => simp
  | cons k rest ih =>
    obtain ⟨hk, hrest⟩ := List.nodup_cons.mp hl
    rw [List.foldl_cons, ih hrest, KeyedMap.find?_modify]
    by_cases hid : id = k
    · subst hid
      rw [if_pos rfl, Option.map_map]
      congr 1
      funext v
      simp [hk]
    · simp [hid]

lemma limits_foldl_modify {f : PartitionProfile → PartitionProfile}
    (l : List PartitionProfileId) (s : FabricState) :
    (l.foldl (fun t k ↦ ({ t with profiles := t.profiles.modify k f } : FabricState))
        s).limits = s.limits := by
  induction l generalizing s with
  | nil => rfl
  | cons k rest ih => exact ih _

/-- A registration is refused and changes nothing, or it leaves the registry that it describes. -/
lemma registerProfile_cases (profile : PartitionProfile) (s : FabricState) :
    (RegistersProfile s profile ∧ (registerProfile profile s).1.limits = s.limits ∧
        ∀ id, (registerProfile profile s).1.profiles.find? id = s.profilesWith profile id) ∨
      ¬RegistersProfile s profile ∧ (registerProfile profile s).1 = s := by
  unfold registerProfile
  cases hclosed : s.closed with
  | true =>
    refine .inr ⟨fun h ↦ ?_, by rw [bind_error (checkOpen_closed hclosed)]⟩
    cases hclosed.symm.trans h.opened
  | false =>
    rw [bind_ok (checkOpen_opened hclosed), get_bind]
    cases hvalid : profile.validate s.limits with
    | error e =>
      refine .inr ⟨fun h ↦ ?_, rfl⟩
      cases hvalid.symm.trans h.valid
    | ok u =>
      change _ ∧ ((require _ _ >>= _) s).1.limits = s.limits ∧
        (∀ id, ((require _ _ >>= _) s).1.profiles.find? id = _) ∨
          _ ∧ ((require _ _ >>= _) s).1 = s
      rw [require_bind]
      cases hcurrent : !(s.profiles.find? profile.id).any fun e ↦
          e.generation ≥ profile.generation && e.name != profile.name with
      | false =>
        refine .inr ⟨fun h ↦ ?_, rfl⟩
        rw [Bool.not_eq_false', Option.any_eq_true] at hcurrent
        obtain ⟨e, he, hold⟩ := hcurrent
        simp only [ge_iff_le, Bool.and_eq_true, decide_eq_true_eq, bne_iff_ne] at hold
        exact hold.2 (h.current e he hold.1)
      | true =>
        rw [if_pos rfl, require_bind]
        cases hroom : !(s.profiles.size ≥ s.limits.maxProfiles &&
            (s.profiles.find? profile.id).isNone : Bool) with
        | false =>
          refine .inr ⟨fun h ↦ ?_, rfl⟩
          simp only [Bool.not_eq_false', Bool.and_eq_true, decide_eq_true_eq,
            Option.isNone_iff_eq_none] at hroom
          rcases h.room with hlt | ⟨e, he⟩
          · omega
          · cases hroom.2.symm.trans he
        | true =>
          rw [if_pos rfl, modify_bind, bind_ok (forM_modify _ _ _), modify_apply]
          have hnodup := (validate_iff.mp hvalid).2.distinct
          obtain ⟨generation, hbump⟩ := bumpStateGeneration_eq
            (profile.mutuallyExclusiveWith.foldl (fun t k ↦ ({ t with
              profiles := t.profiles.modify k fun other ↦
                { other with
                  mutuallyExclusiveWith := other.mutuallyExclusiveWith ++ [profile.id] } } :
                FabricState)) { s with profiles := s.profiles.insert profile.id profile })
          refine .inl ⟨⟨hclosed, hvalid, fun e he hle ↦ ?_, ?_⟩, ?_, fun id ↦ ?_⟩
          · by_contra hne
            have hany : (s.profiles.find? profile.id).any (fun e ↦
                e.generation ≥ profile.generation && e.name != profile.name) = true := by
              rw [he]
              simp [hle, hne]
            rw [hany] at hcurrent
            cases hcurrent
          · by_contra hfull
            rw [not_or, not_lt, not_exists] at hfull
            have hnone : s.profiles.find? profile.id = none :=
              Option.eq_none_iff_forall_not_mem.mpr hfull.2
            simp [hnone, hfull.1] at hroom
          · rw [hbump]
            exact limits_foldl_modify _ _
          · rw [hbump]
            exact profiles_foldl_modify hnodup _ id

end Registration

section Reports

/-- Under the same limits, every profile is one that was there or a valid one under its own
identity. -/
structure GrowsValid (s t : FabricState) : Prop where
  limits : t.limits = s.limits
  profiles : ∀ k p, t.profiles.find? k = some p →
    s.profiles.find? k = some p ∨ p.id = k ∧ p.validate s.limits = success

instance : Std.Refl GrowsValid := ⟨fun _ ↦ ⟨rfl, fun _ _ h ↦ .inl h⟩⟩

instance : IsTrans FabricState GrowsValid :=
  ⟨fun _ _ _ h h' ↦ ⟨h'.limits.trans h.limits, fun k p hp ↦ by
    rcases h'.profiles k p hp with hold | ⟨hid, hvalid⟩
    · exact h.profiles k p hold
    · exact .inr ⟨hid, h.limits ▸ hvalid⟩⟩⟩

/-- A step that leaves the profiles and the limits alone. -/
lemma growsValid_of_eq (hlimits : t.limits = s.limits) (hprofiles : t.profiles = s.profiles) :
    GrowsValid s t :=
  ⟨hlimits, fun _ _ h ↦ .inl (hprofiles ▸ h)⟩

lemma growsValid_bump : GrowsValid s s.bumpStateGeneration := by
  obtain ⟨generation, heq⟩ := bumpStateGeneration_eq s
  rw [heq]
  exact growsValid_of_eq rfl rfl

lemma growsValid_onLedger {id : AcceleratorId} {m : LedgerM Unit} :
    Advances GrowsValid (onLedger id m) s := by
  unfold Advances onLedger
  cases s.findLedger id with
  | none => exact refl_of _ s
  | some l => exact growsValid_of_eq rfl rfl

lemma growsValid_transition {now : UInt64} {key : PartitionId} {target : PartitionState}
    {reason : Text} : Advances GrowsValid (transitionPartition now key target reason) s := by
  unfold Advances
  rcases transitionPartition_cases now key target reason s with
    hsame | ⟨record, ledger, ledger', held, -, -, -, -, -, hmoved⟩
  · rw [hsame]
    exact refl_of _ s
  · rw [hmoved]
    exact growsValid_of_eq rfl rfl

lemma growsValid_identifyAccelerator {stableKey : Text} :
    Advances GrowsValid (identifyAccelerator stableKey) s := by
  apply advances_get_bind
  cases s.keyIndex.find? stableKey with
  | some id => exact advances_pure _ _
  | none =>
    refine advances_require_bind fun _ ↦ advances_bind ?_ fun t id _ ↦
      advances_modify_bind (growsValid_of_eq rfl rfl) (advances_pure _ _)
    unfold Advances
    rcases allocateId_cases s with ⟨e, h⟩ | ⟨ids, -, h⟩
    · rw [h]
      exact refl_of _ s
    · rw [h]
      exact growsValid_of_eq rfl rfl

/-- A profile of a report is validated before it is stored. -/
lemma growsValid_registerBackendProfile :
    Advances GrowsValid (registerBackendProfile profile) s := by
  refine advances_get_bind (advances_lift_bind fun u hvalid ↦ advances_require_bind fun _ ↦
    advances_modify ⟨rfl, fun k p hp ↦ ?_⟩)
  rw [KeyedMap.find?_insert] at hp
  split at hp
  · rename_i hk
    obtain rfl := Option.some.inj hp
    exact .inr ⟨hk.symm, hvalid⟩
  · exact .inl hp

lemma growsValid_publishCapabilityLocked {id : AcceleratorId} {capability : PartitionCapability}
    {now : UInt64} {force : Bool} :
    Advances GrowsValid (publishCapabilityLocked id capability now force) s := by
  apply advances_get_bind
  cases s.findAccelerator id with
  | none => exact advances_throw _ _
  | some record =>
    refine advances_require_bind fun _ ↦ advances_lift_bind fun _ _ ↦ ?_
    refine advances_ite (fun _ ↦ advances_pure _ _) fun _ ↦ advances_lift_bind fun g _ ↦ ?_
    refine advances_modify_bind (growsValid_of_eq rfl rfl) ?_
    refine advances_bind (advances_forM fun key _ t _ ↦ ?_) fun _ _ _ ↦
      advances_bind (advances_forM fun key _ t _ ↦ ?_) fun _ _ _ ↦
        advances_modify_bind growsValid_bump (advances_pure _ _)
    · apply advances_get_bind
      cases t.findReservation key with
      | none => exact advances_pure _ _
      | some r =>
        refine advances_when fun _ ↦ advances_modify_bind (growsValid_of_eq rfl rfl) ?_
        exact advances_when fun _ ↦ advances_ignore growsValid_onLedger
    · apply advances_get_bind
      cases t.findPartition key with
      | none => exact advances_pure _ _
      | some r => exact advances_when fun _ ↦ advances_ignore growsValid_transition

lemma growsValid_establishLedger {id : AcceleratorId} {existing : Bool} {totals : ResourceVector}
    {undo : FabricState → FabricState} (hundo : ∀ t, GrowsValid t (undo t)) :
    Advances GrowsValid (establishLedger id existing totals undo) s := by
  have htouch : GrowsValid s (touchLedger id s) := by
    unfold touchLedger
    split
    · exact refl_of _ s
    · exact growsValid_of_eq rfl rfl
  refine advances_modify_bind htouch (advances_get_bind (advances_when fun _ ↦ ?_))
  refine advances_bind (advances_attempt growsValid_onLedger) fun t status _ ↦ ?_
  cases status with
  | ok _ => exact advances_pure _ _
  | error e => exact advances_modify_bind (hundo t) (advances_throw _ _)

/-- A report brings in valid profiles only, also when it is refused half way. -/
theorem growsValid_registerBackendAccelerator {accelerator : BackendAccelerator} {now : UInt64} :
    Advances GrowsValid (registerBackendAccelerator accelerator now) s := by
  refine advances_bind (refl_of _ s) fun t _ _ ↦ advances_get_bind (advances_lift_bind fun _ _ ↦ ?_)
  refine advances_bind growsValid_identifyAccelerator fun u entry _ ↦ ?_
  obtain ⟨id, existing⟩ := entry
  refine advances_bind (advances_when fun _ ↦ advances_modify ?_) fun v _ _ ↦ advances_get_bind ?_
  · unfold touchAccelerator
    split
    · exact refl_of _ u
    · exact growsValid_of_eq rfl rfl
  refine advances_lift_bind fun _ _ ↦ advances_lift_bind fun _ _ ↦ ?_
  refine advances_bind (advances_forM fun _ _ _ _ ↦ growsValid_registerBackendProfile)
    fun w _ _ ↦ advances_modify_bind (growsValid_of_eq rfl rfl) ?_
  refine advances_bind (growsValid_establishLedger fun x ↦ ?_) fun _ _ _ ↦ ?_
  · unfold undoRegistration
    split <;> exact growsValid_of_eq rfl rfl
  refine advances_bind growsValid_publishCapabilityLocked fun _ _ _ ↦ ?_
  refine advances_bind (advances_when fun _ ↦ advances_get_bind ?_) fun _ _ _ ↦
    advances_modify_bind growsValid_bump (advances_pure _ _)
  refine advances_bind (advances_forM fun key _ x _ ↦ ?_) fun _ _ _ ↦
    advances_forM fun _ _ _ _ ↦ advances_modify (growsValid_of_eq rfl rfl)
  apply advances_get_bind
  cases x.findPartition key with
  | none => exact advances_pure _ _
  | some r => exact advances_when fun _ ↦ advances_ignore growsValid_transition

end Reports

section Runs

/-- The registered profiles are valid, list no exclusion twice, and a profile that excludes another
conflicts with it either way round. -/
structure ProfilesSound (s : FabricState) : Prop where
  valid : ∀ k p, s.profiles.find? k = some p → p.validate s.limits = success
  distinct : ∀ k p, s.profiles.find? k = some p → p.mutuallyExclusiveWith.Nodup
  symmetric : ∀ k p k' p', s.profiles.find? k = some p → s.profiles.find? k' = some p' →
    p'.id ∈ p.mutuallyExclusiveWith → p.conflictsWith p' = true ∧ p'.conflictsWith p = true

/-- Validity is all there is to it: a valid profile lists others only, and each once. -/
lemma profilesSound_iff :
    ProfilesSound s ↔ ∀ k p, s.profiles.find? k = some p → p.validate s.limits = success := by
  refine ⟨ProfilesSound.valid, fun h ↦ ⟨h, fun k p hp ↦ ?_, fun k p k' p' hp hp' hexcludes ↦ ?_⟩⟩
  · exact (validate_iff.mp (h k p hp)).2.distinct
  · have hne : p'.id ≠ p.id := by
      intro heq
      rw [heq] at hexcludes
      exact (validate_iff.mp (h k p hp)).2.others hexcludes
    constructor
    · rw [PartitionProfile.conflictsWith, if_neg hne, Bool.or_eq_true, List.contains_iff_mem]
      exact .inl hexcludes
    · rw [PartitionProfile.conflictsWith, if_neg hne.symm, Bool.or_eq_true, List.contains_iff_mem,
        List.contains_iff_mem]
      exact .inr hexcludes

/-- Every profile stands under its own identity. -/
def ProfilesFiled (s : FabricState) : Prop := ∀ k p, s.profiles.find? k = some p → p.id = k

/-- A registration that is accepted finds, on every registered profile that it excludes, a list
that does not name it yet and has room for one more entry. -/
def ExclusionsHaveRoom (s : FabricState) (profile : PartitionProfile) : Prop :=
  RegistersProfile s profile → ∀ k ∈ profile.mutuallyExclusiveWith, ∀ other,
    s.profiles.find? k = some other → profile.id ∉ other.mutuallyExclusiveWith ∧
      other.mutuallyExclusiveWith.length < s.limits.maxProfileExclusions

/-- The entry that a registration adds to another profile's list keeps it valid exactly when the
list has room for it and does not have it yet. -/
lemma validate_push_iff (hvalid : other.validate limits = success) {id : PartitionProfileId}
    (hid : id ≠ other.id) :
    (other.withExclusions (other.mutuallyExclusiveWith ++ [id])).validate limits = success ↔
      id ∉ other.mutuallyExclusiveWith ∧
        other.mutuallyExclusiveWith.length < limits.maxProfileExclusions := by
  obtain ⟨hshape, hbound, hothers, hdistinct⟩ := validate_iff.mp hvalid
  rw [validate_iff]
  constructor
  · rintro ⟨-, hadmitted⟩
    have hlength := hadmitted.bound
    have hnodup := hadmitted.distinct
    simp only [PartitionProfile.withExclusions, List.length_append, List.length_singleton] at hlength
    simp only [PartitionProfile.withExclusions, List.nodup_append, List.mem_singleton] at hnodup
    exact ⟨fun hmem ↦ hnodup.2.2 id hmem id rfl rfl, by omega⟩
  · rintro ⟨hnew, hroom⟩
    refine ⟨hshape, ⟨?_, ?_, ?_⟩⟩
    · simp only [PartitionProfile.withExclusions, List.length_append, List.length_singleton]
      omega
    · simp only [PartitionProfile.withExclusions, List.mem_append, List.mem_singleton, not_or]
      exact ⟨hothers, hid.symm⟩
    · simp only [PartitionProfile.withExclusions, List.nodup_append, List.mem_singleton]
      exact ⟨hdistinct, List.nodup_singleton _, fun a ha b hb heq ↦ hnew (hb ▸ heq ▸ ha)⟩

/-- In a sound registry, a registration leaves a sound one exactly when the lists it adds itself to
have room for it. -/
theorem registerProfile_sound_iff (hs : ProfilesSound s) (hfiled : ProfilesFiled s) :
    ProfilesSound (registerProfile profile s).1 ↔ ExclusionsHaveRoom s profile := by
  rcases registerProfile_cases profile s with ⟨hregisters, hlimits, hprofiles⟩ | ⟨hrefused, hsame⟩
  swap
  · rw [hsame]
    exact iff_of_true hs fun h ↦ absurd h hrefused
  have hothers := (validate_iff.mp hregisters.valid).2.others
  rw [profilesSound_iff, hlimits]
  simp only [hprofiles, FabricState.profilesWith]
  constructor
  · intro hall _ k hk other hother
    have hne : k ≠ profile.id := fun h ↦ hothers (h ▸ hk)
    have hid : profile.id ≠ other.id := by rw [hfiled k other hother]; exact hne.symm
    refine (validate_push_iff (hs.valid k other hother) hid).mp (hall k _ ?_)
    rw [KeyedMap.find?_insert_of_ne _ _ hne, hother, Option.map_some, if_pos hk]
  · intro hroom k p hp
    obtain ⟨stored, hstored, rfl⟩ := Option.map_eq_some_iff.mp hp
    by_cases hk : k ∈ profile.mutuallyExclusiveWith
    · have hne : k ≠ profile.id := fun h ↦ hothers (h ▸ hk)
      rw [KeyedMap.find?_insert_of_ne _ _ hne] at hstored
      have hid : profile.id ≠ stored.id := by rw [hfiled k stored hstored]; exact hne.symm
      rw [if_pos hk]
      exact (validate_push_iff (hs.valid k stored hstored) hid).mpr
        (hroom hregisters k hk stored hstored)
    · rw [if_neg hk]
      rw [KeyedMap.find?_insert] at hstored
      split at hstored
      · obtain rfl := Option.some.inj hstored
        exact hregisters.valid
      · exact hs.valid k stored hstored

lemma registerProfile_filed (hfiled : ProfilesFiled s) :
    ProfilesFiled (registerProfile profile s).1 := by
  rcases registerProfile_cases profile s with ⟨-, -, hprofiles⟩ | ⟨-, hsame⟩
  swap
  · rwa [hsame]
  intro k p hp
  rw [hprofiles, FabricState.profilesWith] at hp
  obtain ⟨stored, hstored, rfl⟩ := Option.map_eq_some_iff.mp hp
  have hid : stored.id = k := by
    rw [KeyedMap.find?_insert] at hstored
    split at hstored
    · rename_i hk
      obtain rfl := Option.some.inj hstored
      exact hk.symm
    · exact hfiled k stored hstored
  split
  · exact hid
  · exact hid

/-- The registrations of profiles and of backend accelerators. -/
def registering (_ : FabricState) : Op → Prop
  | .registerProfile _ | .registerBackendAccelerator _ _ => True
  | _ => False

/-- Registrations whose profiles find room on the lists they add themselves to. -/
def roomyRegistrations (s : FabricState) : Op → Prop
  | .registerProfile profile => ExclusionsHaveRoom s profile
  | .registerBackendAccelerator _ _ => True
  | _ => False

/-- A sound registry whose profiles stand under their own identities. -/
def SoundAndFiled (s : FabricState) : Prop := ProfilesSound s ∧ ProfilesFiled s

lemma sound_of_reachable (hs : fabric.Reachable roomyRegistrations s) : SoundAndFiled s := by
  refine hs.invariant ?_ fun u op hu hop ↦ ?_
  · rintro _ ⟨options, now, rfl⟩
    exact ⟨profilesSound_iff.mpr fun k p hp ↦ by simp [FabricState.opened] at hp,
      fun k p hp ↦ by simp [FabricState.opened] at hp⟩
  · cases op with
    | registerProfile profile =>
      exact ⟨(registerProfile_sound_iff hu.1 hu.2).mpr hop, registerProfile_filed hu.2⟩
    | registerBackendAccelerator accelerator now =>
      have hgrows : GrowsValid u ((Op.registerBackendAccelerator accelerator now).step u) :=
        advances_ignore growsValid_registerBackendAccelerator
      constructor
      · refine profilesSound_iff.mpr fun k p hp ↦ ?_
        change p.validate ((Op.registerBackendAccelerator accelerator now).step u).limits = success
        rw [hgrows.limits]
        rcases hgrows.profiles k p hp with hold | ⟨-, hvalid⟩
        · exact hu.1.valid k p hold
        · exact hvalid
      · intro k p hp
        rcases hgrows.profiles k p hp with hold | ⟨hid, -⟩
        · exact hu.2 k p hold
        · exact hid
    | _ => exact hop.elim

/-- Along registrations whose profiles find room on the lists they add themselves to, the registry
is sound; there a profile can be registered without harm exactly when it finds that room. -/
theorem profiles_stay_sound_iff (hs : fabric.Reachable roomyRegistrations s) :
    ProfilesSound s ∧ ∀ profile,
      ProfilesSound ((Op.registerProfile profile).step s) ↔ ExclusionsHaveRoom s profile := by
  obtain ⟨hsound, hfiled⟩ := sound_of_reachable hs
  exact ⟨hsound, fun profile ↦ registerProfile_sound_iff hsound hfiled⟩

end Runs

namespace Sample

/-- A profile that excludes the slice. -/
def excluding : PartitionProfile :=
  { Sample.profile with
    id := 2
    name := "exclusive slice"
    mutuallyExclusiveWith := [Sample.profile.id] }

/-- The slice is registered, then the profile that excludes it, twice. -/
def excludedTwice : List Op :=
  [.registerProfile Sample.profile, .registerProfile excluding, .registerProfile excluding]

/-- The slice is registered, then the profile that excludes it. -/
def excludedOnce : List Op := [.registerProfile Sample.profile, .registerProfile excluding]

end Sample

/-- A profile that is registered again stands twice on the list of the profile it excludes. -/
theorem exclusion_duplicated : ¬∀ s, fabric.Reachable registering s → ProfilesSound s := by
  intro h
  let s := fabric.run Sample.excludedTwice Sample.opened
  have hs : fabric.Reachable registering s :=
    System.Reachable.run (.initial ⟨_, _, rfl⟩) ⟨trivial, trivial, trivial, trivial⟩
  have hlisted : (s.profiles.find? 1).any (fun p ↦ p.mutuallyExclusiveWith = [2, 2]) = true := by
    decide +kernel
  obtain ⟨p, hp, htwice⟩ := (Option.any_eq_true _ _).mp hlisted
  have hnodup := (h s hs).distinct 1 p hp
  rw [of_decide_eq_true htwice] at hnodup
  exact absurd hnodup (by decide)

/-- The slice and a profile that excludes it, registered once each, leave a sound registry. -/
theorem profiles_stay_sound_excluded :
    ProfilesSound (fabric.run Sample.excludedOnce Sample.opened) := by
  let s := fabric.run [.registerProfile Sample.profile] Sample.opened
  have hlist : (s.profiles.find? 1).all (fun p ↦
      p.mutuallyExclusiveWith = [] ∧ 0 < s.limits.maxProfileExclusions) = true := by
    decide +kernel
  have hroom : ExclusionsHaveRoom s Sample.excluding := by
    intro _ k hk other hother
    obtain rfl : k = 1 := List.mem_singleton.mp hk
    rw [hother, Option.all_some, decide_eq_true_eq] at hlist
    rw [hlist.1]
    exact ⟨List.not_mem_nil, hlist.2⟩
  have hs : fabric.Reachable roomyRegistrations (fabric.run Sample.excludedOnce Sample.opened) :=
    System.Reachable.run (.initial ⟨_, _, rfl⟩)
      ⟨fun _ _ hk ↦ absurd hk List.not_mem_nil, hroom, trivial⟩
  exact (profiles_stay_sound_iff hs).1

end PartitionFabric
