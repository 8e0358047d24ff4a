import PartitionFabric.Invariants.Evolution

/-!
Every operation but the import evolves the registry: one lemma for each procedure.
-/

namespace PartitionFabric

open Procedure

variable {π : Scope} {floor : UInt64} {s : FabricState}

lemma RecordEvolves.supersede (r : PartitionRecord) : RecordEvolves π r r.supersede := by
  unfold PartitionRecord.supersede
  cases h : next r.generation with
  | error e =>
      exact ⟨rfl, rfl, rfl, le_refl _, Legal.refl _, Or.inr rfl, Or.inr (Or.inl rfl), ⟨rfl, rfl⟩,
        Or.inr⟩
  | ok g =>
      exact ⟨rfl, rfl, rfl, le_of_lt (lt_next h), Legal.refl _, Or.inr rfl, Or.inr (Or.inl rfl),
        ⟨rfl, rfl⟩, Or.inr⟩

lemma RecordEvolves.retire (r : PartitionRecord) (now : UInt64) (reason : Text)
    (hretires : π.enters .retired) : RecordEvolves π r (r.retire now reason) := by
  have h := RecordEvolves.supersede (π := π) r
  exact ⟨h.id, h.accelerator, h.resources, h.generation, .single (allowed_retired _) hretires,
    h.native, h.drain, h.incarnation, fun hactive ↦ PartitionState.noConfusion hactive⟩

lemma advances_bump : Advances (Evolves π floor)
    (Procedure.modify FabricState.bumpStateGeneration : FabricM Unit) s :=
  advances_modify (evolves_bump s)

lemma advances_onLedger {id : AcceleratorId} {m : LedgerM Unit}
    (hm : ∀ l : CapacityLedger, l.Balanced → (m l).1.Balanced) :
    Advances (Evolves π floor) (onLedger id m) s := by
  unfold Advances onLedger
  cases h : s.findLedger id with
  | none => exact refl_of _ s
  | some l => exact evolves_setLedger h (hm l)

lemma advances_moveBetween {id : AcceleratorId} {source target : UInt8}
    {amount : ResourceVector} :
    Advances (Evolves π floor)
      (onLedger id (CapacityLedger.moveBetween source target amount)) s :=
  advances_onLedger fun _ ↦ CapacityLedger.moveBetween_balanced source target amount

lemma advances_releaseReserved {id : AcceleratorId} {amount : ResourceVector} :
    Advances (Evolves π floor) (onLedger id (CapacityLedger.releaseReserved amount)) s :=
  advances_onLedger fun _ ↦ CapacityLedger.transfer_balanced (by decide) amount

lemma reserve_balanced (amount : ResourceVector) {l : CapacityLedger} (hl : l.Balanced) :
    (CapacityLedger.reserve amount l).1.Balanced := by
  unfold CapacityLedger.reserve
  rw [require_bind]
  split
  · exact CapacityLedger.transfer_balanced (by decide) amount hl
  · exact hl

lemma advances_allocateId : Advances (Evolves π floor) allocateId s := by
  unfold Advances
  rcases allocateId_cases s with ⟨e, h⟩ | ⟨ids, hlt, h⟩
  · rw [h]
    exact refl_of _ s
  · rw [h]
    have hs := refl_of (Evolves π floor) s
    refine ⟨le_of_lt hlt, fun hi ↦ ⟨fun k r hr ↦ ?_, fun k r hr ↦ ?_, fun k a ha ↦ ?_,
      hi.assignments⟩, fun hfiled k p hp ↦ (hfiled k p hp).imp_right fun h ↦ lt_trans h hlt, id,
      hs.partitions, hs.origin, hs.attempts, hs.assignments,
      fun _ _ hacc ↦ ⟨hacc.balanced, hacc.ledgered, hacc.bound⟩,
      fun _ hn ↦ hn.allocate (le_of_lt hlt), .of_keeps rfl⟩
    · exact (hi.partitions k r hr).imp_right fun h ↦ lt_trans h hlt
    · exact (hi.reservations k r hr).imp_right fun h ↦ lt_trans h hlt
    · exact (hi.attempts k a ha).imp_right fun h ↦ lt_trans h hlt

lemma allocateId_eq_ok {id : UInt64} {t : FabricState} (h : allocateId s = (t, .ok id)) :
    id = s.ids.next ∧ id < t.ids.next ∧ ∃ ids, t = { s with ids := ids } := by
  rcases allocateId_cases s with ⟨e, hs⟩ | ⟨ids, hlt, hs⟩
  · exact absurd (hs.symm.trans h) (by simp)
  · obtain ⟨rfl, hid⟩ := Prod.mk.inj (hs.symm.trans h)
    obtain rfl := Except.ok.inj hid
    exact ⟨rfl, hlt, ids, rfl⟩

lemma attempt_eq_ok {α : Type} {m : FabricM α} {t : FabricState} {a : α}
    (h : Procedure.attempt m s = (t, .ok (.ok a))) : m s = (t, .ok a) := by
  rw [attempt_apply] at h
  obtain ⟨hstate, hvalue⟩ := Prod.mk.inj h
  exact Prod.ext hstate (Except.ok.inj hvalue)

lemma CapacityFollows.balanced {target : PartitionState} {record : PartitionRecord}
    {ledger ledger' : CapacityLedger} {held : Option CapacityBucket}
    (h : CapacityFollows target record ledger ledger' held) (hl : ledger.Balanced) :
    ledger'.Balanced := by
  rcases h with ⟨-, rfl, -⟩ | ⟨-, -, hmove⟩
  · exact hl
  · have hb := CapacityLedger.moveBetween_balanced (record.heldBucket.getD .free).raw
      ((bucketForState target).getD .free).raw record.resources hl
    rw [hmove] at hb
    exact hb

lemma advances_transition_of {now : UInt64} {key : PartitionId} {target : PartitionState}
    {reason : Text} (henters : π.enters target) (hactive : target = .active → π.activates) :
    Advances (Evolves π floor) (transitionPartition now key target reason) s := by
  unfold Advances
  rcases transitionPartition_cases now key target reason s with
    h | ⟨record, ledger, ledger', held, hrecord, hallowed, -, hledger, hfollows, h⟩
  · rw [h]
    exact refl_of _ s
  · rw [h]
    have hset : Evolves π floor s (s.setLedger record.accelerator ledger') :=
      evolves_setLedger hledger hfollows.balanced
    refine trans_of _ hset (evolves_partitions fun k ↦ ?_)
    change Option.Rel _ (s.partitions.find? k) _
    rw [KeyedMap.find?_insert]
    by_cases hk : k = key
    · subst hk
      rw [if_pos rfl, hrecord]
      exact .some ⟨rfl, rfl, rfl, le_refl _, .single hallowed henters, Or.inr rfl,
        Or.inr (Or.inl rfl), ⟨rfl, rfl⟩, fun h ↦ Or.inl (hactive h)⟩
    · rw [if_neg hk]
      cases s.partitions.find? k with
      | none => exact .none
      | some r => exact .some (.refl r)

/-- A transition that takes a partition out of authority, or leaves it out. -/
lemma advances_transition {now : UInt64} {key : PartitionId} {target : PartitionState}
    {reason : Text} (henters : π.enters target) (h : target ≠ .active) :
    Advances (Evolves π floor) (transitionPartition now key target reason) s :=
  advances_transition_of henters fun htarget ↦ absurd htarget h

lemma advances_revalidateUnknown {now : UInt64} {reason : Text} {p : PartitionId}
    (henters : π.enters .revalidationRequired) :
    Advances (Evolves π floor) (revalidateUnknown now reason p) s :=
  advances_get_bind (advances_when fun _ ↦
    advances_ignore (advances_transition henters (by decide)))

lemma advances_checkOpen : Advances (Evolves π floor) checkOpen s := refl_of _ s

lemma advances_setPolicy {policy : PlanningPolicy} :
    Advances (Evolves π floor) (setPolicy policy) s := by
  refine advances_lift_bind fun _ _ ↦ advances_get_bind (advances_lift_bind fun g hg ↦ ?_)
  refine advances_modify_bind (evolves_policy (le_of_lt (lt_next hg))) ?_
  refine advances_bind (advances_forM fun key _ t _ ↦ ?_) fun t _ _ ↦ advances_bump
  exact advances_modify evolves_terminatePlanWhen

lemma advances_registerProfile {profile : PartitionProfile}
    (h : π.publishes profile.id profile.generation profile.resources) :
    Advances (Evolves π floor) (registerProfile profile) s := by
  refine advances_bind advances_checkOpen fun t _ _ ↦ advances_get_bind ?_
  refine advances_lift_bind fun _ _ ↦ advances_require_bind fun _ ↦ advances_require_bind fun _ ↦ ?_
  refine advances_modify_bind (evolves_insertProfile h) ?_
  refine advances_bind (advances_forM fun key _ t _ ↦ ?_) fun t _ _ ↦ advances_bump
  exact advances_modify (evolves_modifyProfile fun _ ↦ ⟨rfl, rfl, rfl⟩)

/-- What a scope has to allow for a device whose capability or incarnation changes. -/
structure Disturbs (π : Scope) (id : AcceleratorId) : Prop where
  republishes : π.republishes id
  settles : ∀ k w b, π.settles k id w b
  revalidates : π.enters .revalidationRequired

lemma advances_fenceOutdated {id : AcceleratorId} {generation : CapabilityGeneration}
    {now : UInt64} {key : PartitionReservationId} (hd : Disturbs π id) :
    Advances (Evolves π floor) (fenceOutdated id generation now key) s := by
  refine advances_get_bind ?_
  cases hr : s.findReservation key with
  | none => exact advances_pure _ _
  | some r =>
      refine advances_when fun hlive ↦ ?_
      simp only [Bool.and_eq_true, decide_eq_true_eq, Bool.not_eq_true'] at hlive
      refine advances_modify_bind (evolves_modifyReservation fun r' hr' ↦ ⟨rfl, ?_⟩) ?_
      · obtain rfl := Option.some.inj (hr.symm.trans hr')
        exact .settle (hlive.1.1 ▸ hd.settles _ _ _) hlive.1.2 rfl rfl rfl rfl
      · exact advances_when fun _ ↦ advances_ignore advances_releaseReserved

lemma advances_demoteUnsupported {id : AcceleratorId} {capability : PartitionCapability}
    {now : UInt64} {key : PartitionId} (henters : π.enters .revalidationRequired) :
    Advances (Evolves π floor) (demoteUnsupported id capability now key) s := by
  refine advances_get_bind ?_
  cases s.findPartition key with
  | none => exact advances_pure _ _
  | some r =>
      exact advances_when fun _ ↦ advances_ignore (advances_transition henters (by decide))

/-- The generation that a changed capability is published under. -/
lemma lt_capabilityGeneration {generation g : CapabilityGeneration}
    (h : (if known generation then next generation else .ok 1 : Result CapabilityGeneration) = .ok g) :
    generation < g := by
  split at h
  · exact lt_next h
  · rename_i hunknown
    obtain rfl := Except.ok.inj h
    simp only [known, bne_iff_ne, ne_eq, not_not] at hunknown
    rw [hunknown]
    decide

lemma advances_publishCapabilityLocked {id : AcceleratorId} {capability : PartitionCapability}
    {now : UInt64} {force : Bool} (hd : Disturbs π id)
    (ht : π.topology id capability.topologyGeneration) :
    Advances (Evolves π floor) (publishCapabilityLocked id capability now force) s := by
  refine advances_get_bind ?_
  cases hrecord : s.findAccelerator id with
  | none => exact advances_throw _ _
  | some record =>
      refine advances_require_bind fun _ ↦ advances_lift_bind fun _ _ ↦ ?_
      refine advances_ite (fun _ ↦ ?_) fun _ ↦ ?_
      · exact advances_pure _ _
      · refine advances_lift_bind fun g hg ↦ ?_
        refine advances_modify_bind (evolves_modifyAccelerator (fun _ _ ↦ ⟨rfl, fun h ↦ h⟩)
          fun a ha ↦ ⟨⟨Or.inr (le_refl _), ?_, Or.inr ⟨rfl, rfl⟩⟩, Or.inl ht⟩) ?_
        · obtain rfl := Option.some.inj (hrecord.symm.trans ha)
          exact Or.inr (Or.inr ⟨hd.republishes, lt_capabilityGeneration hg⟩)
        refine advances_bind (advances_forM fun _ _ _ _ ↦ advances_fenceOutdated hd)
          fun _ _ _ ↦ ?_
        refine advances_bind (advances_forM fun _ _ _ _ ↦
          advances_demoteUnsupported hd.revalidates) fun _ _ _ ↦ ?_
        exact advances_bind advances_bump fun _ _ _ ↦ advances_pure _ _

lemma advances_registerBackendProfile {profile : PartitionProfile}
    (h : π.publishes profile.id profile.generation profile.resources) :
    Advances (Evolves π floor) (registerBackendProfile profile) s := by
  refine advances_get_bind (advances_lift_bind fun _ _ ↦ advances_require_bind fun _ ↦ ?_)
  exact advances_modify (evolves_insertProfile h)

lemma advances_revalidateAfterReset {id : AcceleratorId} {now : UInt64} {key : PartitionId}
    (henters : π.enters .revalidationRequired) :
    Advances (Evolves π floor) (revalidateAfterReset id now key) s := by
  refine advances_get_bind ?_
  cases s.findPartition key with
  | none => exact advances_pure _ _
  | some r =>
      exact advances_when fun _ ↦ advances_ignore (advances_transition henters (by decide))

lemma evolves_fenceAfterReset {id : AcceleratorId} {now : UInt64} {key : PartitionReservationId}
    (hd : Disturbs π id) : Evolves π floor s (fenceAfterReset id now key s) := by
  refine evolves_modifyReservation fun r _ ↦ ?_
  split
  · rename_i hlive
    simp only [Bool.and_eq_true, decide_eq_true_eq, Bool.not_eq_true'] at hlive
    exact ⟨rfl, .settle (hlive.1 ▸ hd.settles _ _ _) hlive.2 rfl rfl rfl rfl⟩
  · exact ⟨rfl, .refl key r⟩

lemma advances_identifyAccelerator {stableKey : Text} :
    Advances (Evolves π floor) (identifyAccelerator stableKey) s := by
  refine advances_get_bind ?_
  cases s.keyIndex.find? stableKey with
  | some id => exact advances_pure _ _
  | none =>
      refine advances_require_bind fun _ ↦ advances_bind advances_allocateId fun t id hid ↦ ?_
      obtain ⟨-, hlt, -⟩ := allocateId_eq_ok hid
      refine advances_modify_bind (.of_eq rfl rfl rfl rfl rfl rfl rfl rfl
        (fun _ hn ↦ { hn with keys := fun text k hk ↦ ?_ }) (.of_keeps rfl)) (advances_pure _ _)
      rw [KeyedMap.find?_insert] at hk
      split at hk
      · exact Option.some.inj hk ▸ hlt
      · exact hn.keys text k hk

lemma evolves_touchAccelerator {id : AcceleratorId}
    (ht : s.accelerators.find? id = none → π.topology id 0) (hn : Numbered s → id < s.ids.next) :
    Evolves π floor s (touchAccelerator id s) := by
  unfold touchAccelerator
  split
  · exact refl_of _ s
  · rename_i habsent
    have hnone : s.accelerators.find? id = none := by
      simpa [KeyedMap.contains] using habsent
    refine evolves_accelerators (fun k a ha ↦ ?_) (devicesEvolve_insert (fun a ha ↦ ?_)
      (Or.inl (ht hnone))) fun _ hs ↦ hs.accelerators.insert (hn hs) _
    · rw [KeyedMap.find?_insert] at ha
      split at ha
      · obtain rfl := Option.some.inj ha
        exact Or.inl ⟨rfl, rfl⟩
      · exact Or.inr ⟨a, ha, rfl, fun h ↦ h⟩
    · rw [hnone] at ha
      cases ha

/-- Totals that a ledger can be established with. -/
def AcceptableTotals (totals : ResourceVector) : Prop :=
  totals.validateDimensions = success ∧ totals.empty = false

/-- A change of devices and ledgers only, judged by what it does to the accounting. -/
lemma evolves_devices {accelerators : KeyedMap AcceleratorId AcceleratorRecord}
    {ledgers : KeyedMap AcceleratorId CapacityLedger}
    (hid : ∀ k a, accelerators.find? k = some a → a.id = k ∨ s.accelerators.find? k = some a)
    (hd : DevicesEvolve π s accelerators)
    (hn : π.numbers → Numbered s → accelerators.Below s.ids.next)
    (h : π.totals → Accounted s →
      Accounted { s with accelerators := accelerators, ledgers := ledgers }) :
    Evolves π floor s { s with accelerators := accelerators, ledgers := ledgers } := by
  have hs := refl_of (Evolves π floor) s
  refine ⟨le_refl _, fun hi ↦ ⟨hi.partitions, hi.reservations, hi.attempts, hi.assignments⟩, id,
    fun hn k a ha hvalid ↦ ?_, hs.partitions, hs.origin, hs.attempts, hs.assignments,
    fun ht _ ↦ h ht, fun hπ hs ↦ { hs with accelerators := hn hπ hs },
    { hs.tenure with devices := hd.devices, topologies := hd.topologies }⟩
  rcases hid k a ha with hk | hold
  · exact hk
  · exact hn k a hold hvalid

lemma insert_named {m : KeyedMap AcceleratorId AcceleratorRecord} {id : AcceleratorId}
    {record : AcceleratorRecord} (hid : record.id = id) (k : AcceleratorId)
    (a : AcceleratorRecord) (h : (m.insert id record).find? k = some a) :
    a.id = k ∨ m.find? k = some a := by
  rw [KeyedMap.find?_insert] at h
  split at h
  · rename_i hk
    obtain rfl := Option.some.inj h
    exact Or.inl (hid.trans hk.symm)
  · exact Or.inr h

lemma equal_empty {v w : ResourceVector} (h : v.equal w = true) (hw : w.empty = false) :
    v.empty = false := by
  unfold ResourceVector.equal at h
  simp only [Bool.and_eq_true, beq_iff_eq] at h
  simpa [ResourceVector.empty, h.1] using hw

/-- Establishing acceptable totals leaves a balanced ledger under the device's key. -/
lemma establishLedger_spec (id : AcceleratorId) (existing : Bool) {totals : ResourceVector}
    (undo : FabricState → FabricState) (ht : AcceptableTotals totals) (s : FabricState) :
    ∃ l, (establishLedger id existing totals undo s).1 =
        { s with ledgers := s.ledgers.insert id l } ∧
      (establishLedger id existing totals undo s).2 = success ∧
      ((∀ l₀, s.ledgers.find? id = some l₀ → l₀.Balanced) → l.Balanced) := by
  obtain ⟨l₀, hl₀, htouch⟩ : ∃ l₀, touchLedger id s = { s with ledgers := s.ledgers.insert id l₀ } ∧
      (s.ledgers.find? id = some l₀ ∨ s.ledgers.find? id = none ∧ l₀ = {}) := by
    unfold touchLedger KeyedMap.contains
    cases h : s.ledgers.find? id with
    | none => exact ⟨{}, by simp, Or.inr ⟨rfl, rfl⟩⟩
    | some l => exact ⟨l, by simp [KeyedMap.insert_eq_self h], Or.inl rfl⟩
  have hfind : (touchLedger id s).findLedger id = some l₀ := by
    rw [hl₀, FabricState.findLedger, KeyedMap.find?_insert_self]
  unfold establishLedger
  rw [modify_bind, get_bind]
  simp only [hfind, Option.getD_some]
  by_cases hdiff : (!existing || !l₀.total.equal totals) = true
  · rw [hdiff, when_true]
    rcases CapacityLedger.initializeTotals_spec totals l₀ with ⟨l, hl, hdiv, -, hne⟩ | ⟨-, hnot⟩
    · have hrun : Procedure.attempt (onLedger id (CapacityLedger.initializeTotals totals))
          (touchLedger id s) = ((touchLedger id s).setLedger id l, .ok success) := by
        rw [attempt_apply, onLedger, hfind]
        simp only [hl]
      rw [bind_ok hrun]
      refine ⟨l, ?_, rfl, fun _ ↦ hdiv.balanced hne⟩
      simp only [success, pure_apply, FabricState.setLedger, hl₀]
      congr 1
      exact KeyedMap.ext_find? fun k ↦ by simp only [KeyedMap.find?_insert]; split <;> rfl
    · exact absurd ht hnot
  · rw [Bool.not_eq_true] at hdiff
    rw [hdiff, when_false, pure_apply]
    refine ⟨l₀, hl₀, rfl, fun hall ↦ ?_⟩
    rcases htouch with h | ⟨-, rfl⟩
    · exact hall l₀ h
    · -- an empty ledger never carries the acceptable totals
      simp only [Bool.or_eq_false_iff, Bool.not_eq_false'] at hdiff
      exact absurd (equal_empty hdiff.2 ht.2) (by decide)

/-- Recording a device and establishing its ledger is one accounted change. -/
lemma advances_establish {α : Type} {id : AcceleratorId} {record : AcceleratorRecord}
    {existing : Bool} {totals : ResourceVector} {undo : FabricState → FabricState}
    {f : Unit → FabricM α} (hid : record.id = id)
    (hd : DevicesEvolve π s (s.accelerators.insert id record))
    (hn : π.numbers → Numbered s → id < s.ids.next) (ht : AcceptableTotals totals)
    (hf : ∀ t, Advances (Evolves π floor) (f ()) t) :
    Advances (Evolves π floor)
      (Procedure.modify (fun s ↦ { s with accelerators := s.accelerators.insert id record }) >>=
        fun _ ↦ establishLedger id existing totals undo >>= f) s := by
  obtain ⟨l, hstate, hok, hl⟩ := establishLedger_spec id existing undo ht
    { s with accelerators := s.accelerators.insert id record }
  have hrun : establishLedger id existing totals undo
      { s with accelerators := s.accelerators.insert id record } =
      ({ s with accelerators := s.accelerators.insert id record
                ledgers := s.ledgers.insert id l }, .ok ()) := Prod.ext hstate hok
  unfold Advances
  rw [modify_bind, bind_ok hrun]
  refine trans_of _ (evolves_devices (insert_named hid) hd
    (fun hπ hs ↦ hs.accelerators.insert (hn hπ hs) record) fun _ hacc ↦
    ⟨fun k l₁ hl₁ ↦ ?_, fun k a ha hknown ↦ ?_, hacc.bound⟩) (hf _)
  · rw [KeyedMap.find?_insert] at hl₁
    split at hl₁
    · obtain rfl := Option.some.inj hl₁
      exact hl fun l₀ ↦ hacc.balanced id l₀
    · exact hacc.balanced k l₁ hl₁
  · rw [KeyedMap.find?_insert] at ha ⊢
    split at ha
    · rename_i hk
      rw [if_pos hk]
      exact ⟨l, rfl⟩
    · rename_i hk
      rw [if_neg hk]
      exact hacc.ledgered k a ha hknown

/-- A validated backend report carries acceptable totals. -/
lemma acceptable_of_validate {accelerator : BackendAccelerator} {limits : Limits}
    (h : validateBackendAccelerator accelerator limits = .ok ()) :
    AcceptableTotals accelerator.physicalTotals := by
  unfold validateBackendAccelerator at h
  simp only at h
  iterate 3
    split at h
    · exact absurd h (failure_ne_ok _ _ _ _)
  split at h
  · exact absurd h (failure_ne_ok _ _ _ _)
  · rename_i hne
    refine ⟨?_, by simpa using hne⟩
    cases hdims : accelerator.physicalTotals.validateDimensions with
    | ok u => rfl
    | error e =>
        rw [hdims] at h
        exact absurd h (by simp [bind, Except.bind])

/-- The identity under which a backend report is registered. -/
def FabricState.deviceOf (s : FabricState) (accelerator : BackendAccelerator) : AcceleratorId :=
  (s.keyIndex.find? accelerator.stableKey).getD s.ids.next

/-- What a scope has to allow for a backend report. -/
structure Reports (π : Scope) (s : FabricState) (accelerator : BackendAccelerator) : Prop where
  profiles : ∀ p ∈ accelerator.profiles, π.publishes p.id p.generation p.resources
  topology : π.topology (s.deviceOf accelerator) accelerator.capability.topologyGeneration
  touched : s.accelerators.find? (s.deviceOf accelerator) = none →
    π.topology (s.deviceOf accelerator) 0
  fresh : s.keyIndex.find? accelerator.stableKey = none →
    s.accelerators.find? (s.deviceOf accelerator) = none ∨
      π.replaces (s.deviceOf accelerator) ∧ π.renumbers (s.deviceOf accelerator)
  incarnation : π.reincarnates (s.deviceOf accelerator)

lemma identifyAccelerator_ok {accelerator : BackendAccelerator} {id : AcceleratorId}
    {existing : Bool} {t : FabricState}
    (h : identifyAccelerator accelerator.stableKey s = (t, .ok (id, existing))) :
    id = s.deviceOf accelerator ∧ t.accelerators = s.accelerators ∧
      s.keyIndex.find? accelerator.stableKey = (if existing then some id else none) ∧
      t.keyIndex.find? accelerator.stableKey = some id := by
  unfold identifyAccelerator at h
  rw [get_bind] at h
  unfold FabricState.deviceOf
  cases hfind : s.keyIndex.find? accelerator.stableKey with
  | some known =>
      rw [hfind] at h
      obtain ⟨rfl, heq⟩ := Prod.mk.inj h
      obtain ⟨rfl, rfl⟩ := Prod.mk.inj (Except.ok.inj heq)
      exact ⟨rfl, rfl, rfl, hfind⟩
  | none =>
      rw [hfind] at h
      simp only at h
      obtain ⟨u, _, hrequire, h⟩ := bind_eq_ok.mp h
      obtain ⟨rfl, -⟩ := require_eq_ok hrequire
      obtain ⟨u, fresh, hallocate, h⟩ := bind_eq_ok.mp h
      rcases allocateId_cases s with ⟨e, he⟩ | ⟨ids, -, hids⟩
      · exact absurd (he.symm.trans hallocate) (by simp)
      · obtain ⟨rfl, hfresh⟩ := Prod.mk.inj (hids.symm.trans hallocate)
        obtain ⟨rfl, heq⟩ := Prod.mk.inj h
        obtain ⟨rfl, rfl⟩ := Prod.mk.inj (Except.ok.inj heq)
        exact ⟨(Except.ok.inj hfresh).symm, rfl, rfl, KeyedMap.find?_insert_self _ _ _⟩

lemma touchAccelerator_find? (id : AcceleratorId) (s : FabricState) :
    ((touchAccelerator id s).findAccelerator id).getD {} = (s.findAccelerator id).getD {} := by
  unfold touchAccelerator KeyedMap.contains FabricState.findAccelerator
  cases h : s.accelerators.find? id with
  | some a => simp [h]
  | none => simp

/-- The devices and the identities that their keys have. -/
def registrations (s : FabricState) := (s.accelerators, s.keyIndex)

lemma keeps_registerBackendProfile {profile : PartitionProfile} :
    Advances (Keeps registrations) (registerBackendProfile profile) s :=
  advances_get_bind (advances_lift_bind fun _ _ ↦ advances_require_bind fun _ ↦ rfl)

lemma keyIndex_touchAccelerator (id : AcceleratorId) (s : FabricState) :
    Keeps FabricState.keyIndex s (touchAccelerator id s) := by
  unfold Keeps touchAccelerator
  split <;> rfl

/-- A report of a registered device keeps its capability and never lowers its generation. -/
lemma DeviceEvolves.report {id : AcceleratorId} {accelerator : BackendAccelerator}
    {u : FabricState} {generation : AcceleratorGeneration} {evidence : EvidenceGeneration}
    {previous : AcceleratorRecord} {now : UInt64} {reset : Bool}
    (h : (if reset then next previous.generation else .ok previous.generation :
      Result AcceleratorGeneration) = .ok generation) (hi : π.reincarnates id) :
    DeviceEvolves π id previous
      (reportedRecord u accelerator id generation evidence true previous now) := by
  refine ⟨Or.inr ?_, Or.inr (Or.inl rfl), Or.inl hi⟩
  split at h
  · exact le_of_lt (lt_next h)
  · exact le_of_eq (Except.ok.inj h)

lemma advances_registerBackendAccelerator {accelerator : BackendAccelerator} {now : UInt64}
    (hr : Reports π s accelerator) (hd : Disturbs π (s.deviceOf accelerator)) :
    Advances (Evolves π floor) (registerBackendAccelerator accelerator now) s := by
  refine advances_bind advances_checkOpen fun t _ hopen ↦ advances_get_bind ?_
  obtain rfl : s = t := (Prod.mk.inj hopen).1
  refine advances_lift_bind fun _ hvalid ↦ ?_
  have ht := acceptable_of_validate hvalid
  refine advances_bind advances_identifyAccelerator fun t p hp ↦ ?_
  obtain ⟨id, existing⟩ := p
  obtain ⟨rfl, hkept, hindex, hkey⟩ := identifyAccelerator_ok hp
  refine advances_bind (advances_when fun _ ↦ advances_modify (evolves_touchAccelerator ?_ ?_))
    fun u _ hu ↦ advances_get_bind ?_
  · rw [hkept]
    exact hr.touched
  · exact fun hn ↦ hn.keys _ _ hkey
  have htouched : u.keyIndex = t.keyIndex :=
    (advances_when fun _ ↦ advances_modify (keyIndex_touchAccelerator _ t)).of_run hu
  refine advances_lift_bind fun generation hgeneration ↦ advances_lift_bind fun evidence _ ↦ ?_
  have hprofiles : Advances (Keeps registrations)
      (accelerator.profiles.forM registerBackendProfile) u :=
    advances_forM fun _ _ _ _ ↦ keeps_registerBackendProfile
  refine advances_bind (advances_forM fun p hp _ _ ↦
    advances_registerBackendProfile (hr.profiles p hp)) fun v _ hv ↦ ?_
  obtain ⟨hvu, hkeys⟩ : v.accelerators = u.accelerators ∧ v.keyIndex = u.keyIndex :=
    Prod.mk.inj (hprofiles.of_run hv)
  refine advances_establish rfl (devicesEvolve_insert (fun a ha ↦ ?_) (Or.inl hr.topology))
    (fun _ hn ↦ hn.keys accelerator.stableKey _ ?_) ht fun t ↦ ?_
  · rw [hvu] at ha
    cases existing with
    | true =>
        simp only [if_true, FabricState.findAccelerator, ha, Option.getD_some] at hgeneration ⊢
        exact .report hgeneration hr.incarnation
    | false =>
        obtain rfl : t = u := (Prod.mk.inj hu).1
        rw [hkept] at ha
        rcases hr.fresh hindex with hnone | ⟨hreplaces, hrenumbers⟩
        · rw [hnone] at ha
          cases ha
        · exact ⟨Or.inl hreplaces, Or.inl hrenumbers, Or.inl hr.incarnation⟩
  · rw [hkeys, htouched]
    exact hkey
  refine advances_bind (advances_publishCapabilityLocked hd hr.topology) fun t _ _ ↦ ?_
  refine advances_bind (advances_when fun _ ↦ advances_get_bind ?_) fun t _ _ ↦ ?_
  · refine advances_bind (advances_forM fun _ _ _ _ ↦
      advances_revalidateAfterReset hd.revalidates) fun _ _ _ ↦ ?_
    exact advances_forM fun _ _ _ _ ↦ advances_modify (evolves_fenceAfterReset hd)
  · exact advances_bind advances_bump fun _ _ _ ↦ advances_pure _ _

/-- Where a step registers unacceptable totals nothing is said about the accounting. -/
lemma advances_establish_unaccounted {id : AcceleratorId} {existing : Bool}
    {totals : ResourceVector} {undo : FabricState → FabricState} (ht : ¬ π.totals)
    (hundo : ∀ t, Evolves π floor t (undo t)) :
    Advances (Evolves π floor) (establishLedger id existing totals undo) s := by
  have htouch : Evolves π floor s (touchLedger id s) := by
    unfold touchLedger
    split
    · exact refl_of _ s
    · exact evolves_devices (fun _ _ ↦ Or.inr) .refl (fun _ hn ↦ hn.accelerators)
        fun h ↦ absurd h ht
  refine advances_modify_bind htouch (advances_get_bind (advances_when fun _ ↦ ?_))
  refine advances_bind (advances_attempt ?_) fun t status _ ↦ ?_
  · unfold Advances onLedger
    split
    · exact refl_of _ _
    · exact evolves_devices (fun _ _ ↦ Or.inr) .refl (fun _ hn ↦ hn.accelerators)
        fun h ↦ absurd h ht
  · cases status with
    | ok _ => exact advances_pure _ _
    | error e => exact advances_modify_bind (hundo t) (advances_throw _ _)

/-- What a scope has to allow for an explicit registration. -/
structure Admits (π : Scope) (s : FabricState) (record : AcceleratorRecord) : Prop where
  totals : π.totals → AcceptableTotals record.physicalTotals
  capability : ∀ a, s.accelerators.find? record.id = some a → π.renumbers record.id ∨
    record.capability = a.capability ∨ a.capability.generation < record.capability.generation
  topology : π.topology record.id record.topologyGeneration
  published : π.topology record.id record.capability.topologyGeneration
  absent : s.accelerators.find? record.id = none → π.forgets record.id
  incarnation : ∀ a, s.accelerators.find? record.id = some a → π.reincarnates record.id ∨
    record.generation = a.generation ∧ record.bootId = a.bootId
  numbered : π.numbers → record.id < s.ids.next

lemma advances_registerAccelerator {record : AcceleratorRecord} {now : UInt64}
    (hr : Admits π s record) (hdisturbs : Disturbs π record.id) :
    Advances (Evolves π floor) (registerAccelerator record now) s := by
  have hrest : ∀ t, Advances (Evolves π floor) (do
      Procedure.when (known record.capability.generation) do
        let _ ← publishCapabilityLocked record.id record.capability now false
      Procedure.modify FabricState.bumpStateGeneration) t := fun t ↦
    advances_bind (advances_when fun _ ↦ advances_bind
      (advances_publishCapabilityLocked hdisturbs hr.published) fun _ _ _ ↦ advances_pure _ _)
      fun _ _ _ ↦ advances_bump
  refine advances_bind advances_checkOpen fun t _ hopen ↦ advances_get_bind ?_
  obtain rfl : s = t := (Prod.mk.inj hopen).1
  refine advances_lift_bind fun _ _ ↦ advances_require_bind fun hgeneration ↦
    advances_require_bind fun _ ↦ ?_
  have hd : DevicesEvolve π s (s.accelerators.insert record.id record) := by
    refine devicesEvolve_insert
      (fun a ha ↦ ⟨Or.inr ?_, (hr.capability a ha).imp_right
        (Or.imp_right (And.intro hdisturbs.republishes)), hr.incarnation a ha⟩)
      (Or.inl hr.topology)
    rw [FabricState.findAccelerator, ha] at hgeneration
    simpa using hgeneration
  have hsub : ∀ (t : FabricState) k a, (t.accelerators.erase record.id).find? k = some a →
      t.accelerators.find? k = some a := by
    intro t k a ha
    rw [KeyedMap.find?_erase] at ha
    split at ha
    · cases ha
    · exact ha
  by_cases hacc : AcceptableTotals record.physicalTotals
  · exact advances_establish rfl hd (fun hπ _ ↦ hr.numbered hπ) hacc hrest
  · have hπ : ¬ π.totals := fun h ↦ hacc (hr.totals h)
    refine advances_modify_bind (evolves_devices (insert_named rfl) hd
      (fun hπ hn ↦ hn.accelerators.insert (hr.numbered hπ) record) fun h ↦ absurd h hπ) ?_
    refine advances_bind (advances_establish_unaccounted hπ fun t ↦ ?_) fun t _ _ ↦ hrest t
    split
    · rename_i hnone
      have hforgets : π.forgets record.id :=
        hr.absent (by simpa [FabricState.findAccelerator] using hnone)
      refine evolves_devices (fun k a ha ↦ Or.inr ?_) (devicesEvolve_erase hforgets)
        (fun _ hn ↦ hn.accelerators.of_keys fun k a ha ↦ ⟨a, hsub t k a ha⟩) fun h ↦ absurd h hπ
      exact hsub t k a ha
    · exact refl_of _ t

lemma advances_updateHealth {id : AcceleratorId} {health : HealthEvidence} :
    Advances (Evolves π floor) (updateHealth id health) s := by
  refine advances_get_bind (advances_require_bind fun _ ↦ ?_)
  exact advances_modify_bind (evolves_annotateAccelerator fun _ ↦
    ⟨rfl, rfl, rfl, rfl, rfl⟩) advances_bump

lemma advances_markEvidenceStale {id : AcceleratorId} :
    Advances (Evolves π floor) (markEvidenceStale id) s := by
  refine advances_get_bind (advances_require_bind fun _ ↦ ?_)
  refine advances_modify_bind (evolves_annotateAccelerator fun _ ↦
    ⟨rfl, rfl, rfl, rfl, rfl⟩) ?_
  refine advances_bind (advances_forM fun key _ t _ ↦ ?_) fun t _ _ ↦ advances_bump
  exact advances_modify evolves_terminatePlanWhen

lemma advances_snapshot : Advances (Evolves π floor) snapshot s := by
  refine advances_modify ?_
  cases next s.snapshotGeneration with
  | error e => exact refl_of _ s
  | ok g => exact .of_eq rfl rfl rfl rfl rfl rfl rfl rfl (fun _ ↦ .of_keeps rfl) (.of_keeps rfl)

lemma advances_bindAcceleratorWorker {id : AcceleratorId} {worker : WorkerId}
    {boot : WorkerBootId} : Advances (Evolves π floor) (bindAcceleratorWorker id worker boot) s := by
  refine advances_get_bind ?_
  cases s.findWorker worker with
  | none => exact advances_throw _ _
  | some record =>
      refine advances_require_bind fun _ ↦ advances_require_bind fun _ ↦
        advances_require_bind fun _ ↦ ?_
      exact advances_modify (.of_eq rfl rfl rfl rfl rfl rfl rfl rfl (fun _ ↦ .of_keeps rfl)
        (.of_keeps rfl))

/-- Making room in a full plan registry drops the plan. -/
def DropsPlan (s : FabricState) (k : PartitionPlanId) : Prop :=
  s.limits.maxPendingPlans ≤ s.plans.size ∧ s.plans.contains k = true ∧
    (prunePlans s).plans.find? k = none

lemma advances_makePlanRoom (h : ∀ k, DropsPlan s k → π.discards k) :
    Advances (Evolves π floor) makePlanRoom s := by
  refine advances_get_bind (advances_when fun hfull ↦ ?_)
  have hpruned : Evolves π floor s (prunePlans s) :=
    evolves_prunePlans fun k hk hnone ↦ h k ⟨of_decide_eq_true hfull, hk, hnone⟩
  refine advances_modify_bind hpruned (advances_get_bind ?_)
  exact refl_of _ _

/-- Making room only drops plans. -/
lemma makePlanRoom_frame (s : FabricState) :
    ∃ m : KeyedMap PartitionPlanId PartitionPlan, (makePlanRoom s).1 = { s with plans := m } := by
  unfold makePlanRoom
  rw [get_bind]
  by_cases hfull : decide (s.plans.size ≥ s.limits.maxPendingPlans) = true
  · rw [hfull, when_true, modify_bind, get_bind]
    exact ⟨_, rfl⟩
  · rw [Bool.not_eq_true] at hfull
    rw [hfull, when_false]
    exact ⟨s.plans, rfl⟩

lemma advances_registerPlan {plan : PartitionPlan} (h : Named s → plan.Bound)
    (hfloor : floor ≤ s.ids.next) (hplan : ∀ id, π.plans { plan with id := id, generation := 1 }) :
    Advances (Evolves π floor) (registerPlan plan) s := by
  refine advances_bind advances_allocateId fun t id hid ↦ ?_
  have haccelerators : t.accelerators = s.accelerators := by
    rcases allocateId_cases s with ⟨e, hs⟩ | ⟨ids, -, hs⟩
    · exact absurd (hs.symm.trans hid) (by simp)
    · rw [← (Prod.mk.inj (hs.symm.trans hid)).1]
  obtain ⟨rfl, hlt, -⟩ := allocateId_eq_ok hid
  refine advances_modify_bind (evolves_insertPlan (fun hnamed ↦ ?_) hfloor rfl hlt (hplan _))
    (advances_pure _ _)
  refine h ?_
  unfold Named at hnamed ⊢
  rwa [haccelerators] at hnamed

lemma buildPlan_bound {request : PartitionRequest} {now : UInt64} (hnamed : Named s) :
    (buildPlan s request now).Bound := by
  intro hfeasible _
  obtain ⟨key, a, profile, ha, -, hhard, -, hbinding⟩ := buildPlan_feasible hfeasible
  obtain ⟨-, hvalid, hknown⟩ := hardRejection_none hhard
  rw [hbinding]
  simp only [FabricState.findAccelerator]
  rw [hnamed key a ha hvalid, ha]
  exact hknown

/-- A scope allows every plan that a function of the registry makes. -/
def Scope.AllowsPlan (π : Scope) (s : FabricState) (make : FabricState → PartitionPlan) : Prop :=
  ∀ m id, π.plans { make { s with plans := m } with id := id, generation := 1 }

/-- A plan that is returned again instead of a new one. -/
def currentPlan (s : FabricState) (request : PartitionRequest) (now : UInt64) :
    Option PartitionPlan :=
  s.plans.values.find? fun existing ↦
    !existing.terminal && existing.requestDigest = requestDigest request &&
      existing.binding.policyGeneration = s.policyGeneration &&
      (validatePlanBinding s existing now false).isOk

/-- A scope allows the room that planning a request makes. -/
def Scope.AllowsRoom (π : Scope) (s : FabricState) (request : PartitionRequest) (now : UInt64) :
    Prop :=
  s.closed = false → currentPlan s request now = none → ∀ k, DropsPlan s k → π.discards k

lemma opened_of_checkOpen {t : FabricState} {u : Unit} (h : checkOpen s = (t, .ok u)) :
    s.closed = false := by
  cases hclosed : s.closed with
  | true =>
    rw [checkOpen_closed hclosed] at h
    exact absurd (Prod.mk.inj h).2 (failure_ne_ok _ _ _ _)
  | false => rfl

lemma advances_plan {request : PartitionRequest} {now : UInt64} (hd : π.AllowsRoom s request now)
    (hfloor : floor ≤ s.ids.next) (h : π.AllowsPlan s fun s ↦ buildPlan s request now) :
    Advances (Evolves π floor) (plan request now) s := by
  refine advances_bind advances_checkOpen fun t _ hopen ↦ advances_get_bind ?_
  have hopened := opened_of_checkOpen hopen
  obtain rfl : s = t := (Prod.mk.inj hopen).1
  simp only
  split
  · exact advances_pure _ _
  · rename_i hnone
    refine advances_bind (advances_makePlanRoom (hd hopened hnone)) fun t _ hroom ↦ advances_get_bind ?_
    obtain ⟨m, hframe⟩ := makePlanRoom_frame s
    obtain rfl : { s with plans := m } = t := by rw [← hframe, hroom]
    exact advances_registerPlan buildPlan_bound hfloor (h m)

/-- A request narrowed to one accelerator. -/
def PartitionRequest.narrow (request : PartitionRequest) (id : AcceleratorId) : PartitionRequest :=
  { request with selector := { request.selector with allowed := [id], excluded := [] } }

lemma advances_planOn {id : AcceleratorId} {request : PartitionRequest} {now : UInt64}
    (hd : π.AllowsRoom s (request.narrow id) now) (hfloor : floor ≤ s.ids.next)
    (h : π.AllowsPlan s fun s ↦ buildPlan s (request.narrow id) now) :
    Advances (Evolves π floor) (planOn id request now) s :=
  advances_bind (advances_plan hd hfloor h) fun _ _ _ ↦ advances_require_bind fun _ ↦ advances_pure _ _

lemma checkTarget_infeasible {accelerator : AcceleratorRecord} {desired : List PlannedPartition}
    {compute memory : UInt32} {outcome : PlanOutcome}
    (h : checkTarget s accelerator desired compute memory = .error outcome) :
    planOutcomeFeasible outcome = false := by
  induction desired generalizing compute memory with
  | nil => exact absurd h (by simp [checkTarget])
  | cons planned rest ih =>
      unfold checkTarget at h
      split at h
      · rw [← Except.error.inj h]
        rfl
      · split at h
        · rw [← Except.error.inj h]
          rfl
        · split at h
          · rw [← Except.error.inj h]
            rfl
          · split at h
            · rw [← Except.error.inj h]
              rfl
            · exact ih h

lemma checkReconfiguration_infeasible {accelerator : AcceleratorRecord}
    {ledger : CapacityLedger} {desired : List PlannedPartition} {context : PartitionRequest}
    {outcome : PlanOutcome}
    (h : checkReconfiguration s accelerator ledger desired context = .error outcome) :
    planOutcomeFeasible outcome = false := by
  unfold checkReconfiguration at h
  iterate 5
    split at h
    · rw [← Except.error.inj h]
      rfl
  cases htarget : checkTarget s accelerator desired 0 0 with
  | error o =>
      rw [htarget] at h
      obtain rfl := Except.error.inj h
      exact checkTarget_infeasible htarget
  | ok p =>
      obtain ⟨compute, memory⟩ := p
      rw [htarget] at h
      simp only [bind, Except.bind] at h
      iterate 3
        split at h
        · rw [← Except.error.inj h]
          rfl
      split at h
      · rw [← Except.error.inj h]
        rfl
      · split at h
        · rw [← Except.error.inj h]
          rfl
        · split at h
          · exact absurd h (by simp)
          · rw [← Except.error.inj h]
            rfl

/-- A reconfiguration plan is never one that a plain reservation may take. -/
lemma buildReconfigurationPlan_bound {id : AcceleratorId} {desired : List PlannedPartition}
    {context : PartitionRequest} {now : UInt64} :
    (buildReconfigurationPlan s id desired context now).Bound := by
  intro hfeasible hother
  exfalso
  unfold buildReconfigurationPlan PartitionPlan.feasible at hfeasible
  unfold buildReconfigurationPlan at hother
  simp only at hfeasible hother
  cases haccelerator : s.findAccelerator id with
  | none =>
      rw [haccelerator] at hfeasible
      exact absurd hfeasible (by simp [planOutcomeFeasible])
  | some accelerator =>
      rw [haccelerator] at hfeasible hother
      simp only at hfeasible hother
      cases hledger : s.findLedger id with
      | none =>
          rw [hledger] at hfeasible
          exact absurd hfeasible (by simp [planOutcomeFeasible])
      | some ledger =>
          rw [hledger] at hfeasible hother
          simp only at hfeasible hother
          cases hcheck : checkReconfiguration s accelerator ledger desired context with
          | error outcome =>
              rw [hcheck] at hfeasible
              simp only at hfeasible
              rw [checkReconfiguration_infeasible hcheck] at hfeasible
              exact absurd hfeasible (by simp)
          | ok u =>
              rw [hcheck] at hother
              exact hother rfl

lemma advances_planReconfiguration {id : AcceleratorId} {desired : List PlannedPartition}
    {context : PartitionRequest} {now : UInt64}
    (hd : s.closed = false → ∀ k, DropsPlan s k → π.discards k) (hfloor : floor ≤ s.ids.next)
    (h : π.AllowsPlan s fun s ↦ buildReconfigurationPlan s id desired context now) :
    Advances (Evolves π floor) (planReconfiguration id desired context now) s := by
  refine advances_bind advances_checkOpen fun t _ hopen ↦ ?_
  have hopened := opened_of_checkOpen hopen
  obtain rfl : s = t := (Prod.mk.inj hopen).1
  refine advances_bind (advances_makePlanRoom (hd hopened)) fun t _ hroom ↦ advances_get_bind ?_
  obtain ⟨m, hframe⟩ := makePlanRoom_frame s
  obtain rfl : { s with plans := m } = t := by rw [← hframe, hroom]
  exact advances_registerPlan (fun _ ↦ buildReconfigurationPlan_bound) hfloor (h m)

lemma advances_discardPlan {id : PartitionPlanId} :
    Advances (Evolves π floor) (discardPlan id) s := by
  refine advances_get_bind (advances_require_bind fun _ ↦ ?_)
  exact advances_modify_bind evolves_terminatePlan advances_bump

/-- Making room only drops reservations. -/
lemma makeReservationRoom_frame (s : FabricState) :
    ∃ m : KeyedMap PartitionReservationId PartitionReservation,
      (makeReservationRoom s).1 = { s with reservations := m } ∧
        ∀ k r, m.find? k = some r → s.reservations.find? k = some r := by
  unfold makeReservationRoom
  rw [get_bind]
  by_cases hfull : decide (s.reservations.size ≥ s.limits.maxReservations) = true
  · rw [hfull, when_true, modify_bind, get_bind]
    refine ⟨_, rfl, fun k r hr ↦ ?_⟩
    rcases KeyedMap.find?_prune (fun r : PartitionReservation ↦ reservationIsTerminal r.lifecycle)
      (s.limits.maxReservations - 1) k with h | ⟨h, -⟩
    · exact h ▸ hr
    · exact absurd (h.symm.trans hr) (by simp)
  · rw [Bool.not_eq_true] at hfull
    rw [hfull, when_false]
    exact ⟨s.reservations, rfl, fun _ _ ↦ id⟩

/-- The reservations that are left of a full registry when room is made. -/
def reservationsLeft (s : FabricState) : KeyedMap PartitionReservationId PartitionReservation :=
  s.reservations.prune (fun r ↦ reservationIsTerminal r.lifecycle) (s.limits.maxReservations - 1)

/-- Making room in a full reservation registry drops the reservation. -/
def DropsReservation (s : FabricState) (k : PartitionReservationId) : Prop :=
  s.limits.maxReservations ≤ s.reservations.size ∧ s.reservations.contains k = true ∧
    (reservationsLeft s).find? k = none

lemma advances_makeReservationRoom (he : ∀ k, DropsReservation s k → π.evicts k) :
    Advances (Evolves π floor) makeReservationRoom s := by
  refine advances_get_bind (advances_when fun hfull ↦ ?_)
  have hpruned : Evolves π floor s { s with reservations := reservationsLeft s } := by
    refine evolves_reservations (fun k r hr ↦ Or.inr ⟨r, ?_, rfl, .refl k r⟩) fun k r hr ↦ ?_
    · rcases KeyedMap.find?_prune (fun r : PartitionReservation ↦ reservationIsTerminal r.lifecycle)
        (s.limits.maxReservations - 1) k with h | ⟨h, -⟩
      · exact h ▸ hr
      · exact absurd (h.symm.trans hr) (by simp)
    · cases hfind : (reservationsLeft s).find? k with
      | none =>
        refine Or.inl (he k ⟨of_decide_eq_true hfull, ?_, hfind⟩)
        rw [KeyedMap.contains, hr]
        rfl
      | some r' => exact Or.inr ⟨r', rfl⟩
  refine advances_modify_bind hpruned (advances_get_bind ?_)
  exact refl_of _ _

lemma evolves_touchLedger {id : AcceleratorId}
    (h : Accounted s → ∃ l, s.ledgers.find? id = some l) :
    Evolves π floor s (touchLedger id s) := by
  unfold touchLedger
  cases hfind : s.ledgers.find? id with
  | some l =>
      rw [KeyedMap.contains, hfind]
      exact refl_of _ s
  | none =>
      rw [KeyedMap.contains, hfind]
      refine evolves_devices (fun _ _ ↦ Or.inr) .refl (fun _ hn ↦ hn.accelerators) fun _ hacc ↦ ?_
      obtain ⟨l, hl⟩ := h hacc
      exact absurd (hfind.symm.trans hl) (by simp)

lemma fresh_default {r : PartitionRecord} (hn : r.nativeIdentity.nativeId = [])
    (hd : r.drain.state = .notDraining) (hactive : r.state = .active → π.activates) : Fresh π r :=
  ⟨Or.inr hn, Or.inr hd, hactive⟩

lemma advances_reservePartitions {plan : PartitionPlan} {now : UInt64}
    {l : List PlannedPartition} {ids : List PartitionId} (hfloor : floor ≤ s.ids.next) :
    Advances (Evolves π floor) (reservePartitions plan now l ids) s := by
  induction l generalizing s ids with
  | nil => exact advances_pure _ _
  | cons planned rest ih =>
      unfold reservePartitions
      refine advances_bind_of (advances_attempt advances_allocateId) fun t status halloc hst ↦ ?_
      cases status with
      | error e => exact advances_pure _ _
      | ok id =>
          obtain ⟨rfl, hlt, -⟩ := allocateId_eq_ok (attempt_eq_ok halloc)
          refine advances_get_bind ?_
          simp only
          split
          · exact advances_pure _ _
          · refine advances_modify_bind
              (evolves_insertPartition hfloor hlt rfl
                (fresh_default rfl rfl fun h ↦ PartitionState.noConfusion h)) ?_
            exact ih (hfloor.trans hst.ids)

/-- The identities that a reservation records were all handed out by it. -/
lemma reservePartitions_ids {plan : PartitionPlan} {now : UInt64} {l : List PlannedPartition}
    {ids : List PartitionId} (hfloor : floor ≤ s.ids.next) (hids : ∀ p ∈ ids, floor ≤ p) :
    Ensures (fun result _ ↦ ∀ p ∈ result.1, floor ≤ p) (reservePartitions plan now l ids) s := by
  induction l generalizing s ids with
  | nil => exact ensures_pure hids
  | cons planned rest ih =>
      unfold reservePartitions
      refine ensures_bind fun t status halloc ↦ ?_
      cases status with
      | error e => exact ensures_pure hids
      | ok id =>
          obtain ⟨rfl, hlt, -⟩ := allocateId_eq_ok (attempt_eq_ok halloc)
          refine ensures_get_bind ?_
          simp only
          split
          · exact ensures_pure hids
          · refine ensures_modify_bind (ih (hfloor.trans (le_of_lt hlt)) fun p hp ↦ ?_)
            rcases List.mem_append.mp hp with hp | hp
            · exact hids p hp
            · rw [List.mem_singleton.mp hp]
              exact hfloor

lemma advances_abandonReservation {id : AcceleratorId} {needed : ResourceVector}
    {partitions : List PartitionId} {e : Error} (hp : ∀ p ∈ partitions, floor ≤ p) :
    Advances (Evolves π floor) (abandonReservation id needed partitions e) s := by
  refine advances_bind (advances_forM fun p hmem t _ ↦
    advances_modify (evolves_erasePartition (hp p hmem))) fun t _ _ ↦ ?_
  exact advances_bind (advances_ignore advances_releaseReserved) fun _ _ _ ↦ advances_throw _ _

lemma advances_completeReservation {planId : PartitionPlanId} {plan : PartitionPlan}
    {needed : ResourceVector} {id : PartitionReservationId} {now : UInt64}
    (hreserves : π.reserves) (hfloor : floor ≤ s.ids.next) (hle : floor ≤ id)
    (hid : id < s.ids.next) :
    Advances (Evolves π floor) (completeReservation planId plan needed id now) s := by
  refine advances_bind_of (advances_reservePartitions hfloor) fun t result hresult hst ↦ ?_
  have hids := reservePartitions_ids hfloor (by simp) t result hresult
  obtain ⟨partitions, status⟩ := result
  refine advances_get_bind ?_
  simp only
  split
  · exact advances_abandonReservation hids
  · exact advances_abandonReservation hids
  · refine advances_modify_bind (evolves_insertReservation hle rfl (lt_of_lt_of_le hid hst.ids)
      hreserves (Or.inr ⟨Or.inr rfl, rfl, rfl⟩)) ?_
    refine advances_modify_bind (evolves_modifyPlan (fun p hp ↦ hp)
      fun _ ↦ ⟨rfl, rfl, rfl, rfl, fun h ↦ h, rfl⟩) ?_
    exact advances_bind advances_bump fun _ _ _ ↦ advances_pure _ _

/-- A reservation gets to the point where it makes room for itself. -/
structure ReachesRoom (s : FabricState) (planId : PartitionPlanId) (now : UInt64) : Prop where
  opened : s.closed = false
  reservable : ∃ plan, s.plans.find? planId = some plan ∧ plan.feasible = true ∧
    validatePlanBinding s plan now s.policy.requireFreshEvidence = success ∧
    plan.outcome ≠ .feasibleAfterReconfiguration
  room : s.reservations.values.countP PartitionReservation.holdsCapacity <
    s.limits.maxActiveReservations

lemma advances_reserve {planId : PartitionPlanId} {now : UInt64} (hreserves : π.reserves)
    (he : ReachesRoom s planId now → ∀ k, DropsReservation s k → π.evicts k)
    (hfloor : floor ≤ s.ids.next) :
    Advances (Evolves π floor) (reserve planId now) s := by
  refine advances_bind_of advances_checkOpen fun t _ hopen hst ↦ advances_get_bind ?_
  have hopened := opened_of_checkOpen hopen
  obtain rfl : s = t := (Prod.mk.inj hopen).1
  have hfloor := hfloor.trans hst.ids
  cases hplan : s.plans.find? planId with
  | none => exact advances_throw _ _
  | some plan =>
      refine advances_require_bind fun hfeasible ↦ ?_
      simp only
      cases hbinding : validatePlanBinding s plan now s.policy.requireFreshEvidence with
      | error e =>
          exact advances_modify_bind evolves_terminatePlan (advances_throw _ _)
      | ok u =>
          refine advances_require_bind fun houtcome ↦ advances_require_bind fun hcount ↦ ?_
          have hreaches : ReachesRoom s planId now :=
            ⟨hopened, ⟨plan, hplan, hfeasible, hbinding, of_decide_eq_true houtcome⟩,
              of_decide_eq_true hcount⟩
          refine advances_bind_of (advances_makeReservationRoom (he hreaches))
            fun u _ hroom htu ↦ ?_
          refine advances_lift_bind fun needed _ ↦ ?_
          obtain ⟨m, hframe, -⟩ := makeReservationRoom_frame s
          have hu : u = { s with reservations := m } := by rw [← hframe, hroom]
          have hledger : Accounted u → ∃ l, u.ledgers.find? plan.binding.accelerator = some l := by
            intro hacc
            obtain ⟨a, ha, hgen⟩ := validatePlanBinding_device hbinding
            have hbound : plan.Bound := hacc.bound planId plan (by rw [hu]; exact hplan)
            have hknown : known a.generation = true := by
              rw [hgen]
              exact hbound hfeasible (by simpa using houtcome)
            refine hacc.ledgered _ a (by rw [hu]; exact ha) ?_
            rw [AcceleratorRecord.established, hknown, Bool.true_or]
          refine advances_modify_bind (evolves_touchLedger hledger) ?_
          have hnext : (touchLedger plan.binding.accelerator u).ids = u.ids := by
            unfold touchLedger
            split <;> rfl
          refine advances_bind_of (advances_onLedger fun _ ↦ reserve_balanced needed)
            fun v _ _ huv ↦ ?_
          refine advances_bind_of (advances_attempt advances_allocateId) fun w status hid hvw ↦ ?_
          cases status with
          | error e =>
              exact advances_bind (advances_ignore advances_releaseReserved)
                fun _ _ _ ↦ advances_throw _ _
          | ok id =>
              obtain ⟨hnew, hlt, -⟩ := allocateId_eq_ok (attempt_eq_ok hid)
              have hv : floor ≤ v.ids.next := calc
                floor ≤ s.ids.next := hfloor
                _ ≤ u.ids.next := htu.ids
                _ = (touchLedger plan.binding.accelerator u).ids.next := by rw [hnext]
                _ ≤ v.ids.next := huv.ids
              exact advances_completeReservation hreserves (hv.trans hvw.ids) (hnew ▸ hv) hlt

lemma advances_bindReservation {id : PartitionReservationId} {worker : WorkerId}
    {boot : WorkerBootId} {epoch : CoordinatorEpoch} {now : UInt64} (h : π.binds id) :
    Advances (Evolves π floor) (bindReservation id worker boot epoch now) s := by
  refine advances_get_bind (advances_require_bind fun _ ↦ ?_)
  exact advances_modify_bind (evolves_modifyReservation fun _ _ ↦
    ⟨rfl, Or.inl h, Or.inr (Or.inr rfl), Or.inr (Or.inr rfl), Or.inr rfl⟩) advances_bump

/-- A scope allows the reservation under a key to be settled. -/
def Scope.Settles (π : Scope) (s : FabricState) (k : PartitionReservationId) : Prop :=
  ∀ r, s.reservations.find? k = some r → π.settles k r.accelerator r.worker r.workerBoot

lemma Scope.Settles.of_keeps {t : FabricState} {k : PartitionReservationId}
    (h : π.Settles s k) (hkeeps : Keeps FabricState.reservations s t) : π.Settles t k := by
  unfold Scope.Settles
  rw [show t.reservations = s.reservations from hkeeps]
  exact h

lemma evolves_settleReservation {id : PartitionReservationId} {lifecycle : ReservationLifecycle}
    {reason : Text} {now : UInt64} (hs : π.Settles s id)
    (h : π.resettles id ∨ ∀ r, s.reservations.find? id = some r →
      reservationIsTerminal r.lifecycle = false) :
    Evolves π floor s (settleReservation id lifecycle reason now s) := by
  refine evolves_modifyReservation fun r hr ↦
    ⟨rfl, Or.inr ⟨rfl, rfl, rfl⟩, ?_, Or.inr (Or.inl (hs r hr)), Or.inr rfl⟩
  exact h.imp_right fun h ↦ Or.inl (h r hr)

lemma keeps_onLedger {α : Type} (f : FabricState → α) {id : AcceleratorId} {m : LedgerM Unit}
    (h : ∀ (t : FabricState) l, f (t.setLedger id l) = f t) :
    Advances (Keeps f) (onLedger id m) s := by
  unfold Advances onLedger
  cases s.findLedger id with
  | none => rfl
  | some l => exact h s _

/-- A live reservation stays live while the other parts of the registry change. -/
lemma live_of_keeps {t : FabricState} {id : PartitionReservationId} {r : PartitionReservation}
    (h : Keeps FabricState.reservations s t) (hr : s.findReservation id = some r)
    (hlive : reservationIsTerminal r.lifecycle = false) :
    ∀ r', t.reservations.find? id = some r' → reservationIsTerminal r'.lifecycle = false := by
  intro r' hr'
  rw [show t.reservations = s.reservations from h] at hr'
  obtain rfl := Option.some.inj (hr.symm.trans hr')
  exact hlive

lemma live_of_holdsCapacity {r : PartitionReservation} (h : r.holdsCapacity = true) :
    reservationIsTerminal r.lifecycle = false := by
  unfold PartitionReservation.holdsCapacity at h
  cases hl : r.lifecycle <;> rw [hl] at h <;> first | rfl | cases h

lemma keeps_releaseReserved {id : AcceleratorId} {amount : ResourceVector} :
    Advances (Keeps FabricState.reservations) (onLedger id (CapacityLedger.releaseReserved amount)) s :=
  keeps_onLedger _ fun _ _ ↦ rfl

lemma keeps_modifyPartitions {l : List PartitionId} {f : PartitionRecord → PartitionRecord} :
    Advances (Keeps FabricState.reservations)
      (l.forM fun p ↦ Procedure.modify fun s ↦ s.modifyPartition p f : FabricM Unit) s :=
  advances_forM fun _ _ _ _ ↦ rfl

lemma advances_releaseReservationLocked {id : PartitionReservationId} {reason : Text}
    {now : UInt64} (hs : π.Settles s id) (hretires : π.enters .retired) :
    Advances (Evolves π floor) (releaseReservationLocked id reason now) s := by
  refine advances_get_bind ?_
  cases hr : s.findReservation id with
  | none => exact advances_pure _ _
  | some reservation =>
      refine advances_require_bind fun hlive ↦ advances_require_bind fun _ ↦ ?_
      cases reservation.partitions.find? (heldBeyondReserved s) with
      | some p => exact advances_throw _ _
      | none =>
          refine advances_bind advances_releaseReserved fun t _ ht ↦ ?_
          have hst : Keeps FabricState.reservations s t := keeps_releaseReserved.of_run ht
          refine advances_bind (advances_forM fun p _ t _ ↦ ?_) fun u _ hu ↦ ?_
          · refine advances_modify (evolves_modifyPartition fun r _ ↦ ?_)
            split
            · exact .retire r _ _ hretires
            · exact .refl r
          · have hsu : Keeps FabricState.reservations s u :=
              trans_of _ hst (keeps_modifyPartitions.of_run hu)
            refine advances_modify_bind (evolves_settleReservation (hs.of_keeps hsu) (Or.inr ?_))
              advances_bump
            exact live_of_keeps hsu hr (by simpa using hlive)

lemma advances_fenceReservationLocked {id : PartitionReservationId} {reason : Text}
    {now : UInt64} (hs : π.Settles s id) (hretires : π.enters .retired) :
    Advances (Evolves π floor) (fenceReservationLocked id reason now) s := by
  refine advances_get_bind ?_
  cases hr : s.findReservation id with
  | none => exact advances_pure _ _
  | some reservation =>
      refine advances_require_bind fun hlive ↦ ?_
      refine advances_bind (advances_when fun _ ↦ ?_) fun t _ ht ↦ ?_
      · refine advances_bind advances_releaseReserved fun t _ _ ↦ ?_
        exact advances_forM fun p _ t _ ↦
          advances_modify (evolves_modifyPartition fun r _ ↦ .retire r _ _ hretires)
      · have hst : Keeps FabricState.reservations s t := by
          refine Advances.of_run (advances_when fun _ ↦ ?_) ht
          exact advances_bind keeps_releaseReserved fun _ _ _ ↦ keeps_modifyPartitions
        refine advances_modify_bind (evolves_settleReservation (hs.of_keeps hst) (Or.inr ?_))
          advances_bump
        exact live_of_keeps hst hr (by simpa using hlive)

lemma advances_releaseReservation {id : PartitionReservationId} {reason : Text} {now : UInt64}
    (hs : π.Settles s id) (hretires : π.enters .retired) :
    Advances (Evolves π floor) (releaseReservation id reason now) s :=
  advances_get_bind (advances_require_bind fun _ ↦ advances_releaseReservationLocked hs hretires)

lemma advances_fenceReservation {id : PartitionReservationId} {reason : Text} {now : UInt64}
    (hs : π.Settles s id) (hretires : π.enters .retired) :
    Advances (Evolves π floor) (fenceReservation id reason now) s :=
  advances_get_bind (advances_require_bind fun _ ↦ advances_fenceReservationLocked hs hretires)

lemma advances_closeReservation {now : UInt64} {key : PartitionReservationId}
    (hs : π.Settles s key) : Advances (Evolves π floor) (closeReservation now key) s := by
  refine advances_get_bind ?_
  cases hr : s.findReservation key with
  | none => exact advances_pure _ _
  | some reservation =>
      refine advances_when fun hholds ↦ ?_
      refine advances_bind (advances_ignore advances_releaseReserved) fun t _ ht ↦ ?_
      have hst : Keeps FabricState.reservations s t :=
        Advances.of_run (advances_ignore keeps_releaseReserved) ht
      refine advances_modify (evolves_settleReservation (hs.of_keeps hst)
        (Or.inr (live_of_keeps hst hr ?_)))
      exact live_of_holdsCapacity hholds

lemma advances_releaseHeld {record : PartitionRecord} :
    Advances (Evolves π floor) (releaseHeld record) s := by
  unfold releaseHeld
  cases record.heldBucket with
  | none => exact advances_pure _ _
  | some b => exact advances_ignore advances_moveBetween

lemma advances_closePartition {now : UInt64} {key : PartitionId} (hretires : π.enters .retired) :
    Advances (Evolves π floor) (closePartition now key) s := by
  refine advances_get_bind ?_
  cases s.findPartition key with
  | none => exact advances_pure _ _
  | some record =>
      refine advances_when fun _ ↦ advances_bind advances_releaseHeld fun _ _ _ ↦ ?_
      exact advances_modify (evolves_modifyPartition fun r _ ↦ .retire r _ _ hretires)

lemma evolves_closeAttempt {now : UInt64} {key : PartitionAttemptId} (hanswers : π.answers) :
    Evolves π floor s (closeAttempt now key s) := by
  refine evolves_modifyAttempt fun a _ ↦ ?_
  split
  · rename_i hflight
    exact ⟨rfl, rfl, rfl, rfl, rfl, rfl, Or.inr (Or.inl hflight),
      fun h ↦ absurd h Bool.false_ne_true, Or.inl hanswers⟩
  · exact .refl a

lemma advances_close {now : UInt64} (h : π.workers) (hcloses : π.closes)
    (hs : ∀ k a w b, π.settles k a w b) (hretires : π.enters .retired)
    (hanswers : π.answers) : Advances (Evolves π floor) (close now) s := by
  refine advances_get_bind (advances_when fun _ ↦ ?_)
  refine advances_bind (advances_forM fun _ _ _ _ ↦
    advances_closeReservation fun _ _ ↦ hs _ _ _ _) fun _ _ _ ↦ ?_
  refine advances_bind (advances_forM fun _ _ _ _ ↦ advances_closePartition hretires)
    fun _ _ _ ↦ ?_
  refine advances_bind (advances_forM fun _ _ _ _ ↦ 
    advances_modify (evolves_closeAttempt hanswers)) fun _ _ _ ↦ ?_
  refine advances_bind (advances_forM fun _ _ _ _ ↦
    advances_modify (evolves_modifyWorker h)) fun _ _ _ ↦ ?_
  refine advances_modify_bind (evolves_closed hcloses) ?_
  refine advances_bind advances_bump fun t _ _ ↦ advances_get_bind ?_
  split
  · exact advances_pure _ _
  · exact advances_throw _ _

lemma advances_reopen {now : UInt64} (h : π.closes) :
    Advances (Evolves π floor) (reopen now) s :=
  advances_modify_bind (evolves_closed h) advances_bump

lemma lost_inFlight {a : PartitionAttempt} (h : attemptSettled a.state = false) :
    a.state = .outcomeUnknown ∨ a.state.inFlight = true := by
  cases hs : a.state with
  | registered => exact Or.inr rfl
  | dispatched => exact Or.inr rfl
  | outcomeUnknown => exact Or.inl rfl
  | succeeded => exact absurd (hs ▸ h) (by decide)
  | failed => exact absurd (hs ▸ h) (by decide)
  | reconciled => exact absurd (hs ▸ h) (by decide)

/-- An unsettled attempt may become unknown in any step. -/
lemma AttemptEvolves.lose {a a' : PartitionAttempt} (hanswers : π.answers)
    (h : attemptSettled a.state = false)
    (ha : a' = { a with
      state := .outcomeUnknown, settledAtMs := a'.settledAtMs, detail := a'.detail }) :
    AttemptEvolves π a a' := by
  rw [ha]
  exact ⟨rfl, rfl, rfl, rfl, rfl, rfl, (lost_inFlight h).imp Eq.symm Or.inl,
    fun h ↦ absurd h Bool.false_ne_true, Or.inl hanswers⟩

lemma advances_loseAttempt {now : UInt64} {detail : Text} {lost : PartitionAttempt → Bool}
    {key : PartitionAttemptId} (henters : π.enters .revalidationRequired)
    (hanswers : π.answers) :
    Advances (Evolves π floor) (loseAttempt now detail lost key) s := by
  refine advances_get_bind ?_
  cases ha : s.findAttempt key with
  | none => exact advances_pure _ _
  | some attempt =>
      refine advances_when fun hlost ↦ ?_
      simp only [Bool.and_eq_true, Bool.not_eq_true'] at hlost
      refine advances_modify_bind (evolves_modifyAttempt fun a hfind ↦ ?_)
        (advances_forM fun _ _ _ _ ↦ advances_revalidateUnknown henters)
      obtain rfl := Option.some.inj (ha.symm.trans hfind)
      exact .lose hanswers hlost.1 rfl

lemma advances_fenceReservationWhen {now : UInt64} {reason : Text}
    {lost : PartitionReservation → Bool} {key : PartitionReservationId}
    (hs : ∀ r, lost r = true → π.settles key r.accelerator r.worker r.workerBoot)
    (hretires : π.enters .retired) :
    Advances (Evolves π floor) (fenceReservationWhen now reason lost key) s := by
  refine advances_get_bind ?_
  cases hfind : s.findReservation key with
  | none => exact advances_pure _ _
  | some reservation =>
      refine advances_when fun hlost ↦ advances_ignore (advances_fenceReservationLocked ?_ hretires)
      intro r hr
      obtain rfl := Option.some.inj (hfind.symm.trans hr)
      exact hs _ (Bool.and_eq_true_iff.mp hlost).2

/-- What a scope has to allow for a worker incarnation that is fenced. -/
structure Dismisses (π : Scope) (worker : WorkerId) (boot : WorkerBootId) : Prop where
  settles : ∀ k a, π.settles k a worker boot
  retires : π.enters .retired
  revalidates : π.enters .revalidationRequired
  answers : π.answers

lemma advances_fenceWorkerLocked {worker : WorkerId} {boot : WorkerBootId} {now : UInt64}
    {reason : Text} (h : π.workers) (hd : Dismisses π worker boot) :
    Advances (Evolves π floor) (fenceWorkerLocked worker boot now reason) s := by
  refine advances_get_bind ?_
  cases s.findWorker worker with
  | none => exact advances_throw _ _
  | some record =>
      refine advances_when fun _ ↦
        advances_modify_bind (evolves_modifyWorker h) ?_
      refine advances_bind (advances_forM fun _ _ _ _ ↦
        advances_fenceReservationWhen (fun r hr ↦ ?_) hd.retires) fun _ _ _ ↦ ?_
      · simp only [isWorkerBound, Bool.and_eq_true, decide_eq_true_eq] at hr
        rw [hr.1, hr.2]
        exact hd.settles _ _
      · exact advances_bind (advances_forM fun _ _ _ _ ↦ 
          advances_loseAttempt hd.revalidates hd.answers) fun _ _ _ ↦ advances_bump

lemma advances_fencePrevious {existing : Option WorkerRecord} {worker : WorkerRecord}
    {now : UInt64} (h : π.workers)
    (hd : ∀ previous, existing = some previous → previous.boot ≠ worker.boot →
      Dismisses π worker.id previous.boot) :
    Advances (Evolves π floor) (fencePrevious existing worker now) s := by
  unfold fencePrevious
  cases existing with
  | none => exact advances_pure _ _
  | some previous =>
      refine advances_when fun hboot ↦
        advances_modify_bind (evolves_modifyWorker h) ?_
      exact advances_ignore
        (advances_fenceWorkerLocked h (hd previous rfl (of_decide_eq_true hboot)))

lemma advances_noteWorker {worker : WorkerRecord} {now : UInt64} (h : π.workers)
    (hn : π.numbers → worker.id < s.ids.next)
    (hd : ∀ previous, s.findWorker worker.id = some previous → previous.boot ≠ worker.boot →
      Dismisses π worker.id previous.boot) :
    Advances (Evolves π floor) (noteWorker worker now) s := by
  refine advances_require_bind fun _ ↦ advances_get_bind (advances_require_bind fun _ ↦ ?_)
  refine advances_bind_of (advances_fencePrevious h hd) fun t _ _ hst ↦ ?_
  refine advances_modify_bind (evolves_workers h fun hπ ht ↦ ht.insert ?_ _) advances_bump
  exact lt_of_lt_of_le (hn hπ) hst.ids

lemma advances_noteWorkerSeen {worker : WorkerId} {boot : WorkerBootId} {atMs : UInt64}
    (h : π.workers) :
    Advances (Evolves π floor) (noteWorkerSeen worker boot atMs) s := by
  refine advances_get_bind ?_
  cases s.findWorker worker with
  | none => exact advances_throw _ _
  | some record =>
      exact advances_require_bind fun _ ↦
        advances_modify (evolves_modifyWorker h)

lemma advances_advanceCoordinatorEpoch {now : UInt64} (hw : π.workers) (he : π.epoch)
    (hd : ∀ worker boot, Dismisses π worker boot) :
    Advances (Evolves π floor) (advanceCoordinatorEpoch now) s := by
  refine advances_get_bind (advances_lift_bind fun epoch hepoch ↦ ?_)
  refine advances_modify_bind (evolves_epoch he (le_of_lt (lt_next hepoch))) ?_
  refine advances_bind (advances_forM fun _ _ _ _ ↦ advances_fenceReservationWhen
    (fun r _ ↦ (hd r.worker r.workerBoot).settles _ _) (hd 0 0).retires) fun _ _ _ ↦ ?_
  refine advances_bind (advances_forM fun _ _ _ _ ↦
    advances_loseAttempt (hd 0 0).revalidates (hd 0 0).answers) fun _ _ _ ↦ ?_
  refine advances_bind (advances_forM fun _ _ _ _ ↦
    advances_modify (evolves_modifyWorker hw)) fun _ _ _ ↦ ?_
  exact advances_bind advances_bump fun _ _ _ ↦ advances_pure _ _

lemma advances_installCoordinatorEpoch {epoch : CoordinatorEpoch}
    (h : s.coordinatorEpoch < epoch → π.epoch) :
    Advances (Evolves π floor) (installCoordinatorEpoch epoch) s := by
  refine advances_get_bind (advances_require_bind fun hforward ↦ ?_)
  have hle : s.coordinatorEpoch ≤ epoch := by simpa using hforward
  rcases eq_or_lt_of_le hle with rfl | hlt
  · exact advances_modify_bind (refl_of _ s) advances_bump
  · exact advances_modify_bind (evolves_epoch (h hlt) hle) advances_bump

end PartitionFabric
