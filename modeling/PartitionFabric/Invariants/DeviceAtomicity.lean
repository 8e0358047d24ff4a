import PartitionFabric.Invariants.CapabilityContent
import PartitionFabric.Invariants.Reconfiguring

/-!
The registration of a backend accelerator writes the key, the profiles, the record and the ledger
before the capability is published: which failures leave the registry as it was.
-/

namespace PartitionFabric

open Procedure

variable {s t u : FabricState} {accelerator : BackendAccelerator} {now : UInt64}
  {id : AcceleratorId}

section Report

def FabricState.knows (s : FabricState) (accelerator : BackendAccelerator) : Bool :=
  (s.keyIndex.find? accelerator.stableKey).isSome

/-- The record of the reported device, an empty one under a new key. -/
def FabricState.previousOf (s : FabricState) (accelerator : BackendAccelerator) :
    AcceleratorRecord :=
  if s.knows accelerator then (s.findAccelerator (s.deviceOf accelerator)).getD {} else {}

/-- The record that a report establishes. -/
def FabricState.reportOf (s : FabricState) (accelerator : BackendAccelerator) (now : UInt64) :
    AcceleratorRecord :=
  let previous := s.previousOf accelerator
  reportedRecord s accelerator (s.deviceOf accelerator)
    (if s.resets accelerator then previous.generation + 1
      else if s.knows accelerator then previous.generation else 1)
    (if known previous.evidence.generation then previous.evidence.generation + 1 else 1)
    (s.knows accelerator) previous now

/-- The capability that a report submits for its device. -/
def submittedCapability (accelerator : BackendAccelerator) (id : AcceleratorId)
    (record : AcceleratorRecord) : PartitionCapability :=
  { accelerator.capability with
    accelerator := id
    deviceGeneration := record.generation
    evidence := if accelerator.capability.evidence.isObserved then accelerator.capability.evidence
      else record.evidence }

/-- A report is looked at: the instance is open, the report is valid, and a new key finds room and
an identity. -/
structure ReportAdmitted (s : FabricState) (accelerator : BackendAccelerator) : Prop where
  opened : s.closed = false
  valid : validateBackendAccelerator accelerator s.limits = success
  room : s.knows accelerator = false → s.accelerators.size < s.limits.maxAccelerators
  identity : s.knows accelerator = false → s.ids.next ≠ uint64Max

/-- The counters of the device are not exhausted. -/
structure ReportNumbered (s : FabricState) (accelerator : BackendAccelerator) : Prop where
  generation : s.resets accelerator = true → (s.previousOf accelerator).generation ≠ uint64Max
  evidence : (s.previousOf accelerator).evidence.generation ≠ uint64Max

/-- The profiles once those of a report are registered, up to the first that is refused, and
whether all of them are. -/
def registeredProfiles (limits : Limits) : List PartitionProfile →
    KeyedMap PartitionProfileId PartitionProfile →
      KeyedMap PartitionProfileId PartitionProfile × Bool
  | [], profiles => (profiles, true)
  | profile :: rest, profiles =>
    if (profile.validate limits).isOk &&
        !(profiles.size ≥ limits.maxProfiles && !profiles.contains profile.id) then
      registeredProfiles limits rest (profiles.insert profile.id profile)
    else (profiles, false)

/-- A capability can be published: it is valid, and the generation that a renewed one needs
exists. -/
structure Publishable (s : FabricState) (record : AcceleratorRecord)
    (capability : PartitionCapability) (now : UInt64) (force : Bool) : Prop where
  valid : capability.validate s.limits = success
  generation : force = true ∨ capabilityDigest record.capability ≠
    capabilityDigest (boundCapability s record capability.accelerator capability now) →
      record.capability.generation ≠ uint64Max

/-- The ledger of a device with given totals. -/
def establishedLedger (existing : Bool) (totals : ResourceVector) (ledger : CapacityLedger) :
    CapacityLedger :=
  if !existing || !ledger.total.equal totals then (CapacityLedger.initializeTotals totals ledger).1
  else ledger

end Report

section Steps

variable {record : AcceleratorRecord} {capability : PartitionCapability}

/-- A profile is registered when it is valid and known or there is room for it. -/
lemma registerBackendProfile_cases (profile : PartitionProfile) (s : FabricState) :
    let fits := (profile.validate s.limits).isOk &&
      !(s.profiles.size ≥ s.limits.maxProfiles && !s.profiles.contains profile.id)
    (fits = true ∧ registerBackendProfile profile s =
        ({ s with profiles := s.profiles.insert profile.id profile }, .ok ())) ∨
      fits = false ∧ ∃ e, registerBackendProfile profile s = (s, .error e) := by
  unfold registerBackendProfile
  simp only [get_bind]
  cases hvalid : profile.validate s.limits with
  | error e => exact Or.inr ⟨rfl, e, rfl⟩
  | ok v =>
      change (true && _) = true ∧ (require _ _ >>= _) s = _ ∨ (true && _) = false ∧
        ∃ e, (require _ _ >>= _) s = _
      rw [require_bind, Bool.true_and]
      cases hroom : !(s.profiles.size ≥ s.limits.maxProfiles &&
          !s.profiles.contains profile.id : Bool) with
      | true => exact Or.inl ⟨rfl, rfl⟩
      | false => exact Or.inr ⟨rfl, _, rfl⟩

lemma registerProfiles_eq (profiles : List PartitionProfile) (s : FabricState) : ∃ status,
    profiles.forM registerBackendProfile s =
        ({ s with profiles := (registeredProfiles s.limits profiles s.profiles).1 }, status) ∧
      (status = success ↔ (registeredProfiles s.limits profiles s.profiles).2 = true) := by
  induction profiles generalizing s with
  | nil => exact ⟨success, rfl, iff_of_true rfl rfl⟩
  | cons profile rest ih =>
      have hcons : (profile :: rest).forM registerBackendProfile s =
          (registerBackendProfile profile >>= fun _ ↦ rest.forM registerBackendProfile) s := rfl
      rw [hcons]
      unfold registeredProfiles
      rcases registerBackendProfile_cases profile s with ⟨hfits, hstep⟩ | ⟨hfits, e, hstep⟩
      · rw [bind_ok hstep, if_pos hfits]
        exact ih { s with profiles := s.profiles.insert profile.id profile }
      · rw [bind_error hstep, if_neg (by rw [hfits]; exact Bool.false_ne_true)]
        exact ⟨.error e, rfl, iff_of_false (fun h ↦ by cases h) Bool.false_ne_true⟩

lemma establishLedger_eq {totals : ResourceVector} (ht : AcceptableTotals totals)
    (id : AcceleratorId) (existing : Bool) (undo : FabricState → FabricState) (s : FabricState) :
    establishLedger id existing totals undo s = ({ s with
      ledgers := s.ledgers.insert id
        (establishedLedger existing totals ((s.findLedger id).getD {})) }, .ok ()) := by
  have htouch : touchLedger id s =
      { s with ledgers := s.ledgers.insert id ((s.findLedger id).getD {}) } := by
    unfold touchLedger KeyedMap.contains FabricState.findLedger
    cases h : s.ledgers.find? id with
    | none => rfl
    | some l =>
        rw [Option.getD_some, KeyedMap.insert_eq_self h]
        rfl
  generalize (s.findLedger id).getD {} = ledger at htouch
  have hfind : (touchLedger id s).findLedger id = some ledger := by
    rw [htouch, FabricState.findLedger, KeyedMap.find?_insert_self]
  unfold establishLedger establishedLedger
  rw [modify_bind, get_bind, hfind, Option.getD_some]
  cases hdiffers : (!existing || !ledger.total.equal totals) with
  | false => rw [when_false, pure_apply, htouch, if_neg Bool.false_ne_true]
  | true =>
      rw [when_true, if_pos rfl]
      rcases CapacityLedger.initializeTotals_spec totals ledger with ⟨l, hl, -⟩ | ⟨-, hnot⟩
      · have hrun : Procedure.attempt (onLedger id (CapacityLedger.initializeTotals totals))
            (touchLedger id s) = ((touchLedger id s).setLedger id l, .ok success) := by
          rw [attempt_apply, onLedger, hfind]
          simp only [hl]
        rw [bind_ok hrun, hl, htouch]
        have hinsert : (s.ledgers.insert id ledger).insert id l = s.ledgers.insert id l :=
          KeyedMap.ext_find? fun k ↦ by simp only [KeyedMap.find?_insert]; split <;> rfl
        simp only [success, pure_apply, FabricState.setLedger, hinsert]
      · exact absurd ht hnot

lemma never_fenceOutdated {generation : CapabilityGeneration} {key : PartitionReservationId} :
    Meets (fun _ ↦ False) (fun _ _ ↦ True) (fenceOutdated id generation now key) s := by
  obtain ⟨t, hrun, -⟩ := fenceOutdated_spec id generation now key s
  unfold Meets
  rw [hrun]
  trivial

lemma never_demoteUnsupported {key : PartitionId} :
    Meets (fun _ ↦ False) (fun _ _ ↦ True) (demoteUnsupported id capability now key) s := by
  refine meets_get_bind ?_
  cases s.findPartition key with
  | none => exact meets_pure trivial
  | some r => exact meets_when (fun _ ↦ trivial) fun _ ↦ trivial

/-- A procedure that never fails succeeds. -/
lemma exists_ok_of_never {α : Type} {Q : α → FabricState → Prop} {m : FabricM α}
    (h : Meets (fun _ ↦ False) Q m s) : ∃ t a, m s = (t, .ok a) ∧ Q a t := by
  unfold Meets at h
  cases hrun : m s with
  | mk t result =>
      rw [hrun] at h
      cases result with
      | error e => exact h.elim
      | ok a => exact ⟨t, a, rfl, h⟩

lemma succeeds_of_never {α : Type} {m : FabricM α}
    (h : Meets (fun _ ↦ False) (fun _ _ ↦ True) m s) : ∃ t a, m s = (t, .ok a) := by
  obtain ⟨t, a, hrun, -⟩ := exists_ok_of_never h
  exact ⟨t, a, hrun⟩

/-- A publication succeeds exactly when the capability can be published; otherwise it changes
nothing. -/
lemma publishCapabilityLocked_cases (force : Bool) (now : UInt64)
    (hrecord : s.findAccelerator capability.accelerator = some record)
    (hdevice : capability.deviceGeneration = record.generation) :
    (Publishable s record capability now force ∧ ∃ t g,
      publishCapabilityLocked capability.accelerator capability now force s = (t, .ok g)) ∨
    ¬Publishable s record capability now force ∧ ∃ e,
      publishCapabilityLocked capability.accelerator capability now force s = (s, .error e) := by
  have hbound : (if known capability.deviceGeneration then capability.deviceGeneration
      else record.generation) = record.generation := by
    rw [hdevice]
    split <;> rfl
  have hchecked : { capability with
      accelerator := capability.accelerator
      deviceGeneration := record.generation } = capability := by
    rw [← hdevice]
  unfold publishCapabilityLocked
  rw [get_bind, hrecord]
  simp only [require_bind]
  rw [hbound, beq_self_eq_true, if_pos rfl, hchecked]
  cases hvalid : capability.validate s.limits with
  | error e => exact Or.inr ⟨fun h ↦ (by cases hvalid.symm.trans h.valid), e, rfl⟩
  | ok v =>
      have hrenewed : (force || !known record.capability.generation ||
          capabilityDigest record.capability != capabilityDigest
            (boundCapability s record capability.accelerator capability now)) = true ↔
          (force = true ∨ capabilityDigest record.capability ≠ capabilityDigest
            (boundCapability s record capability.accelerator capability now)) ∨
              known record.capability.generation = false := by
        simp only [Bool.or_eq_true, Bool.not_eq_true', bne_iff_ne]
        exact or_right_comm
      change (Publishable s record capability now force ∧ ∃ t g,
        (if !(force || !known record.capability.generation || capabilityDigest record.capability !=
          capabilityDigest (boundCapability s record capability.accelerator capability now)) then
            pure record.capability.generation else _ : FabricM CapabilityGeneration) s =
          (t, .ok g)) ∨ ¬Publishable s record capability now force ∧ ∃ e,
        (if !(force || !known record.capability.generation || capabilityDigest record.capability !=
          capabilityDigest (boundCapability s record capability.accelerator capability now)) then
            pure record.capability.generation else _ : FabricM CapabilityGeneration) s = (s, .error e)
      cases hchanged : (force || !known record.capability.generation ||
          capabilityDigest record.capability != capabilityDigest
            (boundCapability s record capability.accelerator capability now)) with
      | false =>
          refine Or.inl ⟨⟨hvalid, fun h ↦ ?_⟩, s, _, rfl⟩
          cases hchanged.symm.trans (hrenewed.mpr (Or.inl h))
      | true =>
          rw [if_neg (by decide)]
          by_cases hmax : record.capability.generation = uint64Max
          · have hnext : (if known record.capability.generation then
                next record.capability.generation else .ok 1 : Result CapabilityGeneration) =
                  failure .overflow "generation counter exhausted"
                    (decimal record.capability.generation.toNat) := by
              rw [hmax]
              rfl
            rw [hnext]
            refine Or.inr ⟨fun h ↦ ?_, _, rfl⟩
            rcases hrenewed.mp hchanged with hrenews | hunknown
            · exact h.generation hrenews hmax
            · rw [hmax] at hunknown
              cases hunknown
          · have hnext : ∃ g, (if known record.capability.generation then
                next record.capability.generation else .ok 1 : Result CapabilityGeneration) =
                  .ok g := by
              split
              · exact ⟨_, if_neg hmax⟩
              · exact ⟨1, rfl⟩
            obtain ⟨g, hnext⟩ := hnext
            rw [hnext]
            refine Or.inl ⟨⟨hvalid, fun _ ↦ hmax⟩, succeeds_of_never ?_⟩
            refine meets_bind (P := fun _ _ ↦ True) trivial fun number t _ ↦ meets_modify_bind ?_
            refine meets_bind (P := fun _ _ ↦ True) ?_ fun _ u _ ↦ ?_
            · exact meets_forM (Q := fun _ _ ↦ True) (fun _ _ _ _ ↦ never_fenceOutdated) trivial
            · refine meets_bind (P := fun _ _ ↦ True) ?_ fun _ v _ ↦ ?_
              · exact meets_forM (Q := fun _ _ ↦ True) (fun _ _ _ _ ↦ never_demoteUnsupported)
                  trivial
              · exact meets_modify_bind (meets_pure trivial)

end Steps

section Finishing

variable {record : AcceleratorRecord} {existing reset : Bool} {capability : PartitionCapability}

/-- The registration once the device is identified and its generations are known. -/
def finishRegistration (accelerator : BackendAccelerator) (id : AcceleratorId) (existing : Bool)
    (previousGeneration : AcceleratorGeneration) (record : AcceleratorRecord) (reset : Bool)
    (now : UInt64) : FabricM AcceleratorId := do
  accelerator.profiles.forM registerBackendProfile
  Procedure.modify fun s ↦ { s with accelerators := s.accelerators.insert id record }
  establishLedger id existing record.physicalTotals
    (undoRegistration accelerator.stableKey id existing previousGeneration)
  let _ ← publishCapabilityLocked id (submittedCapability accelerator id record) now reset
  Procedure.when reset do
    let s ← Procedure.get
    s.partitions.keys.forM (revalidateAfterReset id now)
    s.reservations.keys.forM fun key ↦ Procedure.modify (fenceAfterReset id now key)
  Procedure.modify FabricState.bumpStateGeneration
  pure id

/-- What is written before the capability is published. -/
def FabricState.recorded (s : FabricState) (accelerator : BackendAccelerator) (id : AcceleratorId)
    (existing : Bool) (record : AcceleratorRecord) : FabricState :=
  { s with
    profiles := (registeredProfiles s.limits accelerator.profiles s.profiles).1
    accelerators := s.accelerators.insert id record
    ledgers := s.ledgers.insert id
      (establishedLedger existing record.physicalTotals ((s.findLedger id).getD {})) }

lemma Publishable.congr {force : Bool} (hlimits : t.limits = s.limits)
    (hpolicy : t.policy = s.policy) : Publishable t record capability now force ↔
      Publishable s record capability now force := by
  have hbound := @boundCapability_congr s t capability.accelerator now capability hpolicy record
  constructor
  · rintro ⟨hvalid, hgeneration⟩
    exact ⟨hlimits ▸ hvalid, hbound ▸ hgeneration⟩
  · rintro ⟨hvalid, hgeneration⟩
    exact ⟨hlimits.symm ▸ hvalid, hbound.symm ▸ hgeneration⟩

lemma never_revalidateAfterReset {key : PartitionId} :
    Meets (fun _ ↦ False) (fun _ _ ↦ True) (revalidateAfterReset id now key) s := by
  refine meets_get_bind ?_
  cases s.findPartition key with
  | none => exact meets_pure trivial
  | some r => exact meets_when (fun _ ↦ trivial) fun _ ↦ trivial

/-- The registration stops at the first profile that is refused or at the publication, or it goes
through. -/
lemma finishRegistration_cases (ht : AcceptableTotals record.physicalTotals)
    (previousGeneration : AcceleratorGeneration) (now : UInt64) (s : FabricState) :
    ((registeredProfiles s.limits accelerator.profiles s.profiles).2 = false ∧ ∃ e,
      finishRegistration accelerator id existing previousGeneration record reset now s =
        ({ s with
          profiles := (registeredProfiles s.limits accelerator.profiles s.profiles).1 },
          .error e)) ∨
    (registeredProfiles s.limits accelerator.profiles s.profiles).2 = true ∧
      (Publishable s record (submittedCapability accelerator id record) now reset ∧ (∃ t,
        finishRegistration accelerator id existing previousGeneration record reset now s =
          (t, .ok id)) ∨
      ¬Publishable s record (submittedCapability accelerator id record) now reset ∧ ∃ e,
        finishRegistration accelerator id existing previousGeneration record reset now s =
          (s.recorded accelerator id existing record, .error e)) := by
  obtain ⟨status, hprofiles, hall⟩ := registerProfiles_eq accelerator.profiles s
  unfold finishRegistration
  cases status with
  | error e =>
      rw [bind_error hprofiles]
      refine Or.inl ⟨?_, e, rfl⟩
      rw [← Bool.not_eq_true]
      exact fun h ↦ by cases hall.mpr h
  | ok v =>
      rw [bind_ok hprofiles, modify_bind, bind_ok (establishLedger_eq ht _ _ _ _)]
      refine Or.inr ⟨hall.mp rfl, ?_⟩
      change _ ∧ (∃ t, (publishCapabilityLocked id _ now reset >>= _)
        (s.recorded accelerator id existing record) = _) ∨ _ ∧ ∃ e,
          (publishCapabilityLocked id _ now reset >>= _)
            (s.recorded accelerator id existing record) = _
      have hstored : (s.recorded accelerator id existing record).findAccelerator id = some record :=
        KeyedMap.find?_insert_self _ _ _
      have hsame : Publishable (s.recorded accelerator id existing record) record
          (submittedCapability accelerator id record) now reset ↔
            Publishable s record (submittedCapability accelerator id record) now reset :=
        Publishable.congr rfl rfl
      rcases @publishCapabilityLocked_cases (s.recorded accelerator id existing record) record
        (submittedCapability accelerator id record) reset now hstored rfl with
        ⟨hpublishable, t, g, hrun⟩ | ⟨hrefused, e, hrun⟩
      · refine Or.inl ⟨hsame.mp hpublishable, ?_⟩
        change publishCapabilityLocked id _ now reset _ = _ at hrun
        rw [bind_ok hrun]
        have hrest : Meets (fun _ ↦ False) (fun device _ ↦ device = id)
            (Procedure.when reset (Procedure.get >>= fun s ↦
              s.partitions.keys.forM (revalidateAfterReset id now) >>= fun _ ↦
                s.reservations.keys.forM fun key ↦ Procedure.modify (fenceAfterReset id now key)) >>=
              fun _ ↦ Procedure.modify FabricState.bumpStateGeneration >>= fun _ ↦ pure id) t := by
          refine meets_bind (P := fun _ _ ↦ True) ?_ fun _ _ _ ↦ meets_modify_bind (meets_pure rfl)
          refine meets_when (fun _ ↦ meets_get_bind ?_) fun _ ↦ trivial
          refine meets_bind (P := fun _ _ ↦ True) ?_ fun _ _ _ ↦ ?_
          · exact meets_forM (Q := fun _ _ ↦ True) (fun _ _ _ _ ↦ never_revalidateAfterReset) trivial
          · exact meets_forM (Q := fun _ _ ↦ True) (fun _ _ _ _ ↦ trivial) trivial
        obtain ⟨u, device, hrest, rfl⟩ := exists_ok_of_never hrest
        exact ⟨u, hrest⟩
      · refine Or.inr ⟨fun h ↦ hrefused (hsame.mpr h), e, ?_⟩
        change publishCapabilityLocked id _ now reset _ = _ at hrun
        rw [bind_error hrun]

end Finishing

section Identifying

/-- The state once the reported device is identified. -/
def FabricState.identified (s : FabricState) (accelerator : BackendAccelerator) : FabricState :=
  if s.knows accelerator then touchAccelerator (s.deviceOf accelerator) s
  else
    { s with
      ids := ⟨s.ids.next + 1⟩
      keyIndex := s.keyIndex.insert accelerator.stableKey s.ids.next
      stableKeys := s.stableKeys.insert s.ids.next accelerator.stableKey }

/-- The registry is as before, apart from what does not describe devices or capacity. -/
structure RegistryKept (s t : FabricState) : Prop where
  accelerators : t.accelerators = s.accelerators
  ledgers : t.ledgers = s.ledgers
  profiles : t.profiles = s.profiles
  keyIndex : t.keyIndex = s.keyIndex
  stableKeys : t.stableKeys = s.stableKeys
  partitions : t.partitions = s.partitions
  reservations : t.reservations = s.reservations

lemma RegistryKept.refl (s : FabricState) : RegistryKept s s := ⟨rfl, rfl, rfl, rfl, rfl, rfl, rfl⟩

/-- A device is identified when its key is known or there is room for it; a failure changes
nothing. -/
lemma identifyAccelerator_cases (s : FabricState) (accelerator : BackendAccelerator) :
    ((s.knows accelerator = false → s.accelerators.size < s.limits.maxAccelerators ∧
        s.ids.next ≠ uint64Max) ∧ ∃ t,
      identifyAccelerator accelerator.stableKey s =
          (t, .ok (s.deviceOf accelerator, s.knows accelerator)) ∧
        (Procedure.when (s.knows accelerator)
          (Procedure.modify (touchAccelerator (s.deviceOf accelerator))) : FabricM Unit) t =
            (s.identified accelerator, .ok ())) ∨
    ¬(s.knows accelerator = false → s.accelerators.size < s.limits.maxAccelerators ∧
        s.ids.next ≠ uint64Max) ∧ ∃ e,
      identifyAccelerator accelerator.stableKey s = (s, .error e) := by
  unfold identifyAccelerator FabricState.identified FabricState.knows FabricState.deviceOf
  rw [get_bind]
  cases hkey : s.keyIndex.find? accelerator.stableKey with
  | some known => exact Or.inl ⟨fun h ↦ (by cases h), s, rfl, rfl⟩
  | none =>
      simp only [require_bind]
      by_cases hroom : s.accelerators.size < s.limits.maxAccelerators
      · rw [if_pos (decide_eq_true hroom)]
        by_cases hmax : s.ids.next = uint64Max
        · obtain ⟨e, halloc⟩ := allocateId_exhausted hmax
          rw [bind_error halloc]
          exact Or.inr ⟨fun h ↦ (h rfl).2 hmax, e, rfl⟩
        · rw [bind_ok (allocateId_eq hmax)]
          exact Or.inl ⟨fun _ ↦ ⟨hroom, hmax⟩, _, rfl, rfl⟩
      · rw [if_neg (fun h ↦ hroom (of_decide_eq_true h))]
        exact Or.inr ⟨fun h ↦ hroom (h rfl).1, _, rfl⟩

lemma previousOf_identified : (if s.knows accelerator then
    ((s.identified accelerator).findAccelerator (s.deviceOf accelerator)).getD {} else {}) =
      s.previousOf accelerator := by
  unfold FabricState.previousOf FabricState.identified
  cases s.knows accelerator with
  | false => rfl
  | true => exact touchAccelerator_find? _ _

lemma resets_eq : (s.knows accelerator && valid (s.previousOf accelerator).bootId &&
    valid accelerator.bootId && (s.previousOf accelerator).bootId != accelerator.bootId) =
      s.resets accelerator := by
  unfold FabricState.resets FabricState.previousOf FabricState.deviceOf FabricState.knows
  cases s.keyIndex.find? accelerator.stableKey <;> rfl

/-- Identifying a device touches neither its policy and limits nor profiles and ledgers. -/
lemma identified_spares (s : FabricState) (accelerator : BackendAccelerator) :
    (s.identified accelerator).policy = s.policy ∧ (s.identified accelerator).limits = s.limits ∧
      (s.identified accelerator).profiles = s.profiles ∧
        (s.identified accelerator).ledgers = s.ledgers := by
  unfold FabricState.identified touchAccelerator
  split
  · split
    · exact ⟨rfl, rfl, rfl, rfl⟩
    · exact ⟨rfl, rfl, rfl, rfl⟩
  · exact ⟨rfl, rfl, rfl, rfl⟩

lemma identified_eq {a : AcceleratorRecord} (hknows : s.knows accelerator = true)
    (ha : s.findAccelerator (s.deviceOf accelerator) = some a) : s.identified accelerator = s := by
  unfold FabricState.identified touchAccelerator KeyedMap.contains
  rw [if_pos hknows, show s.accelerators.find? _ = some a from ha]
  rfl

/-- A new key is indexed. -/
lemma knows_of_kept (h : (s.identified accelerator).keyIndex = s.keyIndex) :
    s.knows accelerator = true := by
  cases hknows : s.knows accelerator with
  | true => rfl
  | false =>
      unfold FabricState.identified at h
      rw [hknows] at h
      have hfound : s.keyIndex.find? accelerator.stableKey = some s.ids.next := by
        rw [← h]
        exact KeyedMap.find?_insert_self _ _ _
      unfold FabricState.knows at hknows
      rw [hfound] at hknows
      cases hknows

/-- A registered device without a record gets an empty one. -/
lemma stored_of_kept (hknows : s.knows accelerator = true)
    (h : (s.identified accelerator).accelerators = s.accelerators) :
    ∃ a, s.findAccelerator (s.deviceOf accelerator) = some a := by
  cases hfind : s.findAccelerator (s.deviceOf accelerator) with
  | some a => exact ⟨a, rfl⟩
  | none =>
      unfold FabricState.identified touchAccelerator KeyedMap.contains at h
      rw [if_pos hknows, show s.accelerators.find? _ = none from hfind] at h
      have hfound : s.accelerators.find? (s.deviceOf accelerator) = some {} := by
        rw [← h]
        exact KeyedMap.find?_insert_self _ _ _
      cases hfound.symm.trans hfind

/-- A device whose counters are exhausted is registered. -/
lemma stored_of_exhausted (h : ¬ReportNumbered s accelerator) :
    s.knows accelerator = true ∧ ∃ a, s.findAccelerator (s.deviceOf accelerator) = some a := by
  by_contra habsent
  have hempty : s.previousOf accelerator = {} := by
    unfold FabricState.previousOf
    split
    · rename_i hknows
      cases hfind : s.findAccelerator (s.deviceOf accelerator) with
      | none => rfl
      | some a => exact absurd ⟨hknows, a, hfind⟩ habsent
    · rfl
  refine h ⟨fun _ ↦ ?_, ?_⟩
  · rw [hempty]
    decide
  · rw [hempty]
    decide

lemma next_eq {g : UInt64} (h : g ≠ uint64Max) : next g = .ok (g + 1) := if_neg h

lemma next_exhausted {g : UInt64} (h : g = uint64Max) : ∃ e, next g = .error e := ⟨_, if_pos h⟩

lemma reportGeneration_eq (h : ReportNumbered s accelerator) :
    (if s.resets accelerator then next (s.previousOf accelerator).generation
      else .ok (if s.knows accelerator then (s.previousOf accelerator).generation else 1) :
        Result AcceleratorGeneration) = .ok (s.reportOf accelerator 0).generation := by
  unfold FabricState.reportOf reportedRecord
  split
  · rename_i hreset
    exact next_eq (h.generation hreset)
  · rfl

lemma reportEvidence_eq (h : ReportNumbered s accelerator) :
    (if s.knows accelerator && known (s.previousOf accelerator).evidence.generation then
      next (s.previousOf accelerator).evidence.generation else .ok 1 : Result EvidenceGeneration) =
        .ok (if known (s.previousOf accelerator).evidence.generation then
          (s.previousOf accelerator).evidence.generation + 1 else 1) := by
  cases hknows : s.knows accelerator with
  | true =>
      rw [Bool.true_and]
      split
      · exact next_eq h.evidence
      · rfl
  | false =>
      have hempty : s.previousOf accelerator = {} := by
        unfold FabricState.previousOf
        rw [hknows]
        rfl
      rw [hempty]
      rfl

lemma reportedRecord_identified (generation : AcceleratorGeneration) (evidence : EvidenceGeneration)
    (existing : Bool) (previous : AcceleratorRecord) :
    reportedRecord (s.identified accelerator) accelerator id generation evidence existing previous
        now = reportedRecord s accelerator id generation evidence existing previous now := by
  unfold reportedRecord FabricState.evidenceTtl
  rw [(identified_spares s accelerator).1]

/-- A report that is not looked at or finds a counter exhausted changes nothing; otherwise it is
registered over the identified device. -/
lemma registerBackendAccelerator_cases (accelerator : BackendAccelerator) (now : UInt64)
    (s : FabricState) :
    (¬(ReportAdmitted s accelerator ∧ ReportNumbered s accelerator) ∧ ∃ t e,
      registerBackendAccelerator accelerator now s = (t, .error e) ∧ RegistryKept s t) ∨
    (ReportAdmitted s accelerator ∧ ReportNumbered s accelerator) ∧
      registerBackendAccelerator accelerator now s =
        finishRegistration accelerator (s.deviceOf accelerator) (s.knows accelerator)
          (s.previousOf accelerator).generation (s.reportOf accelerator now)
          (s.resets accelerator) now (s.identified accelerator) := by
  unfold registerBackendAccelerator
  cases hclosed : s.closed with
  | true =>
      rw [bind_error (checkOpen_closed hclosed)]
      refine Or.inl ⟨fun h ↦ ?_, s, _, rfl, .refl s⟩
      cases hclosed.symm.trans h.1.opened
  | false =>
      rw [bind_ok (checkOpen_opened hclosed), get_bind]
      cases hvalid : validateBackendAccelerator accelerator s.limits with
      | error e =>
          refine Or.inl ⟨fun h ↦ ?_, s, e, rfl, .refl s⟩
          cases hvalid.symm.trans h.1.valid
      | ok v =>
          rw [show (Procedure.lift (Except.ok v) >>= _ : FabricM AcceleratorId) s = _ from bind_ok rfl]
          rcases identifyAccelerator_cases s accelerator with
            ⟨hroom, t, hidentify, htouch⟩ | ⟨hfull, e, hidentify⟩
          · rw [bind_ok hidentify]
            simp only
            rw [bind_ok htouch, get_bind, previousOf_identified, resets_eq]
            have hadmitted : ReportAdmitted s accelerator :=
              ⟨hclosed, hvalid, fun hnew ↦ (hroom hnew).1, fun hnew ↦ (hroom hnew).2⟩
            by_cases hnumbered : ReportNumbered s accelerator
            · refine Or.inr ⟨⟨hadmitted, hnumbered⟩, ?_⟩
              rw [reportGeneration_eq hnumbered, reportEvidence_eq hnumbered]
              change finishRegistration accelerator (s.deviceOf accelerator) (s.knows accelerator)
                (s.previousOf accelerator).generation (reportedRecord (s.identified accelerator)
                  accelerator (s.deviceOf accelerator) (s.reportOf accelerator 0).generation _
                  (s.knows accelerator) (s.previousOf accelerator) now) (s.resets accelerator) now
                  (s.identified accelerator) = _
              rw [reportedRecord_identified]
              rfl
            · refine Or.inl ⟨fun h ↦ hnumbered h.2, ?_⟩
              obtain ⟨hknows, a, ha⟩ := stored_of_exhausted hnumbered
              rw [identified_eq hknows ha]
              by_cases hgeneration : s.resets accelerator = true ∧
                  (s.previousOf accelerator).generation = uint64Max
              · obtain ⟨e, hnext⟩ := next_exhausted hgeneration.2
                rw [if_pos hgeneration.1, hnext]
                exact ⟨s, e, rfl, .refl s⟩
              · have hexhausted : (s.previousOf accelerator).evidence.generation = uint64Max := by
                  by_contra hevidence
                  exact hnumbered ⟨fun hreset hmax ↦ hgeneration ⟨hreset, hmax⟩, hevidence⟩
                obtain ⟨g, hfirst⟩ : ∃ g, (if s.resets accelerator then
                    next (s.previousOf accelerator).generation else .ok (if s.knows accelerator then
                      (s.previousOf accelerator).generation else 1) :
                        Result AcceleratorGeneration) = .ok g := by
                  split
                  · rename_i hreset
                    exact ⟨_, next_eq fun hmax ↦ hgeneration ⟨hreset, hmax⟩⟩
                  · exact ⟨_, rfl⟩
                rw [hfirst, hknows, hexhausted]
                exact ⟨s, _, rfl, .refl s⟩
          · rw [bind_error hidentify]
            refine Or.inl ⟨fun h ↦ hfull fun hnew ↦ ⟨h.1.room hnew, h.1.identity hnew⟩, s, e, rfl,
              .refl s⟩

end Identifying

section Atomicity

/-- A registration that fails leaves the registry as it was. -/
def DeviceAtomic (s : FabricState) (accelerator : BackendAccelerator) (now : UInt64) : Prop :=
  ∀ t e, registerBackendAccelerator accelerator now s = (t, .error e) → RegistryKept s t

/-- The profiles of a report are registered. -/
def FabricState.profilesAfter (s : FabricState) (accelerator : BackendAccelerator) :
    KeyedMap PartitionProfileId PartitionProfile × Bool :=
  registeredProfiles s.limits accelerator.profiles s.profiles

/-- A report goes through: its profiles are registered and its capability can be published. -/
structure ReportCompletes (s : FabricState) (accelerator : BackendAccelerator) (now : UInt64) :
    Prop where
  profiles : (s.profilesAfter accelerator).2 = true
  published : Publishable s (s.reportOf accelerator now)
    (submittedCapability accelerator (s.deviceOf accelerator) (s.reportOf accelerator now)) now
    (s.resets accelerator)

/-- What is written up to the failure is there already: the device is registered under its key, the
profiles are the registered ones, and, where the record is written, it and the ledger are too. -/
structure ReportHarmless (s : FabricState) (accelerator : BackendAccelerator) (now : UInt64) :
    Prop where
  known : s.knows accelerator = true
  profiles : (s.profilesAfter accelerator).1 = s.profiles
  device : ∃ a, s.findAccelerator (s.deviceOf accelerator) = some a ∧
    ((s.profilesAfter accelerator).2 = true → a = s.reportOf accelerator now)
  ledger : (s.profilesAfter accelerator).2 = true →
    ∃ l, s.findLedger (s.deviceOf accelerator) = some l ∧
      establishedLedger true accelerator.physicalTotals l = l

/-- How a report that is looked at ends. -/
inductive ReportEnds (s : FabricState) (accelerator : BackendAccelerator) (now : UInt64) :
    FabricState × Result AcceleratorId → Prop
  | refusedProfile {e : Error} (hprofiles : (s.profilesAfter accelerator).2 = false) :
      ReportEnds s accelerator now
        ({ s.identified accelerator with profiles := (s.profilesAfter accelerator).1 }, .error e)
  | refusedCapability {e : Error} (hprofiles : (s.profilesAfter accelerator).2 = true)
      (hrefused : ¬ReportCompletes s accelerator now) :
      ReportEnds s accelerator now
        ((s.identified accelerator).recorded accelerator (s.deviceOf accelerator)
          (s.knows accelerator) (s.reportOf accelerator now), .error e)
  | registered {t : FabricState} {id : AcceleratorId}
      (hcompletes : ReportCompletes s accelerator now) :
      ReportEnds s accelerator now (t, .ok id)

lemma reportEnds_of_admitted (hadmitted : ReportAdmitted s accelerator)
    (hnumbered : ReportNumbered s accelerator) (now : UInt64) :
    ReportEnds s accelerator now (registerBackendAccelerator accelerator now s) := by
  rcases registerBackendAccelerator_cases accelerator now s with ⟨hnot, -⟩ | ⟨-, hrun⟩
  · exact absurd ⟨hadmitted, hnumbered⟩ hnot
  · rw [hrun]
    obtain ⟨hpolicy, hlimits, hknown, -⟩ := identified_spares s accelerator
    have ht : AcceptableTotals (s.reportOf accelerator now).physicalTotals :=
      acceptable_of_validate hadmitted.valid
    have hprofiles : registeredProfiles (s.identified accelerator).limits accelerator.profiles
        (s.identified accelerator).profiles = s.profilesAfter accelerator := by
      rw [hlimits, hknown]
      rfl
    have hsame : Publishable (s.identified accelerator) (s.reportOf accelerator now)
        (submittedCapability accelerator (s.deviceOf accelerator) (s.reportOf accelerator now)) now
          (s.resets accelerator) ↔ Publishable s (s.reportOf accelerator now)
        (submittedCapability accelerator (s.deviceOf accelerator) (s.reportOf accelerator now)) now
          (s.resets accelerator) := Publishable.congr hlimits hpolicy
    have hends := @finishRegistration_cases accelerator (s.deviceOf accelerator)
      (s.reportOf accelerator now) (s.knows accelerator) (s.resets accelerator) ht
      (s.previousOf accelerator).generation now (s.identified accelerator)
    rw [hprofiles, hsame] at hends
    rcases hends with ⟨hrefused, e, hrun⟩ | ⟨hall, ⟨hpublishable, t, hrun⟩ | ⟨hrefused, e, hrun⟩⟩
    · rw [hrun]
      exact .refusedProfile hrefused
    · rw [hrun]
      exact .registered ⟨hall, hpublishable⟩
    · rw [hrun]
      exact .refusedCapability hall fun h ↦ hrefused h.published

/-- A registration that fails after the report was looked at leaves the registry as it was only
where everything that it wrote was there. -/
lemma harmless_of_kept {e : Error} (h : ReportEnds s accelerator now (t, .error e))
    (hkept : RegistryKept s t) : ReportHarmless s accelerator now := by
  cases h with
  | refusedProfile hprofiles =>
      have hknows : s.knows accelerator = true := knows_of_kept hkept.keyIndex
      obtain ⟨a, ha⟩ := stored_of_kept hknows hkept.accelerators
      have hnone : ¬(s.profilesAfter accelerator).2 = true := by
        rw [hprofiles]
        exact Bool.false_ne_true
      exact ⟨hknows, hkept.profiles, ⟨a, ha, fun hall ↦ absurd hall hnone⟩,
        fun hall ↦ absurd hall hnone⟩
  | refusedCapability hprofiles hrefused =>
      obtain ⟨-, hlimits, hknown, hledgers⟩ := identified_spares s accelerator
      have hknows : s.knows accelerator = true := knows_of_kept hkept.keyIndex
      have hrecord : s.findAccelerator (s.deviceOf accelerator) =
          some (s.reportOf accelerator now) := by
        rw [FabricState.findAccelerator, ← hkept.accelerators]
        exact KeyedMap.find?_insert_self _ _ _
      have hledger : s.findLedger (s.deviceOf accelerator) = some (establishedLedger
          (s.knows accelerator) accelerator.physicalTotals
            (((s.identified accelerator).findLedger (s.deviceOf accelerator)).getD {})) := by
        rw [FabricState.findLedger, ← hkept.ledgers]
        exact KeyedMap.find?_insert_self _ _ _
      have hsame : (s.identified accelerator).findLedger (s.deviceOf accelerator) =
          s.findLedger (s.deviceOf accelerator) := by
        rw [FabricState.findLedger, hledgers]
        rfl
      refine ⟨hknows, ?_, ⟨_, hrecord, fun _ ↦ rfl⟩, fun _ ↦ ⟨_, hledger, ?_⟩⟩
      · have hprofiles := hkept.profiles
        unfold FabricState.recorded at hprofiles
        rwa [hlimits, hknown] at hprofiles
      · rw [hsame, hknows] at hledger ⊢
        obtain ⟨l, hl⟩ : ∃ l, s.findLedger (s.deviceOf accelerator) = some l := ⟨_, hledger⟩
        rw [hl, Option.getD_some] at hledger ⊢
        rw [← Option.some.inj hledger]
        exact (Option.some.inj hledger).symm

/-- Writing what is there already leaves the registry as it was. -/
lemma ReportHarmless.kept {e : Error} (h : ReportHarmless s accelerator now)
    (hends : ReportEnds s accelerator now (t, .error e)) : RegistryKept s t := by
  obtain ⟨a, ha, hrecord⟩ := h.device
  have hsame := identified_eq h.known ha
  cases hends with
  | refusedProfile hprofiles =>
      rw [hsame]
      exact ⟨rfl, rfl, h.profiles, rfl, rfl, rfl, rfl⟩
  | refusedCapability hprofiles hrefused =>
      obtain ⟨l, hl, hestablished⟩ := h.ledger hprofiles
      rw [hsame, h.known]
      refine ⟨?_, ?_, h.profiles, rfl, rfl, rfl, rfl⟩
      · rw [← hrecord hprofiles]
        exact KeyedMap.insert_eq_self ha
      · change s.ledgers.insert _ (establishedLedger true accelerator.physicalTotals
          ((s.findLedger _).getD {})) = _
        rw [hl, Option.getD_some, hestablished]
        exact KeyedMap.insert_eq_self hl

/-- A device registration fails atomically unless the report is looked at, its counters are not
exhausted, it does not go through, and something that it wrote was not there. -/
theorem device_registration_atomic_iff : DeviceAtomic s accelerator now ↔
    (ReportAdmitted s accelerator → ReportNumbered s accelerator →
      ReportCompletes s accelerator now ∨ ReportHarmless s accelerator now) := by
  constructor
  · intro hatomic hadmitted hnumbered
    have hends := reportEnds_of_admitted hadmitted hnumbered now
    cases hrun : registerBackendAccelerator accelerator now s with
    | mk t result =>
        rw [hrun] at hends
        cases result with
        | error e => exact Or.inr (harmless_of_kept hends (hatomic t e hrun))
        | ok device =>
            cases hends with
            | registered hcompletes => exact Or.inl hcompletes
  · intro h t e hrun
    by_cases hlooked : ReportAdmitted s accelerator ∧ ReportNumbered s accelerator
    · have hends := reportEnds_of_admitted hlooked.1 hlooked.2 now
      rw [hrun] at hends
      rcases h hlooked.1 hlooked.2 with hcompletes | hharmless
      · cases hends with
        | refusedProfile hprofiles => cases hprofiles.symm.trans hcompletes.profiles
        | refusedCapability _ hrefused => exact absurd hcompletes hrefused
      · exact hharmless.kept hends
    · rcases registerBackendAccelerator_cases accelerator now s with
        ⟨-, t', e', hrun', hkept⟩ | ⟨hboth, -⟩
      · obtain rfl := (Prod.mk.inj (hrun'.symm.trans hrun)).1
        exact hkept
      · exact absurd hboth hlooked

end Atomicity

namespace Sample

/-- A device that reports no capability yet. -/
def silentDevice : BackendAccelerator :=
  { device with
    capability := {}
    profiles := [] }

end Sample

/-- A device that reports no capability is refused after its key and its record are stored. -/
theorem device_registration_not_atomic : ¬∀ s accelerator now, fabric.Reachable anyOp s →
    DeviceAtomic s accelerator now := by
  intro h
  have hatomic := h Sample.opened Sample.silentDevice 1 (.initial ⟨_, _, rfl⟩)
  have hbefore : Sample.opened.accelerators.size = 0 := by decide +kernel
  have hafter : (registerBackendAccelerator Sample.silentDevice 1 Sample.opened).2.isOk = false ∧
      (registerBackendAccelerator Sample.silentDevice 1 Sample.opened).1.accelerators.size = 1 := by
    decide +kernel
  generalize Sample.opened = s at hatomic hbefore hafter
  cases hrun : registerBackendAccelerator Sample.silentDevice 1 s with
  | mk t result =>
      rw [hrun] at hafter
      cases result with
      | ok id => cases hafter.1
      | error e =>
          have hsame := (hatomic t e hrun).accelerators
          have hsize := hafter.2
          rw [hsame, hbefore] at hsize
          cases hsize

end PartitionFabric
