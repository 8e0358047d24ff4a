import PartitionFabric.Invariants.Validity

/-!
Every partition record of a reached state passes its own check, as long as no step meets one of
the situations in which the fabric writes a record without checking it.

Each operation is judged by one invariant: every record is in order, and it has the property
that the rest of the operation relies on.
-/

namespace PartitionFabric

open Procedure

/-- Every record is in order and has a property that the rest of a step relies on. -/
structure Sound (P : PartitionId → PartitionRecord → Prop) (s : FabricState) : Prop where
  ids : 0 < s.ids.next
  records : ∀ k r, s.partitions.find? k = some r → r.id = k ∧ r.Coherent ∧ P k r

/-- The property that nothing is asked of. -/
def Any (_ : PartitionId) (_ : PartitionRecord) : Prop := True

/-- A property that only the drain and the generation of a record matter to. -/
def Steady (P : PartitionId → PartitionRecord → Prop) : Prop :=
  ∀ k r r', r'.drain = r.drain → r'.generation = r.generation → P k r → P k r'

/-- A property that lifecycle moves do not matter to. -/
def Lasting (P : PartitionId → PartitionRecord → Prop) : Prop :=
  ∀ k r r', r'.drain = r.drain → r'.generation = r.generation → r'.accelerator = r.accelerator →
    r'.profile = r.profile → r'.nativeIdentity = r.nativeIdentity → P k r → P k r'

variable {P Q : PartitionId → PartitionRecord → Prop} {s t : FabricState}

lemma steady_any : Steady Any := fun _ _ _ _ _ _ ↦ trivial

lemma Steady.lasting (h : Steady P) : Lasting P :=
  fun k r r' hdrain hgeneration _ _ _ ↦ h k r r' hdrain hgeneration

lemma Sound.mono (h : Sound P s)
    (hPQ : ∀ k r, s.partitions.find? k = some r → r.Coherent → P k r → Q k r) : Sound Q s := by
  refine ⟨h.ids, fun k r hr ↦ ?_⟩
  obtain ⟨hid, hcoherent, hp⟩ := h.records k r hr
  exact ⟨hid, hcoherent, hPQ k r hr hcoherent hp⟩

lemma Sound.any (h : Sound P s) : Sound Any s := h.mono fun _ _ _ _ _ ↦ trivial

lemma Untouched.sound (h : Untouched s t) : Preserves (Sound P) s t := by
  intro hs
  refine ⟨lt_of_lt_of_le hs.ids h.ids, ?_⟩
  rw [h.partitions]
  exact hs.records

lemma Sound.of_untouched (hs : Sound P s) (h : Untouched s t) : Sound P t := h.sound hs

lemma sound_of_untouched {α : Type} {m : FabricM α} (h : Advances Untouched m s) :
    Advances (Preserves (Sound P)) m s :=
  Untouched.sound h

lemma sound_modifyPartition {key : PartitionId} {f : PartitionRecord → PartitionRecord}
    (h : ∀ r, s.partitions.find? key = some r → r.Coherent → P key r →
      (f r).id = r.id ∧ (f r).Coherent ∧ P key (f r)) :
    Preserves (Sound P) s (s.modifyPartition key f) := by
  intro hs
  refine ⟨hs.ids, fun k r hr ↦ ?_⟩
  unfold FabricState.modifyPartition at hr
  rw [KeyedMap.find?_modify] at hr
  split at hr
  · rename_i hk
    subst hk
    obtain ⟨r₀, hr₀, rfl⟩ := Option.map_eq_some_iff.mp hr
    obtain ⟨hid, hcoherent, hp⟩ := hs.records k r₀ hr₀
    obtain ⟨hid', hf⟩ := h r₀ hr₀ hcoherent hp
    exact ⟨hid'.trans hid, hf⟩
  · exact hs.records k r hr

lemma sound_insertPartition {key : PartitionId} {r : PartitionRecord} (hid : r.id = key)
    (hr : r.Coherent) (hP : P key r) :
    Preserves (Sound P) s { s with partitions := s.partitions.insert key r } := by
  intro hs
  refine ⟨hs.ids, fun k r' hr' ↦ ?_⟩
  rw [KeyedMap.find?_insert] at hr'
  split at hr'
  · rename_i hk
    obtain rfl := Option.some.inj hr'
    rw [hk]
    exact ⟨hid, hr, hP⟩
  · exact hs.records k r' hr'

lemma sound_erasePartition {key : PartitionId} :
    Preserves (Sound P) s { s with partitions := s.partitions.erase key } := by
  intro hs
  refine ⟨hs.ids, fun k r hr ↦ ?_⟩
  rw [KeyedMap.find?_erase] at hr
  split at hr
  · exact absurd hr (by simp)
  · exact hs.records k r hr

lemma sound_transition_of {now : UInt64} {key : PartitionId} {target : PartitionState}
    {reason : Text}
    (hP : ∀ r held, s.partitions.find? key = some r → P key r → P key { r with
      heldBucket := held
      state := target
      lastTransitionAtMs := now
      lastTransitionReason := reason })
    (hmove : ∀ r, s.partitions.find? key = some r → r.Coherent → P key r →
      Allowed r.state target → r.Movable target) :
    Advances (Preserves (Sound P)) (transitionPartition now key target reason) s := by
  intro hs
  rcases transitionPartition_cases now key target reason s with
    h | ⟨record, ledger, ledger', held, hrecord, hallowed, -, -, hfollows, h⟩
  · rw [h]
    exact hs
  · rw [h]
    obtain ⟨hid, hcoherent, hp⟩ := hs.records key record hrecord
    have hmoved := hmove record hrecord hcoherent hp hallowed
    refine ⟨hs.ids, fun k r hr ↦ ?_⟩
    change (s.partitions.insert key _).find? k = some r at hr
    rw [KeyedMap.find?_insert] at hr
    split at hr
    · rename_i hk
      subst hk
      obtain rfl := Option.some.inj hr
      exact ⟨hid, ⟨hcoherent.identified, hcoherent.dated,
        hfollows.housed hcoherent.housed hmoved, hmoved.drained⟩, hP record held hrecord hp⟩
    · exact hs.records k r hr

lemma sound_transition {now : UInt64} {key : PartitionId} {target : PartitionState}
    {reason : Text}
    (hP : ∀ r held, P key r → P key { r with
      heldBucket := held
      state := target
      lastTransitionAtMs := now
      lastTransitionReason := reason })
    (hmove : ∀ r, s.partitions.find? key = some r → r.Coherent → P key r →
      Allowed r.state target → r.Movable target) :
    Advances (Preserves (Sound P)) (transitionPartition now key target reason) s :=
  sound_transition_of (fun r held _ ↦ hP r held) hmove

lemma Lasting.transition (hP : Lasting P) (key : PartitionId) (target : PartitionState)
    (now : UInt64) (reason : Text) (r : PartitionRecord) (held : Option CapacityBucket)
    (h : P key r) : P key { r with
      heldBucket := held
      state := target
      lastTransitionAtMs := now
      lastTransitionReason := reason } :=
  hP key r _ rfl rfl rfl rfl rfl h

lemma sound_stampPartitionEvidence {now : UInt64} {key : PartitionId}
    {accelerator : AcceleratorRecord} {provenance : EvidenceProvenance} {source : Text}
    (hP : Lasting P) :
    Preserves (Sound P) s (stampPartitionEvidence now key accelerator provenance source s) := by
  unfold stampPartitionEvidence
  cases next s.evidenceGeneration with
  | error e =>
      apply sound_modifyPartition
      intro r _ hr hp
      exact ⟨rfl, ⟨hr.identified, hr.dated, hr.housed, hr.drained⟩, hP key r _ rfl rfl rfl rfl rfl hp⟩
  | ok g =>
      have hone : Preserves (Sound P) s { s with evidenceGeneration := g } :=
        Untouched.sound ⟨rfl, le_refl _⟩
      apply trans_of (Preserves (Sound P)) hone
      apply sound_modifyPartition
      intro r _ hr hp
      exact ⟨rfl, ⟨hr.identified, hr.dated, hr.housed, hr.drained⟩, hP key r _ rfl rfl rfl rfl rfl hp⟩

lemma sound_bindFound {p : PartitionId} {backend : Text}
    {found : Option (BackendLayout × BackendNativePartition)} (hP : Steady P) :
    Preserves (Sound P) s (bindFound p backend found s) := by
  unfold bindFound
  cases found with
  | none => exact refl_of _ s
  | some pair =>
      apply sound_modifyPartition
      intro r _ hr hp
      exact ⟨rfl, ⟨hr.identified, hr.dated, hr.housed, hr.drained⟩, hP p r _ rfl rfl hp⟩

lemma sound_bump :
    Advances (Preserves (Sound P)) (Procedure.modify FabricState.bumpStateGeneration : FabricM Unit) s :=
  advances_modify (Untouched.sound apart_bump)

section Devices

variable {id : AcceleratorId} {now : UInt64}

lemma sound_demoteUnsupported {capability : PartitionCapability} {key : PartitionId}
    (hP : Lasting P)
    (h : ∀ r, P key r → r.accelerator = id → capability.supportsProfile r.profile = false →
      r.drain.Settled) :
    Advances (Preserves (Sound P)) (demoteUnsupported id capability now key) s := by
  apply advances_get_bind
  cases hfind : s.findPartition key with
  | none => exact advances_pure _ _
  | some partition =>
      apply advances_when
      intro hwhen
      simp only [Bool.and_eq_true, decide_eq_true_eq, Bool.not_eq_true'] at hwhen
      apply advances_ignore
      apply sound_transition (hP.transition _ _ _ _)
      intro r hr hcoherent hp _
      obtain rfl := Option.some.inj (hfind.symm.trans hr)
      exact hcoherent.movable (h partition hp hwhen.1.1.1 hwhen.1.2) (by decide)

lemma sound_publishCapabilityLocked {capability : PartitionCapability} {force : Bool}
    (hP : Lasting P)
    (h : ∀ k r, P k r → r.accelerator = id → capability.supportsProfile r.profile = false →
      r.drain.Settled) :
    Advances (Preserves (Sound P)) (publishCapabilityLocked id capability now force) s := by
  apply advances_get_bind
  cases s.findAccelerator id with
  | none => exact advances_throw _ _
  | some record =>
      apply advances_require_bind
      intro _
      apply advances_lift_bind
      intro _ _
      apply advances_ite
      · intro _
        exact advances_pure _ _
      · intro _
        apply advances_lift_bind
        intro g _
        refine advances_modify_bind (Untouched.sound ⟨rfl, le_refl _⟩) ?_
        apply advances_bind
        · apply advances_forM
          intro key _ t _
          exact sound_of_untouched apart_fenceOutdated
        · intro t _ _
          apply advances_bind
          · apply advances_forM
            intro key _ t _
            exact sound_demoteUnsupported hP (h key)
          · intro t _ _
            exact advances_bind sound_bump fun _ _ _ ↦ advances_pure _ _

lemma sound_revalidateAfterReset {key : PartitionId} (hP : Lasting P)
    (h : ∀ r, P key r → r.accelerator = id → r.drain.Settled) :
    Advances (Preserves (Sound P)) (revalidateAfterReset id now key) s := by
  apply advances_get_bind
  cases hfind : s.findPartition key with
  | none => exact advances_pure _ _
  | some partition =>
      apply advances_when
      intro hwhen
      simp only [Bool.and_eq_true, decide_eq_true_eq] at hwhen
      apply advances_ignore
      apply sound_transition (hP.transition _ _ _ _)
      intro r hr hcoherent hp _
      obtain rfl := Option.some.inj (hfind.symm.trans hr)
      exact hcoherent.movable (h partition hp hwhen.1) (by decide)

lemma sound_registerAccelerator {record : AcceleratorRecord} (hP : Lasting P)
    (h : known record.capability.generation = true → ∀ k r, P k r → r.accelerator = record.id →
      record.capability.supportsProfile r.profile = false → r.drain.Settled) :
    Advances (Preserves (Sound P)) (registerAccelerator record now) s := by
  refine advances_bind (sound_of_untouched apart_checkOpen) fun t _ _ ↦ advances_get_bind ?_
  refine advances_lift_bind fun _ _ ↦ advances_require_bind fun _ ↦ advances_require_bind fun _ ↦ ?_
  refine advances_modify_bind (Untouched.sound ⟨rfl, le_refl _⟩) ?_
  apply advances_bind
  · apply sound_of_untouched
    apply apart_establishLedger
    intro t
    split
    · exact ⟨rfl, le_refl _⟩
    · exact refl_of _ t
  · intro t _ _
    apply advances_bind
    · apply advances_when
      intro hknown
      exact advances_bind (sound_publishCapabilityLocked hP (h hknown))
        fun _ _ _ ↦ advances_pure _ _
    · intro t _ _
      exact sound_bump

end Devices

/-- A backend report shows another incarnation of a device that is already registered. -/
def FabricState.resets (s : FabricState) (accelerator : BackendAccelerator) : Bool :=
  (s.keyIndex.find? accelerator.stableKey).any fun id ↦
    let previous := (s.findAccelerator id).getD {}
    valid previous.bootId && valid accelerator.bootId && previous.bootId != accelerator.bootId

/-- Whether a report is taken for a reset is decided on the state before it. -/
lemma resets_of_existing {accelerator : BackendAccelerator} {id : AcceleratorId} {u : FabricState}
    (hindex : s.keyIndex.find? accelerator.stableKey = some id)
    (haccelerators : u.accelerators = s.accelerators) :
    let previous := ((touchAccelerator id u).findAccelerator id).getD {}
    (true && valid previous.bootId && valid accelerator.bootId &&
      previous.bootId != accelerator.bootId) = s.resets accelerator := by
  unfold FabricState.resets
  rw [hindex, touchAccelerator_find?, FabricState.findAccelerator, haccelerators]
  rfl

lemma sound_registerBackendAccelerator {accelerator : BackendAccelerator} {now : UInt64}
    (hP : Lasting P)
    (hsupport : ∀ k r, P k r → r.accelerator = s.deviceOf accelerator →
      accelerator.capability.supportsProfile r.profile = false → r.drain.Settled)
    (hreset : s.resets accelerator = true → ∀ k r, P k r →
      r.accelerator = s.deviceOf accelerator → r.drain.Settled) :
    Advances (Preserves (Sound P)) (registerBackendAccelerator accelerator now) s := by
  refine advances_bind (sound_of_untouched apart_checkOpen) fun t _ ht ↦ advances_get_bind ?_
  obtain rfl : s = t := (Prod.mk.inj ht).1
  apply advances_lift_bind
  intro _ _
  apply advances_bind (sound_of_untouched apart_identifyAccelerator)
  intro u p hidentify
  obtain ⟨id, existing⟩ := p
  obtain ⟨rfl, haccelerators, hindex, -⟩ := identifyAccelerator_ok hidentify
  apply advances_bind
  · apply advances_when
    intro _
    exact advances_modify (Untouched.sound apart_touchAccelerator)
  intro v _ hv
  have hexisting : existing = true → v = touchAccelerator (s.deviceOf accelerator) u := by
    intro hyes
    rw [hyes] at hv
    exact (Prod.mk.inj hv).1.symm
  apply advances_get_bind
  apply advances_lift_bind
  intro generation _
  apply advances_lift_bind
  intro evidence _
  apply advances_bind
  · apply advances_forM
    intro _ _ _ _
    exact sound_of_untouched apart_registerBackendProfile
  intro w _ _
  refine advances_modify_bind (Untouched.sound ⟨rfl, le_refl _⟩) ?_
  apply advances_bind
  · apply sound_of_untouched
    apply apart_establishLedger
    intro _
    exact apart_undoRegistration
  intro w _ _
  refine advances_bind (sound_publishCapabilityLocked hP ?_) fun w _ _ ↦ ?_
  · exact hsupport
  apply advances_bind
  · apply advances_when
    intro hwhen
    have hyes : existing = true := by
      simp only [Bool.and_eq_true] at hwhen
      exact hwhen.1.1.1
    have hresets : s.resets accelerator = true := by
      rw [hyes, if_pos rfl] at hindex
      rw [hexisting hyes, hyes, if_pos rfl, resets_of_existing hindex haccelerators] at hwhen
      exact hwhen
    apply advances_get_bind
    apply advances_bind
    · apply advances_forM
      intro key _ t _
      exact sound_revalidateAfterReset hP (hreset hresets key)
    · intro t _ _
      apply advances_forM
      intro key _ t _
      exact advances_modify (Untouched.sound ⟨rfl, le_refl _⟩)
  · intro w _ _
    exact advances_bind sound_bump fun _ _ _ ↦ advances_pure _ _

section Renewal

variable {L l : List PartitionId} {n : ℕ}

/-- The generations of the listed partitions leave room for a number of supersessions. -/
def Room (L : List PartitionId) (n : ℕ) (Q : PartitionId → PartitionRecord → Prop)
    (k : PartitionId) (r : PartitionRecord) : Prop :=
  Q k r ∧ (k ∈ L → r.generation.toNat + n < 2 ^ 64)

lemma PartitionRecord.renewable_of_room {r : PartitionRecord}
    (h : r.generation.toNat + (n + 1) < 2 ^ 64) : r.Renewable := by
  intro hmax
  rw [hmax] at h
  have : uint64Max.toNat = 2 ^ 64 - 1 := by decide
  omega

lemma PartitionRecord.supersede_generation {r : PartitionRecord} (h : r.Renewable) :
    r.supersede.generation.toNat = r.generation.toNat + 1 := by
  have hnext : next r.generation = .ok (r.generation + 1) := by
    unfold next
    rw [if_neg h]
  unfold PartitionRecord.supersede
  rw [hnext]
  exact toNat_add_one h

lemma Sound.room_mono {m : ℕ} (h : Sound (Room L n Q) s) (hm : m ≤ n) : Sound (Room L m Q) s :=
  h.mono fun _ _ _ _ hp ↦ ⟨hp.1, fun hk ↦ lt_of_le_of_lt (Nat.add_le_add_left hm _) (hp.2 hk)⟩

/-- A loop whose rounds each use up one generation of room. -/
lemma sound_forM_room {body : PartitionId → FabricM Unit}
    (hbody : ∀ p ∈ l, ∀ m t, Sound (Room L (m + 1) Q) t → Sound (Room L m Q) (body p t).1)
    (hs : Sound (Room L (l.length + n) Q) s) : Sound (Room L n Q) (l.forM body s).1 := by
  induction l generalizing s with
  | nil => simpa using hs
  | cons p rest ih =>
      have hone : Sound (Room L (rest.length + n) Q) (body p s).1 := by
        apply hbody p List.mem_cons_self
        have hlen : (p :: rest).length + n = rest.length + n + 1 := by
          rw [List.length_cons]
          omega
        rw [← hlen]
        exact hs
      change Sound _ ((body p >>= fun _ ↦ rest.forM body) s).1
      apply bind_fst
      · intro t e ht
        rw [ht] at hone
        exact hone.room_mono (Nat.le_add_left _ _)
      · intro t _ ht
        rw [ht] at hone
        exact ih (fun q hq ↦ hbody q (List.mem_cons_of_mem p hq)) hone

/-- One round that rewrites a listed record and supersedes it at most once. -/
lemma sound_renew {p : PartitionId} {f : PartitionRecord → PartitionRecord} {m : ℕ} (hp : p ∈ L)
    (hf : ∀ r, r.Coherent → Q p r → r.Renewable → (f r).id = r.id ∧ (f r).Coherent ∧ Q p (f r) ∧
      (f r).generation.toNat ≤ r.generation.toNat + 1)
    (hs : Sound (Room L (m + 1) Q) s) : Sound (Room L m Q) (s.modifyPartition p f) := by
  refine ⟨hs.ids, fun k r hr ↦ ?_⟩
  unfold FabricState.modifyPartition at hr
  rw [KeyedMap.find?_modify] at hr
  split at hr
  · rename_i hk
    subst hk
    obtain ⟨r₀, hr₀, rfl⟩ := Option.map_eq_some_iff.mp hr
    obtain ⟨hid, hcoherent, hq, hroom⟩ := hs.records k r₀ hr₀
    obtain ⟨hid', hcoherent', hq', hle⟩ :=
      hf r₀ hcoherent hq (PartitionRecord.renewable_of_room (hroom hp))
    refine ⟨hid'.trans hid, hcoherent', hq', fun _ ↦ ?_⟩
    have := hroom hp
    omega
  · obtain ⟨hid, hcoherent, hq, hroom⟩ := hs.records k r hr
    refine ⟨hid, hcoherent, hq, fun hk ↦ ?_⟩
    have := hroom hk
    omega

/-- The partitions that reservations still in force list, once for each listing. -/
def liveListings (m : KeyedMap PartitionReservationId PartitionReservation) : List PartitionId :=
  (m.values.filter fun r ↦ !reservationIsTerminal r.lifecycle).flatMap
    PartitionReservation.partitions

/-- The partitions that the live reservations of a state list. -/
def FabricState.liveListed (s : FabricState) : List PartitionId := liveListings s.reservations

section Listings

variable {m : KeyedMap PartitionReservationId PartitionReservation}
  {key : PartitionReservationId} {reservation : PartitionReservation}

/-- A live reservation's listings are set apart from those of the others. -/
lemma liveListings_perm (hfind : m.find? key = some reservation)
    (hlive : reservationIsTerminal reservation.lifecycle = false) :
    (liveListings m).Perm (reservation.partitions ++ liveListings (m.erase key)) := by
  have h := ((KeyedMap.values_perm hfind).filter
    fun r ↦ !reservationIsTerminal r.lifecycle).flatMap_right PartitionReservation.partitions
  rw [List.filter_cons_of_pos (by simp [hlive]), List.flatMap_cons] at h
  exact h

/-- Settling a reservation takes its listings out. -/
lemma liveListings_settled {f : PartitionReservation → PartitionReservation}
    (hfind : m.find? key = some reservation)
    (hterminal : reservationIsTerminal (f reservation).lifecycle = true) :
    (liveListings (m.modify key f)).Perm (liveListings (m.erase key)) := by
  have hmodified : (m.modify key f).find? key = some (f reservation) := by
    rw [KeyedMap.find?_modify, if_pos rfl, hfind]
    rfl
  have h := ((KeyedMap.values_perm hmodified).filter
    fun r ↦ !reservationIsTerminal r.lifecycle).flatMap_right PartitionReservation.partitions
  rw [List.filter_cons_of_neg (by simp [hterminal]), KeyedMap.erase_modify] at h
  exact h

/-- Settling a reservation adds no listing. -/
lemma liveListings_shrinks (m : KeyedMap PartitionReservationId PartitionReservation)
    (key : PartitionReservationId) {f : PartitionReservation → PartitionReservation}
    (hterminal : ∀ r, reservationIsTerminal (f r).lifecycle = true) :
    (∀ k ∈ liveListings (m.modify key f), k ∈ liveListings m) ∧
      (liveListings (m.modify key f)).length ≤ (liveListings m).length := by
  cases hfind : m.find? key with
  | none =>
      unfold KeyedMap.modify
      rw [hfind]
      exact ⟨fun _ hk ↦ hk, le_refl _⟩
  | some r =>
      have hsettled := liveListings_settled (f := f) hfind (hterminal r)
      have herase : ∃ rest, (liveListings m).Perm (rest ++ liveListings (m.erase key)) := by
        cases hlive : reservationIsTerminal r.lifecycle with
        | false => exact ⟨r.partitions, liveListings_perm hfind hlive⟩
        | true =>
            have h := ((KeyedMap.values_perm hfind).filter
              fun r ↦ !reservationIsTerminal r.lifecycle).flatMap_right
                PartitionReservation.partitions
            rw [List.filter_cons_of_neg (by simp [hlive])] at h
            exact ⟨[], h⟩
      obtain ⟨rest, hperm⟩ := herase
      refine ⟨fun k hk ↦ ?_, ?_⟩
      · exact hperm.mem_iff.mpr (List.mem_append_right _ (hsettled.mem_iff.mp hk))
      · rw [hsettled.length_eq, hperm.length_eq, List.length_append]
        exact Nat.le_add_left _ _

end Listings

/-- Every record is in order and the live listings leave room to supersede it. -/
def Spacious (Q : PartitionId → PartitionRecord → Prop) (s : FabricState) : Prop :=
  Sound (Room s.liveListed s.liveListed.length Q) s

lemma Spacious.sound (h : Spacious Q s) : Sound Q s := h.mono fun _ _ _ _ hp ↦ hp.1

/-- What a step leaves alone when it changes neither records nor reservations. -/
lemma Spacious.of_untouched (hs : Spacious Q s) (h : Untouched s t)
    (hr : t.reservations = s.reservations) : Spacious Q t := by
  have hl : t.liveListed = s.liveListed := by
    unfold FabricState.liveListed
    rw [hr]
  unfold Spacious
  rw [hl]
  exact h.sound hs

/-- Retiring what a live reservation lists and settling it keeps the room for the others. -/
lemma spacious_retireListed {key : PartitionReservationId} {reservation : PartitionReservation}
    {f : PartitionReservation → PartitionReservation} {g : PartitionRecord → PartitionRecord}
    (hfind : s.findReservation key = some reservation)
    (hlive : reservationIsTerminal reservation.lifecycle = false)
    (hterminal : ∀ r, reservationIsTerminal (f r).lifecycle = true)
    (hg : ∀ p ∈ reservation.partitions, ∀ r, r.Coherent → Q p r → r.Renewable →
      (g r).id = r.id ∧ (g r).Coherent ∧ Q p (g r) ∧
        (g r).generation.toNat ≤ r.generation.toNat + 1)
    (hs : Spacious Q s) :
    Spacious Q ((reservation.partitions.foldl (fun t p ↦ t.modifyPartition p g) s).modifyReservation
      key f) := by
  have hperm := liveListings_perm hfind hlive
  have hlength := hperm.length_eq
  rw [List.length_append] at hlength
  have heq : (reservation.partitions.forM (fun p ↦ Procedure.modify fun t ↦ t.modifyPartition p g) :
      FabricM Unit) s = _ := forM_modify (fun p t ↦ t.modifyPartition p g) reservation.partitions s
  generalize reservation.partitions.foldl (fun t p ↦ t.modifyPartition p g) s = u at heq ⊢
  have hrun : Sound (Room s.liveListed (liveListings (s.reservations.erase key)).length Q) u := by
    have hloop : Sound (Room s.liveListed (liveListings (s.reservations.erase key)).length Q)
        (reservation.partitions.forM (fun p ↦ Procedure.modify fun t ↦ t.modifyPartition p g :
          PartitionId → FabricM Unit) s).1 := by
      apply sound_forM_room
      · intro p hp m t ht
        apply sound_renew _ (hg p hp) ht
        exact hperm.mem_iff.mpr (List.mem_append_left _ hp)
      · rw [← hlength]
        exact hs
    rw [heq] at hloop
    exact hloop
  have hreservations : u.reservations = s.reservations := by
    have hkeeps : Advances (Keeps FabricState.reservations) (reservation.partitions.forM
        (fun p ↦ Procedure.modify fun t ↦ t.modifyPartition p g : PartitionId → FabricM Unit)) s :=
      advances_forM fun _ _ _ _ ↦ advances_modify rfl
    unfold Advances at hkeeps
    rw [heq] at hkeeps
    exact hkeeps
  have hrest : (u.modifyReservation key f).liveListed.Perm
      (liveListings (s.reservations.erase key)) := by
    unfold FabricState.liveListed FabricState.modifyReservation
    rw [hreservations]
    exact liveListings_settled hfind (hterminal reservation)
  have hsame : Untouched u (u.modifyReservation key f) := ⟨rfl, le_refl _⟩
  refine (hsame.sound hrun).mono fun k r _ _ hp ↦ ⟨hp.1, fun hk ↦ ?_⟩
  rw [hrest.length_eq]
  exact hp.2 (hperm.mem_iff.mpr (List.mem_append_right _ (hrest.mem_iff.mp hk)))

end Renewal

section Reservations

/-- The partitions of a set have no drain in progress and no work outstanding. -/
def Calm (A : PartitionId → Prop) (k : PartitionId) (r : PartitionRecord) : Prop :=
  A k → r.drain.Settled

variable {A : PartitionId → Prop} {id : PartitionReservationId} {reason : Text} {now : UInt64}

lemma steady_calm : Steady (Calm A) := by
  intro k r r' hdrain _ h hk
  rw [hdrain]
  exact h hk

lemma Calm.retire {k : PartitionId} {r : PartitionRecord} (h : Calm A k r) :
    Calm A k (r.retire now reason) := by
  intro hk
  change r.supersede.drain.Settled
  rw [r.supersede_drain]
  exact h hk

/-- A record that a reservation can give back has no drain to speak of. -/
lemma settled_of_not_held {p : PartitionId} {r : PartitionRecord}
    (hr : s.partitions.find? p = some r) (hcoherent : r.Coherent)
    (h : heldBeyondReserved s p = false) : r.drain.Settled := by
  unfold heldBeyondReserved at h
  rw [FabricState.findPartition, hr] at h
  simp only [Option.any_some, Bool.and_eq_false_iff, Option.isSome_eq_false_iff,
    Option.isNone_iff_eq_none, decide_eq_false_iff_not, not_not] at h
  rcases h with hnone | hreserved
  · have hhoused := hcoherent.housed
    rw [hnone] at hhoused
    refine hcoherent.settled (fun hs ↦ ?_) fun hs ↦ ?_
    · rw [hs] at hhoused
      exact absurd (hhoused rfl) (by decide)
    · rw [hs] at hhoused
      exact absurd (hhoused rfl) (by decide)
  · refine hcoherent.settled ?_ ?_
    · rw [hreserved]
      decide
    · rw [hreserved]
      decide

/-- Retiring a record that has no drain is one supersession. -/
lemma retire_renews {p : PartitionId} {r : PartitionRecord} (hcoherent : r.Coherent)
    (hcalm : Calm A p r) (hsettled : r.drain.Settled) (hroom : r.Renewable) :
    (r.retire now reason).id = r.id ∧ (r.retire now reason).Coherent ∧
      Calm A p (r.retire now reason) ∧
      (r.retire now reason).generation.toNat ≤ r.generation.toNat + 1 :=
  ⟨r.supersede_id, hcoherent.retire hroom hsettled now reason, hcalm.retire,
    le_of_eq (PartitionRecord.supersede_generation hroom)⟩

/-- Settling a reservation only takes its listings out. -/
lemma spacious_settle {key : PartitionReservationId}
    {f : PartitionReservation → PartitionReservation}
    (hterminal : ∀ r, reservationIsTerminal (f r).lifecycle = true) :
    Preserves (Spacious (Calm A)) s (s.modifyReservation key f) := by
  intro hs
  obtain ⟨hmem, hle⟩ := liveListings_shrinks s.reservations key hterminal
  have hsame : Untouched s (s.modifyReservation key f) := ⟨rfl, le_refl _⟩
  refine (hsame.sound hs).mono fun k r _ _ hp ↦ ⟨hp.1, fun hk ↦ ?_⟩
  exact lt_of_le_of_lt (Nat.add_le_add_left hle _) (hp.2 (hmem k hk))

lemma spacious_bump :
    Advances (Preserves (Spacious (Calm A)))
      (Procedure.modify FabricState.bumpStateGeneration : FabricM Unit) s := by
  apply advances_modify
  intro hs
  exact hs.of_untouched apart_bump bump_reservations

lemma spacious_onLedger {accelerator : AcceleratorId} {m : LedgerM Unit} :
    Advances (Preserves (Spacious (Calm A))) (onLedger accelerator m) s := by
  intro hs
  refine hs.of_untouched apart_onLedger ?_
  unfold onLedger
  cases s.findLedger accelerator <;> rfl

lemma reservations_onLedger {accelerator : AcceleratorId} {m : LedgerM Unit} {u : Unit}
    (h : onLedger accelerator m s = (t, .ok u)) :
    t.reservations = s.reservations ∧ t.partitions = s.partitions := by
  unfold onLedger at h
  cases hledger : s.findLedger accelerator with
  | none =>
      rw [hledger] at h
      obtain rfl := (Prod.mk.inj h).1
      exact ⟨rfl, rfl⟩
  | some l =>
      rw [hledger] at h
      obtain rfl := (Prod.mk.inj h).1
      exact ⟨rfl, rfl⟩

/-- Giving capacity back, retiring what a live reservation lists and settling it. -/
lemma spacious_release {a : AcceleratorId} {m : LedgerM Unit}
    {reservation : PartitionReservation} {f : PartitionReservation → PartitionReservation}
    {g : PartitionRecord → PartitionRecord}
    (hfind : s.findReservation id = some reservation)
    (hlive : reservationIsTerminal reservation.lifecycle = false)
    (hterminal : ∀ r, reservationIsTerminal (f r).lifecycle = true)
    (hg : ∀ p ∈ reservation.partitions, ∀ r, r.Coherent → Calm A p r → r.Renewable →
      (g r).id = r.id ∧ (g r).Coherent ∧ Calm A p (g r) ∧
        (g r).generation.toNat ≤ r.generation.toNat + 1) :
    Advances (Preserves (Spacious (Calm A)))
      (onLedger a m >>= fun _ ↦
        reservation.partitions.forM (fun p ↦ Procedure.modify fun t ↦ t.modifyPartition p g) >>=
          fun _ ↦ Procedure.modify (fun t ↦ t.modifyReservation id f) >>= fun _ ↦
            Procedure.modify FabricState.bumpStateGeneration) s := by
  apply advances_bind spacious_onLedger
  intro t _ ht
  obtain ⟨hreservations, -⟩ := reservations_onLedger ht
  have hfind' : t.findReservation id = some reservation := by
    rw [FabricState.findReservation, hreservations]
    exact hfind
  intro hs
  rw [bind_ok (forM_modify (fun p t ↦ t.modifyPartition p g) reservation.partitions t), modify_bind]
  exact spacious_bump (spacious_retireListed hfind' hlive hterminal hg hs)

lemma spacious_fenceReservationLocked :
    Advances (Preserves (Spacious (Calm A))) (fenceReservationLocked id reason now) s := by
  apply advances_get_bind
  cases hfind : s.findReservation id with
  | none => exact advances_pure _ _
  | some reservation =>
      apply advances_require_bind
      intro hlive
      rw [Bool.not_eq_true'] at hlive
      cases hcond : (s.ledgers.contains reservation.accelerator &&
          !reservation.partitions.any (heldBeyondReserved s)) with
      | false =>
          apply advances_bind (advances_pure _ _)
          intro t _ _
          exact advances_modify_bind (spacious_settle fun _ ↦ rfl) spacious_bump
      | true =>
          have hfree : ∀ p ∈ reservation.partitions, heldBeyondReserved s p = false := by
            rw [Bool.and_eq_true, Bool.not_eq_true', List.any_eq_false] at hcond
            intro p hp
            exact Bool.eq_false_iff.mpr (hcond.2 p hp)
          rw [when_true, bind_assoc]
          intro hs
          -- what the reservation lists is calm, since nothing of it is held beyond the reservation
          have hcalm : Spacious (Calm fun k ↦ A k ∨ k ∈ reservation.partitions) s := by
            refine Sound.mono hs fun k r hr hcoherent hp ↦ ⟨?_, hp.2⟩
            rintro (hk | hk)
            · exact hp.1 hk
            · exact settled_of_not_held hr hcoherent (hfree k hk)
          have hrun := spacious_release (A := fun k ↦ A k ∨ k ∈ reservation.partitions)
            (a := reservation.accelerator)
            (m := CapacityLedger.releaseReserved reservation.resources)
            (f := fun r ↦ { r with lifecycle := .fenced, reason := reason, updatedAtMs := now })
            (g := fun r ↦ r.retire now (("reservation fenced: " : Text) ++ reason))
            hfind hlive (fun _ ↦ rfl) (fun p hp r hcoherent hq hroom ↦
              retire_renews hcoherent hq (hq (Or.inr hp)) hroom) hcalm
          exact hrun.mono fun _ _ _ _ hp ↦ ⟨fun hk ↦ hp.1 (Or.inl hk), hp.2⟩

lemma spacious_releaseReservationLocked :
    Advances (Preserves (Spacious (Calm A))) (releaseReservationLocked id reason now) s := by
  apply advances_get_bind
  cases hfind : s.findReservation id with
  | none => exact advances_pure _ _
  | some reservation =>
      apply advances_require_bind
      intro hlive
      rw [Bool.not_eq_true'] at hlive
      apply advances_require_bind
      intro _
      split
      · exact advances_throw _ _
      · apply spacious_release (f := fun r ↦
          { r with lifecycle := .released, reason := reason, updatedAtMs := now }) hfind hlive
          fun _ ↦ rfl
        intro p hp r hcoherent hq hroom
        split
        · rename_i hreserved
          simp only [Bool.and_eq_true, decide_eq_true_eq] at hreserved
          have hsettled := hcoherent.settled (by rw [hreserved.1]; decide)
            (by rw [hreserved.1]; decide)
          exact retire_renews hcoherent hq hsettled hroom
        · exact ⟨rfl, hcoherent, hq, Nat.le_succ _⟩

lemma sound_revalidateUnknown {p : PartitionId} (hp : A p) :
    Advances (Preserves (Sound (Calm A))) (revalidateUnknown now reason p) s := by
  apply advances_get_bind
  apply advances_when
  intro _
  apply advances_ignore
  apply sound_transition (steady_calm.lasting.transition _ _ _ _)
  intro r _ hcoherent hcalm _
  exact hcoherent.movable (hcalm hp) (by decide)

/-- Attempts that a loop may since have turned into unknown outcomes. -/
def Tracks (s₀ s : FabricState) : Prop :=
  ∀ key a', s.attempts.find? key = some a' → ∃ a, s₀.attempts.find? key = some a ∧
    a'.partitions = a.partitions ∧ a'.worker = a.worker ∧ a'.workerBoot = a.workerBoot ∧
    a'.coordinatorEpoch = a.coordinatorEpoch ∧
    (attemptSettled a'.state = false → attemptSettled a.state = false)

/-- What the loss of an attempt depends on. -/
def Enduring (lost : PartitionAttempt → Bool) : Prop :=
  ∀ a a' : PartitionAttempt, a'.worker = a.worker → a'.workerBoot = a.workerBoot →
    a'.coordinatorEpoch = a.coordinatorEpoch → lost a' = lost a

/-- The partitions that the unsettled attempts that are lost list. -/
def FabricState.lostPartitions (s : FabricState) (lost : PartitionAttempt → Bool)
    (p : PartitionId) : Prop :=
  ∃ key a, s.attempts.find? key = some a ∧ attemptSettled a.state = false ∧ lost a = true ∧
    p ∈ a.partitions

lemma tracks_of_eq {s₀ : FabricState} (h : t.attempts = s.attempts) : Preserves (Tracks s₀) s t := by
  intro hs key a' ha'
  rw [h] at ha'
  exact hs key a' ha'

lemma tracks_revalidateUnknown {s₀ : FabricState} {p : PartitionId} :
    Advances (Preserves (Tracks s₀)) (revalidateUnknown now reason p) s := by
  apply advances_get_bind
  apply advances_when
  intro _
  apply advances_ignore
  apply tracks_of_eq
  exact congrArg Prod.fst (keeps_transition (s := s))

lemma tracks_loseAttempt {s₀ : FabricState} {detail : Text} {lost : PartitionAttempt → Bool}
    {key : PartitionAttemptId} :
    Advances (Preserves (Tracks s₀)) (loseAttempt now detail lost key) s := by
  apply advances_get_bind
  cases hfind : s.findAttempt key with
  | none => exact advances_pure _ _
  | some attempt =>
      apply advances_when
      intro hwhen
      rw [Bool.and_eq_true, Bool.not_eq_true'] at hwhen
      refine advances_modify_bind ?_ ?_
      · intro hs k a' ha'
        unfold FabricState.modifyAttempt at ha'
        rw [KeyedMap.find?_modify] at ha'
        split at ha'
        · rename_i hk
          subst hk
          obtain ⟨a, ha, rfl⟩ := Option.map_eq_some_iff.mp ha'
          obtain rfl := Option.some.inj (hfind.symm.trans ha)
          obtain ⟨b, hb, hpartitions, hworker, hboot, hepoch, hsettled⟩ := hs k attempt ha
          exact ⟨b, hb, hpartitions, hworker, hboot, hepoch, fun _ ↦ hsettled hwhen.1⟩
        · exact hs k a' ha'
      · apply advances_forM
        intro p _ t _
        exact tracks_revalidateUnknown

/-- The loss of one attempt moves only partitions that it lists. -/
lemma sound_loseAttempt {s₀ : FabricState} {detail : Text} {lost : PartitionAttempt → Bool}
    {key : PartitionAttemptId} (hlost : Enduring lost) (htracks : Tracks s₀ s) :
    Advances (Preserves (Sound (Calm (s₀.lostPartitions lost))))
      (loseAttempt now detail lost key) s := by
  apply advances_get_bind
  cases hfind : s.findAttempt key with
  | none => exact advances_pure _ _
  | some attempt =>
      apply advances_when
      intro hwhen
      rw [Bool.and_eq_true, Bool.not_eq_true'] at hwhen
      obtain ⟨a, ha, hpartitions, hworker, hboot, hepoch, hsettled⟩ := htracks key attempt hfind
      refine advances_modify_bind (Untouched.sound ⟨rfl, le_refl _⟩) ?_
      apply advances_forM
      intro p hp t _
      apply sound_revalidateUnknown
      refine ⟨key, a, ha, hsettled hwhen.1, ?_, hpartitions ▸ hp⟩
      rw [← hlost a attempt hworker hboot hepoch]
      exact hwhen.2

/-- The loop over the attempts, with what it may assume of each. -/
lemma sound_loseAttempts {s₀ : FabricState} {lost : PartitionAttempt → Bool} (now : UInt64)
    (detail : Text) (keys : List PartitionAttemptId) (hlost : Enduring lost) (htracks : Tracks s₀ s)
    (hs : Sound (Calm (s₀.lostPartitions lost)) s) :
    Sound (Calm (s₀.lostPartitions lost)) (keys.forM (loseAttempt now detail lost) s).1 := by
  have hboth : Advances (Preserves fun t ↦ Tracks s₀ t ∧ Sound (Calm (s₀.lostPartitions lost)) t)
      (keys.forM (loseAttempt now detail lost)) s := by
    apply advances_forM
    intro key _ t _
    rintro ⟨ht, hsound⟩
    exact ⟨tracks_loseAttempt ht, sound_loseAttempt hlost ht hsound⟩
  exact (hboth ⟨htracks, hs⟩).2

lemma spacious_fenceReservationWhen {lost : PartitionReservation → Bool}
    {key : PartitionReservationId} :
    Advances (Preserves (Spacious (Calm A))) (fenceReservationWhen now reason lost key) s := by
  apply advances_get_bind
  cases s.findReservation key with
  | none => exact advances_pure _ _
  | some reservation =>
      apply advances_when
      intro _
      exact advances_ignore spacious_fenceReservationLocked

lemma keeps_fenceReservationLocked :
    Advances (Keeps FabricState.attempts) (fenceReservationLocked id reason now) s := by
  have hbump : ∀ t : FabricState, Keeps FabricState.attempts t t.bumpStateGeneration :=
    fun t ↦ bump_of fun _ ↦ rfl
  apply advances_get_bind
  cases s.findReservation id with
  | none => exact advances_pure _ _
  | some reservation =>
      apply advances_require_bind
      intro _
      apply advances_bind
      · apply advances_when
        intro _
        apply advances_bind
        · unfold Advances Keeps onLedger
          cases s.findLedger reservation.accelerator <;> rfl
        · intro t _ _
          exact advances_forM fun _ _ _ _ ↦ advances_modify rfl
      · intro t _ _
        exact advances_modify_bind rfl (advances_modify (hbump _))

lemma keeps_fenceReservationWhen {lost : PartitionReservation → Bool}
    {key : PartitionReservationId} :
    Advances (Keeps FabricState.attempts) (fenceReservationWhen now reason lost key) s := by
  apply advances_get_bind
  cases s.findReservation key with
  | none => exact advances_pure _ _
  | some reservation =>
      apply advances_when
      intro _
      exact advances_ignore keeps_fenceReservationLocked

/-- Fencing reservations and then losing attempts, whatever the rest of the operation does. -/
lemma sound_fenceThenLose (s₀ : FabricState) (lost : PartitionAttempt → Bool) {detail : Text}
    {fenced : PartitionReservation → Bool} {reservations : List PartitionReservationId}
    {attempts : List PartitionAttemptId} {β : Type} {rest : Unit → FabricM β}
    (hlost : Enduring lost) (hattempts : s.attempts = s₀.attempts)
    (hrest : ∀ t, Advances (Preserves (Sound Any)) (rest ()) t)
    (hs : Spacious (Calm (s₀.lostPartitions lost)) s) :
    Sound Any ((reservations.forM (fenceReservationWhen now reason fenced) >>= fun _ ↦
      attempts.forM (loseAttempt now detail lost) >>= rest) s).1 := by
  have hfence : Advances (Preserves (Spacious (Calm (s₀.lostPartitions lost))))
      (reservations.forM (fenceReservationWhen now reason fenced)) s :=
    advances_forM fun _ _ _ _ ↦ spacious_fenceReservationWhen
  have hkeeps : Advances (Keeps FabricState.attempts)
      (reservations.forM (fenceReservationWhen now reason fenced)) s :=
    advances_forM fun _ _ _ _ ↦ keeps_fenceReservationWhen
  apply bind_fst
  · intro t e ht
    have := hfence hs
    rw [ht] at this
    exact this.sound.any
  · intro t _ ht
    have hspacious := hfence hs
    rw [ht] at hspacious
    unfold Advances at hkeeps
    rw [ht] at hkeeps
    have htracks : Tracks s₀ t := by
      intro key a ha
      have hsame : t.attempts = s₀.attempts := hkeeps.trans hattempts
      rw [hsame] at ha
      exact ⟨a, ha, rfl, rfl, rfl, rfl, fun h ↦ h⟩
    have hlose := sound_loseAttempts now detail attempts hlost htracks
      hspacious.sound
    apply bind_fst
    · intro u e hu
      rw [hu] at hlose
      exact hlose.any
    · intro u _ hu
      rw [hu] at hlose
      exact hrest u hlose.any

/-- The attempts that a worker incarnation owns. -/
def ownedBy (worker : WorkerId) (boot : WorkerBootId) (attempt : PartitionAttempt) : Bool :=
  attempt.worker = worker && attempt.workerBoot = boot

lemma enduring_ownedBy {worker : WorkerId} {boot : WorkerBootId} :
    Enduring (ownedBy worker boot) := by
  intro a a' hworker hboot _
  unfold ownedBy
  rw [hworker, hboot]

lemma sound_fenceWorkerLocked {worker : WorkerId} {boot : WorkerBootId} (hs : Sound Any s)
    (h : (s.findWorker worker).any (fun w ↦ w.boot = boot) = true →
      Spacious (Calm (s.lostPartitions (ownedBy worker boot))) s) :
    Sound Any (fenceWorkerLocked worker boot now reason s).1 := by
  unfold fenceWorkerLocked
  rw [get_bind]
  cases hfind : s.findWorker worker with
  | none => exact hs
  | some record =>
      simp only
      cases hboot : decide (record.boot = boot) with
      | false => exact hs
      | true =>
          rw [when_true, modify_bind]
          have hspacious : Spacious (Calm (s.lostPartitions (ownedBy worker boot))) s := by
            apply h
            rw [hfind]
            exact hboot
          refine sound_fenceThenLose s (ownedBy worker boot) enduring_ownedBy ?_ ?_ ?_
          · rfl
          · intro t
            exact sound_bump
          · exact hspacious.of_untouched ⟨rfl, le_refl _⟩ rfl

/-- Where a worker incarnation that is replaced may be fenced. -/
lemma sound_fencePrevious {existing : Option WorkerRecord} {worker : WorkerRecord} (now : UInt64)
    (hs : Sound Any s)
    (h : ∀ previous, existing = some previous → previous.boot ≠ worker.boot →
      Spacious (Calm (s.lostPartitions (ownedBy worker.id previous.boot))) s) :
    Sound Any (fencePrevious existing worker now s).1 := by
  unfold fencePrevious
  cases existing with
  | none => exact hs
  | some previous =>
      simp only
      cases hboot : decide (previous.boot ≠ worker.boot) with
      | false => exact hs
      | true =>
          rw [when_true, modify_bind]
          have hspacious := h previous rfl (of_decide_eq_true hboot)
          apply sound_fenceWorkerLocked
          · exact hs.of_untouched ⟨rfl, le_refl _⟩
          · intro _
            exact hspacious.of_untouched ⟨rfl, le_refl _⟩ rfl

lemma sound_noteWorker {worker : WorkerRecord} (hs : Sound Any s)
    (h : ∀ previous, s.findWorker worker.id = some previous → previous.boot ≠ worker.boot →
      Spacious (Calm (s.lostPartitions (ownedBy worker.id previous.boot))) s) :
    Sound Any (noteWorker worker now s).1 := by
  have hfence := sound_fencePrevious now hs h
  unfold noteWorker
  rw [require_bind]
  split
  · rw [get_bind, require_bind]
    split
    · apply bind_fst
      · intro t e ht
        rw [ht] at hfence
        exact hfence
      · intro t _ ht
        rw [ht] at hfence
        rw [modify_bind]
        exact sound_bump (hfence.of_untouched ⟨rfl, le_refl _⟩)
    · exact hs
  · exact hs

lemma sound_advanceCoordinatorEpoch (hs : Sound Any s)
    (h : ∀ epoch, next s.coordinatorEpoch = .ok epoch →
      Spacious (Calm (s.lostPartitions fun a ↦ a.coordinatorEpoch ≠ epoch)) s) :
    Sound Any (advanceCoordinatorEpoch now s).1 := by
  unfold advanceCoordinatorEpoch
  rw [get_bind]
  cases hnext : next s.coordinatorEpoch with
  | error e => exact hs
  | ok epoch =>
      have hspacious := h epoch hnext
      change Sound Any ((s.reservations.keys.forM _ >>= _ : FabricM CoordinatorEpoch)
        { s with coordinatorEpoch := epoch }).1
      refine sound_fenceThenLose s (fun a ↦ a.coordinatorEpoch ≠ epoch) ?_ ?_ ?_ ?_
      · intro a a' _ _ hepoch
        simp only [hepoch]
      · rfl
      · intro t
        apply advances_bind
        · apply advances_forM
          intro key _ u _
          exact advances_modify (Untouched.sound ⟨rfl, le_refl _⟩)
        · intro u _ _
          exact advances_bind sound_bump fun _ _ _ ↦ advances_pure _ _
      · exact hspacious.of_untouched ⟨rfl, le_refl _⟩ rfl

end Reservations

section Instance

variable {now : UInt64}

lemma apart_releaseHeld {R : FabricState → FabricState → Prop} [Apart R]
    {record : PartitionRecord} : Advances R (releaseHeld record) s := by
  unfold releaseHeld
  split
  · exact advances_pure _ _
  · exact advances_ignore apart_onLedger

lemma apart_closeReservation {R : FabricState → FabricState → Prop} [Apart R]
    {key : PartitionReservationId} : Advances R (closeReservation now key) s := by
  apply advances_get_bind
  cases s.findReservation key with
  | none => exact advances_pure _ _
  | some reservation =>
      apply advances_when
      intro _
      apply advances_bind (advances_ignore apart_onLedger)
      intro t _ _
      exact advances_modify (Apart.apart rfl rfl (le_refl _))

/-- A partition whose creation was never verified, which closing an instance retires. -/
def awaitsCreation (state : PartitionState) : Bool :=
  state = .reserved || state = .creating || state = .planPending

/-- The partitions that closing retires have a generation left. -/
def Closable (_ : PartitionId) (r : PartitionRecord) : Prop :=
  awaitsCreation r.state = true → r.Renewable

lemma sound_closePartition {key : PartitionId} :
    Advances (Preserves (Sound Closable)) (closePartition now key) s := by
  apply advances_get_bind
  cases hfind : s.findPartition key with
  | none => exact advances_pure _ _
  | some record =>
      apply advances_when
      intro hwhen
      apply advances_bind (sound_of_untouched apart_releaseHeld)
      intro t _ ht
      have hsame : t.partitions = s.partitions := by
        have h : Untouched s (releaseHeld record s).1 := apart_releaseHeld
        rw [ht] at h
        exact h.partitions
      apply advances_modify
      apply sound_modifyPartition
      intro r hr hcoherent hp
      rw [hsame] at hr
      obtain rfl := Option.some.inj (hfind.symm.trans hr)
      have hsettled : record.drain.Settled := by
        simp only [Bool.or_eq_true, decide_eq_true_eq] at hwhen
        rcases hwhen with (h | h) | h
        all_goals exact hcoherent.settled (by rw [h]; decide) (by rw [h]; decide)
      exact ⟨record.supersede_id, hcoherent.retire (hp hwhen) hsettled now _,
        fun h ↦ absurd h (by simp [PartitionRecord.retire, awaitsCreation])⟩

lemma sound_close : Advances (Preserves (Sound Closable)) (close now) s := by
  apply advances_get_bind
  apply advances_when
  intro _
  apply advances_bind
  · apply advances_forM
    intro key _ t _
    exact sound_of_untouched apart_closeReservation
  intro t _ _
  apply advances_bind
  · apply advances_forM
    intro key _ t _
    exact sound_closePartition
  intro t _ _
  apply advances_bind
  · apply advances_forM
    intro key _ t _
    exact advances_modify (Untouched.sound ⟨rfl, le_refl _⟩)
  intro t _ _
  apply advances_bind
  · apply advances_forM
    intro key _ t _
    exact advances_modify (Untouched.sound ⟨rfl, le_refl _⟩)
  intro t _ _
  refine advances_modify_bind (Untouched.sound ⟨rfl, le_refl _⟩) ?_
  apply advances_bind sound_bump
  intro t _ _
  apply advances_get_bind
  split
  · exact advances_pure _ _
  · exact advances_throw _ _

lemma sound_reservePartitions {plan : PartitionPlan} {l : List PlannedPartition}
    {ids : List PartitionId} :
    Advances (Preserves (Sound Any)) (reservePartitions plan now l ids) s := by
  induction l generalizing s ids with
  | nil => exact advances_pure _ _
  | cons planned rest ih =>
      unfold reservePartitions
      apply advances_bind (advances_attempt (sound_of_untouched apart_allocateId))
      intro t status _
      cases status with
      | error e => exact advances_pure _ _
      | ok id =>
          apply advances_get_bind
          simp only
          split
          · exact advances_pure _ _
          · rename_i hvalid
            have hcoherent := PartitionRecord.validate_eq_ok.mp hvalid
            exact advances_modify_bind (sound_insertPartition rfl hcoherent trivial) ih

lemma sound_abandonReservation {id : AcceleratorId} {needed : ResourceVector}
    {partitions : List PartitionId} {e : Error} :
    Advances (Preserves (Sound Any)) (abandonReservation id needed partitions e) s := by
  apply advances_bind
  · apply advances_forM
    intro p _ t _
    exact advances_modify sound_erasePartition
  · intro t _ _
    apply advances_bind (advances_ignore (sound_of_untouched apart_onLedger))
    intro u _ _
    exact advances_throw _ _

lemma sound_completeReservation {planId : PartitionPlanId} {plan : PartitionPlan}
    {needed : ResourceVector} {id : PartitionReservationId} :
    Advances (Preserves (Sound Any)) (completeReservation planId plan needed id now) s := by
  apply advances_bind sound_reservePartitions
  rintro t ⟨partitions, status⟩ _
  apply advances_get_bind
  simp only
  split
  · exact sound_abandonReservation
  · exact sound_abandonReservation
  · refine advances_modify_bind (Untouched.sound ⟨rfl, le_refl _⟩) ?_
    refine advances_modify_bind (Untouched.sound ⟨rfl, le_refl _⟩) ?_
    exact advances_bind sound_bump fun _ _ _ ↦ advances_pure _ _

lemma sound_reserve {planId : PartitionPlanId} :
    Advances (Preserves (Sound Any)) (reserve planId now) s := by
  apply advances_bind (sound_of_untouched apart_checkOpen)
  intro t _ _
  apply advances_get_bind
  cases t.plans.find? planId with
  | none => exact advances_throw _ _
  | some plan =>
      apply advances_require_bind
      intro _
      split
      · exact advances_modify_bind (Untouched.sound ⟨rfl, le_refl _⟩) (advances_throw _ _)
      · apply advances_require_bind
        intro _
        apply advances_require_bind
        intro _
        apply advances_bind (sound_of_untouched apart_makeReservationRoom)
        intro u _ _
        apply advances_lift_bind
        intro needed _
        refine advances_modify_bind (Untouched.sound apart_touchLedger) ?_
        apply advances_bind (sound_of_untouched apart_onLedger)
        intro u _ _
        apply advances_bind (advances_attempt (sound_of_untouched apart_allocateId))
        intro u status _
        cases status with
        | error e =>
            apply advances_bind (advances_ignore (sound_of_untouched apart_onLedger))
            intro v _ _
            exact advances_throw _ _
        | ok id => exact sound_completeReservation

end Instance

end PartitionFabric
