import PartitionFabric.Codec.Records
import PartitionFabric.Invariants.Repetition
import PartitionFabric.Invariants.Selection

/-!
Capability generations and content: what a publication does to the generation of its device and to
the reservations that depend on it, and when both follow the published content.
-/

namespace PartitionFabric

open Procedure

variable {s t u : FabricState} {id : AcceleratorId} {now : UInt64}

/-- A capability without its generation and its evidence stamp. -/
def PartitionCapability.content (c : PartitionCapability) : PartitionCapability :=
  { c with
    generation := 0
    evidence := {} }

/-- A publication: the capability, the generation it is stored under, and whether the reservations
of the device are checked against that generation. -/
structure Publication where
  published : PartitionCapability
  generation : CapabilityGeneration
  renewed : Bool

namespace Publication

/-- A publication is renewed when its digest is not that of the capability it is compared with. -/
def against (compared published : PartitionCapability) : Publication :=
  let renewed := !known compared.generation ||
    capabilityDigest compared != capabilityDigest published
  { published := published
    generation := if renewed then compared.generation + 1 else compared.generation
    renewed := renewed }

/-- A capability that is stored as it was given. -/
def kept (capability : PartitionCapability) : Publication :=
  { published := capability
    generation := capability.generation
    renewed := false }

/-- What a publication makes of a reservation. -/
def lifecycle (p : Publication) (id : AcceleratorId) (r : PartitionReservation) :
    ReservationLifecycle :=
  if p.renewed && r.accelerator = id && !reservationIsTerminal r.lifecycle &&
    r.capabilityGeneration ≠ p.generation then .fenced else r.lifecycle

/-- A publication fences the live reservations that depend on a generation. -/
def fences (p : Publication) (generation : CapabilityGeneration) : Bool :=
  p.renewed && generation ≠ p.generation

end Publication

/-- The capability that a backend report publishes for a device. -/
def reportedCapability (s : FabricState) (accelerator : BackendAccelerator) (id : AcceleratorId)
    (existing : Bool) (previous : AcceleratorRecord) (now : UInt64) : PartitionCapability :=
  let generation := if existing then previous.generation else 1
  let evidence := if existing && known previous.evidence.generation then
    previous.evidence.generation + 1 else 1
  let record := reportedRecord s accelerator id generation evidence existing previous now
  boundCapability s record id
    { accelerator.capability with
      accelerator := id
      deviceGeneration := generation
      evidence := if accelerator.capability.evidence.isObserved then
        accelerator.capability.evidence else record.evidence } now

/-- The publications for a device without a reset. A backend report under a new key is compared
with no capability, and an explicit registration with the one that it brings itself. -/
inductive Publishes (s t : FabricState) (id : AcceleratorId) : Publication → Prop
  | capability {capability : PartitionCapability} {generation : CapabilityGeneration}
      {record : AcceleratorRecord} {now : UInt64}
      (hrun : publishCapability capability now s = (t, .ok generation))
      (hid : capability.accelerator = id) (hrecord : s.findAccelerator id = some record) :
      Publishes s t id (.against record.capability (boundCapability s record id capability now))
  | report {accelerator : BackendAccelerator} {record : AcceleratorRecord} {now : UInt64}
      (hrun : registerBackendAccelerator accelerator now s = (t, .ok id))
      (hindex : s.keyIndex.find? accelerator.stableKey = some id)
      (hrecord : s.findAccelerator id = some record) (hreset : s.resets accelerator = false) :
      Publishes s t id
        (.against record.capability (reportedCapability s accelerator id true record now))
  | newKey {accelerator : BackendAccelerator} {now : UInt64}
      (hrun : registerBackendAccelerator accelerator now s = (t, .ok id))
      (hindex : s.keyIndex.find? accelerator.stableKey = none) :
      Publishes s t id (.against {} (reportedCapability s accelerator id false {} now))
  | record {record : AcceleratorRecord} {now : UInt64}
      (hrun : registerAccelerator record now s = (t, .ok ())) (hid : record.id = id)
      (hknown : known record.capability.generation = true) :
      Publishes s t id
        (.against record.capability (boundCapability s record id record.capability now))
  | unnumbered {record : AcceleratorRecord} {now : UInt64}
      (hrun : registerAccelerator record now s = (t, .ok ())) (hid : record.id = id)
      (hunknown : known record.capability.generation = false) :
      Publishes s t id (.kept record.capability)

section Tracking

/-- A live reservation was derived from a generation of a device's capability. -/
def PartitionReservation.DependsOn (r : PartitionReservation) (id : AcceleratorId)
    (generation : CapabilityGeneration) : Prop :=
  r.accelerator = id ∧ reservationIsTerminal r.lifecycle = false ∧
    r.capabilityGeneration = generation

def NoneDepends (s : FabricState) (id : AcceleratorId) (generation : CapabilityGeneration) : Prop :=
  ∀ k r, s.findReservation k = some r → ¬r.DependsOn id generation

/-- Every reservation that depended on a generation is fenced. -/
def FencesDependents (s t : FabricState) (id : AcceleratorId) (generation : CapabilityGeneration) :
    Prop :=
  ∀ k r, s.findReservation k = some r → r.DependsOn id generation →
    (t.findReservation k).map PartitionReservation.lifecycle = some .fenced

/-- No reservation that depended on a generation is fenced. -/
def SparesDependents (s t : FabricState) (id : AcceleratorId) (generation : CapabilityGeneration) :
    Prop :=
  ∀ k r, s.findReservation k = some r → r.DependsOn id generation →
    (t.findReservation k).map PartitionReservation.lifecycle ≠ some .fenced

/-- The capability of a device carries a later generation than before. -/
def GenerationAdvances (t : FabricState) (id : AcceleratorId) (generation : CapabilityGeneration) :
    Prop :=
  ∃ a, t.findAccelerator id = some a ∧ generation < a.capability.generation

/-- The generation advances and the dependents are fenced if the content changes, and neither
happens if it does not. -/
structure TracksContent (s t : FabricState) (id : AcceleratorId) (current : PartitionCapability)
    (p : Publication) : Prop where
  changed : current.content ≠ p.published.content →
    GenerationAdvances t id current.generation ∧ FencesDependents s t id current.generation
  unchanged : current.content = p.published.content →
    ¬GenerationAdvances t id current.generation ∧ SparesDependents s t id current.generation

/-- The digests decide as the content does: with other content the stored generation is later than
the current one, and it is not with the same; what a publication would do wrong to the dependents
of the current generation does no harm where there are none. -/
structure Publication.FollowsContent (p : Publication) (s : FabricState) (id : AcceleratorId)
    (current : PartitionCapability) : Prop where
  changed : current.content ≠ p.published.content → current.generation < p.generation ∧
    (p.fences current.generation = true ∨ NoneDepends s id current.generation)
  unchanged : current.content = p.published.content → ¬current.generation < p.generation ∧
    (p.fences current.generation = false ∨ NoneDepends s id current.generation)

/-- What a publication leaves in the registry. -/
structure Enacts (s t : FabricState) (id : AcceleratorId) (p : Publication) : Prop where
  generation : ∃ a, t.findAccelerator id = some a ∧ a.capability.generation = p.generation
  reservations : ∀ k, (t.findReservation k).map PartitionReservation.lifecycle =
    (s.findReservation k).map (p.lifecycle id)

variable {p : Publication} {generation : CapabilityGeneration}

lemma Publication.lifecycle_eq_fenced_iff {r : PartitionReservation}
    (h : r.DependsOn id generation) : p.lifecycle id r = .fenced ↔ p.fences generation = true := by
  obtain ⟨hdevice, hlive, hgeneration⟩ := h
  have hfenced : r.lifecycle ≠ .fenced := by
    intro hfenced
    rw [hfenced] at hlive
    cases hlive
  unfold Publication.lifecycle Publication.fences
  rw [hlive, hgeneration]
  cases p.renewed <;> by_cases hsame : generation = p.generation <;> simp [hsame, hdevice, hfenced]

lemma Enacts.advances_iff (h : Enacts s t id p) :
    GenerationAdvances t id generation ↔ generation < p.generation := by
  obtain ⟨a, ha, hgeneration⟩ := h.generation
  rw [← hgeneration]
  constructor
  · rintro ⟨a', ha', hlt⟩
    obtain rfl := Option.some.inj (ha.symm.trans ha')
    exact hlt
  · intro hlt
    exact ⟨a, ha, hlt⟩

lemma Enacts.fenced_iff (h : Enacts s t id p) {k : PartitionReservationId}
    {r : PartitionReservation} (hr : s.findReservation k = some r)
    (hdepends : r.DependsOn id generation) :
    (t.findReservation k).map PartitionReservation.lifecycle = some .fenced ↔
      p.fences generation = true := by
  rw [h.reservations k, hr, Option.map_some, Option.some.injEq]
  exact Publication.lifecycle_eq_fenced_iff hdepends

lemma Enacts.fences_iff (h : Enacts s t id p) : FencesDependents s t id generation ↔
    p.fences generation = true ∨ NoneDepends s id generation := by
  constructor
  · intro hfences
    by_cases hrenewed : p.fences generation = true
    · exact Or.inl hrenewed
    · refine Or.inr fun k r hr hdepends ↦ hrenewed ?_
      exact (h.fenced_iff hr hdepends).mp (hfences k r hr hdepends)
  · rintro (hrenewed | hnone) k r hr hdepends
    · exact (h.fenced_iff hr hdepends).mpr hrenewed
    · exact absurd hdepends (hnone k r hr)

lemma Enacts.spares_iff (h : Enacts s t id p) : SparesDependents s t id generation ↔
    p.fences generation = false ∨ NoneDepends s id generation := by
  constructor
  · intro hspares
    cases hrenewed : p.fences generation with
    | false => exact Or.inl rfl
    | true =>
        refine Or.inr fun k r hr hdepends ↦ ?_
        exact hspares k r hr hdepends ((h.fenced_iff hr hdepends).mpr hrenewed)
  · rintro (hrenewed | hnone) k r hr hdepends
    · rw [ne_eq, h.fenced_iff hr hdepends, hrenewed]
      exact Bool.false_ne_true
    · exact absurd hdepends (hnone k r hr)

lemma Enacts.tracks_iff (h : Enacts s t id p) {current : PartitionCapability} :
    TracksContent s t id current p ↔ p.FollowsContent s id current := by
  constructor
  · rintro ⟨hchanged, hunchanged⟩
    refine ⟨fun hc ↦ ?_, fun hc ↦ ?_⟩
    · exact ⟨h.advances_iff.mp (hchanged hc).1, h.fences_iff.mp (hchanged hc).2⟩
    · exact ⟨fun hlt ↦ (hunchanged hc).1 (h.advances_iff.mpr hlt),
        h.spares_iff.mp (hunchanged hc).2⟩
  · rintro ⟨hchanged, hunchanged⟩
    refine ⟨fun hc ↦ ?_, fun hc ↦ ?_⟩
    · exact ⟨h.advances_iff.mpr (hchanged hc).1, h.fences_iff.mpr (hchanged hc).2⟩
    · exact ⟨fun hadvances ↦ (hunchanged hc).1 (h.advances_iff.mp hadvances),
        h.spares_iff.mpr (hunchanged hc).2⟩

/-- Compared with the current capability, a publication follows the content exactly when the
digests differ as the content does. -/
lemma Publication.followsContent_against {current published : PartitionCapability}
    (hknown : known current.generation = true)
    (hroom : current.generation < current.generation + 1) :
    (against current published).FollowsContent s id current ↔
      (capabilityDigest current ≠ capabilityDigest published ↔
        current.content ≠ published.content) := by
  have hrenewed : (against current published).renewed =
      (capabilityDigest current != capabilityDigest published) := by
    simp [against, hknown]
  by_cases hdigest : capabilityDigest current = capabilityDigest published
  · have hgeneration : (against current published).generation = current.generation := by
      simp [against, hknown, hdigest]
    have hfences : (against current published).fences current.generation = false := by
      simp [fences, hgeneration]
    constructor
    · rintro ⟨hchanged, -⟩
      refine iff_of_false (not_not.mpr hdigest) fun hc ↦ ?_
      have hlt := (hchanged hc).1
      rw [hgeneration] at hlt
      exact lt_irrefl _ hlt
    · intro hiff
      refine ⟨fun hc ↦ absurd hdigest (hiff.mpr hc), fun _ ↦ ⟨?_, Or.inl hfences⟩⟩
      rw [hgeneration]
      exact lt_irrefl _
  · have hgeneration : (against current published).generation = current.generation + 1 := by
      simp [against, hdigest]
    have hfences : (against current published).fences current.generation = true := by
      simp [fences, hrenewed, hdigest, hgeneration, ne_of_lt hroom]
    constructor
    · rintro ⟨-, hunchanged⟩
      refine iff_of_true hdigest fun hc ↦ (hunchanged hc).1 ?_
      rw [hgeneration]
      exact hroom
    · intro hiff
      refine ⟨fun _ ↦ ⟨?_, Or.inl hfences⟩, fun hc ↦ absurd hc (hiff.mp hdigest)⟩
      rw [hgeneration]
      exact hroom

end Tracking

section Enacting

/-- The devices and the reservations that depend on them. -/
def dependence (s : FabricState) : KeyedMap AcceleratorId AcceleratorRecord ×
    KeyedMap PartitionReservationId PartitionReservation := (s.accelerators, s.reservations)

lemma dependence_transition {key : PartitionId} {target : PartitionState} {reason : Text} :
    Advances (Keeps dependence) (transitionPartition now key target reason) s := by
  unfold Advances
  rcases transitionPartition_cases now key target reason s with
    h | ⟨record, ledger, ledger', held, hrecord, -, -, -, -, h⟩
  · rw [h]
    exact refl_of _ s
  · rw [h]
    rfl

lemma dependence_bump : Keeps dependence s s.bumpStateGeneration := bump_of fun _ ↦ rfl

lemma dependence_demoteUnsupported {capability : PartitionCapability} {key : PartitionId} :
    Advances (Keeps dependence) (demoteUnsupported id capability now key) s := by
  refine advances_get_bind ?_
  cases s.findPartition key with
  | none => exact advances_pure _ _
  | some record => exact advances_when fun _ ↦ advances_ignore dependence_transition

lemma dependence_onLedger {m : LedgerM Unit} : Advances (Keeps dependence) (onLedger id m) s := by
  unfold Advances Keeps onLedger
  cases s.findLedger id <;> rfl

lemma Enacts.after {p : Publication} (h : Enacts s t id p) (hkept : Keeps dependence t u) :
    Enacts s u id p := by
  obtain ⟨haccelerators, hreservations⟩ := Prod.mk.inj hkept
  obtain ⟨a, ha, hgeneration⟩ := h.generation
  refine ⟨⟨a, ?_, hgeneration⟩, fun k ↦ ?_⟩
  · rw [FabricState.findAccelerator, haccelerators]
    exact ha
  · rw [FabricState.findReservation, hreservations]
    exact h.reservations k

lemma Enacts.before {p : Publication} (h : Enacts t u id p)
    (hkept : t.reservations = s.reservations) : Enacts s u id p := by
  refine ⟨h.generation, fun k ↦ ?_⟩
  have hk := h.reservations k
  rw [FabricState.findReservation, FabricState.findReservation, hkept] at hk
  exact hk

variable {generation : CapabilityGeneration}

/-- A reservation after the publication of another generation. -/
def PartitionReservation.outdated (id : AcceleratorId) (generation : CapabilityGeneration)
    (now : UInt64) (r : PartitionReservation) : PartitionReservation :=
  if r.accelerator = id && !reservationIsTerminal r.lifecycle &&
      r.capabilityGeneration ≠ generation then
    { r with
      lifecycle := .fenced
      reason := "capability generation changed before the reservation was committed"
      updatedAtMs := now }
  else r

lemma outdated_lifecycle (r : PartitionReservation) (p : Publication) (hrenewed : p.renewed = true) :
    (r.outdated id p.generation now).lifecycle = p.lifecycle id r := by
  unfold PartitionReservation.outdated Publication.lifecycle
  rw [hrenewed, Bool.true_and]
  split <;> rfl

/-- The reservations after those under some keys were checked against a new generation. -/
structure FencedAmong (id : AcceleratorId) (generation : CapabilityGeneration) (now : UInt64)
    (keys : List PartitionReservationId) (s t : FabricState) : Prop where
  accelerators : t.accelerators = s.accelerators
  reservations : ∀ k, t.findReservation k =
    if k ∈ keys then (s.findReservation k).map (·.outdated id generation now)
    else s.findReservation k

lemma fenceOutdated_spec (id : AcceleratorId) (generation : CapabilityGeneration) (now : UInt64)
    (key : PartitionReservationId) (s : FabricState) :
    ∃ t, fenceOutdated id generation now key s = (t, .ok ()) ∧
      FencedAmong id generation now [key] s t := by
  unfold fenceOutdated
  rw [get_bind]
  cases hr : s.findReservation key with
  | none =>
      refine ⟨s, rfl, rfl, fun k ↦ ?_⟩
      split
      · rename_i hk
        rw [List.mem_singleton.mp hk, hr]
        rfl
      · rfl
  | some r =>
      simp only
      have hspec (hsame : r.outdated id generation now = r) :
          FencedAmong id generation now [key] s s := by
        refine ⟨rfl, fun k ↦ ?_⟩
        split
        · rename_i hk
          rw [List.mem_singleton.mp hk, hr, Option.map_some, hsame]
        · rfl
      cases hlive : (r.accelerator = id && !reservationIsTerminal r.lifecycle &&
          r.capabilityGeneration ≠ generation : Bool) with
      | false =>
          refine ⟨s, rfl, hspec ?_⟩
          unfold PartitionReservation.outdated
          rw [hlive]
          rfl
      | true =>
          -- the capacity that is given back leaves the reservations alone
          rw [when_true, modify_bind]
          have hdone {c : Bool} {m : LedgerM Unit} {v : FabricState} : ∃ t,
              Procedure.when c (Procedure.ignore (onLedger id m)) v = (t, .ok ()) ∧
                Keeps dependence v t := by
            cases c with
            | false => exact ⟨v, rfl, rfl⟩
            | true => exact ⟨_, rfl, dependence_onLedger⟩
          obtain ⟨t, hrun, hkept⟩ := hdone
          obtain ⟨haccelerators, hreservations⟩ := Prod.mk.inj hkept
          refine ⟨t, hrun, haccelerators, fun k ↦ ?_⟩
          rw [FabricState.findReservation, hreservations, FabricState.modifyReservation,
            KeyedMap.find?_modify]
          by_cases hk : k = key
          · subst hk
            rw [if_pos rfl, if_pos (List.mem_singleton_self k),
              show s.reservations.find? k = some r from hr, hr, Option.map_some, Option.map_some,
              PartitionReservation.outdated, hlive, if_pos rfl]
          · rw [if_neg hk, if_neg (List.mem_singleton.not.mpr hk)]
            rfl

lemma fenceKeys_spec (id : AcceleratorId) (generation : CapabilityGeneration) (now : UInt64)
    {keys : List PartitionReservationId} (hnodup : keys.Nodup) (s : FabricState) :
    ∃ t, keys.forM (fenceOutdated id generation now) s = (t, .ok ()) ∧
      FencedAmong id generation now keys s t := by
  induction keys generalizing s with
  | nil => exact ⟨s, rfl, rfl, fun _ ↦ rfl⟩
  | cons key rest ih =>
      obtain ⟨hkey, hnodup⟩ := List.nodup_cons.mp hnodup
      obtain ⟨t, hstep, hfirst⟩ := fenceOutdated_spec id generation now key s
      obtain ⟨u, hloop, hrest⟩ := ih hnodup t
      refine ⟨u, ?_, hrest.accelerators.trans hfirst.accelerators, fun k ↦ ?_⟩
      · change (fenceOutdated id generation now key >>= fun _ ↦
          rest.forM (fenceOutdated id generation now)) s = _
        rw [bind_ok hstep]
        exact hloop
      · rw [hrest.reservations k, hfirst.reservations k]
        by_cases hk : k = key
        · subst hk
          rw [if_neg hkey, if_pos (List.mem_singleton_self k), if_pos List.mem_cons_self]
        · simp only [List.mem_cons, List.not_mem_nil, hk, false_or, if_false]

/-- Every reservation is checked once. -/
lemma fenceAll_spec (id : AcceleratorId) (generation : CapabilityGeneration) (now : UInt64)
    (s : FabricState) :
    ∃ t, s.reservations.keys.forM (fenceOutdated id generation now) s = (t, .ok ()) ∧
      t.accelerators = s.accelerators ∧
      ∀ k, t.findReservation k = (s.findReservation k).map (·.outdated id generation now) := by
  obtain ⟨t, hrun, hfenced⟩ := fenceKeys_spec id generation now s.reservations.keys_nodup s
  refine ⟨t, hrun, hfenced.accelerators, fun k ↦ ?_⟩
  rw [hfenced.reservations k]
  split
  · rfl
  · rename_i habsent
    cases hr : s.findReservation k with
    | none => rfl
    | some r => exact absurd (KeyedMap.mem_keys.mpr ⟨r, hr⟩) habsent

variable {record : AcceleratorRecord} {capability : PartitionCapability}

lemma generation_eq {g : CapabilityGeneration}
    (h : (if known generation then next generation else .ok 1 : Result CapabilityGeneration) = .ok g) :
    g = generation + 1 := by
  split at h
  · unfold next at h
    split at h
    · exact absurd h (failure_ne_ok _ _ _ _)
    · exact (Except.ok.inj h).symm
  · rename_i hunknown
    simp only [known, bne_iff_ne, ne_eq, not_not] at hunknown
    rw [hunknown, ← Except.ok.inj h]
    rfl

lemma evidence_eq {existing : Bool} {evidence e : EvidenceGeneration}
    (h : (if existing && known evidence then next evidence else .ok 1 :
      Result EvidenceGeneration) = .ok e) :
    e = if existing && known evidence then evidence + 1 else 1 := by
  cases hnext : existing && known evidence with
  | false =>
      rw [hnext] at h
      exact (Except.ok.inj h).symm
  | true =>
      obtain ⟨-, hknown⟩ := Bool.and_eq_true_iff.mp hnext
      rw [hnext, if_pos rfl] at h
      refine generation_eq (?_ : (if known evidence then next evidence else .ok 1) = .ok e)
      rw [if_pos hknown]
      exact h

/-- A publication that succeeds is compared with the capability of the record. -/
lemma enacts_publishCapabilityLocked (hrecord : s.findAccelerator id = some record)
    (hrun : publishCapabilityLocked id capability now false s = (t, .ok generation)) :
    Enacts s t id (.against record.capability (boundCapability s record id capability now)) := by
  unfold publishCapabilityLocked at hrun
  rw [get_bind, hrecord] at hrun
  simp only at hrun
  obtain ⟨u, _, hrequire, hrun⟩ := bind_eq_ok.mp hrun
  obtain ⟨rfl, -⟩ := require_eq_ok hrequire
  obtain ⟨u, _, hvalid, hrun⟩ := bind_eq_ok.mp hrun
  obtain rfl : s = u := (Prod.mk.inj hvalid).1
  let p : Publication := .against record.capability (boundCapability s record id capability now)
  have hrenewed : (false || !known record.capability.generation || capabilityDigest
      record.capability != capabilityDigest (boundCapability s record id capability now)) =
        p.renewed := rfl
  change Enacts s t id p
  rw [hrenewed] at hrun
  cases hnew : p.renewed with
  | false =>
      rw [hnew] at hrun
      obtain rfl : s = t := (Prod.mk.inj hrun).1
      refine ⟨⟨record, hrecord, ?_⟩, fun k ↦ ?_⟩
      · change _ = if p.renewed then _ else _
        rw [hnew]
        rfl
      · have hsame : p.lifecycle id = PartitionReservation.lifecycle := by
          funext r
          unfold Publication.lifecycle
          rw [hnew]
          rfl
        rw [hsame]
  | true =>
      rw [hnew] at hrun
      obtain ⟨u, number, hnext, hrun⟩ := bind_eq_ok.mp hrun
      obtain ⟨rfl, hnumber⟩ := Prod.mk.inj hnext
      have hgeneration : number = p.generation := by
        change _ = if p.renewed then _ else _
        rw [hnew]
        exact generation_eq hnumber
      rw [modify_bind] at hrun
      obtain ⟨u, _, hfence, hrun⟩ := bind_eq_ok.mp hrun
      obtain ⟨v, _, hdemote, hlast⟩ := bind_eq_ok.mp hrun
      let x : FabricState := s.modifyAccelerator id fun r ↦
        { r with
          capability := { boundCapability s record id capability now with generation := number }
          topologyGeneration := capability.topologyGeneration
          updatedAtMs := now }
      obtain ⟨w, hfenced, haccelerators, hreservations⟩ := fenceAll_spec id number now x
      obtain ⟨rfl, -⟩ := Prod.mk.inj (hfenced.symm.trans hfence)
      have hdemoted : Keeps dependence w v :=
        (advances_forM fun _ _ _ _ ↦ dependence_demoteUnsupported : Advances _ _ w).of_run hdemote
      obtain rfl := (Prod.mk.inj hlast).1
      refine Enacts.after (Enacts.after ?_ hdemoted) dependence_bump
      refine ⟨⟨{ record with
        capability := { boundCapability s record id capability now with generation := number }
        topologyGeneration := capability.topologyGeneration
        updatedAtMs := now }, ?_, hgeneration⟩, fun k ↦ ?_⟩
      · rw [FabricState.findAccelerator, haccelerators]
        change (s.accelerators.modify id _).find? id = _
        rw [KeyedMap.find?_modify, if_pos rfl, show s.accelerators.find? id = some record from hrecord]
        rfl
      · rw [hreservations k, hgeneration, Option.map_map]
        change Option.map _ (s.findReservation k) = _
        congr 1
        funext r
        exact outdated_lifecycle r p hnew

/-- A ledger that is established leaves the rest of the registry alone. -/
lemma establishLedger_ok {existing : Bool} {totals : ResourceVector}
    {undo : FabricState → FabricState}
    (hrun : establishLedger id existing totals undo s = (t, .ok ())) :
    ∃ ledgers, t = { s with ledgers := ledgers } := by
  have htouch : ∃ ledgers, touchLedger id s = { s with ledgers := ledgers } := by
    unfold touchLedger
    split
    · exact ⟨s.ledgers, rfl⟩
    · exact ⟨_, rfl⟩
  obtain ⟨ledgers, htouch⟩ := htouch
  unfold establishLedger at hrun
  rw [modify_bind, htouch, get_bind] at hrun
  generalize (!existing || !ResourceVector.equal _ totals) = differs at hrun
  cases differs with
  | false => exact ⟨ledgers, (Prod.mk.inj hrun).1.symm⟩
  | true =>
      rw [when_true] at hrun
      obtain ⟨u, status, hattempt, hrun⟩ := bind_eq_ok.mp hrun
      obtain ⟨rfl, -⟩ := Prod.mk.inj hattempt
      cases status with
      | error e => cases (Prod.mk.inj hrun).2
      | ok x =>
          obtain rfl := (Prod.mk.inj hrun).1
          unfold onLedger
          split
          · exact ⟨ledgers, rfl⟩
          · exact ⟨_, rfl⟩

lemma boundCapability_congr (hpolicy : t.policy = s.policy) (record : AcceleratorRecord) :
    boundCapability t record id capability now = boundCapability s record id capability now := by
  unfold boundCapability FabricState.evidenceTtl
  rw [hpolicy]

/-- An explicit registration is compared with the record that it has just stored. -/
lemma enacts_registerAccelerator {record : AcceleratorRecord}
    (hrun : registerAccelerator record now s = (t, .ok ())) :
    Enacts s t record.id (if known record.capability.generation then
      .against record.capability (boundCapability s record record.id record.capability now)
      else .kept record.capability) := by
  unfold registerAccelerator at hrun
  obtain ⟨u, _, hopen, hrun⟩ := bind_eq_ok.mp hrun
  obtain rfl : s = u := (Prod.mk.inj hopen).1
  rw [get_bind] at hrun
  obtain ⟨u, _, hvalid, hrun⟩ := bind_eq_ok.mp hrun
  obtain rfl : s = u := (Prod.mk.inj hvalid).1
  obtain ⟨u, _, hregress, hrun⟩ := bind_eq_ok.mp hrun
  obtain ⟨rfl, -⟩ := require_eq_ok hregress
  obtain ⟨u, _, hroom, hrun⟩ := bind_eq_ok.mp hrun
  obtain ⟨rfl, -⟩ := require_eq_ok hroom
  rw [modify_bind] at hrun
  obtain ⟨u, _, hestablish, hrun⟩ := bind_eq_ok.mp hrun
  obtain ⟨ledgers, rfl⟩ := establishLedger_ok hestablish
  obtain ⟨v, _, hpublish, hlast⟩ := bind_eq_ok.mp hrun
  obtain rfl := (Prod.mk.inj hlast).1
  refine Enacts.after ?_ dependence_bump
  let x : FabricState :=
    { s with
      accelerators := s.accelerators.insert record.id record
      ledgers := ledgers }
  have hstored : x.findAccelerator record.id = some record := KeyedMap.find?_insert_self _ _ _
  cases hknown : known record.capability.generation with
  | false =>
      rw [hknown] at hpublish
      obtain rfl : x = v := (Prod.mk.inj hpublish).1
      refine ⟨⟨record, hstored, rfl⟩, fun k ↦ ?_⟩
      rfl
  | true =>
      rw [hknown, when_true] at hpublish
      obtain ⟨w, generation, hlocked, hpublish⟩ := bind_eq_ok.mp hpublish
      obtain rfl := (Prod.mk.inj hpublish).1
      have henacts := (enacts_publishCapabilityLocked hstored hlocked).before (s := s) rfl
      rwa [boundCapability_congr (t := x) (s := s) rfl] at henacts

/-- The reservations and the policy. -/
def commitmentTerms (s : FabricState) : KeyedMap PartitionReservationId PartitionReservation ×
    PlanningPolicy := (s.reservations, s.policy)

lemma terms_identifyAccelerator {stableKey : Text} :
    Advances (Keeps commitmentTerms) (identifyAccelerator stableKey) s := by
  refine advances_get_bind ?_
  cases s.keyIndex.find? stableKey with
  | some known => exact advances_pure _ _
  | none =>
      exact advances_require_bind fun _ ↦ advances_bind (advances_allocateId_of fun _ ↦ rfl)
        fun _ _ _ ↦ advances_modify_bind rfl (advances_pure _ _)

lemma terms_touchAccelerator : Keeps commitmentTerms s (touchAccelerator id s) := by
  unfold Keeps touchAccelerator
  split <;> rfl

lemma terms_registerBackendProfile {profile : PartitionProfile} :
    Advances (Keeps commitmentTerms) (registerBackendProfile profile) s :=
  advances_get_bind (advances_lift_bind fun _ _ ↦ advances_require_bind fun _ ↦ rfl)

/-- A backend report of the same incarnation is compared with what the device published before. -/
lemma enacts_registerBackendAccelerator {accelerator : BackendAccelerator}
    (hrun : registerBackendAccelerator accelerator now s = (t, .ok id))
    (hreset : s.resets accelerator = false) :
    let existing := (s.keyIndex.find? accelerator.stableKey).isSome
    let previous := if existing then (s.findAccelerator id).getD {} else {}
    Enacts s t id (.against (if existing then previous.capability else {})
      (reportedCapability s accelerator id existing previous now)) := by
  unfold registerBackendAccelerator at hrun
  obtain ⟨u, _, hopen, hrun⟩ := bind_eq_ok.mp hrun
  obtain rfl : s = u := (Prod.mk.inj hopen).1
  rw [get_bind] at hrun
  obtain ⟨u, _, hvalid, hrun⟩ := bind_eq_ok.mp hrun
  obtain rfl : s = u := (Prod.mk.inj hvalid).1
  obtain ⟨u, p, hidentify, hrun⟩ := bind_eq_ok.mp hrun
  obtain ⟨device, existing⟩ := p
  obtain ⟨-, haccelerators, hindex, -⟩ := identifyAccelerator_ok hidentify
  have hterms : Keeps commitmentTerms s u := terms_identifyAccelerator.of_run hidentify
  obtain ⟨v, _, htouch, hrun⟩ := bind_eq_ok.mp hrun
  have htouched : Keeps commitmentTerms u v :=
    (advances_when fun _ ↦ advances_modify terms_touchAccelerator : Advances _ _ u).of_run htouch
  have hprevious : (v.findAccelerator device).getD {} = (s.findAccelerator device).getD {} := by
    cases existing with
    | false =>
        obtain rfl : u = v := (Prod.mk.inj htouch).1
        rw [FabricState.findAccelerator, haccelerators]
        rfl
    | true =>
        obtain rfl : touchAccelerator device u = v := (Prod.mk.inj htouch).1
        rw [touchAccelerator_find?, FabricState.findAccelerator, haccelerators]
        rfl
  have hexists : (s.keyIndex.find? accelerator.stableKey).isSome = existing := by
    rw [hindex]
    cases existing <;> rfl
  obtain ⟨previous, hdef⟩ : ∃ previous : AcceleratorRecord,
      previous = if existing then (s.findAccelerator device).getD {} else {} := ⟨_, rfl⟩
  have hcalm : (existing && valid previous.bootId && valid accelerator.bootId &&
      previous.bootId != accelerator.bootId) = false := by
    unfold FabricState.resets at hreset
    rw [hindex] at hreset
    rw [hdef]
    cases existing with
    | false => rfl
    | true => exact hreset
  rw [get_bind] at hrun
  simp only at hrun
  rw [hprevious, ← hdef, hcalm] at hrun
  obtain ⟨w, generation, hgeneration, hrun⟩ := bind_eq_ok.mp hrun
  obtain ⟨rfl, hnumber⟩ := Prod.mk.inj hgeneration
  obtain rfl := Except.ok.inj hnumber
  obtain ⟨w, evidence, hevidence, hrun⟩ := bind_eq_ok.mp hrun
  obtain ⟨rfl, hstamp⟩ := Prod.mk.inj hevidence
  have hstamped : evidence = if existing && known previous.evidence.generation then
      previous.evidence.generation + 1 else 1 := evidence_eq hstamp
  obtain ⟨w, _, hprofiles, hrun⟩ := bind_eq_ok.mp hrun
  have hregistered : Keeps commitmentTerms v w :=
    (advances_forM fun _ _ _ _ ↦ terms_registerBackendProfile : Advances _ _ v).of_run hprofiles
  rw [modify_bind] at hrun
  obtain ⟨x, _, hestablish, hrun⟩ := bind_eq_ok.mp hrun
  obtain ⟨ledgers, rfl⟩ := establishLedger_ok hestablish
  obtain ⟨y, number, hpublish, hrun⟩ := bind_eq_ok.mp hrun
  obtain ⟨z, _, hwhen, hlast⟩ := bind_eq_ok.mp hrun
  obtain rfl : y = z := (Prod.mk.inj hwhen).1
  obtain ⟨rfl, hid⟩ := Prod.mk.inj hlast
  obtain rfl : device = id := Except.ok.inj hid
  refine Enacts.after ?_ dependence_bump
  rw [hexists]
  have hkept : Keeps commitmentTerms s w := hregistered.trans (htouched.trans hterms)
  obtain ⟨hreservations, hpolicy⟩ := Prod.mk.inj hkept
  obtain ⟨-, hpolicy'⟩ := Prod.mk.inj (htouched.trans hterms : Keeps commitmentTerms s v)
  have hrecord : reportedRecord v accelerator device (if existing then previous.generation else 1)
      evidence existing previous now = reportedRecord s accelerator device
      (if existing then previous.generation else 1) evidence existing previous now := by
    unfold reportedRecord FabricState.evidenceTtl
    rw [hpolicy']
  rw [hrecord] at hpublish
  let record := reportedRecord s accelerator device (if existing then previous.generation else 1)
    evidence existing previous now
  let x : FabricState :=
    { w with
      accelerators := w.accelerators.insert device record
      ledgers := ledgers }
  have hstored : x.findAccelerator device = some record := KeyedMap.find?_insert_self _ _ _
  have henacts := (enacts_publishCapabilityLocked hstored hpublish).before (s := s) hreservations
  rw [boundCapability_congr (t := x) (s := s) hpolicy] at henacts
  simp only [← hdef]
  unfold reportedCapability
  rw [← hstamped]
  exact henacts

lemma enacts_of_publishes {p : Publication} (h : Publishes s t id p) : Enacts s t id p := by
  cases h with
  | capability hrun hid hrecord =>
      subst hid
      unfold publishCapability at hrun
      obtain ⟨u, _, hopen, hrun⟩ := bind_eq_ok.mp hrun
      obtain rfl : s = u := (Prod.mk.inj hopen).1
      exact enacts_publishCapabilityLocked hrecord hrun
  | report hrun hindex hrecord hreset =>
      have henacts := enacts_registerBackendAccelerator hrun hreset
      rw [hindex, hrecord] at henacts
      exact henacts
  | newKey hrun hindex =>
      have henacts := enacts_registerBackendAccelerator hrun (by
        unfold FabricState.resets
        rw [hindex]
        rfl)
      rw [hindex] at henacts
      exact henacts
  | record hrun hid hknown =>
      subst hid
      have henacts := enacts_registerAccelerator hrun
      rw [if_pos hknown] at henacts
      exact henacts
  | unnumbered hrun hid hunknown =>
      subst hid
      have henacts := enacts_registerAccelerator hrun
      rw [hunknown] at henacts
      exact henacts

end Enacting

/-- A publication without a reset tracks content exactly when the digests that it compares decide
as the content does. -/
theorem capability_tracks_content_iff {p : Publication} (h : Publishes s t id p) :
    ∀ a, s.findAccelerator id = some a →
      (TracksContent s t id a.capability p ↔ p.FollowsContent s id a.capability) :=
  fun _ _ ↦ (enacts_of_publishes h).tracks_iff

namespace Sample

/-- The published capability over evidence of another time. -/
def renewedCapability : PartitionCapability :=
  { capability with
    accelerator := 1
    evidence := { evidence with observedAtMs := 9 } }

/-- The published capability with room for fewer slices. -/
def reducedCapability : PartitionCapability :=
  { capability with
    accelerator := 1
    maxPartitionCount := 4 }

/-- A publication for the device ended with a generation that the device carries. -/
def publishedAs (generation : CapabilityGeneration)
    (run : FabricState × Result CapabilityGeneration) : Bool :=
  run.2.toOption = some generation &&
    (run.1.findAccelerator 1).any fun a ↦ a.capability.generation = generation

end Sample

/-- A capability with other content is tracked. -/
theorem capability_tracks_content_reduced : ∃ t p a, Publishes Sample.registered t 1 p ∧
    Sample.registered.findAccelerator 1 = some a ∧ a.capability.content ≠ p.published.content ∧
      TracksContent Sample.registered t 1 a.capability p := by
  generalize hs : Sample.registered = s
  have hafter : Sample.publishedAs 2 (publishCapability Sample.reducedCapability 10 s) = true := by
    subst hs
    simp only [publishCapability, publishCapabilityLocked, capabilityDigest_eq]
    decide +kernel
  have hbefore : (s.findAccelerator 1).any (fun a ↦ known a.capability.generation &&
      a.capability.generation < a.capability.generation + 1 &&
      a.capability.content != (boundCapability s a 1 Sample.reducedCapability 10).content &&
      capabilityDigest a.capability !=
        capabilityDigest (boundCapability s a 1 Sample.reducedCapability 10)) = true := by
    subst hs
    simp only [capabilityDigest_eq]
    decide +kernel
  obtain ⟨a, ha, hfacts⟩ := (Option.any_eq_true _ _).mp hbefore
  simp only [Bool.and_eq_true, decide_eq_true_eq, bne_iff_ne] at hfacts
  obtain ⟨⟨⟨hknown, hroom⟩, hcontent⟩, hdigest⟩ := hfacts
  generalize hpublish : publishCapability Sample.reducedCapability 10 s = run at hafter
  obtain ⟨t, result⟩ := run
  obtain rfl : result = .ok 2 :=
    eq_ok_of_toOption (of_decide_eq_true (Bool.and_eq_true_iff.mp hafter).1)
  have hpublishes : Publishes s t 1 (.against a.capability
      (boundCapability s a 1 Sample.reducedCapability 10)) := .capability hpublish rfl ha
  refine ⟨t, _, a, hpublishes, ha, hcontent, ?_⟩
  exact (capability_tracks_content_iff hpublishes a ha).mpr
    ((Publication.followsContent_against hknown hroom).mpr (iff_of_true hdigest hcontent))

/-- Publishing the same capability over newer evidence advances its generation. -/
theorem capability_generation_spurious : ¬ ∀ s t id p a, fabric.Reachable anyOp s →
    s.findAccelerator id = some a → known a.capability.generation = true → Publishes s t id p →
      TracksContent s t id a.capability p := by
  intro h
  let s := Sample.registered
  have hreachable : fabric.Reachable anyOp s :=
    System.Reachable.run (.initial ⟨_, _, rfl⟩) (by decide)
  have hbefore : (s.findAccelerator 1).any (fun a ↦ known a.capability.generation &&
      a.capability.generation == 1 && a.capability.content ==
        (boundCapability s a 1 Sample.renewedCapability 10).content) = true := by decide +kernel
  have hafter : Sample.publishedAs 2 (publishCapability Sample.renewedCapability 10 s) = true := by
    simp only [publishCapability, publishCapabilityLocked, capabilityDigest_eq]
    decide +kernel
  clear_value s
  obtain ⟨a, ha, hcontent⟩ := (Option.any_eq_true _ _).mp hbefore
  simp only [Bool.and_eq_true, beq_iff_eq] at hcontent
  obtain ⟨⟨hknown, hgeneration⟩, hsame⟩ := hcontent
  generalize hpublish : publishCapability Sample.renewedCapability 10 s = run at hafter
  obtain ⟨t, result⟩ := run
  obtain ⟨hresult, hstored⟩ := Bool.and_eq_true_iff.mp hafter
  obtain rfl : result = .ok 2 := eq_ok_of_toOption (of_decide_eq_true hresult)
  obtain ⟨a', ha', hlater⟩ := (Option.any_eq_true _ _).mp hstored
  have htracks := h s t 1 _ a hreachable ha hknown (.capability hpublish rfl ha)
  refine (htracks.unchanged hsame).1 ⟨a', ha', ?_⟩
  rw [hgeneration, of_decide_eq_true hlater]
  decide

end PartitionFabric
