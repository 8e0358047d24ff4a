import PartitionFabric.Invariants.Commitment
import PartitionFabric.Invariants.Reconfiguring

/-!
What a verified reconfiguration leaves of a device: the partitions it replaced retire, and a record
stands for each planned partition whose profile is known, as long as there are identities.
-/

namespace PartitionFabric

open Procedure

variable {s t u : FabricState} {e : CommitEvidence}

section Recording

/-- A planned partition that is recorded, with the observed partition found for it. -/
structure Produced where
  id : PartitionId
  planned : PlannedPartition
  native : Option BackendNativePartition

/-- The planned partitions that are recorded from an identity on. -/
def CommitEvidence.produced (e : CommitEvidence) (s : FabricState) :
    List PlannedPartition → List Text → PartitionId → List Produced
  | [], _, _ => []
  | planned :: rest, claimed, id =>
    match s.findProfile planned.profile with
    | none => produced e s rest claimed id
    | some _ =>
      if id = uint64Max then []
      else
        let found := e.unclaimed planned claimed
        ⟨id, planned, found.map Prod.snd⟩ :: produced e s rest (claim claimed found) (id + 1)

/-- The record of a produced partition. -/
def RecordedAs (e : CommitEvidence) (t : FabricState) (x : Produced) : Prop :=
  ∃ r, t.findPartition x.id = some r ∧ r.accelerator = e.accelerator.id ∧ r.state = .active ∧
    r.resources = x.planned.resources ∧
      r.nativeIdentity.nativeId = (x.native.map BackendNativePartition.nativeId).getD []

lemma le_produced {desired : List PlannedPartition} {claimed : List Text} {id : PartitionId}
    {x : Produced} (hx : x ∈ e.produced s desired claimed id) : id ≤ x.id := by
  induction desired generalizing claimed id with
  | nil => cases hx
  | cons planned rest ih =>
    unfold CommitEvidence.produced at hx
    split at hx
    · exact ih hx
    · split at hx
      · cases hx
      · rename_i hleft
        rcases List.mem_cons.mp hx with rfl | hx
        · exact le_refl _
        · exact (lt_add_one hleft).le.trans (ih hx)

lemma produced_sorted (desired : List PlannedPartition) (claimed : List Text) (id : PartitionId) :
    ((e.produced s desired claimed id).map Produced.id).Pairwise (· < ·) := by
  induction desired generalizing claimed id with
  | nil => exact List.Pairwise.nil
  | cons planned rest ih =>
    unfold CommitEvidence.produced
    split
    · exact ih _ _
    · split
      · exact List.Pairwise.nil
      · rename_i hleft
        refine List.Pairwise.cons (fun k hk ↦ ?_) (ih _ _)
        obtain ⟨x, hx, rfl⟩ := List.mem_map.mp hk
        exact lt_of_lt_of_le (lt_add_one hleft) (le_produced hx)

/-- What a recording loop leaves alone. -/
def besides (s : FabricState) := (s.ledgers, s.assignments, s.profiles)

lemma besides_bindFound (p : PartitionId) (backend : Text)
    (found : Option (BackendLayout × BackendNativePartition)) (s : FabricState) :
    besides (bindFound p backend found s) = besides s ∧ (bindFound p backend found s).ids = s.ids := by
  cases found with
  | none => exact ⟨rfl, rfl⟩
  | some f => exact ⟨rfl, rfl⟩

lemma besides_stamp (e : CommitEvidence) (p : PartitionId) (s : FabricState) :
    besides (e.stamp p s) = besides s ∧ (e.stamp p s).ids = s.ids := by
  unfold CommitEvidence.stamp stampPartitionEvidence
  cases next s.evidenceGeneration with
  | error err => exact ⟨rfl, rfl⟩
  | ok g => exact ⟨rfl, rfl⟩

/-- The recording loop records exactly what is produced from the allocator's position on. -/
theorem recordReconfigured_spec (desired : List PlannedPartition) (claimed : List Text)
    (ids : List PartitionId) (hprofiles : u.profiles = s.profiles) :
    ∃ t, recordReconfigured e desired claimed ids u =
        (t, .ok (ids ++ (e.produced s desired claimed u.ids.next).map Produced.id)) ∧
      besides t = besides u ∧
      (∀ p, (∀ x ∈ e.produced s desired claimed u.ids.next, x.id ≠ p) →
        t.findPartition p = u.findPartition p) ∧
      ∀ x ∈ e.produced s desired claimed u.ids.next, RecordedAs e t x := by
  induction desired generalizing claimed ids u with
  | nil =>
    refine ⟨u, ?_, rfl, fun _ _ ↦ rfl, fun x hx ↦ by cases hx⟩
    unfold recordReconfigured CommitEvidence.produced
    rw [List.map_nil, List.append_nil]
    rfl
  | cons planned rest ih =>
    have hfind : u.findProfile planned.profile = s.findProfile planned.profile := by
      unfold FabricState.findProfile
      rw [hprofiles]
    unfold recordReconfigured CommitEvidence.produced
    rw [get_bind, hfind]
    cases s.findProfile planned.profile with
    | none => exact ih claimed ids hprofiles
    | some profile =>
      simp only
      rw [bind_apply, attempt_apply]
      simp only
      by_cases hleft : u.ids.next = uint64Max
      · obtain ⟨err, hrun⟩ := allocateId_exhausted hleft
        rw [hrun, if_pos hleft]
        refine ⟨u, ?_, rfl, fun _ _ ↦ rfl, fun x hx ↦ by cases hx⟩
        rw [List.map_nil, List.append_nil]
        rfl
      · rw [allocateId_eq hleft, if_neg hleft]
        simp only [modify_bind]
        let found := e.unclaimed planned claimed
        let id := u.ids.next
        let v : FabricState := { u with
          ids := ⟨id + 1⟩
          partitions := u.partitions.insert id
            (reconfiguredRecord e.accelerator profile planned id e.now e.provenance) }
        let w := e.stamp id (bindFound id e.accelerator.backend found v)
        have hretouch : Retouches id (found.map fun f ↦ f.2.nativeId) v w :=
          (retouches_bindFound id e.accelerator.backend found).trans (retouches_stamp e id)
        obtain ⟨hbound, hboundIds⟩ := besides_bindFound id e.accelerator.backend found v
        obtain ⟨hstamp, hstampIds⟩ := besides_stamp e id (bindFound id e.accelerator.backend found v)
        have hbesides : besides w = besides u := hstamp.trans hbound
        have hids : w.ids.next = id + 1 := congrArg IdAllocator.next (hstampIds.trans hboundIds)
        have hprofiles' : w.profiles = s.profiles :=
          (Prod.mk.inj (Prod.mk.inj hbesides).2).2.trans hprofiles
        obtain ⟨t, hrun, hkept, hothers, hrecorded⟩ :=
          ih (claim claimed found) (ids ++ [id]) hprofiles'
        rw [hids] at hrun hothers hrecorded
        refine ⟨t, ?_, hkept.trans hbesides, fun p hp ↦ ?_, fun x hx ↦ ?_⟩
        · refine hrun.trans ?_
          rw [List.map_cons, List.append_assoc]
          rfl
        · rw [hothers p fun x hx ↦ hp x (List.mem_cons_of_mem _ hx)]
          have hne : p ≠ id := fun h ↦ hp _ (List.mem_cons_self ..) h.symm
          rw [hretouch.others p hne]
          exact KeyedMap.find?_insert_of_ne _ _ hne
        · rcases List.mem_cons.mp hx with rfl | hx
          · obtain ⟨r, hr, halike, hname⟩ :=
              hretouch.found _ (KeyedMap.find?_insert_self _ _ _)
            refine ⟨r, ?_, halike.accelerator, halike.state, halike.resources, ?_⟩
            · rw [hothers _ fun x hx ↦ ne_of_gt (lt_of_lt_of_le (lt_add_one hleft) (le_produced hx))]
              exact hr
            · rw [hname, Option.map_map]
              rfl
          · exact hrecorded x hx

end Recording

section Retiring

/-- Superseding a record puts its generation on record. -/
def PartitionRecord.Supersedes (r : PartitionRecord) : Prop :=
  r.generation ∈ r.supersede.supersededGenerations

/-- A record that replaced another one by being retired, perhaps more than once. -/
structure RetiredFrom (r r' : PartitionRecord) : Prop where
  state : r'.state = .retired
  superseded : r.generation ∈ r'.supersededGenerations ↔ r.Supersedes
  later : r.Supersedes ∨ r.generation < r'.generation

/-- Superseding a later generation does not put an earlier one on record. -/
lemma supersede_mem {r : PartitionRecord} {g : PartitionGeneration} (hne : g ≠ r.generation) :
    g ∈ r.supersede.supersededGenerations ↔ g ∈ r.supersededGenerations := by
  unfold PartitionRecord.supersede
  cases next r.generation <;> cases known r.generation <;> simp [hne]

lemma le_supersede (r : PartitionRecord) : r.generation ≤ r.supersede.generation := by
  unfold PartitionRecord.supersede
  cases hnext : next r.generation with
  | error e => exact le_refl _
  | ok g => exact (lt_next hnext).le

lemma mem_supersede {r : PartitionRecord} {g : PartitionGeneration}
    (h : g ∈ r.supersededGenerations) : g ∈ r.supersede.supersededGenerations := by
  unfold PartitionRecord.supersede
  cases next r.generation <;> cases known r.generation <;> simp [h]

lemma retiredFrom_retire {r r' : PartitionRecord} (hstate : r'.state = .retired)
    (hgeneration : r'.generation = r.supersede.generation)
    (hsuperseded : r'.supersededGenerations = r.supersede.supersededGenerations) :
    RetiredFrom r r' := by
  refine ⟨hstate, by rw [hsuperseded]; rfl, ?_⟩
  rw [hgeneration]
  cases hknown : known r.generation with
  | true =>
    left
    unfold PartitionRecord.Supersedes PartitionRecord.supersede
    cases next r.generation <;> simp [hknown]
  | false =>
    right
    have hzero : r.generation = 0 := by
      unfold known at hknown
      simpa using hknown
    unfold PartitionRecord.supersede
    cases hnext : next r.generation with
    | error e =>
      rw [hzero] at hnext
      cases hnext
    | ok g => exact lt_next hnext

/-- Retiring once more leaves what was put on record. -/
lemma RetiredFrom.again {r r' r'' : PartitionRecord} (h : RetiredFrom r r')
    (hstate : r''.state = .retired)
    (hgeneration : r''.generation = r'.supersede.generation)
    (hsuperseded : r''.supersededGenerations = r'.supersede.supersededGenerations) :
    RetiredFrom r r'' := by
  refine ⟨hstate, ?_, ?_⟩
  · rw [hsuperseded]
    constructor
    · intro hmem
      rcases h.later with hrecorded | hlater
      · exact hrecorded
      · exact h.superseded.mp ((supersede_mem hlater.ne).mp hmem)
    · exact fun hrecorded ↦ mem_supersede (h.superseded.mpr hrecorded)
  · rw [hgeneration]
    exact h.later.imp_right fun hlater ↦ lt_of_lt_of_le hlater (le_supersede r')

/-- The state after the replaced partitions were retired. -/
def FabricState.retireAll (s : FabricState) (now : UInt64) (keys : List PartitionId) : FabricState :=
  keys.foldl (fun s p ↦ retireReplaced now p s) s

lemma find_retireReplaced (now : UInt64) (p q : PartitionId) (s : FabricState) :
    (retireReplaced now p s).findPartition q =
      if q = p then (s.findPartition q).map fun record ↦
        { record.retire now "superseded by a verified device reconfiguration" with
          assignmentState := .unassigned
          drain := { record.drain with state := .notDraining, outstandingAssignments := 0 } }
      else s.findPartition q := by
  unfold retireReplaced FabricState.modifyPartition FabricState.findPartition
  rw [KeyedMap.find?_modify]

lemma retireAll_besides (now : UInt64) (keys : List PartitionId) (s : FabricState) :
    besides (s.retireAll now keys) = besides s ∧ (s.retireAll now keys).ids = s.ids := by
  induction keys generalizing s with
  | nil => exact ⟨rfl, rfl⟩
  | cons p rest ih => exact ih (retireReplaced now p s)

/-- Exactly the listed partitions are retired. -/
lemma retireAll_find (now : UInt64) (keys : List PartitionId) (s : FabricState) (p : PartitionId) :
    (p ∉ keys → (s.retireAll now keys).findPartition p = s.findPartition p) ∧
      ∀ r r₀, s.findPartition p = some r → (RetiredFrom r₀ r ∨ r₀ = r ∧ p ∈ keys) →
        ∃ r', (s.retireAll now keys).findPartition p = some r' ∧ RetiredFrom r₀ r' := by
  induction keys generalizing s with
  | nil =>
    refine ⟨fun _ ↦ rfl, fun r r₀ hr hor ↦ ⟨r, hr, ?_⟩⟩
    exact hor.resolve_right fun h ↦ by cases h.2
  | cons q rest ih =>
    obtain ⟨hother, hlisted⟩ := ih (retireReplaced now q s)
    refine ⟨fun hp ↦ ?_, fun r r₀ hr hor ↦ ?_⟩
    · obtain ⟨hpq, hrest⟩ := not_or.mp (mt List.mem_cons.mpr hp)
      refine (hother hrest).trans ?_
      rw [find_retireReplaced, if_neg hpq]
    · by_cases hpq : p = q
      · subst hpq
        have hr' : (retireReplaced now p s).findPartition p = some
            { r.retire now "superseded by a verified device reconfiguration" with
              assignmentState := .unassigned
              drain := { r.drain with state := .notDraining, outstandingAssignments := 0 } } := by
          rw [find_retireReplaced, if_pos rfl, hr, Option.map_some]
        refine hlisted _ r₀ hr' (Or.inl ?_)
        rcases hor with hretired | ⟨rfl, -⟩
        · exact hretired.again rfl rfl rfl
        · exact retiredFrom_retire rfl rfl rfl
      · have hr' : (retireReplaced now q s).findPartition p = some r := by
          rw [find_retireReplaced, if_neg hpq, hr]
        exact hlisted r r₀ hr' (hor.imp_right fun h ↦ ⟨h.1, (List.mem_cons.mp h.2).resolve_left hpq⟩)

lemma retireAll_missing (now : UInt64) (keys : List PartitionId) (s : FabricState) {p : PartitionId}
    (hp : s.findPartition p = none) : (s.retireAll now keys).findPartition p = none := by
  induction keys generalizing s with
  | nil => exact hp
  | cons q rest ih =>
    refine ih (retireReplaced now q s) ?_
    rw [find_retireReplaced, hp]
    exact ite_self _

/-- Only the assignments whose identities are those of assignments to listed partitions are gone. -/
lemma find_dropAssignments (test : PartitionId → Bool) (s : FabricState) (k : PartitionAssignmentId) :
    (dropAssignments test s).assignments.find? k =
      if k ∈ (s.assignments.values.filter fun a ↦ test a.partition).map PartitionAssignment.id
      then none else s.assignments.find? k := by
  unfold dropAssignments
  generalize (s.assignments.values.filter fun a ↦ test a.partition).map PartitionAssignment.id = ids
  induction ids generalizing s with
  | nil => rfl
  | cons id rest ih =>
    rw [List.foldl_cons, ih]
    by_cases hrest : k ∈ rest
    · rw [if_pos hrest, if_pos (List.mem_cons_of_mem _ hrest)]
    · rw [if_neg hrest, KeyedMap.find?_erase]
      by_cases hk : k = id
      · rw [if_pos hk, if_pos (hk ▸ List.mem_cons_self)]
      · rw [if_neg hk, if_neg fun hmem ↦ (List.mem_cons.mp hmem).elim hk hrest]

end Retiring

section Replacing

/-- The capacity that a partition holds in a bucket. -/
def FabricState.heldIn (s : FabricState) (b : CapacityBucket) (d : ResourceDimension)
    (p : PartitionId) : ℕ :=
  match s.findPartition p with
  | none => 0
  | some r => if r.heldBucket = some b then r.resources.amount d else 0

variable {a : PartitionAttempt} {reservation : PartitionReservation} {plan : PartitionPlan}
  {l l' : CapacityLedger}

lemma moveBetween_ok {b c : CapacityBucket} {amount : ResourceVector}
    (h : CapacityLedger.moveBetween b.raw c.raw amount l = (l', .ok ())) :
    b = c ∧ l' = l ∨ b ≠ c ∧ CapacityLedger.Moved b c amount l l' := by
  rcases CapacityLedger.moveBetween_cases b.raw c.raw amount l with
    ⟨b', c', m, hne, hb, hc, hrun, hmoved⟩ | ⟨hrun, b', hb, hc⟩ | ⟨e, hrun⟩
  · rw [CapacityBucket.ofRaw?_raw] at hb hc
    obtain rfl := Option.some.inj hb
    obtain rfl := Option.some.inj hc
    obtain rfl := (Prod.mk.inj (h.symm.trans hrun)).1
    exact Or.inr ⟨hne, hmoved⟩
  · rw [CapacityBucket.ofRaw?_raw] at hb hc
    exact Or.inl ⟨Option.some.inj (hb.trans hc.symm), (Prod.mk.inj (h.symm.trans hrun)).1⟩
  · cases (Prod.mk.inj (h.symm.trans hrun)).2

/-- Freeing a replaced partition takes from each other bucket what the partition holds there. -/
lemma freeReplaced_ok {p : PartitionId} (h : freeReplaced s p l = (l', .ok ()))
    {b : CapacityBucket} (hb : b ≠ .free) (d : ResourceDimension) :
    (l'.bucket b).amount d + s.heldIn b d p = (l.bucket b).amount d := by
  unfold freeReplaced at h
  unfold FabricState.heldIn CapacityLedger.bucket
  cases hp : s.findPartition p with
  | none =>
    rw [hp] at h
    obtain rfl := (Prod.mk.inj h).1
    rfl
  | some r =>
    rw [hp] at h
    simp only [Option.bind_some] at h ⊢
    cases hheld : r.heldBucket with
    | none =>
      rw [hheld] at h
      obtain rfl := (Prod.mk.inj h).1
      rfl
    | some c =>
      rw [hheld] at h
      rcases moveBetween_ok h with ⟨rfl, rfl⟩ | ⟨-, hmoved⟩
      · rw [if_neg fun hc ↦ hb (Option.some.inj hc).symm]
        rfl
      · by_cases hbc : c = b
        · rw [if_pos (congrArg some hbc), ← hbc]
          exact hmoved.taken d
        · rw [if_neg fun hc ↦ hbc (Option.some.inj hc), hmoved.other b (Ne.symm hbc) hb]
          rfl

lemma forM_freeReplaced_ok {keys : List PartitionId}
    (h : keys.forM (freeReplaced s) l = (l', .ok ())) {b : CapacityBucket} (hb : b ≠ .free)
    (d : ResourceDimension) :
    (l'.bucket b).amount d + (keys.map (s.heldIn b d)).sum = (l.bucket b).amount d := by
  induction keys generalizing l with
  | nil =>
    obtain rfl := (Prod.mk.inj h).1
    rfl
  | cons p rest ih =>
    obtain ⟨m, _, hfirst, hrest⟩ := bind_eq_ok.mp
      (show (freeReplaced s p >>= fun _ ↦ rest.forM (freeReplaced s)) l = _ from h)
    have hp := freeReplaced_ok hfirst hb d
    have hrest' := ih hrest
    rw [List.map_cons, List.sum_cons]
    omega

/-- Taking the planned capacity adds it to the active one. -/
lemma forM_taken_ok {desired : List PlannedPartition}
    (h : desired.forM (fun planned ↦ CapacityLedger.moveBetween CapacityBucket.free.raw
      CapacityBucket.active.raw planned.resources) l = (l', .ok ())) (d : ResourceDimension) :
    (l'.bucket .active).amount d =
        (l.bucket .active).amount d + (desired.map fun planned ↦ planned.resources.amount d).sum ∧
      ∀ b, b ≠ .free → b ≠ .active → (l'.bucket b).amount d = (l.bucket b).amount d := by
  induction desired generalizing l with
  | nil =>
    obtain rfl := (Prod.mk.inj h).1
    exact ⟨rfl, fun _ _ _ ↦ rfl⟩
  | cons planned rest ih =>
    obtain ⟨m, _, hfirst, hrest⟩ := bind_eq_ok.mp
      (show (CapacityLedger.moveBetween CapacityBucket.free.raw CapacityBucket.active.raw
        planned.resources >>= fun _ ↦ rest.forM _) l = _ from h)
    obtain ⟨hactive, hothers⟩ := ih hrest
    rcases moveBetween_ok hfirst with ⟨hsame, -⟩ | ⟨-, hmoved⟩
    · cases hsame
    · have hadded := hmoved.added d
      unfold CapacityLedger.bucket at hactive hothers ⊢
      rw [List.map_cons, List.sum_cons]
      refine ⟨by omega, fun b hfree hb ↦ ?_⟩
      rw [hothers b hfree hb, hmoved.other b hfree hb]

/-- The accounting of a reconfiguration that closes. -/
lemma replaceLayout_ok {working : CapacityLedger}
    (h : replaceLayout s a reservation plan l = (working, .ok ())) (d : ResourceDimension) :
    (working.bucket .active).amount d + (a.partitions.map (s.heldIn .active d)).sum =
        (l.bucket .active).amount d +
          (plan.plannedPartitions.map fun planned ↦ planned.resources.amount d).sum ∧
      ∀ b, b ≠ .free → b ≠ .active → b ≠ .reserved →
        (working.bucket b).amount d + (a.partitions.map (s.heldIn b d)).sum =
          (l.bucket b).amount d := by
  unfold replaceLayout at h
  rw [bind_apply, attempt_apply] at h
  simp only at h
  have hreleased : ∀ b, b ≠ .free → b ≠ .reserved →
      ((when (reservation.holdsCapacity && !reservation.resources.empty)
        (CapacityLedger.releaseReserved reservation.resources) : LedgerM Unit) l).1.buckets b =
          l.buckets b := by
    intro b hfree hreserved
    cases (reservation.holdsCapacity && !reservation.resources.empty) with
    | false => rfl
    | true =>
      rw [when_true]
      unfold CapacityLedger.releaseReserved
      rcases CapacityLedger.transfer_spec (show CapacityBucket.reserved ≠ .free by decide)
        reservation.resources l with ⟨m, hrun, hmoved⟩ | ⟨e, hrun⟩
      · rw [hrun]
        exact hmoved.other b hreserved hfree
      · rw [hrun]
  generalize (when (reservation.holdsCapacity && !reservation.resources.empty)
    (CapacityLedger.releaseReserved reservation.resources) : LedgerM Unit) l = first at h hreleased
  obtain ⟨m, _, hfreed, h⟩ := bind_eq_ok.mp h
  obtain ⟨n, _, hlift, h⟩ := bind_eq_ok.mp h
  obtain rfl := (Prod.mk.inj hlift).1
  obtain ⟨k, _, htaken, h⟩ := bind_eq_ok.mp h
  obtain rfl : k = working := by
    rw [get_bind] at h
    exact (Prod.mk.inj h).1
  obtain ⟨hactive, hothers⟩ := forM_taken_ok htaken d
  refine ⟨?_, fun b hfree hb hreserved ↦ ?_⟩
  · have hfree := forM_freeReplaced_ok hfreed (b := .active) (by decide) d
    unfold CapacityLedger.bucket at *
    rw [hreleased .active (by decide) (by decide)] at hfree
    omega
  · have hfree' := forM_freeReplaced_ok hfreed hfree d
    have hsame := hothers b hfree hb
    unfold CapacityLedger.bucket at *
    rw [hreleased b hfree hreserved] at hfree'
    omega

/-- The identities of the assignments to partitions that an attempt replaces. -/
def FabricState.dropped (s : FabricState) (a : PartitionAttempt) : List PartitionAssignmentId :=
  (s.assignments.values.filter fun x ↦ a.partitions.contains x.partition).map
    PartitionAssignment.id

/-- What the records of a replaced layout are: the new ones, the retired ones, and all others. -/
structure Replaced (e : CommitEvidence) (a : PartitionAttempt) (made : List Produced)
    (working : CapacityLedger) (s t : FabricState) : Prop where
  ledger : t.findLedger a.accelerator = some working
  recorded : ∀ x ∈ made, RecordedAs e t x
  retired : ∀ p r, p ∉ made.map Produced.id → p ∈ a.partitions → s.findPartition p = some r →
    ∃ r', t.findPartition p = some r' ∧ RetiredFrom r r'
  others : ∀ p, p ∉ made.map Produced.id → p ∉ a.partitions →
    t.findPartition p = s.findPartition p
  missing : ∀ p, p ∉ made.map Produced.id → s.findPartition p = none → t.findPartition p = none
  assignments : ∀ k, t.assignments.find? k =
    if k ∈ s.dropped a then none else s.assignments.find? k

theorem replaceRecords_spec (e : CommitEvidence) (a : PartitionAttempt) (plan : PartitionPlan)
    (working : CapacityLedger) (s : FabricState) :
    ∃ t ids, replaceRecords e a plan working s = (t, .ok ids) ∧
      Replaced e a (e.produced s plan.plannedPartitions [] s.ids.next) working s t := by
  unfold replaceRecords
  rw [modify_bind, bind_ok (forM_modify (fun p ↦ retireReplaced e.now p) a.partitions _), modify_bind]
  let u := s.setLedger a.accelerator working
  let v := u.retireAll e.now a.partitions
  let w := dropAssignments a.partitions.contains v
  obtain ⟨hbesides, hids⟩ := retireAll_besides e.now a.partitions u
  obtain ⟨m, hw⟩ := dropAssignments_eq a.partitions.contains v
  have hprofiles : w.profiles = s.profiles := by
    change (dropAssignments a.partitions.contains v).profiles = _
    rw [hw]
    exact (Prod.mk.inj (Prod.mk.inj hbesides).2).2
  have hnext : w.ids.next = s.ids.next := by
    change (dropAssignments a.partitions.contains v).ids.next = _
    rw [hw]
    exact congrArg IdAllocator.next hids
  have hfind (p : PartitionId) : w.findPartition p = v.findPartition p := by
    change (dropAssignments a.partitions.contains v).findPartition p = _
    rw [hw]
    rfl
  obtain ⟨t, hrun, hkept, hothers, hrecorded⟩ :=
    recordReconfigured_spec (e := e) plan.plannedPartitions [] [] hprofiles
  rw [hnext] at hrun hothers hrecorded
  obtain ⟨hledgers, hassignments⟩ := Prod.mk.inj hkept
  have hunrecorded (p : PartitionId)
      (hp : p ∉ (e.produced s plan.plannedPartitions [] s.ids.next).map Produced.id) :
      t.findPartition p = v.findPartition p := by
    rw [hothers p fun x hx hid ↦ hp (hid ▸ List.mem_map_of_mem hx), hfind]
  refine ⟨t, _, hrun, ?_, hrecorded, fun p r hp hlisted hr ↦ ?_, fun p hp hlisted ↦ ?_,
    fun p hp hnone ↦ ?_, fun k ↦ ?_⟩
  · unfold FabricState.findLedger
    rw [hledgers]
    change (dropAssignments a.partitions.contains v).ledgers.find? a.accelerator = _
    rw [hw]
    change v.ledgers.find? a.accelerator = _
    rw [(Prod.mk.inj hbesides).1]
    exact KeyedMap.find?_insert_self _ _ _
  · rw [hunrecorded p hp]
    exact (retireAll_find e.now a.partitions u p).2 r r hr (Or.inr ⟨rfl, hlisted⟩)
  · rw [hunrecorded p hp]
    exact (retireAll_find e.now a.partitions u p).1 hlisted
  · rw [hunrecorded p hp]
    exact retireAll_missing e.now a.partitions u hnone
  · rw [(Prod.mk.inj hassignments).1]
    change (dropAssignments a.partitions.contains v).assignments.find? k = _
    rw [find_dropAssignments, (Prod.mk.inj (Prod.mk.inj hbesides).2).1]
    rfl

end Replacing

section Taking

/-- The observed partition that each planned one takes: the first that answers its spec and whose
name no earlier one took. -/
def takenFor (layout : BackendLayout) : List PlannedPartition → List Text →
    List (PlannedPartition × Option BackendNativePartition)
  | [], _ => []
  | planned :: rest, claimed =>
    let found := findUnclaimedNativeForSpec layout planned.spec claimed
    (planned, found) :: takenFor layout rest
      (claimed ++ (found.map BackendNativePartition.nativeId).toList)

variable {layout : BackendLayout} {desired : List PlannedPartition} {claimed : List Text}

lemma map_takenFor : (takenFor layout desired claimed).map Prod.fst = desired := by
  induction desired generalizing claimed with
  | nil => rfl
  | cons planned rest ih =>
    unfold takenFor
    rw [List.map_cons, ih]

/-- The observed partitions that are taken. -/
def nativesFor (layout : BackendLayout) (desired : List PlannedPartition) (claimed : List Text) :
    List BackendNativePartition :=
  (takenFor layout desired claimed).filterMap Prod.snd

lemma mem_of_taken {x : PlannedPartition × Option BackendNativePartition}
    {n : BackendNativePartition} (hx : x ∈ takenFor layout desired claimed) (hn : x.2 = some n) :
    n ∈ layout.partitions ∧ n.nativeId ∉ claimed := by
  induction desired generalizing claimed with
  | nil => cases hx
  | cons planned rest ih =>
    unfold takenFor at hx
    rcases List.mem_cons.mp hx with rfl | hx
    · have htest := List.find?_some hn
      simp only [Bool.and_eq_true, Bool.not_eq_true', List.contains_eq_mem, decide_eq_false_iff_not]
        at htest
      exact ⟨List.mem_of_find?_eq_some hn, htest.1⟩
    · obtain ⟨hmem, hfree⟩ := ih hx
      exact ⟨hmem, fun hclaimed ↦ hfree (List.mem_append_left _ hclaimed)⟩

/-- No two planned partitions take the same name. -/
lemma nativesFor_nodup : ((nativesFor layout desired claimed).map
    BackendNativePartition.nativeId).Nodup := by
  unfold nativesFor
  induction desired generalizing claimed with
  | nil => exact List.nodup_nil
  | cons planned rest ih =>
    unfold takenFor
    cases hfound : findUnclaimedNativeForSpec layout planned.spec claimed with
    | none =>
      rw [List.filterMap_cons]
      exact ih
    | some n =>
      rw [List.filterMap_cons]
      simp only [List.map_cons]
      refine List.nodup_cons.mpr ⟨fun hmem ↦ ?_, ih⟩
      obtain ⟨m, hm, hname⟩ := List.mem_map.mp hmem
      obtain ⟨x, hx, hxm⟩ := List.mem_filterMap.mp hm
      refine (mem_of_taken hx hxm).2 ?_
      rw [hname]
      exact List.mem_append_right _ (List.mem_cons_self ..)

/-- Where every planned partition takes an observed one, and there are no more of these, the taken
ones are all. -/
lemma nativesFor_perm (hall : ∀ x ∈ takenFor layout desired claimed, ∃ n, x.2 = some n)
    (hlength : layout.partitions.length = desired.length) :
    (nativesFor layout desired claimed).Perm layout.partitions := by
  have hnodup : (nativesFor layout desired claimed).Nodup := List.Nodup.of_map _ nativesFor_nodup
  have hsub : nativesFor layout desired claimed ⊆ layout.partitions := by
    intro n hn
    obtain ⟨x, hx, hxn⟩ := List.mem_filterMap.mp hn
    exact (mem_of_taken hx hxn).1
  have hcount : (nativesFor layout desired claimed).length = desired.length := by
    have hfirst := congrArg List.length
      (map_takenFor : (takenFor layout desired claimed).map Prod.fst = desired)
    rw [List.length_map] at hfirst
    rw [← hfirst]
    unfold nativesFor
    generalize takenFor layout desired claimed = l at hall
    induction l with
    | nil => rfl
    | cons x rest ih =>
      obtain ⟨n, hn⟩ := hall x (List.mem_cons_self ..)
      rw [List.filterMap_cons_some hn, List.length_cons, List.length_cons,
        ih fun y hy ↦ hall y (List.mem_cons_of_mem x hy)]
  exact (hnodup.subperm hsub).perm_of_length_le (by omega)

/-- What was recorded needs what was planned. -/
lemma planned_sum {made : List Produced}
    (htakes : made.map (fun x ↦ (x.planned, x.native)) = takenFor layout desired claimed)
    (d : ResourceDimension) :
    (made.map fun x ↦ x.planned.resources.amount d).sum =
      (desired.map fun planned ↦ planned.resources.amount d).sum := by
  have hplanned : made.map Produced.planned = desired := by
    have hfirst := congrArg (List.map Prod.fst) htakes
    rw [map_takenFor, List.map_map] at hfirst
    exact hfirst
  rw [← hplanned, List.map_map]
  rfl

lemma length_produced_le (desired : List PlannedPartition) (claimed : List Text)
    (id : PartitionId) : (e.produced s desired claimed id).length ≤ desired.length := by
  induction desired generalizing claimed id with
  | nil => exact le_refl _
  | cons planned rest ih =>
    unfold CommitEvidence.produced
    split
    · exact (ih _ _).trans (Nat.le_succ _)
    · split
      · exact Nat.zero_le _
      · exact Nat.succ_le_succ (ih _ _)

/-- Everything planned is recorded exactly when every profile is known and there are identities for
all. -/
lemma length_produced_iff {id : PartitionId} :
    (e.produced s desired claimed id).length = desired.length ↔
      (∀ planned ∈ desired, (s.findProfile planned.profile).isSome = true) ∧
        id.toNat + desired.length ≤ uint64Max.toNat := by
  induction desired generalizing claimed id with
  | nil =>
    have hid := id.toNat_lt
    have hmax : uint64Max.toNat = 2 ^ 64 - 1 := rfl
    exact iff_of_true rfl ⟨List.forall_mem_nil _, by rw [List.length_nil]; omega⟩
  | cons planned rest ih =>
    unfold CommitEvidence.produced
    rw [List.forall_mem_cons]
    cases hprofile : s.findProfile planned.profile with
    | none =>
      refine iff_of_false (fun hlength ↦ ?_) fun h ↦ by cases h.1.1
      have hle := length_produced_le (e := e) (s := s) rest claimed id
      simp only [List.length_cons] at hlength
      omega
    | some profile =>
      simp only [Option.isSome_some, true_and]
      by_cases hleft : id = uint64Max
      · rw [if_pos hleft, hleft]
        refine iff_of_false (fun hlength ↦ ?_) fun h ↦ ?_
        · cases hlength
        · have hroom := h.2
          rw [List.length_cons] at hroom
          omega
      · rw [if_neg hleft, List.length_cons, List.length_cons, Nat.add_right_cancel_iff, ih,
          toNat_add_one hleft]
        refine and_congr_right fun _ ↦ ?_
        omega

/-- Where everything planned is recorded, it is recorded with the partitions that are taken, under
consecutive identities. -/
lemma produced_eq {id : PartitionId} (hobserved : e.observed = some layout)
    (hall : (e.produced s desired claimed id).length = desired.length) :
    (e.produced s desired claimed id).map (fun x ↦ (x.planned, x.native)) =
        takenFor layout desired claimed ∧
      ∀ p, p ∈ (e.produced s desired claimed id).map Produced.id ↔
        id.toNat ≤ p.toNat ∧ p.toNat < id.toNat + desired.length := by
  induction desired generalizing claimed id with
  | nil =>
    refine ⟨rfl, fun p ↦ iff_of_false (fun h ↦ by cases h) fun h ↦ ?_⟩
    rw [List.length_nil] at h
    omega
  | cons planned rest ih =>
    unfold CommitEvidence.produced at hall ⊢
    unfold takenFor
    cases hprofile : s.findProfile planned.profile with
    | none =>
      rw [hprofile] at hall
      have hle := length_produced_le (e := e) (s := s) rest claimed id
      simp only [List.length_cons] at hall
      omega
    | some profile =>
      rw [hprofile] at hall
      simp only at hall ⊢
      by_cases hleft : id = uint64Max
      · rw [if_pos hleft] at hall
        cases hall
      · rw [if_neg hleft] at hall ⊢
        have hfound : e.unclaimed planned claimed =
            (findUnclaimedNativeForSpec layout planned.spec claimed).map fun n ↦ (layout, n) := by
          unfold CommitEvidence.unclaimed
          rw [hobserved, Option.bind_some]
        have hclaim : claim claimed (e.unclaimed planned claimed) = claimed ++
            ((findUnclaimedNativeForSpec layout planned.spec claimed).map
              BackendNativePartition.nativeId).toList := by
          rw [hfound]
          cases findUnclaimedNativeForSpec layout planned.spec claimed with
          | none => exact (List.append_nil _).symm
          | some n => rfl
        have hrest : (e.produced s rest (claim claimed (e.unclaimed planned claimed))
            (id + 1)).length = rest.length := Nat.succ_inj.mp hall
        obtain ⟨hpairs, hids⟩ := ih hrest
        rw [List.map_cons, List.map_cons, hpairs, hclaim, hfound, Option.map_map]
        refine ⟨?_, fun p ↦ ?_⟩
        · congr 2
          cases findUnclaimedNativeForSpec layout planned.spec claimed <;> rfl
        · rw [hclaim] at hids
          rw [List.mem_cons, hids, toNat_add_one hleft, List.length_cons]
          constructor
          · rintro (rfl | hlater)
            · omega
            · omega
          · intro hrange
            by_cases hp : p = id
            · exact Or.inl hp
            · have hne : p.toNat ≠ id.toNat := fun h ↦ hp (UInt64.toNat_inj.mp h)
              exact Or.inr (by omega)

end Taking

section Committing

variable {key : PartitionAttemptId} {mutation : Result BackendMutationResult}
  {observed : Option BackendLayout} {now : UInt64} {a : PartitionAttempt}
  {reservation : PartitionReservation} {accelerator : AcceleratorRecord} {layout : BackendLayout}
  {plan : PartitionPlan} {l working : CapacityLedger} {outcome : MutationOutcome}

/-- A partition of a device is on record and not terminal. -/
def FabricState.LiveOn (s : FabricState) (id : AcceleratorId) (p : PartitionId)
    (r : PartitionRecord) : Prop :=
  s.findPartition p = some r ∧ r.accelerator = id ∧ isTerminalState r.state = false

/-- A record stands for an observed partition. -/
structure Represents (r : PartitionRecord) (native : BackendNativePartition) : Prop where
  named : native.nativeId ≠ []
  name : r.nativeIdentity.nativeId = native.nativeId
  resources : r.resources.equal native.resources = true

/-- The layout of a device was replaced by what is observed: the records that live on it stand one
by one for the observed partitions and account for its capacity, and nothing is left of the
records before. -/
structure LayoutReplaced (s t : FabricState) (id : AcceleratorId) (layout : BackendLayout) :
    Prop where
  matched : ∃ live : List (PartitionId × PartitionRecord), (live.map Prod.fst).Nodup ∧
    (∀ p r, (p, r) ∈ live ↔ t.LiveOn id p r) ∧
    (∃ natives, natives.Perm layout.partitions ∧
      List.Forall₂ (fun x native ↦ Represents x.2 native) live natives) ∧
    ∃ l, t.findLedger id = some l ∧ ∀ d,
      (l.bucket .active).amount d = (live.map fun x ↦ x.2.resources.amount d).sum ∧
        (l.bucket .draining).amount d = 0 ∧ (l.bucket .reconfigurationHeld).amount d = 0
  previous : ∀ p r, s.LiveOn id p r → ∃ r', t.findPartition p = some r' ∧ r'.state = .retired ∧
    r.generation ∈ r'.supersededGenerations
  unassigned : ∀ k x r, t.assignments.find? k = some x → ¬ s.LiveOn id x.partition r

/-- A reconfiguration that is committed for an attempt which was not settled before replaces the
layout of its device. -/
def ReplacesLayout (s : FabricState) (key : PartitionAttemptId)
    (mutation : Result BackendMutationResult) (observed : Option BackendLayout) (now : UInt64) :
    Prop :=
  ∀ a t outcome, s.findAttempt key = some a → a.kind = .reconfigureLayout →
    attemptSettled a.state = false →
      applyMutationResultLocked key mutation observed now s = (t, .ok outcome) →
        outcome.committed = true →
          ∃ layout, observed = some layout ∧ LayoutReplaced s t a.accelerator layout

/-- A result that commits a reconfiguration: it is verified and its accounting closes. -/
structure Reconfigures (s : FabricState) (key : PartitionAttemptId)
    (mutation : Result BackendMutationResult) (observed : Option BackendLayout)
    (a : PartitionAttempt) (reservation : PartitionReservation) (accelerator : AcceleratorRecord)
    (plan : PartitionPlan) (l working : CapacityLedger) : Prop where
  found : s.findAttempt key = some a
  kind : a.kind = .reconfigureLayout
  flight : a.state.inFlight = true
  reserved : s.findReservation a.reservation = some reservation
  device : s.findAccelerator a.accelerator = some accelerator
  verified : (verifyMutation s a reservation (mutationReport mutation) observed).verified = true
  ledger : s.findLedger a.accelerator = some l
  planned : s.plans.find? reservation.plan = some plan
  closes : replaceLayout s a reservation plan l = (working, .ok ())

/-- What the state before has to be like: everything planned can be recorded and takes an observed
partition with its resources, the attempt replaces all that lives on the device, and nothing else is
accounted for. -/
structure Replaceable (s : FabricState) (a : PartitionAttempt) (accelerator : AcceleratorRecord)
    (plan : PartitionPlan) (layout : BackendLayout) (l : CapacityLedger) : Prop where
  known : ∀ planned ∈ plan.plannedPartitions, (s.findProfile planned.profile).isSome = true
  room : s.ids.next.toNat + plan.plannedPartitions.length ≤ uint64Max.toNat
  own : plan.plannedPartitions ≠ [] → accelerator.id = a.accelerator
  taken : ∀ x ∈ takenFor layout plan.plannedPartitions [], ∃ native, x.2 = some native ∧
    native.nativeId ≠ [] ∧ x.1.resources.equal native.resources = true
  listed : ∀ p r, s.LiveOn a.accelerator p r → p ∈ a.partitions ∧ r.Supersedes ∧
    ¬ (s.ids.next.toNat ≤ p.toNat ∧
      p.toNat < s.ids.next.toNat + plan.plannedPartitions.length)
  assignments : ∀ k x r, s.assignments.find? k = some x → s.LiveOn a.accelerator x.partition r →
    k ∈ s.dropped a
  capacity : ∀ d, ∀ b ∈ [CapacityBucket.active, .draining, .reconfigurationHeld],
    (l.bucket b).amount d = (a.partitions.map (s.heldIn b d)).sum

/-- What a committed reconfiguration leaves. -/
lemma commitReconfiguration_spec (e : CommitEvidence) (key : PartitionAttemptId)
    (a : PartitionAttempt) (plan : PartitionPlan) (working : CapacityLedger) (detail : Text)
    (outcome : MutationOutcome) (s : FabricState) :
    ∃ t done, commitReconfiguration e key a plan working detail outcome s = (t, .ok done) ∧
      done.committed = true ∧
        Replaced e a (e.produced s plan.plannedPartitions [] s.ids.next) working s t := by
  obtain ⟨u, ids, hrun, hreplaced⟩ := replaceRecords_spec e a plan working s
  unfold commitReconfiguration
  rw [bind_ok hrun, modify_bind, modify_bind, modify_bind]
  refine ⟨_, _, rfl, rfl, ?_⟩
  let v := commitReservation a.reservation e.now (settleAttempt key .succeeded detail e.now u)
  have hpartitions : v.bumpStateGeneration.partitions = u.partitions := bump_partitions
  have hassignments : v.bumpStateGeneration.assignments = u.assignments := bump_assignments
  have hledgers : v.bumpStateGeneration.ledgers = u.ledgers := bump_ledgers
  obtain ⟨hledger, hrecorded, hretired, hothers, hmissing, hkept⟩ := hreplaced
  refine ⟨?_, ?_, ?_, ?_, ?_, ?_⟩
  · unfold FabricState.findLedger
    rw [hledgers]
    exact hledger
  · unfold RecordedAs FabricState.findPartition
    rw [hpartitions]
    exact hrecorded
  · unfold FabricState.findPartition
    rw [hpartitions]
    exact hretired
  · unfold FabricState.findPartition
    rw [hpartitions]
    exact hothers
  · unfold FabricState.findPartition
    rw [hpartitions]
    exact hmissing
  · rw [hassignments]
    exact hkept

lemma failAttempt_committed {detail : Text} {outcome' : MutationOutcome}
    (h : failAttempt key detail now outcome' s = (t, .ok outcome))
    (houtcome : outcome'.committed = false) : outcome.committed = false := by
  obtain ⟨_, _, -, h⟩ := bind_eq_ok.mp h
  obtain rfl := Except.ok.inj (Prod.mk.inj h).2
  exact houtcome

/-- A committed reconfiguration was verified, and left the replaced records. -/
lemma reconfiguration_cases (ha : s.findAttempt key = some a) (hkind : a.kind = .reconfigureLayout)
    (hopen : attemptSettled a.state = false)
    (h : applyMutationResultLocked key mutation observed now s = (t, .ok outcome))
    (hcommitted : outcome.committed = true) :
    ∃ reservation accelerator plan l working,
      Reconfigures s key mutation observed a reservation accelerator plan l working ∧
        Replaced ⟨accelerator, observed, now⟩ a
          ((⟨accelerator, observed, now⟩ : CommitEvidence).produced s plan.plannedPartitions []
            s.ids.next) working s t := by
  obtain ⟨reservation, accelerator, start, hflight, hr, hacc, hverified, hstart, hsettle⟩ :=
    verified_of_committed ha hopen h hcommitted
  unfold settleMutation at hsettle
  rw [get_bind] at hsettle
  simp only [hverified, if_true] at hsettle
  rw [if_pos hkind] at hsettle
  unfold settleReconfiguration at hsettle
  rw [get_bind] at hsettle
  cases hl : s.findLedger a.accelerator with
  | none =>
    rw [hl] at hsettle
    rw [failAttempt_committed hsettle hstart] at hcommitted
    cases hcommitted
  | some l =>
    cases hplan : s.plans.find? reservation.plan with
    | none =>
      rw [hl, hplan] at hsettle
      rw [failAttempt_committed hsettle hstart] at hcommitted
      cases hcommitted
    | some plan =>
      rw [hl, hplan] at hsettle
      simp only at hsettle
      cases hrun : replaceLayout s a reservation plan l with
      | mk working result =>
        rw [hrun] at hsettle
        cases result with
        | error e =>
          -- the accounting did not close: the attempt failed
          simp only at hsettle
          obtain ⟨_, failed, hfail, hsettle⟩ := bind_eq_ok.mp hsettle
          obtain ⟨_, _, -, hsettle⟩ := bind_eq_ok.mp hsettle
          obtain ⟨_, _, -, hsettle⟩ := bind_eq_ok.mp hsettle
          obtain rfl := Except.ok.inj (Prod.mk.inj hsettle).2
          rw [failAttempt_committed hfail hstart] at hcommitted
          cases hcommitted
        | ok done =>
          simp only at hsettle
          obtain ⟨t', done', hcommit, -, hreplaced⟩ := commitReconfiguration_spec
            ⟨accelerator, observed, now⟩ key a plan working _ _ s
          rw [hcommit] at hsettle
          obtain rfl := (Prod.mk.inj hsettle).1
          exact ⟨reservation, accelerator, plan, l, working,
            ⟨ha, hkind, hflight, hr, hacc, hverified, hl, hplan, hrun⟩, hreplaced⟩

/-- A verified reconfiguration whose accounting closes is committed. -/
lemma Reconfigures.commits
    (h : Reconfigures s key mutation observed a reservation accelerator plan l working)
    (now : UInt64) :
    ∃ t outcome, applyMutationResultLocked key mutation observed now s = (t, .ok outcome) ∧
      outcome.committed = true ∧ Replaced ⟨accelerator, observed, now⟩ a
        ((⟨accelerator, observed, now⟩ : CommitEvidence).produced s plan.plannedPartitions []
          s.ids.next) working s t := by
  obtain ⟨start, -, heq⟩ :=
    applyMutationResultLocked_eq mutation observed now h.found h.flight h.reserved h.device
  rw [heq]
  unfold settleMutation
  rw [get_bind]
  simp only [h.verified, if_true]
  rw [if_pos h.kind]
  unfold settleReconfiguration
  rw [get_bind, h.ledger, h.planned]
  simp only
  rw [h.closes]
  exact commitReconfiguration_spec _ _ _ _ _ _ _ _

/-- What was verified lists as many partitions as were planned. -/
lemma Reconfigures.observed_some
    (h : Reconfigures s key mutation observed a reservation accelerator plan l working) :
    ∃ layout, observed = some layout ∧
      layout.partitions.length = plan.plannedPartitions.length := by
  have hverified := h.verified
  unfold verifyMutation at hverified
  rw [h.kind] at hverified
  simp only at hverified
  unfold verifyReconfiguration at hverified
  split at hverified
  · cases hverified
  · cases observed with
    | none => cases hverified
    | some layout =>
      simp only at hverified
      split at hverified
      · cases hverified
      · rw [h.planned] at hverified
        have hexact : layoutMatchesExactly layout (desiredSpecsOf plan) = true := hverified
        unfold layoutMatchesExactly desiredSpecsOf at hexact
        simp only [Bool.and_eq_true, decide_eq_true_eq, List.length_map] at hexact
        exact ⟨layout, rfl, hexact.1⟩

/-- A value on the left of a pairing has a partner on the right. -/
lemma exists_of_forall₂ {α β : Type} {R : α → β → Prop} {l : List α} {l' : List β}
    (h : List.Forall₂ R l l') {x : α} (hx : x ∈ l) : ∃ y ∈ l', R x y := by
  induction h with
  | nil => cases hx
  | cons hxy _ ih =>
    rcases List.mem_cons.mp hx with rfl | hx
    · exact ⟨_, List.mem_cons_self .., hxy⟩
    · obtain ⟨y, hy, hR⟩ := ih hx
      exact ⟨y, List.mem_cons_of_mem _ hy, hR⟩

section Comparing

variable {made : List Produced}

/-- Where all that lived on the device is listed and keeps its identity, only what was recorded lives
on it afterwards. -/
lemma Replaced.live_mem (h : Replaced e a made working s t)
    (hlisted : ∀ p r, s.LiveOn a.accelerator p r → p ∈ a.partitions) {p : PartitionId}
    {r : PartitionRecord} (hr : t.LiveOn a.accelerator p r) : p ∈ made.map Produced.id := by
  by_contra hp
  obtain ⟨hfind, hdevice, hlive⟩ := hr
  cases hs : s.findPartition p with
  | none =>
    rw [h.missing p hp hs] at hfind
    cases hfind
  | some r₀ =>
    by_cases hin : p ∈ a.partitions
    · obtain ⟨r', hr', hretired⟩ := h.retired p r₀ hp hin hs
      obtain rfl := Option.some.inj (hfind.symm.trans hr')
      rw [hretired.state] at hlive
      cases hlive
    · rw [h.others p hp hin] at hfind
      exact hin (hlisted p r ⟨hfind, hdevice, hlive⟩)

/-- What the property says of each record before, in terms of the state before. -/
lemma Replaced.previous_iff (h : Replaced e a made working s t) :
    (∀ p r, s.LiveOn a.accelerator p r → ∃ r', t.findPartition p = some r' ∧ r'.state = .retired ∧
        r.generation ∈ r'.supersededGenerations) ↔
      ∀ p r, s.LiveOn a.accelerator p r →
        p ∈ a.partitions ∧ r.Supersedes ∧ p ∉ made.map Produced.id := by
  refine forall₂_congr fun p r ↦ forall_congr' fun hr ↦ ?_
  obtain ⟨hfind, -, hlive⟩ := hr
  constructor
  · rintro ⟨r', hr', hstate, hsuperseded⟩
    have hunrecorded : p ∉ made.map Produced.id := by
      intro hp
      obtain ⟨x, hx, rfl⟩ := List.mem_map.mp hp
      obtain ⟨k, hk, -, hactive, -⟩ := h.recorded x hx
      obtain rfl := Option.some.inj (hr'.symm.trans hk)
      cases hstate.symm.trans hactive
    by_cases hin : p ∈ a.partitions
    · obtain ⟨k, hk, hretired⟩ := h.retired p r hunrecorded hin hfind
      obtain rfl := Option.some.inj (hr'.symm.trans hk)
      exact ⟨hin, hretired.superseded.mp hsuperseded, hunrecorded⟩
    · rw [h.others p hunrecorded hin, hfind] at hr'
      obtain rfl := Option.some.inj hr'
      rw [hstate] at hlive
      cases hlive
  · rintro ⟨hin, hsupersedes, hunrecorded⟩
    obtain ⟨r', hr', hretired⟩ := h.retired p r hunrecorded hin hfind
    exact ⟨r', hr', hretired.state, hretired.superseded.mpr hsupersedes⟩

lemma Replaced.unassigned_iff (h : Replaced e a made working s t) :
    (∀ k x r, t.assignments.find? k = some x → ¬ s.LiveOn a.accelerator x.partition r) ↔
      ∀ k x r, s.assignments.find? k = some x → s.LiveOn a.accelerator x.partition r →
        k ∈ s.dropped a := by
  constructor
  · intro hall k x r hx hr
    by_contra hk
    refine hall k x r ?_ hr
    rw [h.assignments k, if_neg hk, hx]
  · intro hall k x r hx hr
    rw [h.assignments k] at hx
    by_cases hk : k ∈ s.dropped a
    · rw [if_pos hk] at hx
      cases hx
    · rw [if_neg hk] at hx
      exact hk (hall k x r hx hr)

/-- Where the layout was replaced, everything planned was recorded, and nothing else lives on the
device. -/
lemma Replaced.complete (h : Replaced e a made working s t)
    (hlisted : ∀ p r, s.LiveOn a.accelerator p r → p ∈ a.partitions)
    {live : List (PartitionId × PartitionRecord)} (hkeys : (live.map Prod.fst).Nodup)
    (hlive : ∀ p r, (p, r) ∈ live ↔ t.LiveOn a.accelerator p r)
    (hle : made.length ≤ live.length) :
    made.length = live.length ∧ (live.map Prod.fst).Perm (made.map Produced.id) := by
  have hsub : live.map Prod.fst ⊆ made.map Produced.id := by
    intro p hp
    obtain ⟨x, hx, rfl⟩ := List.mem_map.mp hp
    exact h.live_mem hlisted ((hlive x.1 x.2).mp hx)
  have hsubperm := hkeys.subperm hsub
  have hcount := hsubperm.length_le
  rw [List.length_map, List.length_map] at hcount
  refine ⟨Nat.le_antisymm hle hcount, hsubperm.perm_of_length_le ?_⟩
  rw [List.length_map, List.length_map]
  exact hle

/-- What lives on the device holds what was planned. -/
lemma live_sum (hrecorded : ∀ x ∈ made, RecordedAs e t x)
    {live : List (PartitionId × PartitionRecord)}
    (hfound : ∀ y ∈ live, t.findPartition y.1 = some y.2)
    (hids : (live.map Prod.fst).Perm (made.map Produced.id)) (d : ResourceDimension) :
    (live.map fun y ↦ y.2.resources.amount d).sum =
      (made.map fun x ↦ x.planned.resources.amount d).sum := by
  let amount (p : PartitionId) : ℕ :=
    ((t.findPartition p).map fun r ↦ r.resources.amount d).getD 0
  have hlive : live.map (fun y ↦ y.2.resources.amount d) = (live.map Prod.fst).map amount := by
    rw [List.map_map]
    refine List.map_congr_left fun y hy ↦ ?_
    change _ = ((t.findPartition y.1).map fun r ↦ r.resources.amount d).getD 0
    rw [hfound y hy]
    rfl
  have hmade : made.map (fun x ↦ x.planned.resources.amount d) =
      (made.map Produced.id).map amount := by
    rw [List.map_map]
    refine List.map_congr_left fun x hx ↦ ?_
    obtain ⟨r, hr, -, -, hresources, -⟩ := hrecorded x hx
    change _ = ((t.findPartition x.id).map fun r ↦ r.resources.amount d).getD 0
    rw [hr, ← hresources]
    rfl
  rw [hlive, hmade]
  exact (hids.map amount).sum_eq

/-- The records of what was produced, beside the observed partitions that they stand for. -/
lemma exists_live (hrecorded : ∀ x ∈ made, RecordedAs e t x)
    (htaken : ∀ x ∈ made, ∃ native, x.native = some native ∧ native.nativeId ≠ [] ∧
      x.planned.resources.equal native.resources = true) :
    ∃ live : List (PartitionId × PartitionRecord), live.map Prod.fst = made.map Produced.id ∧
      (∀ y ∈ live, t.findPartition y.1 = some y.2 ∧ y.2.accelerator = e.accelerator.id ∧
        y.2.state = .active) ∧
      List.Forall₂ (fun y native ↦ Represents y.2 native) live (made.filterMap Produced.native) := by
  induction made with
  | nil => exact ⟨[], rfl, List.forall_mem_nil _, List.Forall₂.nil⟩
  | cons x rest ih =>
    obtain ⟨live, hkeys, hfound, hpairs⟩ := ih
      (fun y hy ↦ hrecorded y (List.mem_cons_of_mem x hy))
      fun y hy ↦ htaken y (List.mem_cons_of_mem x hy)
    obtain ⟨r, hr, hdevice, hactive, hresources, hname⟩ := hrecorded x (List.mem_cons_self ..)
    obtain ⟨native, hnative, hnamed, hequal⟩ := htaken x (List.mem_cons_self ..)
    refine ⟨(x.id, r) :: live, ?_, ?_, ?_⟩
    · rw [List.map_cons, List.map_cons, hkeys]
    · exact List.forall_mem_cons.mpr ⟨⟨hr, hdevice, hactive⟩, hfound⟩
    · rw [List.filterMap_cons_some hnative]
      refine List.Forall₂.cons ⟨hnamed, ?_, ?_⟩ hpairs
      · rw [hname, hnative]
        rfl
      · rw [hresources]
        exact hequal

end Comparing

/-- A committed reconfiguration has replaced the layout exactly when it was replaceable. -/
theorem Reconfigures.replaced_iff
    (h : Reconfigures s key mutation (some layout) a reservation accelerator plan l working)
    (hlength : layout.partitions.length = plan.plannedPartitions.length)
    (hreplaced : Replaced ⟨accelerator, some layout, now⟩ a
      ((⟨accelerator, some layout, now⟩ : CommitEvidence).produced s plan.plannedPartitions []
        s.ids.next) working s t) :
    LayoutReplaced s t a.accelerator layout ↔ Replaceable s a accelerator plan layout l := by
  let e : CommitEvidence := ⟨accelerator, some layout, now⟩
  let made := e.produced s plan.plannedPartitions [] s.ids.next
  change Replaced e a made working s t at hreplaced
  have hmade : made.length ≤ plan.plannedPartitions.length := length_produced_le _ _ _
  constructor
  · rintro ⟨⟨live, hkeys, hlive, ⟨natives, hperm, hpairs⟩, m, hm, hbuckets⟩, hprevious,
      hunassigned⟩
    have hbefore := hreplaced.previous_iff.mp hprevious
    have hcount : live.length = plan.plannedPartitions.length := by
      rw [hpairs.length_eq, hperm.length_eq, hlength]
    obtain ⟨hsame, hids⟩ := hreplaced.complete (fun p r hr ↦ (hbefore p r hr).1) hkeys hlive
      (hmade.trans hcount.ge)
    have hall : made.length = plan.plannedPartitions.length := hsame.trans hcount
    obtain ⟨hknown, hroom⟩ := length_produced_iff.mp hall
    obtain ⟨htakes, hrange⟩ := produced_eq (e := e) rfl hall
    -- each recorded partition stands for an observed one
    have hstands : ∀ x ∈ made, ∃ native ∈ layout.partitions, native.nativeId ≠ [] ∧
        (x.native.map BackendNativePartition.nativeId).getD [] = native.nativeId ∧
          x.planned.resources.equal native.resources = true := by
      intro x hx
      obtain ⟨y, hy, hid⟩ := List.mem_map.mp (hids.mem_iff.mpr (List.mem_map_of_mem hx))
      obtain ⟨native, hnative, hrepresents⟩ := exists_of_forall₂ hpairs hy
      obtain ⟨r, hr, -, -, hresources, hname⟩ := hreplaced.recorded x hx
      rw [← hid, ((hlive y.1 y.2).mp hy).1] at hr
      obtain rfl := Option.some.inj hr
      refine ⟨native, hperm.mem_iff.mp hnative, hrepresents.named, ?_, ?_⟩
      · rw [← hname, hrepresents.name]
      · rw [← hresources]
        exact hrepresents.resources
    have hsome : ∀ x ∈ takenFor layout plan.plannedPartitions [], ∃ y ∈ made, x.1 = y.planned ∧
        ∃ native, y.native = some native ∧ x.2 = some native := by
      intro x hx
      rw [← htakes] at hx
      obtain ⟨y, hy, rfl⟩ := List.mem_map.mp hx
      obtain ⟨native, -, hnamed, hname, -⟩ := hstands y hy
      refine ⟨y, hy, rfl, ?_⟩
      cases htaken : y.native with
      | none =>
        rw [htaken] at hname
        exact absurd hname.symm hnamed
      | some m => exact ⟨m, rfl, rfl⟩
    have hnames : (layout.partitions.map BackendNativePartition.nativeId).Nodup := by
      have hall : (nativesFor layout plan.plannedPartitions []).Perm layout.partitions := by
        refine nativesFor_perm (fun x hx ↦ ?_) hlength
        obtain ⟨-, -, -, native, -, hnative⟩ := hsome x hx
        exact ⟨native, hnative⟩
      exact (hall.map _).nodup_iff.mp nativesFor_nodup
    refine ⟨hknown, hroom, fun hplanned ↦ ?_, fun x hx ↦ ?_, fun p r hr ↦ ?_, ?_,
      fun d b hb ↦ ?_⟩
    · obtain ⟨y, hy⟩ := List.exists_mem_of_length_pos
        (hcount ▸ List.length_pos_iff.mpr hplanned : 0 < live.length)
      obtain ⟨x, hx, hid⟩ := List.mem_map.mp (hids.mem_iff.mp (List.mem_map_of_mem hy))
      obtain ⟨r, hr, hdevice, -⟩ := hreplaced.recorded x hx
      obtain ⟨hfind, hlives, -⟩ := (hlive y.1 y.2).mp hy
      rw [hid, hfind] at hr
      obtain rfl := Option.some.inj hr
      exact hdevice.symm.trans hlives
    · obtain ⟨y, hy, hplanned, native, hnative, htaken⟩ := hsome x hx
      obtain ⟨m, hm, hnamed, hname, hequal⟩ := hstands y hy
      rw [hnative] at hname
      obtain rfl := List.inj_on_of_nodup_map hnames (mem_of_taken hx htaken).1 hm hname
      exact ⟨native, htaken, hnamed, hplanned ▸ hequal⟩
    · obtain ⟨hin, hsupersedes, hunrecorded⟩ := hbefore p r hr
      exact ⟨hin, hsupersedes, fun hp ↦ hunrecorded ((hrange p).mpr hp)⟩
    · exact hreplaced.unassigned_iff.mp hunassigned
    · obtain rfl := Option.some.inj (hreplaced.ledger.symm.trans hm)
      obtain ⟨hactive, hdraining, hheld⟩ := hbuckets d
      obtain ⟨hclosed, hothers⟩ := replaceLayout_ok h.closes d
      rw [live_sum hreplaced.recorded (fun y hy ↦ ((hlive y.1 y.2).mp hy).1) hids d] at hactive
      rw [planned_sum htakes d] at hactive
      simp only [List.mem_cons, List.not_mem_nil, or_false] at hb
      rcases hb with rfl | rfl | rfl
      · omega
      · have hdrained := hothers .draining (by decide) (by decide) (by decide)
        omega
      · have hfreed := hothers .reconfigurationHeld (by decide) (by decide) (by decide)
        omega
  · intro hcond
    have hall : (e.produced s plan.plannedPartitions [] s.ids.next).length =
        plan.plannedPartitions.length := length_produced_iff.mpr ⟨hcond.known, hcond.room⟩
    obtain ⟨htakes, hrange⟩ := produced_eq (e := e) rfl hall
    have htaken : ∀ x ∈ made, ∃ native, x.native = some native ∧ native.nativeId ≠ [] ∧
        x.planned.resources.equal native.resources = true := fun x hx ↦
      hcond.taken (x.planned, x.native) (htakes ▸ List.mem_map_of_mem hx)
    obtain ⟨live, hkeys, hfound, hpairs⟩ := exists_live hreplaced.recorded htaken
    have hnatives : made.filterMap Produced.native = nativesFor layout plan.plannedPartitions [] := by
      unfold nativesFor
      rw [← htakes, List.filterMap_map]
      rfl
    have hperm : (made.filterMap Produced.native).Perm layout.partitions := by
      rw [hnatives]
      refine nativesFor_perm (fun x hx ↦ ?_) hlength
      obtain ⟨native, hnative, -⟩ := hcond.taken x hx
      exact ⟨native, hnative⟩
    have hprevious := hreplaced.previous_iff.mpr fun p r hr ↦ by
      obtain ⟨hin, hsupersedes, hfresh⟩ := hcond.listed p r hr
      exact ⟨hin, hsupersedes, fun hp ↦ hfresh ((hrange p).mp hp)⟩
    refine ⟨⟨live, ?_, fun p r ↦ ?_, ⟨_, hperm, hpairs⟩, working, hreplaced.ledger, fun d ↦ ?_⟩,
      hprevious, hreplaced.unassigned_iff.mpr hcond.assignments⟩
    · rw [hkeys]
      exact (produced_sorted _ _ _).imp fun hlt ↦ ne_of_lt hlt
    · constructor
      · intro hy
        obtain ⟨hfind, hdevice, hactive⟩ := hfound _ hy
        refine ⟨hfind, ?_, by rw [show r.state = _ from hactive]; rfl⟩
        refine Eq.trans hdevice (hcond.own fun hempty ↦ ?_)
        have hmem : p ∈ made.map Produced.id := hkeys ▸ List.mem_map_of_mem hy
        have hnone := (hrange p).mp hmem
        rw [hempty, List.length_nil] at hnone
        omega
      · intro hr
        have hmem := hreplaced.live_mem (fun p r hr ↦ (hcond.listed p r hr).1) hr
        rw [← hkeys] at hmem
        obtain ⟨y, hy, rfl⟩ := List.mem_map.mp hmem
        obtain rfl := Option.some.inj (hr.1.symm.trans (hfound y hy).1)
        exact hy
    · have hlive := live_sum hreplaced.recorded (fun y hy ↦ (hfound y hy).1)
        (hkeys ▸ List.Perm.refl _) d
      rw [planned_sum htakes d] at hlive
      obtain ⟨hclosed, hothers⟩ := replaceLayout_ok h.closes d
      have hactive := hcond.capacity d .active (by simp)
      have hdraining := hcond.capacity d .draining (by simp)
      have hheld := hcond.capacity d .reconfigurationHeld (by simp)
      have hdrained := hothers .draining (by decide) (by decide) (by decide)
      have hfreed := hothers .reconfigurationHeld (by decide) (by decide) (by decide)
      exact ⟨by omega, by omega, by omega⟩

/-- Committed reconfigurations replace the layout of their device exactly when it was replaceable. -/
theorem replaces_layout_iff : ReplacesLayout s key mutation observed now ↔
    ∀ a reservation accelerator plan l working layout, observed = some layout →
      Reconfigures s key mutation observed a reservation accelerator plan l working →
        Replaceable s a accelerator plan layout l := by
  constructor
  · rintro h a reservation accelerator plan l working layout rfl hreconfigures
    obtain ⟨layout', hsame, hlength⟩ := hreconfigures.observed_some
    obtain rfl := Option.some.inj hsame
    obtain ⟨t, outcome, happly, hcommitted, hreplaced⟩ := hreconfigures.commits now
    obtain ⟨layout', hsame, hdone⟩ := h a t outcome hreconfigures.found hreconfigures.kind
      (a.state.inFlight_iff.mp hreconfigures.flight).1 happly hcommitted
    obtain rfl := Option.some.inj hsame
    exact (hreconfigures.replaced_iff hlength hreplaced).mp hdone
  · intro h a t outcome ha hkind hopen happly hcommitted
    obtain ⟨reservation, accelerator, plan, l, working, hreconfigures, hreplaced⟩ :=
      reconfiguration_cases ha hkind hopen happly hcommitted
    obtain ⟨layout, rfl, hlength⟩ := hreconfigures.observed_some
    exact ⟨layout, rfl, (hreconfigures.replaced_iff hlength hreplaced).mpr
      (h a reservation accelerator plan l working layout rfl hreconfigures)⟩

end Committing

namespace Sample

/-- A reconfiguration to one slice, whose resources the caller leaves out, is dispatched as attempt
5. -/
def unsized : List Op :=
  [.registerBackendAccelerator device 1,
    .setPolicy { makeDefaultPolicy 1 with allowDestructiveReconfiguration := true },
    .planReconfiguration 1 [{ target with resources := {} }]
      { profile := profile.id, allowDestructiveReconfiguration := true } 7,
    .executeReconfiguration 2 8]

end Sample

/-- The slice that was observed is recorded without its resources. -/
theorem reconfiguration_unsized : ¬ ∀ s key mutation observed now, fabric.Reachable anyOp s →
    ReplacesLayout s key mutation observed now := by
  intro h
  have hreach : fabric.Reachable anyOp (fabric.run Sample.unsized Sample.opened) :=
    System.Reachable.run (.initial ⟨_, _, rfl⟩) (by decide)
  have hreplaces := h _ 5 Sample.accepted (some (Sample.layout ["b"])) 9 hreach
  let s := fabric.run Sample.unsized Sample.opened
  change ReplacesLayout s 5 Sample.accepted (some (Sample.layout ["b"])) 9 at hreplaces
  have hattempt : (s.findAttempt 5).any (fun a ↦ !attemptSettled a.state &&
      decide (a.kind = .reconfigureLayout)) = true := by decide +kernel
  have hcommitted : (applyMutationResultLocked 5 Sample.accepted (some (Sample.layout ["b"])) 9
      s).2.toOption.any MutationOutcome.committed = true := by decide +kernel
  have hunsized : (applyMutationResultLocked 5 Sample.accepted (some (Sample.layout ["b"])) 9
      s).1.partitions.values.all (fun r ↦
        !r.resources.equal (Sample.native "b").resources) = true := by decide +kernel
  clear_value s
  obtain ⟨a, ha, htest⟩ := (Option.any_eq_true _ _).mp hattempt
  simp only [Bool.and_eq_true, Bool.not_eq_true', decide_eq_true_eq] at htest
  cases hrun : applyMutationResultLocked 5 Sample.accepted (some (Sample.layout ["b"])) 9 s with
  | mk t result =>
    rw [hrun] at hcommitted hunsized
    cases result with
    | error e => cases hcommitted
    | ok outcome =>
      obtain ⟨layout, hlayout, hreplaced⟩ := hreplaces a t outcome ha htest.2 htest.1 hrun hcommitted
      obtain rfl := Option.some.inj hlayout
      obtain ⟨live, -, hlive, ⟨natives, hperm, hpairs⟩, -⟩ := hreplaced.matched
      have hmem : Sample.native "b" ∈ natives :=
        hperm.mem_iff.mpr (List.mem_map_of_mem (List.mem_singleton_self _))
      obtain ⟨y, hy, hrepresents⟩ := exists_of_forall₂ hpairs.flip hmem
      have hvalue := List.all_eq_true.mp hunsized y.2
        (KeyedMap.mem_values.mpr ⟨y.1, ((hlive y.1 y.2).mp hy).1⟩)
      rw [hrepresents.resources] at hvalue
      cases hvalue

end PartitionFabric
