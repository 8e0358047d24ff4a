import PartitionFabric.Invariants.ImportAtomicity
import PartitionFabric.Invariants.Publication

/-!
When a reservation is all or nothing.

Capacity is held first; identities, records and the reservation are checked after it, and every
failure from there on erases the identities that were handed out and gives the capacity back.
-/

namespace PartitionFabric

open Procedure

variable {s t : FabricState} {plan : PartitionPlan} {now : UInt64}

section Ledger

variable {l l' : CapacityLedger} {needed : ResourceVector}

lemma plus_minus_self (v w : ResourceVector) : (v.plus w).minus w = v := by
  unfold ResourceVector.plus ResourceVector.minus
  congr 1
  funext d
  cases hd : w.has d with
  | true => simp [hd]
  | false => simp [hd]

lemma minus_plus_self (v w : ResourceVector) : (v.minus w).plus w = v := by
  unfold ResourceVector.plus ResourceVector.minus
  congr 1
  funext d
  cases hd : w.has d with
  | true => simp [hd]
  | false => simp [hd]

lemma minus_eq_self_iff {v w : ResourceVector} :
    v.minus w = v ↔ ∀ d, w.has d = true → w.values d = 0 := by
  constructor
  · intro h d hd
    have hvalue : (v.minus w).values d = v.values d := by rw [h]
    simp only [ResourceVector.minus, hd, if_true] at hvalue
    rw [UInt64.sub_eq_iff_eq_add] at hvalue
    simpa using hvalue
  · intro h
    unfold ResourceVector.minus
    congr 1
    funext d
    cases hd : w.has d with
    | true => simp [h d hd]
    | false => simp

/-- What holding an amount leaves behind. -/
lemma reserve_eq_ok (h : CapacityLedger.reserve needed l = (l', success)) :
    needed.empty = false ∧ CapacityLedger.Moved .free .reserved needed l l' ∧
      needed.mask &&& ~~~(l.buckets .free).mask = 0 ∧
      needed.mask &&& ~~~(l.buckets .reserved).mask = 0 ∧
      (∀ d, needed.has d = true → ResourceVector.Fits ((l.buckets .reserved).values d) d
        (needed.values d)) ∧
      (∀ d, needed.has d = true → needed.values d ≤ (l.buckets .free).values d) ∧
      l'.buckets = Function.update
        (Function.update l.buckets .free ((l.buckets .free).minus needed))
        .reserved ((l.buckets .reserved).plus needed) := by
  unfold CapacityLedger.reserve at h
  rw [require_bind] at h
  cases hempty : needed.empty with
  | true =>
    rw [hempty] at h
    cases h
  | false =>
    rw [hempty] at h
    have htransfer : CapacityLedger.transfer .free .reserved needed l = (l', success) := h
    have hne : CapacityBucket.free ≠ .reserved := by decide
    have hmoved : CapacityLedger.Moved .free .reserved needed l l' := by
      rcases CapacityLedger.transfer_spec hne needed l with ⟨m, hm, hmoved⟩ | ⟨e, he⟩
      · obtain rfl := (Prod.mk.inj (hm.symm.trans htransfer)).1
        exact hmoved
      · exact absurd (he.symm.trans htransfer) (by simp [success])
    obtain ⟨⟨x, y⟩, hmove⟩ :=
      CapacityLedger.transfer_isOk_iff.mp (congrArg Prod.snd htransfer)
    obtain ⟨m, hm, -, hbuckets⟩ := CapacityLedger.transfer_of_ok hmove
    obtain rfl := (Prod.mk.inj (hm.symm.trans htransfer)).1
    obtain ⟨-, hsub, hadd⟩ := moveCapacity_eq_ok.mp hmove
    obtain ⟨hfree, hle, rfl⟩ := ResourceVector.subAssign_eq_ok.mp hsub
    obtain ⟨hreserved, hfits, rfl⟩ := ResourceVector.addAssign_eq_ok.mp hadd
    exact ⟨rfl, hmoved, hfree, hreserved, hfits, hle, hbuckets⟩

/-- A refused amount leaves the ledger as it was. -/
lemma reserve_eq_error {e : Error} (h : CapacityLedger.reserve needed l = (l', .error e)) :
    l' = l := by
  unfold CapacityLedger.reserve at h
  rw [require_bind] at h
  split at h
  · have hne : CapacityBucket.free ≠ .reserved := by decide
    rcases CapacityLedger.transfer_spec hne needed l with ⟨m, hm, -⟩ | ⟨e', he⟩
    · cases hm.symm.trans h
    · exact (Prod.mk.inj (h.symm.trans he)).1
  · exact (Prod.mk.inj h).1.symm

/-- Capacity that was just held is given back exactly as it was: no share of what was free is beyond
the whole device, so all of it fits again. -/
lemma releaseReserved_of_reserve (h : CapacityLedger.reserve needed l = (l', success)) :
    CapacityLedger.releaseReserved needed l' = (l, success) := by
  obtain ⟨-, hmoved, hfree, hreserved, hfits, hle, hl'⟩ := reserve_eq_ok h
  have hf : l'.buckets .free = (l.buckets .free).minus needed := by rw [hl']; rfl
  have hr : l'.buckets .reserved = (l.buckets .reserved).plus needed := by rw [hl']; rfl
  have hsub : ResourceVector.subAssign needed (l'.buckets .reserved) =
      (l.buckets .reserved, .ok ()) := by
    rw [hr, ResourceVector.subAssign_eq_ok]
    refine ⟨hreserved, fun d hd ↦ ?_, (plus_minus_self _ _).symm⟩
    simp only [ResourceVector.plus, hd, if_true]
    rw [UInt64.le_iff_toNat_le, ResourceVector.toNat_add_of_lt (hfits d hd).1]
    exact Nat.le_add_left _ _
  have hsubset : needed.isSubsetOf (l'.buckets .reserved) = true := by
    rw [ResourceVector.isSubsetOf_iff, hr]
    refine fun d hd ↦ ⟨hasBit_of_subset hreserved hd, ?_⟩
    simp only [ResourceVector.plus, hd, if_true]
    rw [UInt64.le_iff_toNat_le, ResourceVector.toNat_add_of_lt (hfits d hd).1]
    exact Nat.le_add_left _ _
  have hback (d : ResourceDimension) (hd : needed.has d = true) :
      ((l'.buckets .free).values d).toNat + (needed.values d).toNat =
        ((l.buckets .free).values d).toNat := by
    rw [hf]
    simp only [ResourceVector.minus, hd, if_true]
    rw [UInt64.toNat_sub_of_le _ _ (hle d hd)]
    exact Nat.sub_add_cancel (UInt64.le_iff_toNat_le.mp (hle d hd))
  have hshares := (ResourceVector.validateDimensions_eq_ok.mp (l.validBuckets .free)).2
  have hadd : ResourceVector.addAssign needed (l'.buckets .free) = (l.buckets .free, .ok ()) := by
    rw [ResourceVector.addAssign_eq_ok]
    refine ⟨by rw [hf]; exact hfree, fun d hd ↦ ⟨?_, fun hshare ↦ ?_⟩, ?_⟩
    · rw [hback d hd]
      exact UInt64.toNat_lt _
    · rw [hback d hd]
      exact UInt64.le_iff_toNat_le.mp (hshares d (hasBit_of_subset hfree hd) hshare)
    · rw [hf, minus_plus_self]
  have hmove := moveCapacity_eq_ok.mpr ⟨hsubset, hsub, hadd⟩
  obtain ⟨m, hm, htotal, hbuckets⟩ := CapacityLedger.transfer_of_ok hmove
  have hrestored : m = l := by
    refine CapacityLedger.ext ?_ (htotal.trans hmoved.total)
    rw [hbuckets, hl']
    funext b
    cases b <;> rfl
  rw [← hrestored]
  exact hm

/-- Holding an amount changes nothing exactly when there is nothing to hold. -/
lemma reserve_eq_self_iff (h : CapacityLedger.reserve needed l = (l', success)) :
    l' = l ↔ ∀ d, needed.has d = true → needed.values d = 0 := by
  obtain ⟨-, hmoved, -, -, -, -, hl'⟩ := reserve_eq_ok h
  have hf : l'.buckets .free = (l.buckets .free).minus needed := by rw [hl']; rfl
  refine ⟨fun hsame ↦ ?_, fun hzero ↦ ?_⟩
  · rw [← minus_eq_self_iff, ← hf, hsame]
  · have hminus : (l.buckets .free).minus needed = l.buckets .free := minus_eq_self_iff.mpr hzero
    have hplus : (l.buckets .reserved).plus needed = l.buckets .reserved := by
      have hreservedKept : (l.buckets .reserved).minus needed = l.buckets .reserved :=
        minus_eq_self_iff.mpr hzero
      calc (l.buckets .reserved).plus needed
          = ((l.buckets .reserved).minus needed).plus needed := by rw [hreservedKept]
        _ = l.buckets .reserved := minus_plus_self _ _
    refine CapacityLedger.ext ?_ hmoved.total
    rw [hl', hminus, hplus, Function.update_eq_self, Function.update_eq_self]

/-- One step of summing up what the partitions of a plan need. -/
def addPlanned (out : ResourceVector) (planned : PlannedPartition) : Result ResourceVector :=
  if out.empty then .ok planned.resources
  else match ResourceVector.addAssign planned.resources out with
    | (sum, .ok _) => .ok sum
    | (_, .error e) => .error e

lemma accumulate_eq_foldlM (desired : List PlannedPartition) :
    accumulate desired = desired.foldlM addPlanned {} := rfl

lemma addPlanned_eq_ok {out sum : ResourceVector} {planned : PlannedPartition} :
    addPlanned out planned = .ok sum ↔ out.empty = true ∧ sum = planned.resources ∨
      out.empty = false ∧ planned.resources.mask &&& ~~~out.mask = 0 ∧
        (∀ d, planned.resources.has d = true →
          ResourceVector.Fits (out.values d) d (planned.resources.values d)) ∧
        sum = out.plus planned.resources := by
  unfold addPlanned
  cases hempty : out.empty with
  | true =>
    rw [if_pos rfl]
    constructor
    · intro h
      exact .inl ⟨rfl, (Except.ok.inj h).symm⟩
    · rintro (⟨-, rfl⟩ | ⟨h, -⟩)
      · rfl
      · cases h
  | false =>
    rw [if_neg Bool.false_ne_true]
    have hadd (w : ResourceVector) :=
      @ResourceVector.addAssign_eq_ok out planned.resources w
    rcases hrun : ResourceVector.addAssign planned.resources out with ⟨w, e | u⟩
    · refine iff_of_false (by simp) fun h ↦ ?_
      obtain ⟨-, hmask, hfits, -⟩ := h.resolve_left (by simp)
      have hok := (hadd _).mpr ⟨hmask, hfits, rfl⟩
      rw [hrun] at hok
      cases hok
    · obtain ⟨hmask, hfits, rfl⟩ := (hadd w).mp hrun
      constructor
      · intro h
        exact .inr ⟨rfl, hmask, hfits, (Except.ok.inj h).symm⟩
      · rintro (⟨h, -⟩ | ⟨-, -, -, rfl⟩)
        · cases h
        · rfl

/-- The needs of a plan are the sums of what its partitions need. -/
lemma accumulate_amount {desired : List PlannedPartition} {needed : ResourceVector}
    (h : accumulate desired = .ok needed) (d : ResourceDimension) :
    needed.amount d = (desired.map fun planned ↦ planned.resources.amount d).sum := by
  have hloop : ∀ (desired : List PlannedPartition) (out : ResourceVector),
      desired.foldlM addPlanned out = .ok needed → needed.amount d = out.amount d +
        (desired.map fun planned ↦ planned.resources.amount d).sum := by
    intro desired
    induction desired with
    | nil =>
      intro out hout
      obtain rfl := Except.ok.inj hout
      simp
    | cons planned rest ih =>
      intro out hout
      rw [List.foldlM_cons] at hout
      cases hstep : addPlanned out planned with
      | error e =>
        rw [hstep] at hout
        cases hout
      | ok sum =>
        rw [hstep] at hout
        rw [List.map_cons, List.sum_cons, ← Nat.add_assoc, ih sum hout]
        rcases addPlanned_eq_ok.mp hstep with ⟨hempty, rfl⟩ | ⟨-, hmask, hfits, rfl⟩
        · have hnone : out.has d = false := by
            have hmask : out.mask = 0 := by simpa [ResourceVector.empty] using hempty
            simp [ResourceVector.has, hasBit, hmask]
          rw [ResourceVector.amount_of_not_has hnone, Nat.zero_add]
        · rw [ResourceVector.amount_plus hmask hfits]
  rw [hloop desired {} h]
  simp [ResourceVector.amount, ResourceVector.get]

/-- The sum describes what one of the summed up partitions describes. -/
lemma accumulate_has {desired : List PlannedPartition} (h : accumulate desired = .ok needed)
    (d : ResourceDimension) :
    needed.has d = true ↔ ∃ planned ∈ desired, planned.resources.has d = true := by
  have hloop : ∀ (desired : List PlannedPartition) (out : ResourceVector),
      desired.foldlM addPlanned out = .ok needed → (needed.has d = true ↔ out.has d = true ∨
        ∃ planned ∈ desired, planned.resources.has d = true) := by
    intro desired
    induction desired with
    | nil =>
      intro out hout
      obtain rfl := Except.ok.inj hout
      simp
    | cons planned rest ih =>
      intro out hout
      rw [List.foldlM_cons] at hout
      cases hstep : addPlanned out planned with
      | error e =>
        rw [hstep] at hout
        cases hout
      | ok sum =>
        rw [hstep] at hout
        have hhead : (∃ p ∈ planned :: rest, p.resources.has d = true) ↔
            planned.resources.has d = true ∨ ∃ p ∈ rest, p.resources.has d = true := by simp
        rw [ih sum hout, hhead, ← or_assoc]
        refine or_congr_left ?_
        rcases addPlanned_eq_ok.mp hstep with ⟨hempty, rfl⟩ | ⟨-, hmask, -, rfl⟩
        · have hnone : out.has d = false := by
            have hzero : out.mask = 0 := by simpa [ResourceVector.empty] using hempty
            simp [ResourceVector.has, hasBit, hzero]
          simp [hnone]
        · have hsubset (hd : planned.resources.has d = true) : out.has d = true :=
            hasBit_of_subset hmask hd
          exact ⟨Or.inl, fun hd ↦ hd.elim id hsubset⟩
  rw [hloop desired {} h]
  simp [ResourceVector.has, hasBit]

end Ledger

section Records

/-- The records that a plan's partitions get from an identity on, up to the first refused one. -/
def recordsFrom (s : FabricState) (plan : PartitionPlan) (now : UInt64) :
    UInt64 → List PlannedPartition → List PartitionRecord
  | _, [] => []
  | id, planned :: rest =>
    if id ≠ uint64Max ∧ (reservedRecord s plan planned id now).validate = success then
      reservedRecord s plan planned id now :: recordsFrom s plan now (id + 1) rest
    else []

lemma recordsFrom_congr (hprofiles : t.profiles = s.profiles)
    (haccelerators : t.accelerators = s.accelerators) (id : UInt64)
    (desired : List PlannedPartition) :
    recordsFrom t plan now id desired = recordsFrom s plan now id desired := by
  have hrecord (planned : PlannedPartition) (id : PartitionId) :
      reservedRecord t plan planned id now = reservedRecord s plan planned id now := by
    unfold reservedRecord FabricState.findProfile FabricState.findAccelerator
    rw [hprofiles, haccelerators]
  induction desired generalizing id with
  | nil => rfl
  | cons planned rest ih =>
    unfold recordsFrom
    rw [hrecord, ih]

/-- The records stand under increasing identities. -/
lemma recordsFrom_le {id : UInt64} {desired : List PlannedPartition} {r : PartitionRecord}
    (hr : r ∈ recordsFrom s plan now id desired) : id ≤ r.id := by
  induction desired generalizing id with
  | nil => cases hr
  | cons planned rest ih =>
    unfold recordsFrom at hr
    split at hr
    · rename_i h
      rcases List.mem_cons.mp hr with rfl | hr
      · exact le_refl id
      · exact (le_of_lt (lt_add_one h.1)).trans (ih hr)
    · cases hr

lemma recordsFrom_nodup (id : UInt64) (desired : List PlannedPartition) :
    ((recordsFrom s plan now id desired).map PartitionRecord.id).Nodup := by
  induction desired generalizing id with
  | nil => exact List.nodup_nil
  | cons planned rest ih =>
    unfold recordsFrom
    split
    · rename_i h
      rw [List.map_cons, List.nodup_cons]
      refine ⟨fun hmem ↦ ?_, ih _⟩
      obtain ⟨r, hr, hid⟩ := List.mem_map.mp hmem
      have hle : id + 1 ≤ r.id := recordsFrom_le hr
      rw [hid] at hle
      exact absurd (lt_add_one h.1) (not_lt.mpr hle)
    · exact List.nodup_nil

/-- The records of a complete reservation are those of its planned partitions in order. -/
lemma recordsFrom_planned {id : UInt64} {desired : List PlannedPartition}
    (h : (recordsFrom s plan now id desired).length = desired.length) :
    List.Forall₂ (fun r planned ↦ r = reservedRecord s plan planned r.id now)
      (recordsFrom s plan now id desired) desired := by
  induction desired generalizing id with
  | nil => exact .nil
  | cons planned rest ih =>
    unfold recordsFrom at h ⊢
    split
    · rename_i hid
      rw [if_pos hid, List.length_cons, List.length_cons] at h
      exact .cons rfl (ih (Nat.succ.inj h))
    · rename_i hid
      rw [if_neg hid] at h
      cases h

/-- Records are stored under their identities. -/
def storeRecords (m : KeyedMap PartitionId PartitionRecord) (l : List PartitionRecord) :
    KeyedMap PartitionId PartitionRecord := l.foldl (fun m r ↦ m.insert r.id r) m

lemma attempt_allocateId_exhausted (h : s.ids.next = uint64Max) :
    Procedure.attempt allocateId s =
      (s, .ok (failure .overflow "identity space exhausted")) := by
  rw [attempt_apply]
  unfold allocateId IdAllocator.allocate
  rw [if_pos h]
  rfl

lemma attempt_allocateId (h : s.ids.next ≠ uint64Max) :
    Procedure.attempt allocateId s =
      ({ s with ids := ⟨s.ids.next + 1⟩ }, .ok (.ok s.ids.next)) := by
  rw [attempt_apply]
  unfold allocateId IdAllocator.allocate
  rw [if_neg h]

/-- The loop records exactly these partitions and reports whether it got to the end. -/
lemma reservePartitions_eq (plan : PartitionPlan) (now : UInt64) (desired : List PlannedPartition)
    (ids : List PartitionId) (s : FabricState) :
    ∃ allocator status, reservePartitions plan now desired ids s =
        ({ s with
            ids := allocator
            partitions :=
              storeRecords s.partitions (recordsFrom s plan now s.ids.next desired) },
          .ok (ids ++ (recordsFrom s plan now s.ids.next desired).map PartitionRecord.id,
            status)) ∧
      (status = success ↔ (recordsFrom s plan now s.ids.next desired).length =
        desired.length) := by
  induction desired generalizing ids s with
  | nil => exact ⟨s.ids, success, by simp [reservePartitions, recordsFrom, storeRecords], by
      simp [recordsFrom]⟩
  | cons planned rest ih =>
    unfold reservePartitions recordsFrom
    by_cases hmax : s.ids.next = uint64Max
    · rw [bind_ok (attempt_allocateId_exhausted hmax), if_neg fun h ↦ h.1 hmax]
      exact ⟨s.ids, _, by simp [storeRecords]; rfl, by simp [success]⟩
    · let t : FabricState := { s with ids := ⟨s.ids.next + 1⟩ }
      have halloc : Procedure.attempt allocateId s = (t, .ok (.ok s.ids.next)) :=
        attempt_allocateId hmax
      have hrecord : reservedRecord t plan planned s.ids.next now =
          reservedRecord s plan planned s.ids.next now := rfl
      rw [bind_ok halloc]
      simp only [get_bind]
      rw [hrecord]
      cases hvalid : (reservedRecord s plan planned s.ids.next now).validate with
      | error e =>
        rw [if_neg fun h ↦ by cases h.2]
        exact ⟨t.ids, _, by simp [storeRecords, t]; rfl, by simp [success]⟩
      | ok u =>
        rw [if_pos ⟨hmax, rfl⟩]
        let v : FabricState := { t with
          partitions := t.partitions.insert s.ids.next (reservedRecord s plan planned s.ids.next now) }
        obtain ⟨allocator, status, hrun, hstatus⟩ := ih (ids ++ [s.ids.next]) v
        have hrest : recordsFrom v plan now v.ids.next rest =
            recordsFrom s plan now (s.ids.next + 1) rest :=
          recordsFrom_congr (s := s) (t := v) rfl rfl _ _
        rw [hrest] at hrun hstatus
        refine ⟨allocator, status, ?_, ?_⟩
        · change reservePartitions plan now rest (ids ++ [s.ids.next]) v = _
          rw [hrun, List.map_cons, List.append_assoc]
          rfl
        · rw [hstatus, List.length_cons, List.length_cons, Nat.succ_inj]

lemma find?_storeRecords_of_not_mem {m : KeyedMap PartitionId PartitionRecord}
    {l : List PartitionRecord} {k : PartitionId} (h : k ∉ l.map PartitionRecord.id) :
    (storeRecords m l).find? k = m.find? k := by
  induction l generalizing m with
  | nil => rfl
  | cons r rest ih =>
    rw [List.map_cons, List.mem_cons, not_or] at h
    change (storeRecords (m.insert r.id r) rest).find? k = _
    rw [ih h.2, KeyedMap.find?_insert_of_ne _ _ h.1]

lemma find?_storeRecords {m : KeyedMap PartitionId PartitionRecord} {l : List PartitionRecord}
    {r : PartitionRecord} (hnodup : (l.map PartitionRecord.id).Nodup) (hr : r ∈ l) :
    (storeRecords m l).find? r.id = some r := by
  induction l generalizing m with
  | nil => cases hr
  | cons q rest ih =>
    rw [List.map_cons, List.nodup_cons] at hnodup
    change (storeRecords (m.insert q.id q) rest).find? r.id = _
    rcases List.mem_cons.mp hr with rfl | hr
    · rw [find?_storeRecords_of_not_mem hnodup.1, KeyedMap.find?_insert_self]
    · exact ih hnodup.2 hr

/-- Taking records back erases their keys. -/
lemma forM_erase (ids : List PartitionId) (s : FabricState) :
    ∃ m, (ids.forM fun p ↦ Procedure.modify fun s ↦
        { s with partitions := s.partitions.erase p } : FabricM Unit) s =
      ({ s with partitions := m }, .ok ()) ∧
        ∀ k, m.find? k = if k ∈ ids then none else s.partitions.find? k := by
  induction ids generalizing s with
  | nil => exact ⟨s.partitions, rfl, fun k ↦ by simp⟩
  | cons p rest ih =>
    obtain ⟨m, hrun, hm⟩ := ih { s with partitions := s.partitions.erase p }
    refine ⟨m, hrun, fun k ↦ ?_⟩
    rw [hm]
    by_cases hrest : k ∈ rest
    · rw [if_pos hrest, if_pos (List.mem_cons_of_mem _ hrest)]
    · rw [if_neg hrest, KeyedMap.find?_erase]
      by_cases hk : k = p
      · rw [if_pos hk, if_pos (hk ▸ List.mem_cons_self)]
      · rw [if_neg hk, if_neg fun hmem ↦ (List.mem_cons.mp hmem).elim hk hrest]

/-- What is left when recorded partitions are taken back is what was there before, exactly when the
records replaced nothing. -/
lemma takenBack_iff {m : KeyedMap PartitionId PartitionRecord} {l : List PartitionRecord}
    {m' : KeyedMap PartitionId PartitionRecord}
    (hm' : ∀ k, m'.find? k = if k ∈ l.map PartitionRecord.id then none
      else (storeRecords m l).find? k) :
    m' = m ↔ ∀ r ∈ l, m.find? r.id = none := by
  constructor
  · rintro rfl r hr
    rw [hm', if_pos (List.mem_map_of_mem hr)]
  · intro h
    apply KeyedMap.ext_find?
    intro k
    rw [hm']
    split
    · rename_i hk
      obtain ⟨r, hr, rfl⟩ := List.mem_map.mp hk
      exact (h r hr).symm
    · rename_i hk
      exact find?_storeRecords_of_not_mem hk

end Records

section Rollback

/-- No ledger, no partition and no live reservation changed. -/
structure Unmoved (s t : FabricState) : Prop where
  ledgers : t.ledgers = s.ledgers
  partitions : t.partitions = s.partitions
  reservations : ∀ k r, reservationIsTerminal r.lifecycle = false →
    (t.findReservation k = some r ↔ s.findReservation k = some r)

/-- What the planned partitions need of a dimension. -/
def PartitionPlan.plannedAmount (plan : PartitionPlan) (d : ResourceDimension) : ℕ :=
  (plan.plannedPartitions.map fun planned ↦ planned.resources.amount d).sum

/-- A new partition is reserved and holds exactly what was planned. -/
def RecordedFor (s t : FabricState) (p : PartitionId) (planned : PlannedPartition) : Prop :=
  s.findPartition p = none ∧ ∃ r, t.findPartition p = some r ∧ r.id = p ∧ r.state = .reserved ∧
    r.heldBucket = some .reserved ∧ r.resources = planned.resources

/-- The needs of a plan moved from free to reserved, its partitions were recorded, and nothing else
changed in the ledgers and the partitions. -/
structure ReservedExactly (s t : FabricState) (plan : PartitionPlan) (r : PartitionReservation) :
    Prop where
  ledger : ∃ l l', s.findLedger plan.binding.accelerator = some l ∧
    t.findLedger plan.binding.accelerator = some l' ∧ l'.total = l.total ∧
    (∀ d, (l'.buckets .free).amount d + plan.plannedAmount d = (l.buckets .free).amount d) ∧
    (∀ d, (l'.buckets .reserved).amount d = (l.buckets .reserved).amount d + plan.plannedAmount d) ∧
    ∀ b, b ≠ .free → b ≠ .reserved → l'.buckets b = l.buckets b
  ledgers : ∀ k, k ≠ plan.binding.accelerator → t.findLedger k = s.findLedger k
  partitions : List.Forall₂ (RecordedFor s t) r.partitions plan.plannedPartitions
  distinct : r.partitions.Nodup
  others : ∀ k, k ∉ r.partitions → t.findPartition k = s.findPartition k

/-- A failure moved nothing, and a success moved exactly the plan. -/
def Indivisible (s : FabricState) (planId : PartitionPlanId) :
    FabricState × Result PartitionReservation → Prop
  | (t, .error _) => Unmoved s t
  | (t, .ok r) => ∃ plan, s.plans.find? planId = some plan ∧ ReservedExactly s t plan r

/-- A reservation moves exactly its plan or nothing at all. -/
def AllOrNothing (s : FabricState) (planId : PartitionPlanId) (now : UInt64) : Prop :=
  Indivisible s planId (reserve planId now s)

/-- A reservation passes every check up to the ledger. -/
structure ReachesLedger (s : FabricState) (planId : PartitionPlanId) (now : UInt64)
    (plan : PartitionPlan) (needed : ResourceVector) : Prop where
  opened : s.closed = false
  found : s.plans.find? planId = some plan
  feasible : plan.feasible = true
  current : validatePlanBinding s plan now s.policy.requireFreshEvidence = success
  creation : plan.outcome ≠ .feasibleAfterReconfiguration
  active : s.reservations.values.countP PartitionReservation.holdsCapacity <
    s.limits.maxActiveReservations
  room : s.reservations.size < s.limits.maxReservations ∨
    (reservationsLeft s).size < s.limits.maxReservations
  needs : accumulate plan.plannedPartitions = .ok needed

/-- The records that a reservation makes before it completes or fails. -/
def plannedRecords (s : FabricState) (plan : PartitionPlan) (now : UInt64) : List PartitionRecord :=
  if s.ids.next = uint64Max then []
  else recordsFrom s plan now (s.ids.next + 1) plan.plannedPartitions

/-- A reservation that reaches the ledger finds one; when it then holds capacity, it records its
partitions under identities that no partition has. -/
def ReservesCleanly (s : FabricState) (planId : PartitionPlanId) (now : UInt64) : Prop :=
  ∀ plan needed, ReachesLedger s planId now plan needed →
    ∃ l, s.findLedger plan.binding.accelerator = some l ∧
      ((CapacityLedger.reserve needed l).2 = success →
        ∀ r ∈ plannedRecords s plan now, s.findPartition r.id = none)

/-- What a reservation does once its needs are known. -/
def holdPlanned (planId : PartitionPlanId) (plan : PartitionPlan) (needed : ResourceVector)
    (now : UInt64) : FabricM PartitionReservation := do
  Procedure.modify (touchLedger plan.binding.accelerator)
  onLedger plan.binding.accelerator (CapacityLedger.reserve needed)
  match ← Procedure.attempt allocateId with
  | .error e => do
    Procedure.ignore (onLedger plan.binding.accelerator (CapacityLedger.releaseReserved needed))
    Procedure.throw e
  | .ok id => completeReservation planId plan needed id now

/-- Room is made at the cost of terminal reservations only. -/
lemma find?_reservationsLeft {k : PartitionReservationId} {r : PartitionReservation}
    (hr : reservationIsTerminal r.lifecycle = false) :
    (reservationsLeft s).find? k = some r ↔ s.reservations.find? k = some r := by
  unfold reservationsLeft
  rcases KeyedMap.find?_prune (m := s.reservations)
    (fun r : PartitionReservation ↦ reservationIsTerminal r.lifecycle)
    (s.limits.maxReservations - 1) k with h | ⟨h, v, hv, hterminal⟩
  · rw [h]
  · rw [h, hv]
    refine iff_of_false (fun h ↦ by cases h) fun h ↦ ?_
    obtain rfl := Option.some.inj h
    rw [hr] at hterminal
    cases hterminal

lemma Unmoved.refl (s : FabricState) : Unmoved s s := ⟨rfl, rfl, fun _ _ _ ↦ Iff.rfl⟩

/-- Making room fails only when the live reservations fill the registry. -/
lemma makeReservationRoom_eq (s : FabricState) :
    ∃ m status, makeReservationRoom s = ({ s with reservations := m }, status) ∧
      (∀ k r, reservationIsTerminal r.lifecycle = false →
        (m.find? k = some r ↔ s.reservations.find? k = some r)) ∧
      (status = success ↔ s.reservations.size < s.limits.maxReservations ∨
        (reservationsLeft s).size < s.limits.maxReservations) := by
  unfold makeReservationRoom
  rw [get_bind]
  cases hfull : decide (s.reservations.size ≥ s.limits.maxReservations) with
  | false =>
    have hroom : s.reservations.size < s.limits.maxReservations :=
      not_le.mp (of_decide_eq_false hfull)
    exact ⟨s.reservations, success, rfl, fun _ _ _ ↦ Iff.rfl, iff_of_true rfl (Or.inl hroom)⟩
  | true =>
    have hfull' := not_lt.mpr (of_decide_eq_true hfull)
    rw [when_true, modify_bind, get_bind]
    change ∃ m status, require (decide ((reservationsLeft s).size < s.limits.maxReservations)) _
      { s with reservations := reservationsLeft s } = _ ∧ _
    cases hleft : decide ((reservationsLeft s).size < s.limits.maxReservations) with
    | true =>
      exact ⟨reservationsLeft s, success, rfl, fun _ _ hr ↦ find?_reservationsLeft hr,
        iff_of_true rfl (Or.inr (of_decide_eq_true hleft))⟩
    | false =>
      refine ⟨reservationsLeft s, _, rfl, fun _ _ hr ↦ find?_reservationsLeft hr,
        iff_of_false (fun h ↦ by cases h) fun h ↦ ?_⟩
      exact h.elim hfull' (of_decide_eq_false hleft)

/-- A reservation is refused before it moves anything, or it holds what its plan needs. -/
lemma reserve_cases (s : FabricState) (planId : PartitionPlanId) (now : UInt64) :
    (∃ t e, reserve planId now s = (t, .error e) ∧ Unmoved s t ∧
      ∀ plan needed, ¬ReachesLedger s planId now plan needed) ∨
    ∃ plan needed m, ReachesLedger s planId now plan needed ∧
      (∀ k r, reservationIsTerminal r.lifecycle = false →
        (m.find? k = some r ↔ s.reservations.find? k = some r)) ∧
      reserve planId now s = holdPlanned planId plan needed now { s with reservations := m } := by
  unfold reserve
  rcases Bool.eq_false_or_eq_true s.closed with hclosed | hclosed
  · rw [bind_error (checkOpen_closed hclosed)]
    refine Or.inl ⟨s, _, rfl, .refl s, fun plan needed h ↦ ?_⟩
    exact absurd (hclosed.symm.trans h.opened) (by decide)
  · rw [bind_ok (checkOpen_opened hclosed), get_bind]
    cases hplan : s.plans.find? planId with
    | none =>
      refine Or.inl ⟨s, _, rfl, .refl s, fun plan needed h ↦ ?_⟩
      exact absurd (hplan.symm.trans h.found) (Option.some_ne_none plan).symm
    | some plan =>
      have hsame {plan' : PartitionPlan} {needed : ResourceVector}
          (h : ReachesLedger s planId now plan' needed) : plan' = plan :=
        Option.some.inj (h.found.symm.trans hplan)
      simp only [require_bind]
      cases hfeasible : plan.feasible with
      | false =>
        refine Or.inl ⟨s, _, rfl, .refl s, fun plan' needed h ↦ ?_⟩
        obtain rfl := hsame h
        exact absurd (hfeasible.symm.trans h.feasible) (by decide)
      | true =>
        rw [if_pos rfl]
        cases hbinding : validatePlanBinding s plan now s.policy.requireFreshEvidence with
        | error e =>
          refine Or.inl ⟨_, e, rfl, ⟨rfl, rfl, fun _ _ _ ↦ Iff.rfl⟩, fun plan' needed h ↦ ?_⟩
          obtain rfl := hsame h
          exact absurd (hbinding.symm.trans h.current) (by simp [success])
        | ok u =>
          simp only
          cases houtcome : decide (plan.outcome ≠ .feasibleAfterReconfiguration) with
          | false =>
            refine Or.inl ⟨s, _, rfl, .refl s, fun plan' needed h ↦ ?_⟩
            obtain rfl := hsame h
            exact of_decide_eq_false houtcome h.creation
          | true =>
            rw [require_bind, if_pos rfl]
            cases hactive : decide (s.reservations.values.countP PartitionReservation.holdsCapacity <
                s.limits.maxActiveReservations) with
            | false =>
              refine Or.inl ⟨s, _, rfl, .refl s, fun plan' needed h ↦ ?_⟩
              exact of_decide_eq_false hactive h.active
            | true =>
              rw [require_bind, if_pos rfl]
              obtain ⟨m, status, hrun, hlive, hstatus⟩ := makeReservationRoom_eq s
              cases status with
              | error e =>
                rw [bind_error hrun]
                refine Or.inl ⟨_, e, rfl, ⟨rfl, rfl, hlive⟩, fun plan' needed h ↦ ?_⟩
                exact absurd (hstatus.mpr h.room) (by simp [success])
              | ok u =>
                rw [bind_ok hrun]
                cases hneeds : accumulate plan.plannedPartitions with
                | error e =>
                  refine Or.inl ⟨_, e, rfl, ⟨rfl, rfl, hlive⟩, fun plan' needed h ↦ ?_⟩
                  obtain rfl := hsame h
                  exact absurd (hneeds.symm.trans h.needs) (by simp)
                | ok needed =>
                  refine Or.inr ⟨plan, needed, m, ⟨hclosed, hplan, hfeasible, hbinding,
                    of_decide_eq_true houtcome, of_decide_eq_true hactive, hstatus.mp rfl,
                    hneeds⟩, hlive, rfl⟩

lemma insert_insert_eq_iff {m : KeyedMap AcceleratorId CapacityLedger} {k : AcceleratorId}
    {l l' x : CapacityLedger} (hl : m.find? k = some l) :
    (m.insert k l').insert k x = m ↔ x = l := by
  constructor
  · intro h
    have hfind : ((m.insert k l').insert k x).find? k = m.find? k := by rw [h]
    rw [KeyedMap.find?_insert_self, hl] at hfind
    exact Option.some.inj hfind
  · rintro rfl
    apply KeyedMap.ext_find?
    intro j
    by_cases hj : j = k
    · rw [hj, KeyedMap.find?_insert_self, hl]
    · rw [KeyedMap.find?_insert_of_ne _ _ hj, KeyedMap.find?_insert_of_ne _ _ hj]

lemma onLedger_eq {u : FabricState} {id : AcceleratorId} {l : CapacityLedger} {op : LedgerM Unit}
    (hl : u.findLedger id = some l) :
    onLedger id op u = (u.setLedger id (op l).1, (op l).2) := by
  unfold onLedger
  rw [hl]

/-- Taking a reservation back leaves the ledgers and the partitions of before exactly when the
records replaced nothing. -/
lemma abandonReservation_iff (planId : PartitionPlanId) (e : Error) {u : FabricState}
    {l l' : CapacityLedger} {needed : ResourceVector} {id : AcceleratorId}
    {records : List PartitionRecord}
    (hl : s.ledgers.find? id = some l) (hheld : CapacityLedger.reserve needed l = (l', success))
    (hledgers : u.ledgers = s.ledgers.insert id l')
    (hpartitions : u.partitions = storeRecords s.partitions records)
    (hlive : ∀ k r, reservationIsTerminal r.lifecycle = false →
      (u.findReservation k = some r ↔ s.findReservation k = some r)) :
    Indivisible s planId (abandonReservation id needed (records.map PartitionRecord.id) e u) ↔
      ∀ r ∈ records, s.findPartition r.id = none := by
  obtain ⟨m, hrun, hm⟩ := forM_erase (records.map PartitionRecord.id) u
  let v : FabricState := { u with partitions := m }
  have hfind : v.findLedger id = some l' := by
    change u.ledgers.find? id = some l'
    rw [hledgers, KeyedMap.find?_insert_self]
  have hignore : Procedure.ignore (onLedger id (CapacityLedger.releaseReserved needed)) v =
      (v.setLedger id l, .ok ()) := by
    rw [ignore_apply, onLedger_eq hfind, releaseReserved_of_reserve hheld]
  have hledger : (v.setLedger id l).ledgers = s.ledgers := by
    change u.ledgers.insert id l = _
    rw [hledgers]
    exact (insert_insert_eq_iff hl).mpr rfl
  have hback : m = s.partitions ↔ ∀ r ∈ records, s.partitions.find? r.id = none := by
    refine takenBack_iff fun k ↦ ?_
    rw [hm, hpartitions]
  unfold abandonReservation
  rw [bind_ok hrun, bind_ok hignore]
  change Unmoved s (v.setLedger id l) ↔ _
  exact ⟨fun h ↦ hback.mp h.partitions, fun hfresh ↦ ⟨hledger, hback.mpr hfresh, hlive⟩⟩

/-- A completed reservation moved exactly its plan when the records replaced nothing. -/
lemma reservedExactly_iff {t : FabricState} {l l' : CapacityLedger} {needed : ResourceVector}
    {records : List PartitionRecord} {id : UInt64} {r : PartitionReservation}
    (hl : s.ledgers.find? plan.binding.accelerator = some l)
    (hheld : CapacityLedger.reserve needed l = (l', success))
    (hneeds : accumulate plan.plannedPartitions = .ok needed)
    (hrecords : records = recordsFrom s plan now id plan.plannedPartitions)
    (hlength : records.length = plan.plannedPartitions.length)
    (hledgers : t.ledgers = s.ledgers.insert plan.binding.accelerator l')
    (hpartitions : t.partitions = storeRecords s.partitions records)
    (hr : r.partitions = records.map PartitionRecord.id) :
    ReservedExactly s t plan r ↔ ∀ record ∈ records, s.findPartition record.id = none := by
  have hnodup : (records.map PartitionRecord.id).Nodup := by
    rw [hrecords]
    exact recordsFrom_nodup _ _
  constructor
  · intro h record hmem
    have hnew := (List.forall₂_and_left (p := fun p ↦ s.findPartition p = none) _ _).mp h.partitions
    refine hnew.1 record.id ?_
    rw [hr]
    exact List.mem_map_of_mem hmem
  · intro hfresh
    obtain ⟨-, hmoved, -⟩ := reserve_eq_ok hheld
    have hamount (d : ResourceDimension) : plan.plannedAmount d = needed.amount d :=
      (accumulate_amount hneeds d).symm
    refine ⟨⟨l, l', hl, ?_, hmoved.total, fun d ↦ ?_, fun d ↦ ?_, hmoved.other⟩, fun k hk ↦ ?_,
      ?_, hr ▸ hnodup, fun k hk ↦ ?_⟩
    · unfold FabricState.findLedger
      rw [hledgers, KeyedMap.find?_insert_self]
    · rw [hamount]
      exact hmoved.taken d
    · rw [hamount]
      exact hmoved.added d
    · unfold FabricState.findLedger
      rw [hledgers, KeyedMap.find?_insert_of_ne _ _ hk]
    · rw [hr, List.forall₂_map_left_iff]
      have hplanned : List.Forall₂ (fun r planned ↦ r = reservedRecord s plan planned r.id now)
          records plan.plannedPartitions := by
        subst hrecords
        exact recordsFrom_planned hlength
      refine ((List.forall₂_and_left (p := fun r ↦ r ∈ records) _ _).mpr
        ⟨fun _ h ↦ h, hplanned⟩).imp fun record planned h ↦ ?_
      refine ⟨hfresh record h.1, record, ?_, rfl, ?_, ?_, ?_⟩
      · unfold FabricState.findPartition
        rw [hpartitions]
        exact find?_storeRecords hnodup h.1
      · rw [h.2]
        rfl
      · rw [h.2]
        rfl
      · rw [h.2]
        rfl
    · unfold FabricState.findPartition
      rw [hpartitions]
      exact find?_storeRecords_of_not_mem (hr ▸ hk)

/-- What becomes of a reservation once capacity is held. -/
lemma completeReservation_iff (planId : PartitionPlanId) (id : PartitionReservationId)
    {u : FabricState} {l l' : CapacityLedger} {needed : ResourceVector}
    {records : List PartitionRecord}
    (hl : s.ledgers.find? plan.binding.accelerator = some l)
    (hheld : CapacityLedger.reserve needed l = (l', success))
    (hneeds : accumulate plan.plannedPartitions = .ok needed)
    (hplan : s.plans.find? planId = some plan)
    (hledgers : u.ledgers = s.ledgers.insert plan.binding.accelerator l')
    (hpartitions : u.partitions = s.partitions)
    (hlive : ∀ k r, reservationIsTerminal r.lifecycle = false →
      (u.findReservation k = some r ↔ s.findReservation k = some r))
    (hrecords : records = recordsFrom u plan now u.ids.next plan.plannedPartitions)
    (hsame : recordsFrom u plan now u.ids.next plan.plannedPartitions =
      recordsFrom s plan now u.ids.next plan.plannedPartitions) :
    Indivisible s planId (completeReservation planId plan needed id now u) ↔
    ∀ r ∈ records, s.findPartition r.id = none := by
  obtain ⟨allocator, status, hrun, hstatus⟩ :=
    reservePartitions_eq plan now plan.plannedPartitions [] u
  rw [← hrecords] at hrun hstatus
  let v : FabricState := { u with
    ids := allocator
    partitions := storeRecords u.partitions records }
  have hv : v.partitions = storeRecords s.partitions records := by
    change storeRecords u.partitions records = _
    rw [hpartitions]
  have hrecorded : reservePartitions plan now plan.plannedPartitions [] u =
      (v, .ok (records.map PartitionRecord.id, status)) := hrun
  have habandon (e : Error) :=
    abandonReservation_iff planId e (u := v) hl hheld hledgers hv hlive
  have hreservation : reservationFor v plan needed id (records.map PartitionRecord.id) now =
      reservationFor u plan needed id (records.map PartitionRecord.id) now := rfl
  unfold completeReservation
  rw [bind_ok hrecorded]
  simp only [get_bind]
  rw [hreservation]
  cases status with
  | error e => exact habandon e
  | ok done =>
    have hlength := hstatus.mp rfl
    cases hvalid : (reservationFor u plan needed id (records.map PartitionRecord.id) now).validate with
    | error e => exact habandon e
    | ok valid =>
      -- the reservation is recorded, its plan rebound and the generation advanced
      have hfinal (t : FabricState) (hledger : t.ledgers = v.ledgers)
          (hpartition : t.partitions = v.partitions) :
          ReservedExactly s t plan
            (reservationFor u plan needed id (records.map PartitionRecord.id) now) ↔
            ∀ r ∈ records, s.findPartition r.id = none :=
        reservedExactly_iff hl hheld hneeds (hrecords.trans hsame) hlength
          (hledger.trans hledgers) (hpartition.trans hv) rfl
      have hbump (w : FabricState) : w.bumpStateGeneration.ledgers = w.ledgers ∧
          w.bumpStateGeneration.partitions = w.partitions := by
        exact ⟨bump_ledgers, bump_partitions⟩
      simp only [modify_bind]
      constructor
      · rintro ⟨plan', hfound, hexact⟩
        obtain rfl := Option.some.inj (hfound.symm.trans hplan)
        refine (hfinal _ ?_ ?_).mp hexact
        · exact (hbump _).1
        · exact (hbump _).2
      · refine fun hfresh ↦ ⟨plan, hplan, (hfinal _ ?_ ?_).mpr hfresh⟩
        · exact (hbump _).1
        · exact (hbump _).2

/-- Nothing can be held in a ledger that has no totals. -/
lemma reserve_empty (needed : ResourceVector) (l' : CapacityLedger) :
    CapacityLedger.reserve needed {} ≠ (l', success) := by
  intro h
  obtain ⟨hempty, -, hmask, -⟩ := reserve_eq_ok h
  have hzero : needed.mask = 0 := by simpa using hmask
  simp [ResourceVector.empty, hzero] at hempty

/-- Where the device has no ledger, a reservation leaves one without totals behind. -/
lemma holdPlanned_unledgered (planId : PartitionPlanId) (now : UInt64) (needed : ResourceVector)
    {u : FabricState} (hnone : u.findLedger plan.binding.accelerator = none) :
    ∃ t e, holdPlanned planId plan needed now u = (t, .error e) ∧
      t.findLedger plan.binding.accelerator ≠ none := by
  have htouched : touchLedger plan.binding.accelerator u =
      { u with ledgers := u.ledgers.insert plan.binding.accelerator {} } := by
    unfold touchLedger KeyedMap.contains
    change (if (u.findLedger plan.binding.accelerator).isSome then _ else _) = _
    rw [hnone]
    rfl
  let v : FabricState := { u with ledgers := u.ledgers.insert plan.binding.accelerator {} }
  have hfind : v.findLedger plan.binding.accelerator = some {} := KeyedMap.find?_insert_self _ _ _
  unfold holdPlanned
  rw [modify_bind, htouched]
  cases hreserve : CapacityLedger.reserve needed {} with
  | mk l' status =>
    cases status with
    | ok done => exact absurd hreserve (reserve_empty needed l')
    | error e =>
      have hrun : onLedger plan.binding.accelerator (CapacityLedger.reserve needed) v =
          (v.setLedger plan.binding.accelerator l', .error e) := by
        rw [onLedger_eq hfind, hreserve]
      rw [bind_error hrun]
      refine ⟨_, e, rfl, ?_⟩
      unfold FabricState.findLedger FabricState.setLedger
      rw [KeyedMap.find?_insert_self]
      exact Option.some_ne_none l'

/-- A reservation that reaches a ledger keeps it, or holds capacity and completes or takes
everything back. -/
lemma holdPlanned_iff {planId : PartitionPlanId} {needed : ResourceVector}
    {m : KeyedMap PartitionReservationId PartitionReservation} {l : CapacityLedger}
    (hlive : ∀ k r, reservationIsTerminal r.lifecycle = false →
      (m.find? k = some r ↔ s.reservations.find? k = some r))
    (hplan : s.plans.find? planId = some plan)
    (hneeds : accumulate plan.plannedPartitions = .ok needed)
    (hl : s.findLedger plan.binding.accelerator = some l) :
    Indivisible s planId (holdPlanned planId plan needed now { s with reservations := m }) ↔
    ((CapacityLedger.reserve needed l).2 = success →
      ∀ r ∈ plannedRecords s plan now, s.findPartition r.id = none) := by
  let u : FabricState := { s with reservations := m }
  have hfind : u.findLedger plan.binding.accelerator = some l := hl
  have htouched : touchLedger plan.binding.accelerator u = u := by
    unfold touchLedger KeyedMap.contains
    change (if (u.findLedger plan.binding.accelerator).isSome then _ else _) = _
    rw [hfind]
    rfl
  change Indivisible s planId (holdPlanned planId plan needed now u) ↔ _
  unfold holdPlanned
  rw [modify_bind, htouched]
  cases hreserve : CapacityLedger.reserve needed l with
  | mk l' status =>
    have hrun : onLedger plan.binding.accelerator (CapacityLedger.reserve needed) u =
        (u.setLedger plan.binding.accelerator l', status) := by
      rw [onLedger_eq hfind, hreserve]
    cases status with
    | error e =>
      obtain rfl := reserve_eq_error hreserve
      rw [bind_error hrun]
      refine iff_of_true ⟨KeyedMap.insert_eq_self hl, rfl, hlive⟩ fun h ↦ by cases h
    | ok done =>
      rw [bind_ok hrun]
      let v : FabricState := u.setLedger plan.binding.accelerator l'
      have hheld : CapacityLedger.reserve needed l = (l', success) := hreserve
      have hdone : ((l', .ok done) : CapacityLedger × Status).2 = success := rfl
      rw [forall_prop_of_true hdone]
      by_cases hmax : s.ids.next = uint64Max
      · have halloc : Procedure.attempt allocateId v =
            (v, .ok (failure .overflow "identity space exhausted")) :=
          attempt_allocateId_exhausted hmax
        have hrecords : plannedRecords s plan now = [] := if_pos hmax
        rw [bind_ok halloc, hrecords]
        have hnothing : v.partitions = storeRecords s.partitions [] := rfl
        exact abandonReservation_iff planId
          (makeError .overflow "identity space exhausted") (u := v) hl hheld rfl hnothing hlive
      · let w : FabricState := { v with ids := ⟨s.ids.next + 1⟩ }
        have halloc : Procedure.attempt allocateId v = (w, .ok (.ok s.ids.next)) :=
          attempt_allocateId (s := v) hmax
        have hrecords : plannedRecords s plan now =
            recordsFrom w plan now w.ids.next plan.plannedPartitions := by
          unfold plannedRecords
          rw [if_neg hmax]
          exact (recordsFrom_congr (s := s) (t := w) rfl rfl _ _).symm
        rw [bind_ok halloc]
        exact completeReservation_iff planId s.ids.next (u := w) hl hheld hneeds
          hplan rfl rfl hlive hrecords (recordsFrom_congr (s := s) (t := w) rfl rfl _ _)

/-- A reservation is all or nothing exactly when the device has a ledger and the identities it hands
out to partitions are unused. -/
theorem reserve_allOrNothing_iff (s : FabricState) (planId : PartitionPlanId) (now : UInt64) :
    AllOrNothing s planId now ↔ ReservesCleanly s planId now := by
  unfold AllOrNothing ReservesCleanly
  rcases reserve_cases s planId now with ⟨t, e, hrun, ht, hnever⟩ |
    ⟨plan, needed, m, hreaches, hlive, hrun⟩
  · rw [hrun]
    exact iff_of_true ht fun plan needed h ↦ absurd h (hnever plan needed)
  · rw [hrun]
    have honly {plan' : PartitionPlan} {needed' : ResourceVector}
        (h : ReachesLedger s planId now plan' needed') : plan' = plan ∧ needed' = needed := by
      obtain rfl := Option.some.inj (h.found.symm.trans hreaches.found)
      exact ⟨rfl, Except.ok.inj (h.needs.symm.trans hreaches.needs)⟩
    cases hl : s.findLedger plan.binding.accelerator with
    | none =>
      let u : FabricState := { s with reservations := m }
      have hnone : u.findLedger plan.binding.accelerator = none := hl
      obtain ⟨t, e, hfails, hledger⟩ := holdPlanned_unledgered planId now needed hnone
      refine iff_of_false (fun h ↦ hledger ?_) fun h ↦ ?_
      · change Indivisible s planId (holdPlanned planId plan needed now u) at h
        rw [hfails] at h
        have hsame : t.ledgers = s.ledgers := h.ledgers
        unfold FabricState.findLedger at hl ⊢
        rw [hsame, hl]
      · obtain ⟨l, hsome, -⟩ := h plan needed hreaches
        exact absurd (hl.symm.trans hsome) (Option.some_ne_none l).symm
    | some l =>
      rw [holdPlanned_iff hlive hreaches.found hreaches.needs hl]
      constructor
      · intro h plan' needed' hreaches'
        obtain ⟨rfl, rfl⟩ := honly hreaches'
        exact ⟨l, hl, h⟩
      · intro h
        obtain ⟨l', hl', hclean⟩ := h plan needed hreaches
        obtain rfl := Option.some.inj (hl.symm.trans hl')
        exact hclean

/-- The partitions of a reservation that succeeds are new. -/
lemma AllOrNothing.new {planId : PartitionPlanId} {partitions : List PartitionId}
    (h : AllOrNothing s planId now)
    (hr : (reserve planId now s).2.toOption.map PartitionReservation.partitions = some partitions) :
    ∀ p ∈ partitions, s.findPartition p = none := by
  unfold AllOrNothing at h
  cases hrun : reserve planId now s with
  | mk t status =>
    rw [hrun] at h hr
    cases status with
    | error e => cases hr
    | ok r =>
      obtain ⟨plan, -, hexact⟩ := h
      obtain rfl := Option.some.inj hr
      exact ((List.forall₂_and_left (p := fun p ↦ s.findPartition p = none) _ _).mp
        hexact.partitions).1

namespace Sample

/-- A created slice, exported with an identity counter that was never advanced. -/
def rewound : DurableState :=
  { exportDurableState (fabric.run created opened) 6 with nextIdentity := 1 }

/-- The durable state is imported, its device reported again and a slice planned as 2. -/
def replanned : List Op :=
  [.importDurableState rewound 7, .registerBackendAccelerator device 8,
    .plan { profile := profile.id } 9]

end Sample

/-- The reservation replaces the imported partition 4, which still holds capacity. -/
theorem reservation_replaces_partition : ¬ ∀ s, fabric.Reachable anyOp s →
    (∀ k l, s.ledgers.find? k = some l → l.Balanced) → ∀ planId now, AllOrNothing s planId now := by
  intro h
  let s := fabric.run Sample.replanned Sample.opened
  have hs : fabric.Reachable anyOp s :=
    System.Reachable.run (.initial ⟨_, _, rfl⟩) (by decide)
  obtain ⟨hvalid, hreserved, hexisting⟩ :
      s.ledgers.values.all (fun l ↦ decide (l.validate = .ok ())) = true ∧
      ((reserve 2 10 s).2.toOption.map PartitionReservation.partitions) = some [4] ∧
      (s.findPartition 4).isSome = true := by decide +kernel
  clear_value s
  have hbalanced : ∀ k l, s.ledgers.find? k = some l → l.Balanced := by
    intro k l hl
    have hl' := List.all_eq_true.mp hvalid l (KeyedMap.mem_values.mpr ⟨k, hl⟩)
    exact CapacityLedger.validate_eq_ok.mp (of_decide_eq_true hl')
  have hnew := (h s hs hbalanced 2 10).new hreserved 4 (List.mem_singleton_self 4)
  rw [hnew] at hexisting
  cases hexisting

end Rollback

end PartitionFabric
