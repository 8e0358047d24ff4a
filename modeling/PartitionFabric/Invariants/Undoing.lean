import PartitionFabric.Invariants.Absorbing
import PartitionFabric.Invariants.Reserving

/-!
What a release makes of a reservation that was just made.

The release gives back one aggregate amount, while the partitions were recorded one by one; the
ledgers of before come back because a ledger never holds a share beyond the whole device.
-/

namespace PartitionFabric

open Procedure

variable {s t u : FabricState} {planId : PartitionPlanId} {now : UInt64}
  {reservation : PartitionReservation}

section Spent

/-- A reservation under an identity that was handed out, and that is terminal or gone. -/
structure Spent (id : PartitionReservationId) (s : FabricState) : Prop where
  below : id < s.ids.next
  terminal : ∀ r, s.findReservation id = some r → reservationIsTerminal r.lifecycle = true

variable {id : PartitionReservationId}

lemma contains_reservation : s.reservations.contains id = (s.findReservation id).isSome := rfl

/-- A spent reservation is refused a release. -/
lemma Spent.release_refused (h : Spent id s) (reason : Text) (now : UInt64) :
    ∃ e, releaseReservation id reason now s = (s, .error e) := by
  unfold releaseReservation
  rw [get_bind, require_bind, contains_reservation]
  cases hr : s.findReservation id with
  | none => exact ⟨_, rfl⟩
  | some r =>
    rw [Option.isSome_some, if_pos rfl]
    unfold releaseReservationLocked
    rw [get_bind]
    simp only [hr]
    rw [require_bind, h.terminal r hr]
    exact ⟨_, rfl⟩

lemma Spent.fence_refused (h : Spent id s) (reason : Text) (now : UInt64) :
    ∃ e, fenceReservation id reason now s = (s, .error e) := by
  unfold fenceReservation
  rw [get_bind, require_bind, contains_reservation]
  cases hr : s.findReservation id with
  | none => exact ⟨_, rfl⟩
  | some r =>
    rw [Option.isSome_some, if_pos rfl]
    unfold fenceReservationLocked
    rw [get_bind]
    simp only [hr]
    rw [require_bind, h.terminal r hr]
    exact ⟨_, rfl⟩

lemma Resettled.terminal {r : PartitionReservation} {v : Verification} {x : ReservationLifecycle}
    (h : Resettled r v x) (hr : reservationIsTerminal r.lifecycle = true) :
    reservationIsTerminal x = true := by
  rcases h hr with rfl | ⟨-, rfl⟩ | ⟨-, -, rfl⟩
  · exact hr
  · rfl
  · rfl

/-- Where nothing is reserved, every reservation was there before. -/
lemma Evolves.reservation_before {π : Scope} {floor : UInt64} (h : Evolves π floor s t)
    (hreserves : ¬π.reserves) {r' : PartitionReservation} (hr' : t.findReservation id = some r') :
    ∃ r, s.findReservation id = some r ∧ ReservationEvolves π floor id r r' := by
  rcases h.tenure.reservations id r' hr' with ⟨⟨-, hnew⟩, -⟩ | hr
  · exact absurd hnew hreserves
  · exact hr

/-- The late result of a mutation may settle a terminal reservation again, but never revives it. -/
lemma terminal_applyMutationResult {key : PartitionAttemptId}
    {mutation : Result BackendMutationResult} {observed : Option BackendLayout}
    {r r' : PartitionReservation} (hr : s.findReservation id = some r)
    (hterminal : reservationIsTerminal r.lifecycle = true)
    (hr' : ((Op.applyMutationResult key mutation observed now).step s).findReservation id =
      some r') : reservationIsTerminal r'.lifecycle = true := by
  change (applyMutationResultLocked key mutation observed now s).1.findReservation id = some r'
    at hr'
  rcases applyMutationResultLocked_idle key mutation observed now s with
    hidle | ⟨a, q, ha, hq, hflight⟩
  · rw [hidle] at hr'
    obtain rfl := Option.some.inj (hr.symm.trans hr')
    exact hterminal
  · by_cases hid : id = a.reservation
    · subst hid
      obtain rfl := Option.some.inj (hr.symm.trans hq)
      obtain ⟨x, hx, hresettled⟩ :=
        (settled_applyMutationResultLocked ha hq hflight mutation observed now).reservation
      obtain rfl := Option.some.inj (hx.symm.trans hr')
      exact hresettled.terminal hterminal
    · let π : Scope :=
        { natives := True, activates := True, resettles := fun k ↦ k = a.reservation }
      have hwithin : (Op.applyMutationResult key mutation observed now).Within π s := by
        refine ⟨trivial, trivial, fun a' ha' ↦ ?_⟩
        rw [Option.some.inj (ha'.symm.trans ha)]
      have hlenient : π.Lenient :=
        ⟨fun _ ↦ trivial, fun _ _ _ _ ↦ trivial, fun _ ↦ trivial, trivial⟩
      have hstep := evolves_within hwithin (hlenient.minds s _)
      obtain ⟨x, hx, hevolves⟩ := hstep.reservation_before (fun h ↦ h) hr'
      obtain rfl := Option.some.inj (hr.symm.trans hx)
      rcases hevolves.lifecycle with hagain | hlive | hsame
      · exact absurd hagain hid
      · rw [hterminal] at hlive
        cases hlive
      · rw [hsame]
        exact hterminal

lemma Spent.applyMutationResult {key : PartitionAttemptId} {mutation : Result BackendMutationResult}
    {observed : Option BackendLayout} (h : Spent id s) :
    Spent id ((Op.applyMutationResult key mutation observed now).step s) := by
  have hevolves : Evolves _ s.ids.next s ((Op.applyMutationResult key mutation observed now).step s) :=
    evolves_step rfl s
  refine ⟨lt_of_lt_of_le h.below hevolves.ids, fun r' hr' ↦ ?_⟩
  obtain ⟨r, hr, -⟩ := hevolves.reservation_before (fun h ↦ h) hr'
  exact terminal_applyMutationResult hr (h.terminal r hr) hr'

lemma Spent.step {op : Op} (h : Spent id s) (hop : withoutImports s op) :
    Spent id (op.step s) := by
  cases op with
  | applyMutationResult key mutation observed now => exact h.applyMutationResult
  | importDurableState d now => cases hop
  | _ =>
    refine ⟨lt_of_lt_of_le h.below (evolves_step rfl s).ids, fun r' hr' ↦ ?_⟩
    obtain ⟨r, hr, hkept⟩ := (evolves_step hop s).terminal h.below (fun h ↦ h) hr'
    rw [hkept (h.terminal r hr)]
    exact h.terminal r hr

lemma Spent.reaches (h : Spent id s) (ht : fabric.Reaches withoutImports s t) : Spent id t := by
  induction ht with
  | refl => exact h
  | step op _ hop ih => exact ih.step hop

end Spent

section Established

/-- What a reservation that succeeded leaves behind. -/
structure Established (s t : FabricState) (planId : PartitionPlanId) (plan : PartitionPlan)
    (needed : ResourceVector) (l l' : CapacityLedger) (r : PartitionReservation) : Prop where
  found : s.plans.find? planId = some plan
  needs : accumulate plan.plannedPartitions = .ok needed
  ledger : s.findLedger plan.binding.accelerator = some l
  held : CapacityLedger.reserve needed l = (l', success)
  ledgers : t.ledgers = s.ledgers.insert plan.binding.accelerator l'
  partitions : ∀ p ∈ r.partitions, ∃ record, t.findPartition p = some record ∧
    record.state = .reserved ∧ record.heldBucket = some .reserved ∧ record.generation = 1
  distinct : r.partitions.Nodup
  recorded : t.findReservation r.id = some r
  below : r.id < t.ids.next
  active : r.lifecycle = .active
  accelerator : r.accelerator = plan.binding.accelerator
  resources : r.resources = needed

variable {plan : PartitionPlan} {needed : ResourceVector} {l l' : CapacityLedger}

lemma mem_recordsFrom {first : UInt64} {desired : List PlannedPartition} {r : PartitionRecord}
    (h : r ∈ recordsFrom s plan now first desired) :
    ∃ planned, r = reservedRecord s plan planned r.id now := by
  induction desired generalizing first with
  | nil => cases h
  | cons planned rest ih =>
    unfold recordsFrom at h
    split at h
    · rcases List.mem_cons.mp h with rfl | hrest
      · exact ⟨planned, rfl⟩
      · exact ih hrest
    · cases h

/-- Taking a reservation back never succeeds. -/
lemma abandonReservation_ne_ok {id : AcceleratorId} {partitions : List PartitionId} {e : Error} :
    abandonReservation id needed partitions e s ≠ (t, .ok reservation) := by
  intro h
  obtain ⟨m, hrun, -⟩ := forM_erase partitions s
  unfold abandonReservation at h
  rw [bind_ok hrun, bind_apply, ignore_apply] at h
  cases h

lemma established_completeReservation {id : PartitionReservationId}
    (hplan : s.plans.find? planId = some plan)
    (hneeds : accumulate plan.plannedPartitions = .ok needed)
    (hl : s.findLedger plan.binding.accelerator = some l)
    (hheld : CapacityLedger.reserve needed l = (l', success))
    (hledgers : u.ledgers = s.ledgers.insert plan.binding.accelerator l')
    (hid : id < u.ids.next)
    (h : completeReservation planId plan needed id now u = (t, .ok reservation)) :
    Established s t planId plan needed l l' reservation := by
  obtain ⟨allocator, status, hrun, -⟩ := reservePartitions_eq plan now plan.plannedPartitions [] u
  have hreserves : Advances (Evolves {} u.ids.next)
      (reservePartitions plan now plan.plannedPartitions []) u :=
    advances_reservePartitions (le_refl u.ids.next)
  have hids := hreserves.of_run hrun
  let records := recordsFrom u plan now u.ids.next plan.plannedPartitions
  let v : FabricState := { u with
    ids := allocator
    partitions := storeRecords u.partitions records }
  have hrecorded : reservePartitions plan now plan.plannedPartitions [] u =
      (v, .ok (records.map PartitionRecord.id, status)) := hrun
  unfold completeReservation at h
  rw [bind_ok hrecorded] at h
  simp only [get_bind] at h
  cases status with
  | error e => exact absurd h abandonReservation_ne_ok
  | ok done =>
    cases hvalid : (reservationFor v plan needed id (records.map PartitionRecord.id) now).validate with
    | error e =>
      rw [hvalid] at h
      exact absurd h abandonReservation_ne_ok
    | ok valid =>
      rw [hvalid] at h
      simp only [modify_bind] at h
      obtain ⟨ht, hr⟩ := Prod.mk.inj h
      obtain rfl := Except.ok.inj hr
      obtain ⟨generation, hbump⟩ := bumpStateGeneration_eq _
      rw [hbump] at ht
      subst ht
      refine ⟨hplan, hneeds, hl, hheld, hledgers, fun p hp ↦ ?_, recordsFrom_nodup _ _,
        KeyedMap.find?_insert_self _ _ _, lt_of_lt_of_le hid hids.ids, rfl, rfl, rfl⟩
      obtain ⟨record, hrecord, rfl⟩ := List.mem_map.mp hp
      refine ⟨record, find?_storeRecords (recordsFrom_nodup _ _) hrecord, ?_⟩
      obtain ⟨planned, heq⟩ := mem_recordsFrom hrecord
      rw [heq]
      exact ⟨rfl, rfl, rfl⟩

/-- A reservation succeeds on a device with a ledger, and leaves what it established. -/
theorem established_reserve (h : reserve planId now s = (t, .ok reservation)) :
    ∃ plan needed l l', Established s t planId plan needed l l' reservation := by
  rcases reserve_cases s planId now with ⟨t', e, hrun, -⟩ | ⟨plan, needed, m, hreaches, -, hrun⟩
  · cases hrun.symm.trans h
  · rw [hrun] at h
    let u : FabricState := { s with reservations := m }
    change holdPlanned planId plan needed now u = (t, .ok reservation) at h
    cases hl : s.findLedger plan.binding.accelerator with
    | none =>
      have hnone : u.findLedger plan.binding.accelerator = none := hl
      obtain ⟨t', e, hfails, -⟩ := holdPlanned_unledgered planId now needed hnone
      cases hfails.symm.trans h
    | some l =>
      have hfind : u.findLedger plan.binding.accelerator = some l := hl
      have htouched : touchLedger plan.binding.accelerator u = u := by
        unfold touchLedger KeyedMap.contains
        change (if (u.findLedger plan.binding.accelerator).isSome then _ else _) = _
        rw [hfind]
        rfl
      unfold holdPlanned at h
      rw [modify_bind, htouched] at h
      cases hreserve : CapacityLedger.reserve needed l with
      | mk l' status =>
        have hledger : onLedger plan.binding.accelerator (CapacityLedger.reserve needed) u =
            (u.setLedger plan.binding.accelerator l', status) := by
          rw [onLedger_eq hfind, hreserve]
        cases status with
        | error e =>
          rw [bind_error hledger] at h
          cases h
        | ok done =>
          rw [bind_ok hledger] at h
          let v : FabricState := u.setLedger plan.binding.accelerator l'
          by_cases hmax : s.ids.next = uint64Max
          · have halloc : Procedure.attempt allocateId v =
                (v, .ok (failure .overflow "identity space exhausted")) :=
              attempt_allocateId_exhausted hmax
            rw [bind_ok halloc] at h
            change (Procedure.ignore (onLedger plan.binding.accelerator
              (CapacityLedger.releaseReserved needed)) >>= fun _ ↦ Procedure.throw _) v = _ at h
            rw [bind_apply, ignore_apply] at h
            cases h
          · let w : FabricState := { v with ids := ⟨s.ids.next + 1⟩ }
            have halloc : Procedure.attempt allocateId v = (w, .ok (.ok s.ids.next)) :=
              attempt_allocateId (s := v) hmax
            rw [bind_ok halloc] at h
            exact ⟨plan, needed, l, l', established_completeReservation (u := w) hreaches.found
              hreaches.needs hl hreserve rfl (lt_add_one hmax) h⟩

end Established

section Releasing

/-- Changing each of some distinct partitions changes just these. -/
lemma forM_modifyPartition (f : PartitionRecord → PartitionRecord) {ids : List PartitionId}
    (hids : ids.Nodup) (s : FabricState) :
    ∃ m, (ids.forM fun p ↦ Procedure.modify fun s ↦ s.modifyPartition p f : FabricM Unit) s =
      ({ s with partitions := m }, .ok ()) ∧
        ∀ k, m.find? k = if k ∈ ids then (s.partitions.find? k).map f else s.partitions.find? k := by
  induction ids generalizing s with
  | nil => exact ⟨s.partitions, rfl, fun k ↦ by simp⟩
  | cons p rest ih =>
    rw [List.nodup_cons] at hids
    obtain ⟨m, hrun, hm⟩ := ih hids.2 (s.modifyPartition p f)
    refine ⟨m, hrun, fun k ↦ ?_⟩
    rw [hm, FabricState.modifyPartition, KeyedMap.find?_modify]
    by_cases hk : k = p
    · rw [if_neg (hk ▸ hids.1), if_pos hk, if_pos (hk ▸ List.mem_cons_self)]
    · rw [if_neg hk]
      simp only [List.mem_cons, hk, false_or]

/-- A release takes back all that a reservation did: the ledgers are those of before, its
partitions are retired under later generations, and from then on it can be neither released nor
fenced. -/
structure Undone (s t u : FabricState) (r : PartitionReservation) : Prop where
  ledgers : u.ledgers = s.ledgers
  partitions : ∀ p ∈ r.partitions, ∃ reserved retired, t.findPartition p = some reserved ∧
    u.findPartition p = some retired ∧ retired.state = .retired ∧ retired.heldBucket = none ∧
    reserved.generation < retired.generation
  final : ∀ v, fabric.Reaches withoutImports u v → ∀ reason now,
    (∃ e, releaseReservation r.id reason now v = (v, .error e)) ∧
      ∃ e, fenceReservation r.id reason now v = (v, .error e)

/-- Every release of a reservation takes it back. -/
def Undoes (s t : FabricState) (r : PartitionReservation) : Prop :=
  ∀ reason now, ∃ u, releaseReservation r.id reason now t = (u, .ok ()) ∧ Undone s t u r

variable {plan : PartitionPlan} {needed : ResourceVector} {l l' : CapacityLedger}

/-- What is released of a live reservation when nothing of it may exist physically. -/
lemma release_eq {id : PartitionReservationId} {r : PartitionReservation}
    (hr : s.findReservation id = some r)
    (hlive : reservationIsTerminal r.lifecycle = false)
    (hledger : s.ledgers.contains r.accelerator = true)
    (hnone : r.partitions.find? (heldBeyondReserved s) = none) (reason : Text) (now : UInt64) :
    releaseReservation id reason now s = (do
      onLedger r.accelerator (CapacityLedger.releaseReserved r.resources)
      r.partitions.forM fun p ↦ Procedure.modify fun s ↦ s.modifyPartition p fun record ↦
        if record.state = .reserved && record.heldBucket.isSome then
          record.retire now "reservation released before creation"
        else record
      Procedure.modify (settleReservation id .released reason now)
      Procedure.modify FabricState.bumpStateGeneration : FabricM Unit) s := by
  unfold releaseReservation
  rw [get_bind, require_bind, contains_reservation, hr, Option.isSome_some, if_pos rfl]
  unfold releaseReservationLocked
  rw [get_bind]
  simp only [hr]
  rw [require_bind, hlive, Bool.not_false, if_pos rfl, require_bind, if_pos hledger, hnone]

/-- What is released when nothing of a reservation has been created. -/
lemma Established.releases (h : Established s t planId plan needed l l' reservation)
    (reason : Text) (now : UInt64) :
    releaseReservation reservation.id reason now t = (do
      onLedger reservation.accelerator (CapacityLedger.releaseReserved reservation.resources)
      reservation.partitions.forM fun p ↦ Procedure.modify fun s ↦ s.modifyPartition p fun record ↦
        if record.state = .reserved && record.heldBucket.isSome then
          record.retire now "reservation released before creation"
        else record
      Procedure.modify (settleReservation reservation.id .released reason now)
      Procedure.modify FabricState.bumpStateGeneration : FabricM Unit) t := by
  have hledger : t.ledgers.contains reservation.accelerator = true := by
    rw [h.accelerator, h.ledgers, KeyedMap.contains, KeyedMap.find?_insert_self]
    rfl
  have hnone : reservation.partitions.find? (heldBeyondReserved t) = none := by
    refine List.find?_eq_none.mpr fun p hp hheld ↦ ?_
    obtain ⟨record, hrecord, hstate, -⟩ := h.partitions p hp
    unfold heldBeyondReserved at hheld
    rw [hrecord, Option.any_some, hstate] at hheld
    simp at hheld
  have hlive : reservationIsTerminal reservation.lifecycle = false := by
    rw [h.active]
    rfl
  exact release_eq h.recorded hlive hledger hnone reason now

/-- A reserved record of the first generation is retired under the second. -/
lemma retire_first {record : PartitionRecord} (h : record.generation = 1) (now : UInt64)
    (reason : Text) : record.generation < (record.retire now reason).generation := by
  unfold PartitionRecord.retire PartitionRecord.supersede
  rw [h]
  have hlt : (1 : UInt64) < 2 := by decide
  exact hlt

lemma Established.undone (h : Established s t planId plan needed l l' reservation) :
    Undoes s t reservation := by
  intro reason now
  have hback : CapacityLedger.releaseReserved needed l' = (l, success) :=
    releaseReserved_of_reserve h.held
  have hfind : t.findLedger reservation.accelerator = some l' := by
    rw [FabricState.findLedger, h.ledgers, h.accelerator, KeyedMap.find?_insert_self]
  let v := t.setLedger reservation.accelerator l
  have hledger : onLedger reservation.accelerator
      (CapacityLedger.releaseReserved reservation.resources) t = (v, success) := by
    rw [onLedger_eq hfind, h.resources, hback]
  obtain ⟨m, hrun, hm⟩ := forM_modifyPartition (fun record ↦
    if record.state = .reserved && record.heldBucket.isSome then
      record.retire now "reservation released before creation" else record) h.distinct v
  let w : FabricState := { v with partitions := m }
  let x := settleReservation reservation.id .released reason now w
  obtain ⟨generation, hbump⟩ := bumpStateGeneration_eq x
  have hrelease : releaseReservation reservation.id reason now t =
      ({ x with stateGeneration := generation }, .ok ()) := by
    rw [h.releases, bind_ok hledger, bind_ok hrun, modify_bind]
    change (x.bumpStateGeneration, success) = _
    rw [hbump]
    rfl
  refine ⟨_, hrelease, ?_, fun p hp ↦ ?_, fun u hu reason' now' ↦ ?_⟩
  · change t.ledgers.insert reservation.accelerator l = s.ledgers
    rw [h.ledgers, h.accelerator]
    exact (insert_insert_eq_iff h.ledger).mpr rfl
  · obtain ⟨record, hrecord, hstate, hheld, hgeneration⟩ := h.partitions p hp
    refine ⟨record, record.retire now "reservation released before creation", hrecord, ?_, rfl, rfl,
      retire_first hgeneration _ _⟩
    change m.find? p = _
    have hkept : v.partitions.find? p = some record := hrecord
    rw [hm, if_pos hp, hkept, Option.map_some, hstate, hheld]
    rfl
  · have hspent : Spent reservation.id { x with stateGeneration := generation } := by
      refine ⟨h.below, fun r hr ↦ ?_⟩
      change (t.reservations.modify reservation.id _).find? reservation.id = some r at hr
      rw [KeyedMap.find?_modify, if_pos rfl,
        show t.reservations.find? reservation.id = some reservation from h.recorded] at hr
      obtain rfl := Option.some.inj hr
      rfl
    have hfinal := hspent.reaches hu
    exact ⟨hfinal.release_refused reason' now', hfinal.fence_refused reason' now'⟩

/-- A release undoes a reservation, and nothing can release or fence it again. -/
theorem release_undoes_reserve (h : reserve planId now s = (t, .ok reservation)) :
    Undoes s t reservation := by
  obtain ⟨plan, needed, l, l', hestablished⟩ := established_reserve h
  exact hestablished.undone

end Releasing

namespace Sample

/-- An amount of memory and a compute share. -/
def computing (bytes share : UInt64) : ResourceVector :=
  { values := fun d ↦ if d = .memoryBytes then bytes else if d = .computeShare then share else 0
    mask := ResourceDimension.memoryBytes.bit ||| ResourceDimension.computeShare.bit }

/-- A device that is cut into slices with half of its compute. -/
def computingDevice : BackendAccelerator :=
  { device with
    physicalTotals := computing 8 1000000
    profiles := [{ Sample.profile with resources := computing 4 500000 }] }

/-- Both slices of the device are planned as 2. -/
def halved : List Op :=
  [.registerBackendAccelerator computingDevice 1, .plan { profile := profile.id, count := 2 } 2]

end Sample

/-- Both halves of a device with all of its compute are reserved and released. -/
theorem release_undoes_halves :
    let s := fabric.run Sample.halved Sample.opened
    ∃ t reservation, reserve 2 3 s = (t, .ok reservation) ∧ reservation.partitions = [4, 5] ∧
      reservation.resources.get .computeShare = 1000000 ∧ Undoes s t reservation := by
  intro s
  obtain ⟨hpartitions, hshare⟩ :
      (reserve 2 3 s).2.toOption.map PartitionReservation.partitions = some [4, 5] ∧
      (reserve 2 3 s).2.toOption.map (fun r ↦ r.resources.get .computeShare) = some 1000000 := by
    decide +kernel
  cases hrun : reserve 2 3 s with
  | mk t status =>
    rw [hrun] at hpartitions hshare
    cases status with
    | error e => cases hpartitions
    | ok reservation =>
      exact ⟨t, reservation, rfl, Option.some.inj hpartitions, Option.some.inj hshare,
        release_undoes_reserve hrun⟩

end PartitionFabric
