import PartitionFabric.Invariants.Undoing

/-!
When the release of a live reservation returns its capacity: nothing of it may exist physically, and
the ledger of its device can move what it holds from reserved to free.
-/

namespace PartitionFabric

open Procedure

variable {s t : FabricState} {id : PartitionReservationId} {r : PartitionReservation}
  {l l' : CapacityLedger} {amount : ResourceVector}

/-- A ledger can give an amount back: the reserved bucket has it in every dimension, and the free
bucket can take it. -/
structure CapacityLedger.CanReturn (l : CapacityLedger) (amount : ResourceVector) : Prop where
  reserved : amount.mask &&& ~~~(l.buckets .reserved).mask = 0
  free : amount.mask &&& ~~~(l.buckets .free).mask = 0
  enough : ∀ d, amount.has d = true → amount.values d ≤ (l.buckets .reserved).values d
  fits : ∀ d, amount.has d = true →
    ResourceVector.Fits ((l.buckets .free).values d) d (amount.values d)

/-- A ledger gives an amount back exactly when it can, and then it moves just that. -/
lemma releaseReserved_cases (amount : ResourceVector) (l : CapacityLedger) :
    (l.CanReturn amount ∧ ∃ l', CapacityLedger.releaseReserved amount l = (l', success) ∧
      CapacityLedger.Moved .reserved .free amount l l') ∨
    ¬l.CanReturn amount ∧ ∃ e, CapacityLedger.releaseReserved amount l = (l, .error e) := by
  have hmoves : (∃ s' t', moveCapacity (l.buckets .reserved) (l.buckets .free) amount =
      .ok (s', t')) ↔ l.CanReturn amount := by
    constructor
    · rintro ⟨s', t', h⟩
      obtain ⟨-, hsub, hadd⟩ := moveCapacity_eq_ok.mp h
      obtain ⟨hreserved, henough, -⟩ := ResourceVector.subAssign_eq_ok.mp hsub
      obtain ⟨hfree, hfits, -⟩ := ResourceVector.addAssign_eq_ok.mp hadd
      exact ⟨hreserved, hfree, henough, hfits⟩
    · intro h
      refine ⟨_, _, moveCapacity_eq_ok.mpr ⟨?_,
        ResourceVector.subAssign_eq_ok.mpr ⟨h.reserved, h.enough, rfl⟩,
        ResourceVector.addAssign_eq_ok.mpr ⟨h.free, h.fits, rfl⟩⟩⟩
      exact ResourceVector.isSubsetOf_iff.mpr fun d hd ↦
        ⟨hasBit_of_subset h.reserved hd, h.enough d hd⟩
  have hne : CapacityBucket.reserved ≠ CapacityBucket.free := by decide
  rcases CapacityLedger.transfer_spec hne amount l with ⟨l', hrun, hmoved⟩ | ⟨e, hrun⟩
  · refine Or.inl ⟨hmoves.mp ?_, l', hrun, hmoved⟩
    obtain ⟨pair, hmove⟩ := CapacityLedger.transfer_isOk_iff.mp (congrArg Prod.snd hrun)
    exact ⟨pair.1, pair.2, hmove⟩
  · refine Or.inr ⟨fun h ↦ ?_, e, hrun⟩
    obtain ⟨s', t', hmove⟩ := hmoves.mpr h
    have hok := CapacityLedger.transfer_isOk_iff.mpr ⟨(s', t'), hmove⟩
    rw [hrun] at hok
    cases hok

/-- Changing partitions one after another changes nothing else. -/
lemma forM_modifyPartition_frame (f : PartitionRecord → PartitionRecord) (ids : List PartitionId)
    (s : FabricState) : ∃ m, (ids.forM fun p ↦ Procedure.modify fun s ↦ s.modifyPartition p f :
      FabricM Unit) s = ({ s with partitions := m }, .ok ()) := by
  induction ids generalizing s with
  | nil => exact ⟨s.partitions, rfl⟩
  | cons p rest ih => exact ih (s.modifyPartition p f)

/-- A release that goes through finds a ledger and no partition beyond its reserved state. -/
lemma release_ok (hr : s.findReservation id = some r)
    (hlive : reservationIsTerminal r.lifecycle = false) {reason : Text} {now : UInt64}
    (h : releaseReservation id reason now s = (t, success)) :
    s.ledgers.contains r.accelerator = true ∧
      r.partitions.find? (heldBeyondReserved s) = none := by
  unfold releaseReservation at h
  rw [get_bind, require_bind, contains_reservation, hr, Option.isSome_some, if_pos rfl] at h
  unfold releaseReservationLocked at h
  rw [get_bind] at h
  simp only [hr] at h
  rw [require_bind, hlive, Bool.not_false, if_pos rfl, require_bind] at h
  split at h
  · rename_i hledger
    refine ⟨hledger, ?_⟩
    cases hfind : r.partitions.find? (heldBeyondReserved s) with
    | none => rfl
    | some p =>
      rw [hfind] at h
      cases (Prod.mk.inj h).2
  · cases (Prod.mk.inj h).2

/-- Every release of a reservation goes through and moves exactly what it holds from reserved to
free. -/
def GivesBack (s : FabricState) (id : PartitionReservationId) (r : PartitionReservation) : Prop :=
  ∀ reason now, ∃ t l l', releaseReservation id reason now s = (t, success) ∧
    s.findLedger r.accelerator = some l ∧ t.findLedger r.accelerator = some l' ∧
      CapacityLedger.Moved .reserved .free r.resources l l'

/-- The device of a reservation has a ledger that can take back what the reservation holds, and none
of its partitions holds capacity beyond its reserved state. -/
def Releasable (s : FabricState) (r : PartitionReservation) : Prop :=
  (∀ p ∈ r.partitions, heldBeyondReserved s p = false) ∧
    ∃ l, s.findLedger r.accelerator = some l ∧ l.CanReturn r.resources

/-- A reservation whose release goes through is releasable. -/
lemma releasable_of_release (hr : s.findReservation id = some r)
    (hlive : reservationIsTerminal r.lifecycle = false) {reason : Text} {now : UInt64}
    (h : releaseReservation id reason now s = (t, success)) : Releasable s r := by
  obtain ⟨hledger, hnone⟩ := release_ok hr hlive h
  obtain ⟨l, hl⟩ := Option.isSome_iff_exists.mp hledger
  refine ⟨fun p hp ↦ Bool.eq_false_iff.mpr (List.find?_eq_none.mp hnone p hp), l, hl, ?_⟩
  rcases releaseReserved_cases r.resources l with ⟨hcan, -⟩ | ⟨-, e, hreturn⟩
  · exact hcan
  · have hfails : onLedger r.accelerator (CapacityLedger.releaseReserved r.resources) s =
        (s.setLedger r.accelerator l, .error e) := by
      rw [onLedger_eq hl, hreturn]
    rw [release_eq hr hlive hledger hnone, bind_error hfails] at h
    cases (Prod.mk.inj h).2

/-- The release of a releasable reservation goes through and moves what it holds. -/
lemma Releasable.gives_back (h : Releasable s r) (hr : s.findReservation id = some r)
    (hlive : reservationIsTerminal r.lifecycle = false) : GivesBack s id r := by
  intro reason now
  obtain ⟨hstates, l, hl, hcan⟩ := h
  have hnone : r.partitions.find? (heldBeyondReserved s) = none :=
    List.find?_eq_none.mpr fun p hp ↦ Bool.eq_false_iff.mp (hstates p hp)
  have hledger : s.ledgers.contains r.accelerator = true := by
    rw [KeyedMap.contains, ← FabricState.findLedger, hl]
    rfl
  rcases releaseReserved_cases r.resources l with ⟨-, l', hreturn, hmoved⟩ | ⟨hnot, -⟩
  · have hmoves : onLedger r.accelerator (CapacityLedger.releaseReserved r.resources) s =
        (s.setLedger r.accelerator l', success) := by
      rw [onLedger_eq hl, hreturn]
    let v : FabricState := s.setLedger r.accelerator l'
    obtain ⟨m, hretires⟩ := forM_modifyPartition_frame (fun record ↦
      if record.state = .reserved && record.heldBucket.isSome then
        record.retire now "reservation released before creation" else record) r.partitions v
    obtain ⟨generation, hbump⟩ := bumpStateGeneration_eq
      (settleReservation id .released reason now { v with partitions := m })
    have hrun : releaseReservation id reason now s =
        ((settleReservation id .released reason now { v with partitions := m }).bumpStateGeneration,
          success) := by
      rw [release_eq hr hlive hledger hnone, bind_ok hmoves, bind_ok hretires]
      rfl
    rw [hbump] at hrun
    exact ⟨_, l, l', hrun, hl, KeyedMap.find?_insert_self _ _ _, hmoved⟩
  · exact absurd hcan hnot

/-- A live reservation can be released with all that it holds exactly when it is releasable. -/
theorem release_gives_back_iff (hr : s.findReservation id = some r)
    (hlive : reservationIsTerminal r.lifecycle = false) : GivesBack s id r ↔ Releasable s r := by
  constructor
  · intro h
    obtain ⟨t, l, l', hrun, -⟩ := h [] 0
    exact releasable_of_release hr hlive hrun
  · intro h
    exact h.gives_back hr hlive

/-- The reservation of the slice is given back by its release. -/
theorem release_gives_back_reserved :
    let s := fabric.run Sample.reserved Sample.opened
    ∃ r, s.findReservation 3 = some r ∧ GivesBack s 3 r := by
  intro s
  have hlive : (s.findReservation 3).map (fun r ↦ reservationIsTerminal r.lifecycle) =
      some false := by decide +kernel
  have hback : (releaseReservation 3 [] 4 s).2.isOk = true := by decide +kernel
  clear_value s
  cases hr : s.findReservation 3 with
  | none =>
    rw [hr] at hlive
    cases hlive
  | some r =>
    rw [hr] at hlive
    have hlive' : reservationIsTerminal r.lifecycle = false := Option.some.inj hlive
    refine ⟨r, rfl, (release_gives_back_iff hr hlive').mpr ?_⟩
    cases hrun : releaseReservation 3 [] 4 s with
    | mk t status =>
      rw [hrun] at hback
      cases status with
      | error e => cases hback
      | ok done => exact releasable_of_release hr hlive' hrun

namespace Sample

/-- An observation without the reserved slice comes between its reservation and the release. -/
def surveyed : List Op := reserved ++ [.reconcile 1 (layout []) 4]

end Sample

/-- A reservation that was never dispatched is not given back once its device was reconciled. -/
theorem surveyed_not_returned : ¬∀ s id r, fabric.Reachable anyOp s →
    s.findReservation id = some r → reservationIsTerminal r.lifecycle = false →
    valid r.attempt = false → (∀ k a, s.findAttempt k = some a → a.reservation ≠ id) →
    GivesBack s id r := by
  intro h
  let s := fabric.run Sample.surveyed Sample.opened
  have hs : fabric.Reachable anyOp s := System.Reachable.run (.initial ⟨_, _, rfl⟩) (by decide)
  have hlive : (s.findReservation 3).any (fun r ↦
      !reservationIsTerminal r.lifecycle && !valid r.attempt) = true := by decide +kernel
  have hnever : s.attempts.values.all (fun a ↦ a.reservation != 3) = true := by decide +kernel
  have hstuck : (releaseReservation 3 [] 5 s).2.isOk = false := by decide +kernel
  clear_value s
  cases hr : s.findReservation 3 with
  | none =>
    rw [hr] at hlive
    cases hlive
  | some r =>
    rw [hr, Option.any_some, Bool.and_eq_true] at hlive
    have hattempts : ∀ k a, s.findAttempt k = some a → a.reservation ≠ 3 := by
      intro k a ha
      have hne := List.all_eq_true.mp hnever a (KeyedMap.mem_values.mpr ⟨k, ha⟩)
      exact bne_iff_ne.mp hne
    obtain ⟨t, l, l', hrun, -⟩ := h s 3 r hs hr ((Bool.not_eq_true' _).mp hlive.1)
      ((Bool.not_eq_true' _).mp hlive.2) hattempts [] 5
    rw [hrun] at hstuck
    cases hstuck

end PartitionFabric
