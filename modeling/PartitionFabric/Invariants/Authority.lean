import PartitionFabric.Invariants.Absorbing
import PartitionFabric.Invariants.Fencing
import PartitionFabric.Invariants.ImportAtomicity
import PartitionFabric.Invariants.RecordValidity

/-!
When the authority of live reservations and of dispatched attempts is current.

Fencing gives the capacity of a reservation back before it settles it, and it leaves the
reservation alive where the ledger does not cover that; what the ledgers have to cover is said first.
-/

namespace PartitionFabric

open Procedure

variable {s t : FabricState} {now : UInt64} {reason : Text}

section Covering

variable {lost : PartitionReservation → Bool} {key : PartitionReservationId}
  {rest : List PartitionReservationId} {r : PartitionReservation}

/-- Fencing a reservation gives capacity back to a device: it is live and lost, and none of its
partitions may exist physically. -/
def givesBack (s : FabricState) (lost : PartitionReservation → Bool) (id : AcceleratorId)
    (r : PartitionReservation) : Bool :=
  !reservationIsTerminal r.lifecycle && lost r && r.accelerator = id &&
    !r.partitions.any (heldBeyondReserved s)

/-- What fencing the lost reservations under some keys gives back to a device. -/
def fencedAmounts (s : FabricState) (lost : PartitionReservation → Bool) (id : AcceleratorId)
    (keys : List PartitionReservationId) : List ResourceVector :=
  keys.filterMap fun key ↦
    ((s.findReservation key).filter (givesBack s lost id)).map PartitionReservation.resources

/-- Every ledger covers what fencing the lost reservations under some keys gives back to it. -/
def FencingCovered (s : FabricState) (lost : PartitionReservation → Bool)
    (keys : List PartitionReservationId) : Prop :=
  ∀ id l, s.findLedger id = some l → l.Covers (fencedAmounts s lost id keys)

/-- What fencing reads of the registry. -/
def fencingView (s : FabricState) := (s.reservations, s.ledgers, heldBeyondReserved s)

lemma fencedAmounts_congr {id : AcceleratorId} {keys : List PartitionReservationId}
    (hheld : heldBeyondReserved t = heldBeyondReserved s)
    (h : ∀ k ∈ keys, t.findReservation k = s.findReservation k) :
    fencedAmounts t lost id keys = fencedAmounts s lost id keys := by
  unfold fencedAmounts
  refine List.filterMap_congr fun k hk ↦ ?_
  have hgives : givesBack t lost id = givesBack s lost id := by
    funext r
    unfold givesBack
    rw [hheld]
  rw [h k hk, hgives]

lemma fencedAmounts_cons_skip {id : AcceleratorId}
    (h : ∀ r, s.findReservation key = some r → givesBack s lost id r = false) :
    fencedAmounts s lost id (key :: rest) = fencedAmounts s lost id rest := by
  unfold fencedAmounts
  rw [List.filterMap_cons_none]
  cases hr : s.findReservation key with
  | none => rfl
  | some r => simp [Option.filter, h r hr]

lemma fencedAmounts_cons {id : AcceleratorId} (hr : s.findReservation key = some r)
    (h : givesBack s lost id r = true) :
    fencedAmounts s lost id (key :: rest) = r.resources :: fencedAmounts s lost id rest := by
  unfold fencedAmounts
  rw [List.filterMap_cons_some]
  simp [hr, Option.filter, h]

/-- A partition that holds no more than reserved capacity is held by nothing once it is retired. -/
lemma heldBeyondReserved_retire {p : PartitionId} (hp : heldBeyondReserved s p = false) :
    heldBeyondReserved (s.modifyPartition p fun record ↦ record.retire now reason) =
      heldBeyondReserved s := by
  funext q
  by_cases hq : q = p
  · subst hq
    rw [hp]
    unfold heldBeyondReserved FabricState.findPartition FabricState.modifyPartition
    rw [KeyedMap.find?_modify, if_pos rfl]
    cases s.partitions.find? q with
    | none => rfl
    | some record => rfl
  · unfold heldBeyondReserved FabricState.findPartition FabricState.modifyPartition
    rw [KeyedMap.find?_modify_of_ne _ _ hq]

lemma keeps_retireReserved {l : List PartitionId} (h : ∀ p ∈ l, heldBeyondReserved s p = false) :
    Advances (Keeps fencingView) (l.forM fun p ↦ Procedure.modify fun s ↦
      s.modifyPartition p fun record ↦ record.retire now reason : FabricM Unit) s := by
  refine advances_forM fun p hp t hst ↦ advances_modify ?_
  have hheld : heldBeyondReserved t = heldBeyondReserved s :=
    (Prod.mk.inj (Prod.mk.inj hst).2).2
  have hretired : heldBeyondReserved (t.modifyPartition p fun record ↦ record.retire now reason) =
      heldBeyondReserved t := heldBeyondReserved_retire ((congrFun hheld p).trans (h p hp))
  unfold Keeps fencingView
  rw [hretired]
  rfl

/-- Fencing the reservation under a key touches no other reservation and no partition that may
exist physically, and its device gets the capacity back. -/
structure FencedAt (key : PartitionReservationId) (r : PartitionReservation)
    (s t : FabricState) : Prop where
  others : ∀ k, k ≠ key → t.findReservation k = s.findReservation k
  terminal : ∀ r', t.findReservation key = some r' → reservationIsTerminal r'.lifecycle = true
  held : heldBeyondReserved t = heldBeyondReserved s
  ledgers : ∀ id l', t.findLedger id = some l' → ∃ l, s.findLedger id = some l ∧
    if r.accelerator = id ∧ r.partitions.any (heldBeyondReserved s) = false then
      CapacityLedger.Moved .reserved .free r.resources l l'
    else l' = l

lemma FencedAt.settle {u : FabricState} (hreservations : u.reservations = s.reservations)
    (hheld : heldBeyondReserved u = heldBeyondReserved s)
    (hledgers : ∀ id l', u.findLedger id = some l' → ∃ l, s.findLedger id = some l ∧
      if r.accelerator = id ∧ r.partitions.any (heldBeyondReserved s) = false then
        CapacityLedger.Moved .reserved .free r.resources l l'
      else l' = l) :
    FencedAt key r s (settleReservation key .fenced reason now u).bumpStateGeneration := by
  have hbump : Keeps fencingView (settleReservation key .fenced reason now u)
      (settleReservation key .fenced reason now u).bumpStateGeneration := bump_of fun _ ↦ rfl
  obtain ⟨hr, hrest⟩ := Prod.mk.inj hbump
  obtain ⟨hl, hh⟩ := Prod.mk.inj hrest
  refine ⟨fun k hk ↦ ?_, fun r' hr' ↦ ?_, hh.trans hheld, fun id l' hl' ↦ hledgers id l' ?_⟩
  · rw [FabricState.findReservation, hr, settleReservation, FabricState.modifyReservation,
      KeyedMap.find?_modify_of_ne _ _ hk, hreservations]
    rfl
  · rw [FabricState.findReservation, hr, settleReservation, FabricState.modifyReservation,
      KeyedMap.find?_modify, if_pos rfl] at hr'
    obtain ⟨q, -, rfl⟩ := Option.map_eq_some_iff.mp hr'
    rfl
  · rw [FabricState.findLedger, hl] at hl'
    exact hl'

/-- A reservation whose capacity the ledger covers is fenced. -/
lemma fenceReservationLocked_covered (hr : s.findReservation key = some r)
    (hlive : reservationIsTerminal r.lifecycle = false)
    (hcover : ∀ l, s.findLedger r.accelerator = some l →
      r.partitions.any (heldBeyondReserved s) = false → l.Covers [r.resources]) :
    Meets (fun _ ↦ False) (fun _ t ↦ FencedAt key r s t)
      (fenceReservationLocked key reason now) s := by
  unfold fenceReservationLocked
  apply meets_get_bind
  rw [hr]
  simp only [hlive, Bool.not_false]
  refine meets_bind (P := fun _ t ↦ t = s) rfl fun _ t ht ↦ ?_
  subst ht
  cases hl : t.findLedger r.accelerator with
  | none =>
    have hskip : t.ledgers.contains r.accelerator = false := by
      rw [KeyedMap.contains, show t.ledgers.find? r.accelerator = none from hl]
      rfl
    rw [hskip, Bool.false_and]
    refine FencedAt.settle rfl rfl fun id l hl' ↦ ⟨l, hl', ?_⟩
    rw [if_neg]
    rintro ⟨rfl, -⟩
    cases hl.symm.trans hl'
  | some l =>
    have hcontains : t.ledgers.contains r.accelerator = true := by
      rw [KeyedMap.contains, show t.ledgers.find? r.accelerator = some l from hl]
      rfl
    rw [hcontains, Bool.true_and]
    cases hheld : r.partitions.any (heldBeyondReserved t) with
    | true =>
      refine FencedAt.settle rfl rfl fun id l' hl' ↦ ⟨l', hl', ?_⟩
      rw [if_neg]
      rintro ⟨-, hnone⟩
      rw [hheld] at hnone
      cases hnone
    | false =>
      obtain ⟨l', hrelease⟩ := releaseReserved_eq_ok.mpr (hcover l hl hheld)
      have hmoved : CapacityLedger.Moved .reserved .free r.resources l l' := by
        rcases CapacityLedger.transfer_spec (show CapacityBucket.reserved ≠ .free by decide)
          r.resources l with ⟨x, hx, hmoved⟩ | ⟨e, he⟩
        · obtain rfl : x = l' := (Prod.mk.inj (hx.symm.trans hrelease)).1
          exact hmoved
        · cases (Prod.mk.inj (he.symm.trans hrelease)).2
      have hledger : onLedger r.accelerator (CapacityLedger.releaseReserved r.resources) t =
          (t.setLedger r.accelerator l', .ok ()) := by
        unfold onLedger
        rw [hl]
        simp only [hrelease]
        rfl
      have hnone : ∀ p ∈ r.partitions, heldBeyondReserved t p = false := fun p hp ↦
        Bool.eq_false_iff.mpr (List.any_eq_false.mp hheld p hp)
      refine meets_bind (P := fun _ u ↦ Keeps fencingView (t.setLedger r.accelerator l') u) ?_ ?_
      · rw [Bool.not_false, when_true]
        refine meets_bind (P := fun _ u ↦ u = t.setLedger r.accelerator l') ?_ fun _ u hu ↦ ?_
        · unfold Meets
          rw [hledger]
        · subst hu
          have hnever : Meets (fun _ ↦ False) (fun _ _ ↦ True)
              (r.partitions.forM fun p ↦ Procedure.modify fun s ↦ s.modifyPartition p fun record ↦
                record.retire now (("reservation fenced: " : Text) ++ reason) : FabricM Unit)
              (t.setLedger r.accelerator l') :=
            meets_forM (Q := fun _ _ ↦ True) (fun _ _ _ _ ↦ trivial) trivial
          exact hnever.mono (keeps_retireReserved hnone) fun _ _ _ h ↦ h
      · intro _ u hu
        obtain ⟨hreservations, hrest⟩ := Prod.mk.inj hu
        obtain ⟨hledgers, hsame⟩ := Prod.mk.inj hrest
        refine FencedAt.settle hreservations hsame fun id m hm ↦ ?_
        rw [FabricState.findLedger, hledgers, FabricState.setLedger, KeyedMap.find?_insert] at hm
        split at hm
        · rename_i hid
          subst hid
          obtain rfl := Option.some.inj hm
          refine ⟨l, hl, ?_⟩
          rw [if_pos ⟨rfl, hheld⟩]
          exact hmoved
        · rename_i hid
          refine ⟨m, hm, ?_⟩
          rw [if_neg fun h ↦ hid h.1.symm]

/-- What is left of a fencing pass: the ledgers cover it, and only reservations under the keys
still to come are live and lost. -/
structure FencingPass (lost : PartitionReservation → Bool) (rest : List PartitionReservationId)
    (s : FabricState) : Prop where
  nodup : rest.Nodup
  covered : FencingCovered s lost rest
  pending : ∀ k r, s.findReservation k = some r → reservationIsTerminal r.lifecycle = false →
    lost r = true → k ∈ rest

/-- A round that leaves the reservation under its key alone, as it is not live or not lost. -/
lemma FencingPass.skip (h : FencingPass lost (key :: rest) s)
    (hskip : ∀ r, s.findReservation key = some r →
      (!reservationIsTerminal r.lifecycle && lost r) = false) : FencingPass lost rest s := by
  refine ⟨h.nodup.of_cons, fun id l hl ↦ ?_, fun k r hr hlive hlost ↦ ?_⟩
  · have hcovers := h.covered id l hl
    rwa [fencedAmounts_cons_skip fun r hr ↦ ?_] at hcovers
    unfold givesBack
    rw [hskip r hr, Bool.false_and, Bool.false_and]
  · rcases List.mem_cons.mp (h.pending k r hr hlive hlost) with rfl | hk
    · have hnot := hskip r hr
      rw [hlive, hlost] at hnot
      cases hnot
    · exact hk

/-- A round that fences the reservation under its key. -/
lemma FencingPass.fenced (h : FencingPass lost (key :: rest) s)
    (hr : s.findReservation key = some r) (hlive : reservationIsTerminal r.lifecycle = false)
    (hlost : lost r = true) (hfenced : FencedAt key r s t) : FencingPass lost rest t := by
  have hnot : key ∉ rest := (List.nodup_cons.mp h.nodup).1
  have hsame (id : AcceleratorId) : fencedAmounts t lost id rest = fencedAmounts s lost id rest :=
    fencedAmounts_congr hfenced.held fun k hk ↦ hfenced.others k fun hkey ↦ hnot (hkey ▸ hk)
  refine ⟨h.nodup.of_cons, fun id l' hl' ↦ ?_, fun k q hq hqlive hqlost ↦ ?_⟩
  · obtain ⟨l, hl, hmoved⟩ := hfenced.ledgers id l' hl'
    have hcovers := h.covered id l hl
    rw [hsame]
    split at hmoved
    · rename_i hgives
      have hback : givesBack s lost id r = true := by
        simp [givesBack, hlive, hlost, hgives.1, hgives.2]
      rw [fencedAmounts_cons hr hback] at hcovers
      exact (covers_cons_iff hcovers.head hmoved).mp hcovers
    · rename_i hgives
      subst hmoved
      rwa [fencedAmounts_cons_skip fun q hq ↦ ?_] at hcovers
      obtain rfl := Option.some.inj (hr.symm.trans hq)
      by_cases hid : r.accelerator = id
      · have hheld : r.partitions.any (heldBeyondReserved s) = true := by
          simpa using fun hnone ↦ hgives ⟨hid, hnone⟩
        simp [givesBack, hheld]
      · simp [givesBack, hid]
  · by_cases hk : k = key
    · subst hk
      rw [hfenced.terminal q hq] at hqlive
      cases hqlive
    · rw [hfenced.others k hk] at hq
      exact (List.mem_cons.mp (h.pending k q hq hqlive hqlost)).resolve_left hk

lemma meets_fenceReservationWhen (h : FencingPass lost (key :: rest) s) :
    Meets (fun _ ↦ False) (fun _ t ↦ FencingPass lost rest t)
      (fenceReservationWhen now reason lost key) s := by
  unfold fenceReservationWhen
  apply meets_get_bind
  cases hr : s.findReservation key with
  | none => exact h.skip fun r hr' ↦ by cases hr.symm.trans hr'
  | some r =>
    refine meets_when (fun hc ↦ ?_) fun hc ↦ h.skip fun q hq ↦ ?_
    · simp only [Bool.and_eq_true, Bool.not_eq_true'] at hc
      obtain ⟨hlive, hlost⟩ := hc
      have hfenced : Meets (fun _ ↦ False) (fun _ t ↦ FencedAt key r s t)
          (fenceReservationLocked key reason now) s := by
        refine fenceReservationLocked_covered hr hlive fun l hl hnone ↦ ?_
        have hback : givesBack s lost r.accelerator r = true := by
          simp [givesBack, hlive, hlost, hnone]
        have hcovers := h.covered r.accelerator l hl
        rw [fencedAmounts_cons hr hback] at hcovers
        exact hcovers.head
      have hrun : FencingPass lost rest (fenceReservationLocked key reason now s).1 :=
        hfenced.of_never.fst fun _ t ht ↦ h.fenced hr hlive hlost ht
      exact hrun
    · rw [Option.some.inj (hr.symm.trans hq)] at hc
      exact hc

/-- A fencing pass over covered reservations leaves none alive that was to be fenced. -/
theorem fencing_complete (h : FencingCovered s lost s.reservations.keys) :
    Meets (fun _ ↦ False) (fun _ t ↦ ∀ k r, t.findReservation k = some r →
        reservationIsTerminal r.lifecycle = false → lost r = false)
      (s.reservations.keys.forM (fenceReservationWhen now reason lost)) s := by
  have hpass : FencingPass lost s.reservations.keys s :=
    ⟨KeyedMap.keys_nodup _, h, fun k r hr _ _ ↦ KeyedMap.mem_keys.mpr ⟨r, hr⟩⟩
  have hall : Meets (fun _ ↦ False) (fun _ t ↦ FencingPass lost [] t)
      (s.reservations.keys.forM (fenceReservationWhen now reason lost)) s :=
    meets_forM (Q := FencingPass lost) (fun _ _ _ ht ↦ meets_fenceReservationWhen ht) hpass
  refine hall.mono (R := fun _ _ ↦ True) trivial fun _ t ht _ k r hr hlive ↦ ?_
  cases hlost : lost r with
  | false => rfl
  | true => cases ht.pending k r hr hlive hlost

end Covering

section Losing

variable {lost : PartitionAttempt → Bool} {detail : Text}

lemma meets_revalidateUnknown {p : PartitionId} :
    Meets (fun _ ↦ False) (fun _ t ↦ Keeps commitments s t) (revalidateUnknown now detail p) s := by
  apply meets_get_bind
  exact meets_when (fun _ ↦ advances_ignore keeps_transition) fun _ ↦ rfl

lemma keeps_loseAttempt {key : PartitionAttemptId} :
    Advances (Keeps FabricState.reservations) (loseAttempt now detail lost key) s := by
  apply advances_get_bind
  cases s.findAttempt key with
  | none => exact advances_pure ..
  | some attempt =>
    apply advances_when
    intro _
    refine advances_modify_bind rfl (advances_forM fun p _ t _ ↦ ?_)
    have hkeeps : Keeps commitments t (revalidateUnknown now detail p t).1 :=
      meets_revalidateUnknown.of_never.fst fun _ _ h ↦ h
    exact (Prod.mk.inj hkeeps).2

/-- Only dispatched attempts under some keys are to be lost. -/
def LosingPass (lost : PartitionAttempt → Bool) (rest : List PartitionAttemptId)
    (s : FabricState) : Prop :=
  ∀ k a, s.findAttempt k = some a → a.state = .dispatched → lost a = true → k ∈ rest

lemma LosingPass.of_keeps {rest : List PartitionAttemptId} (h : Keeps commitments s t)
    (hs : LosingPass lost rest s) : LosingPass lost rest t := by
  intro k a ha
  rw [FabricState.findAttempt, (Prod.mk.inj h).1] at ha
  exact hs k a ha

lemma meets_loseAttempt {key : PartitionAttemptId} {rest : List PartitionAttemptId}
    (h : LosingPass lost (key :: rest) s) :
    Meets (fun _ ↦ False) (fun _ t ↦ LosingPass lost rest t) (loseAttempt now detail lost key) s := by
  have hskip (hkey : ∀ a, s.findAttempt key = some a → a.state = .dispatched → lost a = false) :
      LosingPass lost rest s := by
    intro k a ha hstate hlost
    rcases List.mem_cons.mp (h k a ha hstate hlost) with rfl | hk
    · rw [hkey a ha hstate] at hlost
      cases hlost
    · exact hk
  unfold loseAttempt
  apply meets_get_bind
  cases ha : s.findAttempt key with
  | none => exact hskip fun a ha' ↦ by cases ha.symm.trans ha'
  | some a =>
    refine meets_when (fun _ ↦ ?_) fun hc ↦ hskip fun a' ha' hstate ↦ ?_
    · apply meets_modify_bind
      have hlose : LosingPass lost rest (s.modifyAttempt key fun a ↦
          { a with state := .outcomeUnknown, settledAtMs := now, detail := detail }) := by
        intro k a' ha' hstate hlost
        rw [FabricState.findAttempt, FabricState.modifyAttempt, KeyedMap.find?_modify] at ha'
        split at ha'
        · obtain ⟨b, -, rfl⟩ := Option.map_eq_some_iff.mp ha'
          cases hstate
        · rename_i hk
          exact (List.mem_cons.mp (h k a' ha' hstate hlost)).resolve_left hk
      refine meets_forM (Q := fun _ t ↦ LosingPass lost rest t) (fun p _ t ht ↦ ?_) hlose
      exact meets_revalidateUnknown.mono (R := fun _ _ ↦ True) trivial
        fun _ u hu _ ↦ ht.of_keeps hu
    · obtain rfl := Option.some.inj (ha.symm.trans ha')
      rw [hstate] at hc
      exact hc

/-- Every lost reservation is terminal and no lost attempt is dispatched. -/
structure Swept (lost : PartitionReservation → Bool) (lost' : PartitionAttempt → Bool)
    (s : FabricState) : Prop where
  reservations : ∀ k r, s.findReservation k = some r → reservationIsTerminal r.lifecycle = false →
    lost r = false
  attempts : ∀ k a, s.findAttempt k = some a → a.state = .dispatched → lost' a = false

lemma Swept.of_keeps {lost : PartitionReservation → Bool} {lost' : PartitionAttempt → Bool}
    (h : Keeps commitments s t) (hs : Swept lost lost' s) : Swept lost lost' t := by
  obtain ⟨hattempts, hreservations⟩ := Prod.mk.inj h
  refine ⟨fun k r hr ↦ ?_, fun k a ha ↦ ?_⟩
  · rw [FabricState.findReservation, hreservations] at hr
    exact hs.reservations k r hr
  · rw [FabricState.findAttempt, hattempts] at ha
    exact hs.attempts k a ha

/-- A fencing pass and a losing pass sweep the registry, and what follows leaves it so. -/
theorem swept_of_passes {lost : PartitionReservation → Bool} {lost' : PartitionAttempt → Bool}
    {detail : Text} {α : Type} {rest : Unit → FabricM α}
    (h : FencingCovered s lost s.reservations.keys)
    (hrest : ∀ t, Advances (Keeps commitments) (rest ()) t) :
    Swept lost lost' ((s.reservations.keys.forM (fenceReservationWhen now reason lost) >>= fun _ ↦
      s.attempts.keys.forM (loseAttempt now detail lost') >>= rest) s).1 := by
  have hkeepsAttempts : Advances (Keeps FabricState.attempts)
      (s.reservations.keys.forM (fenceReservationWhen now reason lost)) s :=
    advances_forM fun _ _ _ _ ↦ keeps_fenceReservationWhen
  have hfenced := (fencing_complete h).mono hkeepsAttempts
    fun _ t hlive hkept ↦ And.intro hlive hkept
  have hall : Meets (Swept lost lost') (fun _ t ↦ Swept lost lost' t)
      (s.reservations.keys.forM (fenceReservationWhen now reason lost) >>= fun _ ↦
        s.attempts.keys.forM (loseAttempt now detail lost') >>= rest) s := by
    refine meets_bind hfenced.of_never fun _ t ⟨hlive, hkept⟩ ↦ ?_
    have hpending : LosingPass lost' s.attempts.keys t := fun k a ha _ _ ↦
      KeyedMap.mem_keys.mpr ⟨a, (congrArg (·.find? k) hkept).symm.trans ha⟩
    have hlost : Meets (fun _ ↦ False) (fun _ u ↦ LosingPass lost' [] u)
        (s.attempts.keys.forM (loseAttempt now detail lost')) t :=
      meets_forM (Q := LosingPass lost') (fun _ _ _ hu ↦ meets_loseAttempt hu) hpending
    have hkeeps : Advances (Keeps FabricState.reservations)
        (s.attempts.keys.forM (loseAttempt now detail lost')) t :=
      advances_forM fun _ _ _ _ ↦ keeps_loseAttempt
    have hswept : Meets (fun _ ↦ False) (fun _ u ↦ Swept lost lost' u)
        (s.attempts.keys.forM (loseAttempt now detail lost')) t := by
      refine hlost.mono hkeeps fun _ u hu hsame ↦ ⟨fun k r hr ↦ ?_, fun k a ha hstate ↦ ?_⟩
      · exact hlive k r ((congrArg (·.find? k) hsame).symm.trans hr)
      · cases hlostA : lost' a with
        | false => rfl
        | true => cases hu k a ha hstate hlostA
    refine meets_bind hswept.of_never fun _ u hu ↦ ?_
    exact meets_of_advances (hrest u) (fun _ hv ↦ hu.of_keeps hv) fun _ _ hv ↦ hu.of_keeps hv
  exact hall.fst fun _ _ hswept ↦ hswept

end Losing

section Currency

/-- A reservation carries the current epoch and, where it is bound to a worker, an incarnation in
authority. -/
def PartitionReservation.Current (s : FabricState) (r : PartitionReservation) : Prop :=
  r.coordinatorEpoch = s.coordinatorEpoch ∧
    (valid r.worker = true → InAuthority s r.worker r.workerBoot)

/-- An attempt carries the current epoch and, where it names a registered worker, an incarnation in
authority. -/
def PartitionAttempt.Current (s : FabricState) (a : PartitionAttempt) : Prop :=
  a.coordinatorEpoch = s.coordinatorEpoch ∧
    ∀ w, s.findWorker a.worker = some w → w.boot = a.workerBoot ∧ w.fenced = false

/-- Live reservations and dispatched attempts carry current authority. -/
structure LiveAuthority (s : FabricState) : Prop where
  reservations : ∀ k r, s.findReservation k = some r → reservationIsTerminal r.lifecycle = false →
    r.Current s
  attempts : ∀ k a, s.findAttempt k = some a → a.state = .dispatched → a.Current s

/-- Current authority in a registry that knows no worker without an identity. -/
structure Governed (s : FabricState) : Prop extends LiveAuthority s where
  named : s.findWorker 0 = none

/-- The boot identity of a worker and whether it is fenced. -/
def credentials (s : FabricState) (w : WorkerId) : Option (WorkerBootId × Bool) :=
  (s.findWorker w).map fun r ↦ (r.boot, r.fenced)

lemma inAuthority_iff {w : WorkerId} {b : WorkerBootId} :
    InAuthority s w b ↔ credentials s w = some (b, false) := by
  simp [InAuthority, credentials]

lemma PartitionAttempt.current_iff {a : PartitionAttempt} :
    a.Current s ↔ a.coordinatorEpoch = s.coordinatorEpoch ∧
      ∀ c, credentials s a.worker = some c → c = (a.workerBoot, false) := by
  simp [PartitionAttempt.Current, credentials]

lemma PartitionReservation.Current.of_credentials {r : PartitionReservation}
    (hepoch : t.coordinatorEpoch = s.coordinatorEpoch)
    (hworker : valid r.worker = true → credentials t r.worker = credentials s r.worker)
    (h : r.Current s) : r.Current t := by
  refine ⟨h.1.trans hepoch.symm, fun hvalid ↦ inAuthority_iff.mpr ?_⟩
  rw [hworker hvalid]
  exact inAuthority_iff.mp (h.2 hvalid)

lemma PartitionAttempt.Current.of_credentials {a : PartitionAttempt}
    (hepoch : t.coordinatorEpoch = s.coordinatorEpoch)
    (hworker : credentials t a.worker = credentials s a.worker) (h : a.Current s) :
    a.Current t := by
  refine PartitionAttempt.current_iff.mpr ⟨h.1.trans hepoch.symm, ?_⟩
  rw [hworker]
  exact (PartitionAttempt.current_iff.mp h).2

/-- What carries authority after a step under an unchanged epoch carried current authority before
it. -/
structure Inherits (s t : FabricState) : Prop where
  epoch : t.coordinatorEpoch = s.coordinatorEpoch
  reservations : ∀ k r, t.findReservation k = some r → reservationIsTerminal r.lifecycle = false →
    r.Current s
  attempts : ∀ k a, t.findAttempt k = some a → a.state = .dispatched → a.Current s

lemma Inherits.live (h : Inherits s t) (hworkers : ∀ w, credentials t w = credentials s w) :
    LiveAuthority t :=
  ⟨fun k r hr hlive ↦ (h.reservations k r hr hlive).of_credentials h.epoch fun _ ↦ hworkers _,
    fun k a ha hstate ↦ (h.attempts k a ha hstate).of_credentials h.epoch (hworkers _)⟩

variable {π : Scope} {floor : UInt64}

lemma inherits_of_evolves (hs : LiveAuthority s) (h : Evolves π floor s t) (hepoch : ¬π.epoch)
    (hbinds : ∀ k, ¬π.binds k)
    (hrevives : ∀ k, π.resettles k → ∀ r r', s.findReservation k = some r →
      t.findReservation k = some r' → reservationIsTerminal r'.lifecycle = false →
      reservationIsTerminal r.lifecycle = false)
    (hreg : ∀ a, π.registers a → a.Current s) : Inherits s t := by
  refine ⟨h.tenure.epoch.resolve_left hepoch, fun k r' hr' hlive ↦ ?_, fun k a' ha' hstate ↦ ?_⟩
  · rcases h.tenure.reservations k r' hr' with ⟨-, hfresh⟩ | ⟨r, hr, hevolves⟩
    · obtain ⟨he, hworker, -⟩ := hfresh.resolve_left (hbinds k)
      refine ⟨he.resolve_left hepoch, fun hvalid ↦ ?_⟩
      rw [hworker] at hvalid
      cases hvalid
    · obtain ⟨he, hworker, hboot⟩ := hevolves.authority.resolve_left (hbinds k)
      have hcurrent : r.Current s := by
        refine hs.reservations k r hr ?_
        rcases hevolves.lifecycle with hresettles | hlive' | hsame
        · exact hrevives k hresettles r r' hr hr' hlive
        · exact hlive'
        · rwa [hsame] at hlive
      unfold PartitionReservation.Current
      rwa [he, hworker, hboot]
  · obtain ⟨a, ha, hevolves⟩ := h.attempts k a' ha'
    have hflight : a'.state.inFlight = true := by
      rw [hstate]
      rfl
    obtain rfl := hevolves.flight hflight
    rcases ha with hold | ⟨-, hregistered⟩
    · exact hs.attempts k a' hold hstate
    · exact hreg a' hregistered

/-- A step on worker records alone passes on what carries authority. -/
lemma inherits_of_workers (hs : LiveAuthority s)
    (h : Evolves { workers := True } s.ids.next s t) : Inherits s t :=
  inherits_of_evolves hs h id (fun _ ↦ id) (fun _ h ↦ h.elim) fun _ h ↦ h.elim

/-- The authority that an operation relies on or takes away stays current.

A reservation is bound under the current epoch to an incarnation in authority and an attempt is
registered for one; what loses its authority can be fenced; and an epoch is installed over nothing
that carries an older one. -/
def KeepsAuthority (s : FabricState) : Op → Prop
  | .bindReservation id worker boot epoch _ => ∀ r, s.findReservation id = some r →
      reservationIsTerminal r.lifecycle = false →
      epoch = s.coordinatorEpoch ∧ (valid worker = true → InAuthority s worker boot)
  | .registerAttempt id _ worker boot _ => ∀ r, s.findReservation id = some r →
      r.lifecycle = .active →
      ∀ w, s.findWorker (if valid worker then worker else r.worker) = some w →
        w.boot = (if valid boot then boot else r.workerBoot) ∧ w.fenced = false
  | .noteWorker worker _ => valid worker.id = true → valid worker.boot = true →
      (∀ previous, s.findWorker worker.id = some previous → previous.boot ≠ worker.boot →
        FencingCovered s (isWorkerBound worker.id previous.boot) s.reservations.keys) ∧
      (∀ k r, s.findReservation k = some r → reservationIsTerminal r.lifecycle = false →
        r.worker = worker.id → r.workerBoot = worker.boot → worker.fenced = false) ∧
      (∀ k a, s.findAttempt k = some a → a.state = .dispatched → a.worker = worker.id →
        (a.workerBoot = worker.boot → worker.fenced = false) ∧
          (s.findWorker worker.id = none → a.workerBoot = worker.boot))
  | .fenceWorker worker boot _ _ => (∃ r, s.findWorker worker = some r ∧ r.boot = boot) →
      FencingCovered s (isWorkerBound worker boot) s.reservations.keys
  | .advanceCoordinatorEpoch _ => ∀ epoch, next s.coordinatorEpoch = .ok epoch →
      FencingCovered s (fun r ↦ r.coordinatorEpoch ≠ epoch) s.reservations.keys
  | .installCoordinatorEpoch epoch => s.coordinatorEpoch < epoch →
      (∀ k r, s.findReservation k = some r → reservationIsTerminal r.lifecycle = true) ∧
        ∀ k a, s.findAttempt k = some a → a.state ≠ .dispatched
  | .importDurableState _ _ => False
  | _ => True

lemma KeepsAuthority.withoutImport {op : Op} (h : KeepsAuthority s op) : op.isImport = false := by
  cases op with
  | importDurableState d now => exact h.elim
  | _ => rfl

lemma credentials_of_workers (h : t.workers = s.workers) (w : WorkerId) :
    credentials t w = credentials s w := by
  unfold credentials FabricState.findWorker
  rw [h]

lemma credentials_modify {k : WorkerId} {f : WorkerRecord → WorkerRecord}
    (h : ∀ w, (f w).boot = w.boot ∧ (f w).fenced = w.fenced) (w : WorkerId) :
    credentials { s with workers := s.workers.modify k f } w = credentials s w := by
  unfold credentials FabricState.findWorker
  rw [KeyedMap.find?_modify]
  split
  · cases s.workers.find? w with
    | none => rfl
    | some r => simp [(h r).1, (h r).2]
  · rfl

lemma bearsLoss_credentials : BearsLoss (Keeps credentials) where
  keeps s t h := funext (credentials_of_workers h)
  life s k f hf := by
    refine funext (credentials_modify fun w ↦ ?_)
    rcases hf w with h | h
    · rw [h]
      exact ⟨rfl, rfl⟩
    · rw [h]
      exact ⟨rfl, rfl⟩

end Currency

section Steps

/-- Fencing the current incarnation of a worker sweeps what is bound to it. -/
lemma swept_fenceWorkerLocked {worker : WorkerId} {boot : WorkerBootId} {r : WorkerRecord}
    (hr : s.findWorker worker = some r) (hboot : r.boot = boot)
    (h : FencingCovered s (isWorkerBound worker boot) s.reservations.keys) :
    Swept (isWorkerBound worker boot) (ownedBy worker boot)
      (fenceWorkerLocked worker boot now reason s).1 := by
  unfold fenceWorkerLocked
  rw [get_bind, hr]
  simp only
  rw [decide_eq_true hboot, when_true, modify_bind]
  have hcovered : FencingCovered { s with workers := s.workers.modify worker fun w ↦
      { w with fenced := true, alive := false, fencedAtMs := now, fenceReason := reason } }
      (isWorkerBound worker boot) s.reservations.keys := h
  exact swept_of_passes hcovered fun t ↦ advances_modify keeps_bump

/-- What relies on a worker after a sweep of its current incarnation relied on another one. -/
lemma Swept.other {worker : WorkerId} {boot : WorkerBootId} {r : WorkerRecord}
    (hr : s.findWorker worker = some r) (hboot : r.boot = boot)
    (ht : Swept (isWorkerBound worker boot) (ownedBy worker boot) t) (h : Inherits s t) :
    (∀ k q, t.findReservation k = some q → reservationIsTerminal q.lifecycle = false →
      valid q.worker = true → q.worker ≠ worker) ∧
    ∀ k a, t.findAttempt k = some a → a.state = .dispatched → a.worker ≠ worker := by
  constructor
  · rintro k q hq hlive hvalid rfl
    obtain ⟨r', hr', hboot', -⟩ := (h.reservations k q hq hlive).2 hvalid
    obtain rfl := Option.some.inj (hr.symm.trans hr')
    have hnot := ht.reservations k q hq hlive
    simp [isWorkerBound, ← hboot', hboot] at hnot
  · rintro k a ha hstate rfl
    obtain ⟨hboot', -⟩ := (h.attempts k a ha hstate).2 r hr
    have hnot := ht.attempts k a ha hstate
    simp [ownedBy, ← hboot', hboot] at hnot

lemma liveAuthority_fenceWorkerLocked {worker : WorkerId} {boot : WorkerBootId}
    (hs : LiveAuthority s) (h : (∃ r, s.findWorker worker = some r ∧ r.boot = boot) →
      FencingCovered s (isWorkerBound worker boot) s.reservations.keys) :
    LiveAuthority (fenceWorkerLocked worker boot now reason s).1 := by
  have hinherits : Inherits s (fenceWorkerLocked worker boot now reason s).1 :=
    inherits_of_workers hs (advances_fenceWorkerLocked trivial
      ⟨fun _ _ ↦ trivial, trivial, trivial, trivial⟩)
  rcases workers_fenceWorkerLocked worker boot now reason s with
    ⟨hworkers, -⟩ | ⟨⟨r, hr, hboot⟩, hworkers⟩
  · exact hinherits.live (credentials_of_workers hworkers)
  · have hswept : Swept (isWorkerBound worker boot) (ownedBy worker boot)
        (fenceWorkerLocked worker boot now reason s).1 :=
      swept_fenceWorkerLocked hr hboot (h ⟨r, hr, hboot⟩)
    obtain ⟨hreservations, hattempts⟩ := hswept.other hr hboot hinherits
    have hkept {w : WorkerId} (hw : w ≠ worker) :
        credentials (fenceWorkerLocked worker boot now reason s).1 w = credentials s w := by
      unfold credentials FabricState.findWorker
      rw [hworkers, KeyedMap.find?_modify_of_ne _ _ hw]
    refine ⟨fun k q hq hlive ↦ ?_, fun k a ha hstate ↦ ?_⟩
    · exact (hinherits.reservations k q hq hlive).of_credentials hinherits.epoch fun hvalid ↦
        hkept (hreservations k q hq hlive hvalid)
    · exact (hinherits.attempts k a ha hstate).of_credentials hinherits.epoch
        (hkept (hattempts k a ha hstate))

lemma keeps_registerWorker (worker : WorkerRecord) : Advances (Keeps commitments) (do
      Procedure.modify fun s ↦
        { s with
          workers := s.workers.insert worker.id
            { worker with coordinatorEpoch := s.coordinatorEpoch } }
      Procedure.modify FabricState.bumpStateGeneration : FabricM Unit) s :=
  advances_modify_bind rfl (advances_modify keeps_bump)

/-- A registration under the same boot identity fences nothing. -/
lemma noteWorker_same (now : UInt64) {worker : WorkerRecord}
    (h : ∀ previous, s.findWorker worker.id = some previous → previous.boot = worker.boot) :
    Keeps commitments s (noteWorker worker now s).1 := by
  have hnone : fencePrevious (s.findWorker worker.id) worker now s = (s, .ok ()) := by
    unfold fencePrevious
    cases hfound : s.findWorker worker.id with
    | none => rfl
    | some previous => simp [h previous hfound]
  have hall : Advances (Keeps commitments) (noteWorker worker now) s := by
    apply advances_require_bind
    intro _
    apply advances_get_bind
    apply advances_require_bind
    intro _
    unfold Advances
    rw [bind_ok hnone]
    exact keeps_registerWorker worker
  exact hall

/-- A registration under another boot identity sweeps what is bound to the previous one. -/
lemma noteWorker_other {worker : WorkerRecord} {previous : WorkerRecord}
    (hfound : s.findWorker worker.id = some previous) (hboot : previous.boot ≠ worker.boot)
    (hvalid : (valid worker.id && valid worker.boot) = true)
    (h : FencingCovered s (isWorkerBound worker.id previous.boot) s.reservations.keys) :
    Swept (isWorkerBound worker.id previous.boot) (ownedBy worker.id previous.boot)
      (noteWorker worker now s).1 := by
  have hswept : Swept (isWorkerBound worker.id previous.boot) (ownedBy worker.id previous.boot)
      (fencePrevious (some previous) worker now s).1 := by
    unfold fencePrevious
    simp only
    rw [decide_eq_true hboot, when_true, modify_bind, ignore_apply]
    have hcovered : FencingCovered { s with workers := s.workers.modify worker.id fun w ↦
        { w with
          fenced := true
          alive := false
          fencedAtMs := now
          fenceReason := "worker reincarnated under a fresh boot identity" } }
        (isWorkerBound worker.id previous.boot) s.reservations.keys := h
    refine swept_fenceWorkerLocked (r := { previous with
      fenced := true
      alive := false
      fencedAtMs := now
      fenceReason := "worker reincarnated under a fresh boot identity" }) ?_ rfl hcovered
    rw [FabricState.findWorker, KeyedMap.find?_modify, if_pos rfl,
      show s.workers.find? worker.id = some previous from hfound]
    rfl
  obtain ⟨u, hu⟩ := fencePrevious_ok (some previous) worker now s
  rw [hu] at hswept
  have hroom : (!((some previous).isNone && s.workers.size ≥ s.limits.maxWorkers)) = true := rfl
  unfold noteWorker
  rw [require_bind, if_pos hvalid, get_bind]
  simp only [hfound]
  rw [require_bind, if_pos hroom, bind_ok hu]
  exact hswept.of_keeps (keeps_registerWorker worker)

lemma liveAuthority_noteWorker {worker : WorkerRecord} (hs : LiveAuthority s)
    (hop : KeepsAuthority s (.noteWorker worker now)) :
    LiveAuthority (noteWorker worker now s).1 := by
  have hevolves : Evolves { workers := True, numbers := False } s.ids.next s
      (noteWorker worker now s).1 :=
    advances_noteWorker trivial False.elim fun _ _ _ ↦
      ⟨fun _ _ ↦ trivial, trivial, trivial, trivial⟩
  have hinherits : Inherits s (noteWorker worker now s).1 :=
    inherits_of_evolves hs hevolves id (fun _ ↦ id) (fun _ h ↦ h.elim) fun _ h ↦ h.elim
  rcases noteWorker_cases worker now s with ⟨⟨e, h⟩, -⟩ | ⟨hok, hworkers⟩
  · rw [h]
    exact hs
  have hvalid : (valid worker.id && valid worker.boot) = true := by
    cases hc : valid worker.id && valid worker.boot with
    | true => rfl
    | false =>
      unfold noteWorker at hok
      rw [require_bind, hc] at hok
      cases hok
  obtain ⟨hid, hboot⟩ := Bool.and_eq_true_iff.mp hvalid
  obtain ⟨hcovered, hreservations, hattempts⟩ := hop hid hboot
  have hother {w : WorkerId} (hw : w ≠ worker.id) :
      credentials (noteWorker worker now s).1 w = credentials s w := by
    unfold credentials
    rw [hworkers w, if_neg hw]
  have hself : credentials (noteWorker worker now s).1 worker.id =
      some (worker.boot, worker.fenced) := by
    unfold credentials
    rw [hworkers worker.id, if_pos rfl]
    rfl
  by_cases hsame : ∀ previous, s.findWorker worker.id = some previous → previous.boot = worker.boot
  · -- nothing is fenced, so what relies on the worker relied on it before
    obtain ⟨hkeptA, hkeptR⟩ := Prod.mk.inj (noteWorker_same now hsame)
    refine ⟨fun k q hq hlive ↦ ?_, fun k a ha hstate ↦ ?_⟩
    · have hcurrent := hinherits.reservations k q hq hlive
      by_cases hw : q.worker = worker.id
      · refine ⟨hcurrent.1.trans hinherits.epoch.symm, fun hv ↦ inAuthority_iff.mpr ?_⟩
        obtain ⟨previous, hprevious, hb, -⟩ := hcurrent.2 hv
        have hboot' : q.workerBoot = worker.boot := hb.symm.trans (hsame previous (hw ▸ hprevious))
        rw [FabricState.findReservation, hkeptR] at hq
        rw [hw, hself, hboot', hreservations k q hq hlive hw hboot']
      · exact hcurrent.of_credentials hinherits.epoch fun _ ↦ hother hw
    · have hcurrent := hinherits.attempts k a ha hstate
      by_cases hw : a.worker = worker.id
      · rw [FabricState.findAttempt, hkeptA] at ha
        obtain ⟨hfenced, hfirst⟩ := hattempts k a ha hstate hw
        have hboot' : a.workerBoot = worker.boot := by
          cases hfound : s.findWorker worker.id with
          | none => exact hfirst hfound
          | some previous =>
            obtain ⟨hb, -⟩ := hcurrent.2 previous (hw ▸ hfound)
            exact hb.symm.trans (hsame previous hfound)
        refine PartitionAttempt.current_iff.mpr ⟨hcurrent.1.trans hinherits.epoch.symm, ?_⟩
        rintro c hc
        rw [hw, hself, hfenced hboot'] at hc
        rw [← Option.some.inj hc, hboot']
      · exact hcurrent.of_credentials hinherits.epoch (hother hw)
  · -- the previous incarnation is swept, so nothing relies on the worker any more
    push Not at hsame
    obtain ⟨previous, hfound, hdiffers⟩ := hsame
    have hswept : Swept (isWorkerBound worker.id previous.boot) (ownedBy worker.id previous.boot)
        (noteWorker worker now s).1 :=
      noteWorker_other hfound hdiffers hvalid (hcovered previous hfound hdiffers)
    obtain ⟨hR, hA⟩ := hswept.other hfound rfl hinherits
    refine ⟨fun k q hq hlive ↦ ?_, fun k a ha hstate ↦ ?_⟩
    · exact (hinherits.reservations k q hq hlive).of_credentials hinherits.epoch fun hv ↦
        hother (hR k q hq hlive hv)
    · exact (hinherits.attempts k a ha hstate).of_credentials hinherits.epoch
        (hother (hA k a ha hstate))

/-- An advance of the epoch is a fencing and a losing pass under the new epoch, and then the workers
are told. -/
lemma advanceCoordinatorEpoch_passes {epoch : CoordinatorEpoch}
    (hnext : next s.coordinatorEpoch = .ok epoch) :
    ∃ (reason detail : Text) (rest : Unit → FabricM CoordinatorEpoch),
      (∀ t, Advances (Keeps commitments) (rest ()) t) ∧
      (∀ t, Advances (Evolves { workers := True } 0) (rest ()) t) ∧
      advanceCoordinatorEpoch now s =
        (s.reservations.keys.forM (fenceReservationWhen now reason
          fun r ↦ r.coordinatorEpoch ≠ epoch) >>= fun _ ↦
        s.attempts.keys.forM (loseAttempt now detail fun a ↦ a.coordinatorEpoch ≠ epoch) >>= rest)
          { s with coordinatorEpoch := epoch } := by
  refine ⟨"coordinator epoch advanced; reservations from an older epoch lose authority",
    "coordinator epoch advanced while this attempt was in flight", fun _ ↦ do
    s.workers.keys.forM fun key ↦ Procedure.modify fun s ↦
      { s with
        workers := s.workers.modify key fun w ↦
          if w.coordinatorEpoch ≠ epoch then { w with alive := false } else w }
    Procedure.modify FabricState.bumpStateGeneration
    pure epoch, fun t ↦ ?_, fun t ↦ ?_, ?_⟩
  · refine advances_bind (advances_forM fun _ _ _ _ ↦ advances_modify rfl) fun _ _ _ ↦ ?_
    exact advances_modify_bind keeps_bump (advances_pure ..)
  · refine advances_bind (advances_forM fun _ _ _ _ ↦ advances_modify (evolves_modifyWorker trivial))
      fun _ _ _ ↦ ?_
    exact advances_bind advances_bump fun _ _ _ ↦ advances_pure ..
  · unfold advanceCoordinatorEpoch
    rw [get_bind, hnext]
    rfl

/-- What survives an advance of the epoch was under the new epoch already, which nothing is. -/
lemma liveAuthority_advanceCoordinatorEpoch (hs : LiveAuthority s)
    (hop : KeepsAuthority s (.advanceCoordinatorEpoch now)) :
    LiveAuthority (advanceCoordinatorEpoch now s).1 := by
  cases hnext : next s.coordinatorEpoch with
  | error e =>
    have hidle : (advanceCoordinatorEpoch now s).1 = s := by
      unfold advanceCoordinatorEpoch
      rw [get_bind, hnext]
      rfl
    rw [hidle]
    exact hs
  | ok epoch =>
    have hevolves : Advances (Evolves { workers := True, epoch := True } s.ids.next)
        (advanceCoordinatorEpoch now) s :=
      advances_advanceCoordinatorEpoch trivial trivial fun _ _ ↦
        ⟨fun _ _ ↦ trivial, trivial, trivial, trivial⟩
    have hnew : s.coordinatorEpoch ≠ epoch := (lt_next hnext).ne
    obtain ⟨reason, detail, rest, hkeeps, hrest, hrun⟩ := advanceCoordinatorEpoch_passes hnext
    have hcovered : FencingCovered { s with coordinatorEpoch := epoch }
        (fun r ↦ r.coordinatorEpoch ≠ epoch) s.reservations.keys := hop epoch hnext
    have hswept : Swept (fun r ↦ r.coordinatorEpoch ≠ epoch) (fun a ↦ a.coordinatorEpoch ≠ epoch)
        (advanceCoordinatorEpoch now s).1 := by
      rw [hrun]
      exact swept_of_passes hcovered hkeeps
    have hepoch : (advanceCoordinatorEpoch now s).1.coordinatorEpoch = epoch := by
      have h : Advances (Evolves { workers := True } 0)
          (s.reservations.keys.forM (fenceReservationWhen now reason
            fun r ↦ r.coordinatorEpoch ≠ epoch) >>= fun _ ↦
          s.attempts.keys.forM (loseAttempt now detail fun a ↦ a.coordinatorEpoch ≠ epoch) >>= rest)
          { s with coordinatorEpoch := epoch } := by
        refine advances_bind (advances_forM fun _ _ _ _ ↦
          advances_fenceReservationWhen (fun _ _ ↦ trivial) trivial) fun _ _ _ ↦ ?_
        exact advances_bind (advances_forM fun _ _ _ _ ↦ advances_loseAttempt trivial trivial)
          fun _ t _ ↦ hrest _
      rw [hrun]
      exact h.tenure.epoch.resolve_left id
    refine ⟨fun k q hq hlive ↦ ?_, fun k a ha hstate ↦ ?_⟩
    · have hcurrent : q.coordinatorEpoch = epoch := by
        simpa using hswept.reservations k q hq hlive
      rcases hevolves.tenure.reservations k q hq with ⟨-, hfresh⟩ | ⟨r, hr, hr'⟩
      · obtain ⟨-, hworker, -⟩ := hfresh.resolve_left id
        refine ⟨hcurrent.trans hepoch.symm, fun hvalid ↦ ?_⟩
        rw [hworker] at hvalid
        cases hvalid
      · have hold : reservationIsTerminal r.lifecycle = false := by
          rcases hr'.lifecycle with h | h | h
          · exact h.elim
          · exact h
          · rwa [h] at hlive
        obtain ⟨he, -⟩ := hr'.authority.resolve_left id
        exact absurd ((hs.reservations k r hr hold).1.symm.trans (he.symm.trans hcurrent)) hnew
    · have hcurrent : a.coordinatorEpoch = epoch := by
        simpa using hswept.attempts k a ha hstate
      obtain ⟨b, hb, hb'⟩ := hevolves.attempts k a ha
      have hflight : a.state.inFlight = true := by
        rw [hstate]
        rfl
      obtain rfl := hb'.flight hflight
      rcases hb with hold | ⟨-, hnone⟩
      · exact absurd ((hs.attempts k a hold hstate).1.symm.trans hcurrent) hnew
      · exact hnone.elim

/-- A result makes no terminal reservation live. -/
lemma inherits_applyMutationResult {key : PartitionAttemptId}
    {mutation : Result BackendMutationResult} {observed : Option BackendLayout}
    (hs : LiveAuthority s) :
    Inherits s ((Op.applyMutationResult key mutation observed now).step s) := by
  let π : Scope :=
    { natives := True
      activates := True
      resettles := fun k ↦ ∀ a, s.findAttempt key = some a → k = a.reservation }
  have hwithin : (Op.applyMutationResult key mutation observed now).Within π s := by
    refine ⟨trivial, trivial, fun a ha a' ha' ↦ ?_⟩
    rw [Option.some.inj (ha.symm.trans ha')]
  have hlenient : π.Lenient :=
    ⟨fun _ ↦ trivial, fun _ _ _ _ ↦ trivial, fun _ ↦ trivial, trivial⟩
  refine inherits_of_evolves hs (evolves_within hwithin (hlenient.minds s _)) id (fun _ ↦ id)
    (fun k hk r r' hr hr' hlive ↦ ?_) fun _ h ↦ h.elim
  change (applyMutationResultLocked key mutation observed now s).1.findReservation k = some r' at hr'
  rcases applyMutationResultLocked_idle key mutation observed now s with
    hidle | ⟨a, q, ha, hq, hflight⟩
  · rw [hidle] at hr'
    obtain rfl := Option.some.inj (hr.symm.trans hr')
    exact hlive
  · obtain rfl := hk a ha
    obtain rfl := Option.some.inj (hq.symm.trans hr)
    obtain ⟨x, hx, hresettled⟩ :=
      (settled_applyMutationResultLocked ha hq hflight mutation observed now).reservation
    obtain rfl := Option.some.inj (hx.symm.trans hr')
    cases hterminal : reservationIsTerminal q.lifecycle with
    | false => rfl
    | true =>
      rcases hresettled hterminal with h | ⟨-, h⟩ | ⟨-, -, h⟩
      · rw [h, hterminal] at hlive
        cases hlive
      · rw [h] at hlive
        cases hlive
      · rw [h] at hlive
        cases hlive

lemma Inherits.bump {t : FabricState} (h : Inherits s t) : Inherits s t.bumpStateGeneration := by
  obtain ⟨hattempts, hreservations⟩ := Prod.mk.inj (keeps_bump (s := t))
  have hepoch : Keeps FabricState.coordinatorEpoch t t.bumpStateGeneration := bump_of fun _ ↦ rfl
  refine ⟨hepoch.trans h.epoch, fun k r hr ↦ ?_, fun k a ha ↦ ?_⟩
  · rw [FabricState.findReservation, hreservations] at hr
    exact h.reservations k r hr
  · rw [FabricState.findAttempt, hattempts] at ha
    exact h.attempts k a ha

lemma inherits_bindReservation {id : PartitionReservationId} {worker : WorkerId}
    {boot : WorkerBootId} {epoch : CoordinatorEpoch} (hs : LiveAuthority s)
    (hop : KeepsAuthority s (.bindReservation id worker boot epoch now)) :
    Inherits s (bindReservation id worker boot epoch now s).1 := by
  unfold bindReservation
  rw [get_bind, require_bind]
  split
  · rw [modify_bind, modify_apply]
    refine Inherits.bump ⟨rfl, fun k r' hr' hlive ↦ ?_, hs.attempts⟩
    rw [FabricState.findReservation, FabricState.modifyReservation, KeyedMap.find?_modify] at hr'
    split at hr'
    · rename_i hk
      subst hk
      obtain ⟨r, hr, rfl⟩ := Option.map_eq_some_iff.mp hr'
      exact hop r hr hlive
    · exact hs.reservations k r' hr' hlive
  · exact ⟨rfl, hs.reservations, hs.attempts⟩

/-- A reservation's authority is current where it is registered for. -/
lemma current_of_issuedFor {id : PartitionReservationId} {kind : AttemptKind} {worker : WorkerId}
    {boot : WorkerBootId} {r : PartitionReservation} {a : PartitionAttempt} (hs : LiveAuthority s)
    (hr : s.findReservation id = some r) (hactive : r.lifecycle = .active)
    (hworker : ∀ w, s.findWorker (if valid worker then worker else r.worker) = some w →
      w.boot = (if valid boot then boot else r.workerBoot) ∧ w.fenced = false)
    (ha : IssuedFor r kind worker boot a) : a.Current s := by
  have hlive : reservationIsTerminal r.lifecycle = false := by
    rw [hactive]
    rfl
  refine ⟨ha.coordinatorEpoch.trans (hs.reservations id r hr hlive).1, fun w hw ↦ ?_⟩
  rw [ha.worker] at hw
  rw [ha.workerBoot]
  exact hworker w hw

lemma Governed.current_of_unbound {kind : AttemptKind} {partitions : List PartitionId}
    {a : PartitionAttempt} (hs : Governed s) (ha : IssuedUnbound s kind partitions a) :
    a.Current s := by
  refine ⟨ha.coordinatorEpoch, fun w hw ↦ ?_⟩
  rw [ha.worker, hs.named] at hw
  cases hw

lemma liveAuthority_installCoordinatorEpoch {epoch : CoordinatorEpoch} (hs : LiveAuthority s)
    (hop : KeepsAuthority s (.installCoordinatorEpoch epoch)) :
    LiveAuthority (installCoordinatorEpoch epoch s).1 := by
  have hkept : Inherits s s := ⟨rfl, hs.reservations, hs.attempts⟩
  unfold installCoordinatorEpoch
  rw [get_bind, require_bind]
  split
  · rename_i hforward
    have hle : s.coordinatorEpoch ≤ epoch := by simpa using hforward
    rw [modify_bind, modify_apply]
    rcases eq_or_lt_of_le hle with rfl | hlt
    · exact hkept.bump.live (credentials_of_workers bump_workers)
    · obtain ⟨hterminal, hnone⟩ := hop hlt
      obtain ⟨hattempts, hreservations⟩ :=
        Prod.mk.inj (keeps_bump (s := { s with coordinatorEpoch := epoch }))
      refine ⟨fun k r hr hlive ↦ ?_, fun k a ha hstate ↦ ?_⟩
      · rw [FabricState.findReservation, hreservations] at hr
        rw [hterminal k r hr] at hlive
        cases hlive
      · rw [FabricState.findAttempt, hattempts] at ha
        exact absurd hstate (hnone k a ha)
  · exact hs

/-- The dispatches register attempts whose authority is current. -/
lemma inherits_of_registers {op : Op} (hs : LiveAuthority s)
    (h : Evolves { registers := PartitionAttempt.Current s, plans := fun _ ↦ True, reserves := True }
      s.ids.next s (op.step s)) : Inherits s (op.step s) :=
  inherits_of_evolves hs h id (fun _ ↦ id) (fun _ h ↦ h.elim) fun _ ha ↦ ha

lemma credentials_noteWorkerSeen (worker : WorkerId) (boot : WorkerBootId) (atMs : UInt64)
    (w : WorkerId) : credentials (noteWorkerSeen worker boot atMs s).1 w = credentials s w := by
  rcases noteWorkerSeen_cases worker boot atMs s with h | ⟨_, _, _, h⟩
  · rw [h]
  · rw [h]
    refine credentials_modify (fun _ ↦ ?_) w
    exact ⟨rfl, rfl⟩

theorem liveAuthority_step {op : Op} (hop : KeepsAuthority s op) (hs : Governed s) :
    LiveAuthority (op.step s) := by
  have hfloor : s.ids.next ≤ s.ids.next := le_refl _
  have hkept (hworkers : (op.step s).workers = s.workers) (h : Inherits s (op.step s)) :
      LiveAuthority (op.step s) := h.live (credentials_of_workers hworkers)
  cases op with
  | bindReservation id worker boot epoch now =>
    refine hkept ((evolves_step rfl s).tenure.workers.resolve_left fun h ↦ h) ?_
    exact inherits_bindReservation hs.toLiveAuthority hop
  | registerAttempt id kind worker boot now =>
    refine hkept ((evolves_step rfl s).tenure.workers.resolve_left fun h ↦ h)
      (inherits_of_registers hs.toLiveAuthority (advances_ignore
        (advances_registerAttempt hfloor (fun _ _ ↦ trivial) ?_)))
    intro r hr hactive a ha
    exact current_of_issuedFor hs.toLiveAuthority hr hactive (hop r hr hactive) ha
  | execute id now =>
    refine hkept ((evolves_step rfl s).tenure.workers.resolve_left fun h ↦ h)
      (inherits_of_registers hs.toLiveAuthority (advances_ignore
        (advances_execute hfloor (fun _ _ _ ↦ trivial) trivial trivial ?_)))
    intro r hr hactive _ a ha
    refine current_of_issuedFor hs.toLiveAuthority hr hactive (fun w hw ↦ ?_) ha
    change s.findWorker r.worker = some w at hw
    have hlive : reservationIsTerminal r.lifecycle = false := by
      rw [hactive]
      rfl
    have hvalid : valid r.worker = true := by
      cases hv : valid r.worker with
      | true => rfl
      | false =>
        have hzero : r.worker = 0 := by simpa [valid] using hv
        rw [hzero, hs.named] at hw
        cases hw
    obtain ⟨w', hw', hcurrent⟩ := (hs.reservations id r hr hlive).2 hvalid
    obtain rfl := Option.some.inj (hw.symm.trans hw')
    exact hcurrent
  | destroyPartition p now =>
    refine hkept ((evolves_step rfl s).tenure.workers.resolve_left fun h ↦ h)
      (inherits_of_registers hs.toLiveAuthority (advances_ignore
        (advances_destroyPartition trivial hfloor (fun _ _ _ _ _ _ ↦ trivial)
          (fun _ _ ↦ trivial) ?_)))
    exact fun _ _ _ _ ha ↦ hs.current_of_unbound ha
  | executeReconfiguration planId now =>
    refine hkept ((evolves_step rfl s).tenure.workers.resolve_left fun h ↦ h)
      (inherits_of_registers hs.toLiveAuthority (advances_ignore
        (advances_executeReconfiguration trivial hfloor (fun _ _ _ _ _ _ _ _ ↦ trivial)
          trivial ?_)))
    exact fun _ _ _ _ ha ↦ hs.current_of_unbound ha
  | applyMutationResult key mutation observed now =>
    exact hkept ((evolves_step rfl s).tenure.workers.resolve_left fun h ↦ h)
      (inherits_applyMutationResult hs.toLiveAuthority)
  | noteWorker worker now => exact liveAuthority_noteWorker hs.toLiveAuthority hop
  | noteWorkerSeen worker boot atMs =>
    have hevolves : Advances (Evolves { workers := True } s.ids.next)
        (noteWorkerSeen worker boot atMs) s := advances_noteWorkerSeen trivial
    have hinherits : Inherits s ((Op.noteWorkerSeen worker boot atMs).step s) :=
      inherits_of_workers hs.toLiveAuthority hevolves
    exact hinherits.live (credentials_noteWorkerSeen worker boot atMs)
  | fenceWorker worker boot reason now => exact liveAuthority_fenceWorkerLocked hs.toLiveAuthority hop
  | advanceCoordinatorEpoch now =>
    exact liveAuthority_advanceCoordinatorEpoch hs.toLiveAuthority hop
  | installCoordinatorEpoch epoch =>
    exact liveAuthority_installCoordinatorEpoch hs.toLiveAuthority hop
  | close now =>
    have hcredentials : Advances (Keeps credentials) (close now) s :=
      advances_workers_close bearsLoss_credentials
    have hevolves : Advances (Evolves { workers := True, closes := True } s.ids.next)
        (close now) s :=
      advances_close trivial trivial (fun _ _ _ _ ↦ trivial) trivial trivial
    have hinherits : Inherits s ((Op.close now).step s) :=
      inherits_of_evolves hs.toLiveAuthority hevolves id (fun _ ↦ id) (fun _ h ↦ h.elim)
        fun _ h ↦ h.elim
    exact hinherits.live (congrFun hcredentials)
  | importDurableState d now => exact hop.elim
  | _ =>
    refine hkept ((evolves_step rfl s).tenure.workers.resolve_left fun h ↦ h) ?_
    exact inherits_of_evolves hs.toLiveAuthority (evolves_step rfl s) id (fun _ ↦ id)
      (fun _ h ↦ h.elim) fun _ h ↦ h.elim

lemma named_of_credentials (h : credentials t 0 = credentials s 0) (hs : s.findWorker 0 = none) :
    t.findWorker 0 = none := by
  unfold credentials at h
  rw [hs] at h
  exact Option.map_eq_none_iff.mp h

/-- No operation registers a worker without an identity. -/
lemma unnamed_step {op : Op} (hop : op.isImport = false) (hs : s.findWorker 0 = none) :
    (op.step s).findWorker 0 = none := by
  have hkept (h : (op.step s).workers = s.workers) : (op.step s).findWorker 0 = none :=
    named_of_credentials (credentials_of_workers h 0) hs
  cases op with
  | noteWorker worker now =>
    change (noteWorker worker now s).1.findWorker 0 = none
    rcases noteWorker_cases worker now s with ⟨⟨e, h⟩, -⟩ | ⟨hok, hworkers⟩
    · rw [h]
      exact hs
    · rw [hworkers 0, if_neg]
      · exact hs
      · intro hzero
        unfold noteWorker at hok
        rw [require_bind, ← hzero] at hok
        cases hok
  | noteWorkerSeen worker boot atMs =>
    exact named_of_credentials (credentials_noteWorkerSeen worker boot atMs 0) hs
  | fenceWorker worker boot reason now =>
    change (fenceWorkerLocked worker boot now reason s).1.findWorker 0 = none
    rcases workers_fenceWorkerLocked worker boot now reason s with ⟨h, -⟩ | ⟨-, h⟩
    · rw [FabricState.findWorker, h]
      exact hs
    · rw [FabricState.findWorker, h, KeyedMap.find?_modify, show s.workers.find? 0 = none from hs]
      split <;> rfl
  | advanceCoordinatorEpoch now =>
    have hcredentials : Advances (Keeps credentials) (advanceCoordinatorEpoch now) s :=
      advances_workers_advanceCoordinatorEpoch bearsLoss_credentials
    exact named_of_credentials (congrFun hcredentials 0) hs
  | close now =>
    have hcredentials : Advances (Keeps credentials) (close now) s :=
      advances_workers_close bearsLoss_credentials
    exact named_of_credentials (congrFun hcredentials 0) hs
  | importDurableState d now => cases hop
  | _ => exact hkept ((evolves_step rfl s).tenure.workers.resolve_left fun h ↦ h)

/-- Along runs whose steps keep authority current, live reservations and dispatched attempts carry
current authority. -/
theorem live_authority_current (hs : fabric.Reachable KeepsAuthority s) : LiveAuthority s := by
  have hgoverned : Governed s := by
    refine hs.invariant ?_ fun s op hs hop ↦
      ⟨liveAuthority_step hop hs, unnamed_step hop.withoutImport hs.named⟩
    rintro s ⟨options, now, rfl⟩
    exact ⟨⟨fun k r hr ↦ (by cases hr), fun k a ha ↦ (by cases ha)⟩, rfl⟩
  exact hgoverned.toLiveAuthority

end Steps

/-- A reservation is bound to the incarnation that registered before it was made. -/
theorem live_authority_current_bound :
    let s := fabric.run (Sample.incarnation 1 :: Sample.reserved ++ [.bindReservation 3 1 1 1 4])
      Sample.opened
    (s.findReservation 3).map (fun r ↦ (r.worker, r.workerBoot, r.lifecycle)) = some (1, 1, .active) ∧
      LiveAuthority s := by
  intro s
  have hbound : (s.findReservation 3).map (fun r ↦ (r.worker, r.workerBoot, r.lifecycle)) =
      some (1, 1, .active) := by decide +kernel
  refine ⟨hbound, live_authority_current (.run (.initial ⟨_, _, rfl⟩) ?_)⟩
  have hregisters : KeepsAuthority Sample.opened (Sample.incarnation 1) := by
    refine fun _ _ ↦ ⟨fun previous h ↦ ?_, fun _ _ _ _ _ _ ↦ rfl, fun k a h ↦ ?_⟩
    · cases h
    · cases h
  refine ⟨hregisters, trivial, trivial, trivial, fun r _ _ ↦ ?_, trivial⟩
  refine ⟨?_, fun _ ↦ inAuthority_iff.mpr ?_⟩
  · decide +kernel
  · decide +kernel

/-- The steps by which clients reserve for workers while workers and epochs come and go. -/
def Op.negotiates : Op → Bool
  | .registerProfile _ | .registerBackendAccelerator _ _ | .registerAccelerator _ _ | .plan _ _
  | .planOn _ _ _ | .reserve _ _ | .noteWorker _ _ | .fenceWorker _ _ _ _
  | .advanceCoordinatorEpoch _ | .installCoordinatorEpoch _ => true
  | _ => false

/-- A worker is fenced between the check of its authority and the binding of the reservation. -/
theorem fenced_worker_bound :
    ¬∀ (s t u : FabricState) planId now r worker boot epoch,
      fabric.Reachable (fun _ op ↦ op.negotiates = true) s →
      checkWorkerAuthority s worker boot epoch = success →
      fabric.Reaches (fun _ op ↦ op.negotiates = true) s t →
      (reserve planId now t).2 = .ok r →
      fabric.Reaches (fun _ op ↦ op.negotiates = true) ((Op.reserve planId now).step t) u →
      LiveAuthority ((Op.bindReservation r.id worker boot epoch now).step u) := by
  intro h
  let ops : List Op := [Sample.incarnation 1, .registerBackendAccelerator Sample.device 1,
    .plan { profile := Sample.profile.id } 2]
  let s := fabric.run ops Sample.opened
  let u := (Op.fenceWorker 1 1 [] 4).step ((Op.reserve 2 3).step s)
  have hs : fabric.Reachable (fun _ op ↦ op.negotiates = true) s :=
    .run (.initial ⟨_, _, rfl⟩) (by decide)
  have hcheck : checkWorkerAuthority s 1 1 1 = success := by decide +kernel
  have hreserved : (reserve 2 3 s).2.toOption.map PartitionReservation.id = some 3 := by
    decide +kernel
  have hlive : (((Op.bindReservation 3 1 1 1 3).step u).findReservation 3).map
      (fun r ↦ (r.worker, r.workerBoot, r.lifecycle)) = some (1, 1, .active) := by decide +kernel
  have hcredentials : credentials ((Op.bindReservation 3 1 1 1 3).step u) 1 = some (1, true) := by
    decide +kernel
  clear_value s
  have hu : fabric.Reaches (fun _ op ↦ op.negotiates = true) ((Op.reserve 2 3).step s) u :=
    .step (Op.fenceWorker 1 1 [] 4) .refl rfl
  clear_value u
  cases hr : (reserve 2 3 s).2 with
  | error e =>
    rw [hr] at hreserved
    cases hreserved
  | ok r =>
    rw [hr] at hreserved
    have hid : r.id = 3 := Option.some.inj hreserved
    have hauthority := h s s u 2 3 r 1 1 1 hs hcheck .refl hr hu
    rw [hid] at hauthority
    obtain ⟨q, hq, hstate⟩ := Option.map_eq_some_iff.mp hlive
    obtain ⟨hworker, hrest⟩ := Prod.mk.inj hstate
    obtain ⟨-, hlifecycle⟩ := Prod.mk.inj hrest
    have hterminal : reservationIsTerminal q.lifecycle = false := by
      rw [hlifecycle]
      rfl
    have hvalid : valid q.worker = true := by
      rw [hworker]
      rfl
    have hin := inAuthority_iff.mp ((hauthority.reservations 3 q hq hterminal).2 hvalid)
    rw [hworker, hcredentials] at hin
    cases (Prod.mk.inj (Option.some.inj hin)).2

end PartitionFabric
