import PartitionFabric.Invariants.Atomicity
import PartitionFabric.Invariants.Shutdown
import Mathlib.Data.List.TakeWhile

/-!
The capacity that a close returns: first what the reservations hold, then what the partitions whose
creation was never verified still name, each in the order of their keys.
-/

namespace PartitionFabric

open Procedure

variable {s t : FabricState} {now : UInt64}

/-- An amount that a close returns from a bucket of a device to the free one. -/
structure Release where
  device : AcceleratorId
  bucket : CapacityBucket
  amount : ResourceVector

/-- What a close returns for a reservation. -/
def PartitionReservation.closingRelease (r : PartitionReservation) : Option Release :=
  if r.holdsCapacity then some ⟨r.accelerator, .reserved, r.resources⟩ else none

/-- What a close returns for a partition: the creation of one it retires was never verified. -/
def PartitionRecord.closingRelease (r : PartitionRecord) : Option Release :=
  if r.state = .reserved || r.state = .creating || r.state = .planPending then
    r.heldBucket.map fun b ↦ ⟨r.accelerator, b, r.resources⟩
  else none

/-- A release that moves something: it names an amount, and its bucket can give it. -/
structure Release.Goes (r : Release) (ledgers : KeyedMap AcceleratorId CapacityLedger) : Prop where
  named : ∃ d, r.amount.amount d ≠ 0
  elsewhere : r.bucket ≠ .free
  covered : ∃ l, ledgers.find? r.device = some l ∧ l.CanMove r.bucket .free r.amount

/-- The ledgers after a release; one that is refused leaves them as they are. -/
def returned (ledgers : KeyedMap AcceleratorId CapacityLedger) (release : Option Release) :
    KeyedMap AcceleratorId CapacityLedger :=
  match release with
  | none => ledgers
  | some r =>
    match ledgers.find? r.device with
    | none => ledgers
    | some l => ledgers.insert r.device
        (CapacityLedger.moveBetween r.bucket.raw CapacityBucket.free.raw r.amount l).1

namespace FabricState

def reservationRelease (s : FabricState) (k : PartitionReservationId) : Option Release :=
  (s.findReservation k).bind PartitionReservation.closingRelease

def partitionRelease (s : FabricState) (p : PartitionId) : Option Release :=
  (s.findPartition p).bind PartitionRecord.closingRelease

/-- The ledgers after the releases of some reservations. -/
def ledgersPast (s : FabricState) (keys : List PartitionReservationId) :
    KeyedMap AcceleratorId CapacityLedger :=
  keys.foldl (fun ledgers k ↦ returned ledgers (s.reservationRelease k)) s.ledgers

/-- The ledgers after the releases of every reservation and of some partitions. -/
def ledgersBeyond (s : FabricState) (keys : List PartitionId) :
    KeyedMap AcceleratorId CapacityLedger :=
  keys.foldl (fun ledgers p ↦ returned ledgers (s.partitionRelease p))
    (s.ledgersPast s.reservations.keys)

/-- The reservations that a close visits before another one. -/
def reservationsBefore (s : FabricState) (k : PartitionReservationId) :
    List PartitionReservationId :=
  s.reservations.keys.takeWhile fun j ↦ j ≠ k

/-- The partitions that a close visits before another one. -/
def partitionsBefore (s : FabricState) (p : PartitionId) : List PartitionId :=
  s.partitions.keys.takeWhile fun q ↦ q ≠ p

/-- The state in which a close comes to a reservation. -/
def reservationTurn (now : UInt64) (s : FabricState) (k : PartitionReservationId) : FabricState :=
  ((s.reservationsBefore k).forM (closeReservation now) s).1

/-- The state in which a close has visited every reservation. -/
def reservationsClosed (now : UInt64) (s : FabricState) : FabricState :=
  (s.reservations.keys.forM (closeReservation now) s).1

/-- The state in which a close comes to a partition. -/
def partitionTurn (now : UInt64) (s : FabricState) (p : PartitionId) : FabricState :=
  ((s.partitionsBefore p).forM (closePartition now) (s.reservationsClosed now)).1

end FabricState

section Releases

variable {release : Option Release} {r : Release}

/-- Some device has more free capacity. -/
def Freed (s t : FabricState) : Prop :=
  ∃ a l l' d, s.findLedger a = some l ∧ t.findLedger a = some l' ∧
    (l.bucket .free).amount d < (l'.bucket .free).amount d

/-- Some device has less reserved capacity. -/
def DrawsReserved (s t : FabricState) : Prop :=
  ∃ a l l' d, s.findLedger a = some l ∧ t.findLedger a = some l' ∧
    (l'.bucket .reserved).amount d < (l.bucket .reserved).amount d

/-- The amount leaves the reserved capacity of a device, once. -/
def LeavesReserved (a : AcceleratorId) (amount : ResourceVector) (s t : FabricState) : Prop :=
  ∀ d, amount.amount d ≠ 0 → ∃ l l', s.findLedger a = some l ∧ t.findLedger a = some l' ∧
    (l'.bucket .reserved).amount d + amount.amount d = (l.bucket .reserved).amount d

/-- A release moves its amount on the ledger of its device, or leaves every amount as it is. -/
lemma returned_cases (ledgers : KeyedMap AcceleratorId CapacityLedger) (r : Release) :
    (∃ l l', r.bucket ≠ .free ∧ ledgers.find? r.device = some l ∧ l.CanMove r.bucket .free r.amount ∧
        CapacityLedger.Moved r.bucket .free r.amount l l' ∧
        returned ledgers (some r) = ledgers.insert r.device l') ∨
      returned ledgers (some r) = ledgers ∧ ¬ r.Goes ledgers := by
  cases hl : ledgers.find? r.device with
  | none =>
    refine Or.inr ⟨by simp only [returned, hl], fun hgoes ↦ ?_⟩
    obtain ⟨l, hfind, -⟩ := hgoes.covered
    rw [hl] at hfind
    cases hfind
  | some l =>
    have hret : returned ledgers (some r) = ledgers.insert r.device
        (CapacityLedger.moveBetween r.bucket.raw CapacityBucket.free.raw r.amount l).1 := by
      simp only [returned, hl]
    rcases CapacityLedger.moveBetween_cases r.bucket.raw CapacityBucket.free.raw r.amount l with
      ⟨b, c, l', hne, hb, hc, hrun, hmoved⟩ | ⟨hrun, hsame⟩ | ⟨e, hrun⟩
    · rw [CapacityBucket.ofRaw?_raw] at hb hc
      obtain rfl := Option.some.inj hb
      obtain rfl := Option.some.inj hc
      have hcan := ((moveBetween_isOk_iff _ _ _).mp (congrArg Prod.snd hrun)).resolve_left hne
      exact Or.inl ⟨l, l', hne, rfl, hcan, hmoved, by rw [hret, hrun]⟩
    · obtain ⟨b, hb, hc⟩ := hsame
      rw [CapacityBucket.ofRaw?_raw] at hb hc
      refine Or.inr ⟨by rw [hret, hrun, KeyedMap.insert_eq_self hl], fun hgoes ↦ ?_⟩
      exact hgoes.elsewhere (Option.some.inj (hb.trans hc.symm))
    · refine Or.inr ⟨by rw [hret, hrun, KeyedMap.insert_eq_self hl], fun hgoes ↦ ?_⟩
      obtain ⟨m, hm, hcan⟩ := hgoes.covered
      obtain rfl := Option.some.inj (hl.symm.trans hm)
      have hok := (moveBetween_isOk_iff _ _ _).mpr (Or.inr hcan)
      rw [hrun] at hok
      cases hok

/-- A ledger is as before a release, or the release was made from it. -/
lemma returned_entry {ledgers : KeyedMap AcceleratorId CapacityLedger} {a : AcceleratorId}
    {l l' : CapacityLedger} (hl : ledgers.find? a = some l)
    (hl' : (returned ledgers release).find? a = some l') :
    l' = l ∨ ∃ r, release = some r ∧ r.device = a ∧ r.bucket ≠ .free ∧
      l.CanMove r.bucket .free r.amount ∧ CapacityLedger.Moved r.bucket .free r.amount l l' := by
  cases release with
  | none => exact Or.inl (Option.some.inj (hl'.symm.trans hl))
  | some r =>
    rcases returned_cases ledgers r with ⟨m, m', hne, hm, hcan, hmoved, hrun⟩ | ⟨hrun, -⟩
    · rw [hrun] at hl'
      by_cases ha : a = r.device
      · subst ha
        rw [KeyedMap.find?_insert_self] at hl'
        obtain rfl := Option.some.inj (hm.symm.trans hl)
        obtain rfl := Option.some.inj hl'
        exact Or.inr ⟨r, rfl, rfl, hne, hcan, hmoved⟩
      · rw [KeyedMap.find?_insert_of_ne _ _ ha] at hl'
        exact Or.inl (Option.some.inj (hl'.symm.trans hl))
    · rw [hrun] at hl'
      exact Or.inl (Option.some.inj (hl'.symm.trans hl))

/-- A release that goes through moves its amount on the ledger of its device. -/
lemma Release.Goes.moved {ledgers : KeyedMap AcceleratorId CapacityLedger} (h : r.Goes ledgers) :
    ∃ l l', ledgers.find? r.device = some l ∧
      (returned ledgers (some r)).find? r.device = some l' ∧
        CapacityLedger.Moved r.bucket .free r.amount l l' := by
  rcases returned_cases ledgers r with ⟨l, l', -, hl, -, hmoved, hrun⟩ | ⟨-, hstays⟩
  · exact ⟨l, l', hl, by rw [hrun, KeyedMap.find?_insert_self], hmoved⟩
  · exact absurd h hstays

/-- A release frees capacity exactly when it goes through. -/
lemma freed_iff (h : t.ledgers = returned s.ledgers release) :
    Freed s t ↔ ∃ r, release = some r ∧ r.Goes s.ledgers := by
  unfold Freed FabricState.findLedger
  rw [h]
  constructor
  · rintro ⟨a, l, l', d, hl, hl', hlt⟩
    rcases returned_entry hl hl' with rfl | ⟨r, rfl, rfl, hne, hcan, hmoved⟩
    · exact absurd hlt (lt_irrefl _)
    · have hadded := hmoved.added d
      have hnamed : r.amount.amount d ≠ 0 := by
        unfold CapacityLedger.bucket at hlt
        omega
      exact ⟨r, rfl, ⟨d, hnamed⟩, hne, l, hl, hcan⟩
  · rintro ⟨r, rfl, hgoes⟩
    obtain ⟨l, l', hl, hl', hmoved⟩ := hgoes.moved
    obtain ⟨d, hd⟩ := hgoes.named
    refine ⟨r.device, l, l', d, hl, hl', ?_⟩
    have hadded := hmoved.added d
    unfold CapacityLedger.bucket
    omega

/-- A release draws on the reserved capacity exactly when it goes through from there. -/
lemma drawsReserved_iff (h : t.ledgers = returned s.ledgers release) :
    DrawsReserved s t ↔ ∃ r, release = some r ∧ r.bucket = .reserved ∧ r.Goes s.ledgers := by
  unfold DrawsReserved FabricState.findLedger
  rw [h]
  constructor
  · rintro ⟨a, l, l', d, hl, hl', hlt⟩
    rcases returned_entry hl hl' with rfl | ⟨r, rfl, rfl, hne, hcan, hmoved⟩
    · exact absurd hlt (lt_irrefl _)
    · unfold CapacityLedger.bucket at hlt
      by_cases hreserved : r.bucket = .reserved
      · have htaken := hmoved.taken d
        rw [hreserved] at htaken
        exact ⟨r, rfl, hreserved, ⟨d, by omega⟩, hne, l, hl, hcan⟩
      · rw [hmoved.other .reserved (Ne.symm hreserved) (by decide)] at hlt
        exact absurd hlt (lt_irrefl _)
  · rintro ⟨r, rfl, hreserved, hgoes⟩
    obtain ⟨l, l', hl, hl', hmoved⟩ := hgoes.moved
    obtain ⟨d, hd⟩ := hgoes.named
    refine ⟨r.device, l, l', d, hl, hl', ?_⟩
    have htaken := hmoved.taken d
    rw [hreserved] at htaken
    unfold CapacityLedger.bucket
    omega

/-- The reserved amount of a release leaves its bucket exactly when the release goes through, or
names nothing. -/
lemma leavesReserved_iff {a : AcceleratorId} {amount : ResourceVector}
    (h : t.ledgers = returned s.ledgers (some ⟨a, .reserved, amount⟩)) :
    LeavesReserved a amount s t ↔
      ((∃ d, amount.amount d ≠ 0) → (⟨a, .reserved, amount⟩ : Release).Goes s.ledgers) := by
  constructor
  · rintro hleaves ⟨d, hd⟩
    obtain ⟨l, l', hl, hl', htaken⟩ := hleaves d hd
    obtain ⟨r, hr, -, hgoes⟩ := (drawsReserved_iff h).mp ⟨a, l, l', d, hl, hl', by omega⟩
    obtain rfl := Option.some.inj hr
    exact hgoes
  · intro hgoes d hd
    obtain ⟨l, l', hl, hl', hmoved⟩ := (hgoes ⟨d, hd⟩).moved
    refine ⟨l, l', hl, ?_, hmoved.taken d⟩
    rwa [FabricState.findLedger, h]

end Releases

section Loops

lemma onLedger_fst (a : AcceleratorId) (op : LedgerM Unit) (s : FabricState) :
    (onLedger a op s).1 = { s with
      ledgers := match s.ledgers.find? a with
        | none => s.ledgers
        | some l => s.ledgers.insert a (op l).1 } := by
  unfold onLedger FabricState.findLedger
  cases s.ledgers.find? a with
  | none => rfl
  | some l => rfl

lemma closeReservation_observed (now : UInt64) (k : PartitionReservationId) (s : FabricState) :
    (closeReservation now k s).2 = .ok () ∧
      (closeReservation now k s).1.ledgers = returned s.ledgers (s.reservationRelease k) ∧
        (closeReservation now k s).1.partitions = s.partitions ∧
          ∀ j, j ≠ k → (closeReservation now k s).1.findReservation j = s.findReservation j := by
  unfold closeReservation
  rw [get_bind]
  unfold FabricState.reservationRelease
  cases hk : s.findReservation k with
  | none => exact ⟨rfl, rfl, rfl, fun _ _ ↦ rfl⟩
  | some r =>
    simp only [Option.bind_some]
    unfold PartitionReservation.closingRelease
    cases hholds : r.holdsCapacity with
    | false => exact ⟨rfl, rfl, rfl, fun _ _ ↦ rfl⟩
    | true =>
      rw [when_true, bind_apply, ignore_apply, onLedger_fst]
      refine ⟨rfl, ?_, rfl, fun j hj ↦ ?_⟩
      · rfl
      · change (s.reservations.modify k _).find? j = _
        rw [KeyedMap.find?_modify_of_ne _ _ hj]
        rfl

lemma closePartition_observed (now : UInt64) (p : PartitionId) (s : FabricState) :
    (closePartition now p s).2 = .ok () ∧
      (closePartition now p s).1.ledgers = returned s.ledgers (s.partitionRelease p) ∧
        ∀ q, q ≠ p → (closePartition now p s).1.findPartition q = s.findPartition q := by
  unfold closePartition
  rw [get_bind]
  unfold FabricState.partitionRelease
  cases hp : s.findPartition p with
  | none => exact ⟨rfl, rfl, fun _ _ ↦ rfl⟩
  | some r =>
    simp only [Option.bind_some]
    unfold PartitionRecord.closingRelease
    cases hpending : (r.state = .reserved || r.state = .creating || r.state = .planPending : Bool) with
    | false => exact ⟨rfl, rfl, fun _ _ ↦ rfl⟩
    | true =>
      rw [when_true]
      unfold releaseHeld
      cases r.heldBucket with
      | none =>
        refine ⟨rfl, rfl, fun q hq ↦ ?_⟩
        exact KeyedMap.find?_modify_of_ne _ _ hq
      | some b =>
        simp only
        rw [bind_apply, ignore_apply, onLedger_fst]
        refine ⟨rfl, rfl, fun q hq ↦ ?_⟩
        exact KeyedMap.find?_modify_of_ne _ _ hq

/-- What a close has done when it has visited some reservations. -/
lemma closing_reservations (now : UInt64) {keys : List PartitionReservationId} (hkeys : keys.Nodup) :
    let t := (keys.forM (closeReservation now) s).1
    (keys.forM (closeReservation now) s).2 = .ok () ∧ t.ledgers = s.ledgersPast keys ∧
      t.partitions = s.partitions ∧ ∀ j, j ∉ keys → t.findReservation j = s.findReservation j := by
  intro t
  obtain ⟨hok, hledgers, hothers⟩ := forM_observed (s := s) (closeReservation now) FabricState.ledgers
    (fun k ledgers ↦ returned ledgers (s.reservationRelease k))
    (fun k t ↦ t.findReservation k = s.findReservation k) hkeys
    (fun k t hk ↦ by
      obtain ⟨hok, hledgers, -, hothers⟩ := closeReservation_observed now k t
      have hsame : t.reservationRelease k = s.reservationRelease k := by
        unfold FabricState.reservationRelease
        rw [hk]
      exact ⟨hok, by rw [hledgers, hsame], fun j hj hj' ↦ (hothers j hj).trans hj'⟩)
    fun _ _ ↦ rfl
  have hpartitions : Advances (Keeps FabricState.partitions) (keys.forM (closeReservation now)) s :=
    advances_forM fun k _ t _ ↦ (closeReservation_observed now k t).2.2.1
  exact ⟨hok, hledgers, hpartitions, fun j hj ↦ hothers j hj rfl⟩

/-- What a close has done when it has visited every reservation and some partitions. -/
lemma closing_partitions (now : UInt64) {keys : List PartitionId} (hkeys : keys.Nodup) :
    let t := (keys.forM (closePartition now) (s.reservationsClosed now)).1
    (keys.forM (closePartition now) (s.reservationsClosed now)).2 = .ok () ∧
      t.ledgers = s.ledgersBeyond keys ∧ ∀ q, q ∉ keys → t.findPartition q = s.findPartition q := by
  intro t
  obtain ⟨-, hclosed, hpartitions, -⟩ :=
    closing_reservations now (s := s) s.reservations.keys_nodup
  have hfound : ∀ p, (s.reservationsClosed now).findPartition p = s.findPartition p := fun p ↦ by
    unfold FabricState.findPartition
    exact congrArg (fun m ↦ m.find? p) hpartitions
  obtain ⟨hok, hledgers, hothers⟩ := forM_observed (s := s.reservationsClosed now)
    (closePartition now) FabricState.ledgers
    (fun p ledgers ↦ returned ledgers (s.partitionRelease p))
    (fun p t ↦ t.findPartition p = s.findPartition p) hkeys
    (fun p t hp ↦ by
      obtain ⟨hok, hledgers, hothers⟩ := closePartition_observed now p t
      have hsame : t.partitionRelease p = s.partitionRelease p := by
        unfold FabricState.partitionRelease
        rw [hp]
      exact ⟨hok, by rw [hledgers, hsame], fun q hq hq' ↦ (hothers q hq).trans hq'⟩)
    fun p _ ↦ hfound p
  refine ⟨hok, ?_, fun q hq ↦ hothers q hq (hfound q)⟩
  rw [hledgers]
  unfold FabricState.ledgersBeyond FabricState.reservationsClosed
  rw [hclosed]

lemma not_mem_takeWhile {κ : Type} [DecidableEq κ] (k : κ) (keys : List κ) :
    k ∉ keys.takeWhile fun j ↦ j ≠ k := by
  intro hk
  have hne := List.mem_takeWhile_imp hk
  simp at hne

lemma reservationTurn_spec (now : UInt64) (k : PartitionReservationId) :
    (s.reservationTurn now k).ledgers = s.ledgersPast (s.reservationsBefore k) ∧
      (s.reservationTurn now k).reservationRelease k = s.reservationRelease k := by
  obtain ⟨-, hledgers, -, hothers⟩ := closing_reservations now (s := s)
    (s.reservations.keys_nodup.sublist (List.takeWhile_sublist fun j ↦ decide (j ≠ k)))
  refine ⟨hledgers, ?_⟩
  unfold FabricState.reservationRelease
  exact congrArg (Option.bind · _) (hothers k (not_mem_takeWhile k _))

lemma partitionTurn_spec (now : UInt64) (p : PartitionId) :
    (s.partitionTurn now p).ledgers = s.ledgersBeyond (s.partitionsBefore p) ∧
      (s.partitionTurn now p).partitionRelease p = s.partitionRelease p := by
  obtain ⟨-, hledgers, hothers⟩ := closing_partitions now (s := s)
    (s.partitions.keys_nodup.sublist (List.takeWhile_sublist fun q ↦ decide (q ≠ p)))
  refine ⟨hledgers, ?_⟩
  unfold FabricState.partitionRelease
  exact congrArg (Option.bind · _) (hothers p (not_mem_takeWhile p _))

end Loops

section Closing

/-- Some attempt that is not settled yet concerns the partition. -/
def FabricState.Unanswered (s : FabricState) (p : PartitionId) : Prop :=
  ∃ k a, s.findAttempt k = some a ∧ attemptSettled a.state = false ∧ p ∈ a.partitions

/-- A close frees nothing for a partition with an unsettled attempt, neither where it visits a
reservation that lists it nor where it visits the partition, and what a reservation holds leaves the
reserved capacity where the close visits the reservation and nowhere else. -/
structure ClosesGently (now : UInt64) (s : FabricState) : Prop where
  reservations : ∀ k r p, s.findReservation k = some r → p ∈ r.partitions → s.Unanswered p →
    ¬ Freed (s.reservationTurn now k) (closeReservation now k (s.reservationTurn now k)).1
  partitions : ∀ p, s.Unanswered p →
    ¬ Freed (s.partitionTurn now p) (closePartition now p (s.partitionTurn now p)).1
  leaves : ∀ k r, s.findReservation k = some r → r.holdsCapacity = true →
    LeavesReserved r.accelerator r.resources (s.reservationTurn now k)
      (closeReservation now k (s.reservationTurn now k)).1
  once : ∀ k r p, s.findReservation k = some r → r.holdsCapacity = true → p ∈ r.partitions →
    ¬ DrawsReserved (s.partitionTurn now p) (closePartition now p (s.partitionTurn now p)).1

/-- The condition for it. Where a release can go is read on the ledgers that the ones before it
leave. -/
structure ReleasesOnce (s : FabricState) : Prop where
  -- the reserved capacity of a device covers what its reservations hold
  covered : ∀ k r, s.findReservation k = some r → r.holdsCapacity = true →
    (∃ d, r.resources.amount d ≠ 0) →
      (⟨r.accelerator, .reserved, r.resources⟩ : Release).Goes (s.ledgersPast (s.reservationsBefore k))
  -- none of them waits for the answer of an attempt
  answered : ∀ k r p, s.findReservation k = some r → r.holdsCapacity = true →
    (∃ d, r.resources.amount d ≠ 0) → p ∈ r.partitions → ¬ s.Unanswered p
  -- what is left does not cover a partition once more
  spent : ∀ p release, s.partitionRelease p = some release →
    release.Goes (s.ledgersBeyond (s.partitionsBefore p)) →
      ¬ s.Unanswered p ∧ (release.bucket = .reserved → ∀ k r, s.findReservation k = some r →
        r.holdsCapacity = true → p ∉ r.partitions)

lemma reservationRelease_eq {k : PartitionReservationId} {r : PartitionReservation}
    (hr : s.findReservation k = some r) (hholds : r.holdsCapacity = true) :
    s.reservationRelease k = some ⟨r.accelerator, .reserved, r.resources⟩ := by
  unfold FabricState.reservationRelease PartitionReservation.closingRelease
  rw [hr, Option.bind_some, if_pos hholds]

/-- A close is gentle exactly when every reservation can be released and none of it is released for
an unanswered attempt or a second time. -/
theorem closes_gently_iff : ClosesGently now s ↔ ReleasesOnce s := by
  have hreservation (k : PartitionReservationId) :
      (closeReservation now k (s.reservationTurn now k)).1.ledgers =
        returned (s.reservationTurn now k).ledgers (s.reservationRelease k) := by
    rw [(closeReservation_observed now k _).2.1, (reservationTurn_spec now k).2]
  have hpartition (p : PartitionId) : (closePartition now p (s.partitionTurn now p)).1.ledgers =
      returned (s.partitionTurn now p).ledgers (s.partitionRelease p) := by
    rw [(closePartition_observed now p _).2.1, (partitionTurn_spec now p).2]
  constructor
  · intro h
    have hcovered : ∀ k r, s.findReservation k = some r → r.holdsCapacity = true →
        (∃ d, r.resources.amount d ≠ 0) → (⟨r.accelerator, .reserved, r.resources⟩ : Release).Goes
          (s.ledgersPast (s.reservationsBefore k)) := by
      intro k r hr hholds hnamed
      have hstep := hreservation k
      rw [reservationRelease_eq hr hholds] at hstep
      rw [← (reservationTurn_spec now k).1]
      exact (leavesReserved_iff hstep).mp (h.leaves k r hr hholds) hnamed
    refine ⟨hcovered, fun k r p hr hholds hnamed hp hwaits ↦ ?_, fun p release hrelease hgoes ↦ ?_⟩
    · refine h.reservations k r p hr hp hwaits ((freed_iff (hreservation k)).mpr ⟨_,
        reservationRelease_eq hr hholds, ?_⟩)
      rw [(reservationTurn_spec now k).1]
      exact hcovered k r hr hholds hnamed
    · rw [← (partitionTurn_spec now p).1] at hgoes
      refine ⟨fun hwaits ↦ ?_, fun hreserved k r hr hholds hp ↦ ?_⟩
      · exact h.partitions p hwaits ((freed_iff (hpartition p)).mpr ⟨release, hrelease, hgoes⟩)
      · exact h.once k r p hr hholds hp
          ((drawsReserved_iff (hpartition p)).mpr ⟨release, hrelease, hreserved, hgoes⟩)
  · intro h
    refine ⟨fun k r p hr hp hwaits hfreed ↦ ?_, fun p hwaits hfreed ↦ ?_, fun k r hr hholds ↦ ?_,
      fun k r p hr hholds hp hdraws ↦ ?_⟩
    · obtain ⟨release, hrelease, hgoes⟩ := (freed_iff (hreservation k)).mp hfreed
      cases hholds : r.holdsCapacity with
      | false =>
        unfold FabricState.reservationRelease PartitionReservation.closingRelease at hrelease
        rw [hr, Option.bind_some, hholds] at hrelease
        cases hrelease
      | true =>
        obtain rfl := Option.some.inj ((reservationRelease_eq hr hholds).symm.trans hrelease)
        exact h.answered k r p hr hholds hgoes.named hp hwaits
    · obtain ⟨release, hrelease, hgoes⟩ := (freed_iff (hpartition p)).mp hfreed
      rw [(partitionTurn_spec now p).1] at hgoes
      exact (h.spent p release hrelease hgoes).1 hwaits
    · have hstep := hreservation k
      rw [reservationRelease_eq hr hholds] at hstep
      refine (leavesReserved_iff hstep).mpr fun hnamed ↦ ?_
      rw [(reservationTurn_spec now k).1]
      exact h.covered k r hr hholds hnamed
    · obtain ⟨release, hrelease, hreserved, hgoes⟩ := (drawsReserved_iff (hpartition p)).mp hdraws
      rw [(partitionTurn_spec now p).1] at hgoes
      exact (h.spent p release hrelease hgoes).2 hreserved k r hr hholds hp

/-- A closed instance has nothing to close. -/
theorem close_gently_iff (now : UInt64) (s : FabricState) :
    (s.closed = false → ClosesGently now s) ↔ (s.closed = true ∨ ReleasesOnce s) := by
  cases s.closed with
  | false => simp [closes_gently_iff]
  | true => simp

/-- The slice whose creation a backend carries out is free when the instance closes. -/
theorem close_frees_unanswered : ¬ ∀ s now, fabric.Reachable anyOp s → s.closed = false →
    ClosesGently now s := by
  intro h
  have hreach : fabric.Reachable anyOp (fabric.run Sample.dispatched Sample.opened) :=
    System.Reachable.run (.initial ⟨_, _, rfl⟩) (by decide)
  have hopen : (fabric.run Sample.dispatched Sample.opened).closed = false := by decide +kernel
  have hgentle := h _ 8 hreach hopen
  let s := fabric.run Sample.dispatched Sample.opened
  change ClosesGently 8 s at hgentle
  have hattempt : (s.findAttempt 5).any (fun a ↦ !attemptSettled a.state &&
      a.partitions.contains 4) = true := by decide +kernel
  have hreservation : (s.findReservation 3).any (fun r ↦ r.partitions.contains 4) = true := by
    decide +kernel
  have hfreed : ((s.reservationTurn 8 3).findLedger 1).any (fun l ↦
      ((closeReservation 8 3 (s.reservationTurn 8 3)).1.findLedger 1).any fun l' ↦
        decide ((l.bucket .free).amount .memoryBytes <
          (l'.bucket .free).amount .memoryBytes)) = true := by
    decide +kernel
  clear_value s
  obtain ⟨a, ha, hwaits⟩ := (Option.any_eq_true _ _).mp hattempt
  obtain ⟨r, hr, hlists⟩ := (Option.any_eq_true _ _).mp hreservation
  obtain ⟨l, hl, hl'⟩ := (Option.any_eq_true _ _).mp hfreed
  obtain ⟨l', hl', hlt⟩ := (Option.any_eq_true _ _).mp hl'
  simp only [Bool.and_eq_true, Bool.not_eq_true', List.contains_iff_mem] at hwaits hlists
  exact hgentle.reservations 3 r 4 hr hlists ⟨5, a, ha, hwaits⟩
    ⟨1, l, l', _, hl, hl', of_decide_eq_true hlt⟩

end Closing

end PartitionFabric
