import PartitionFabric.Invariants.Restart

/-!
When a failed import leaves the registry as it was.

The validation comes before anything is replaced, but the identity counter, the state generation
and the release of durable reservations are checked after it.
-/

namespace PartitionFabric

open Procedure

variable {s t : FabricState}

/-- The reserved bucket covers a list of amounts and the free bucket takes them. -/
structure CapacityLedger.Covers (l : CapacityLedger) (amounts : List ResourceVector) : Prop where
  reserved : ∀ a ∈ amounts, a.mask &&& ~~~(l.buckets .reserved).mask = 0
  free : ∀ a ∈ amounts, a.mask &&& ~~~(l.buckets .free).mask = 0
  enough : ∀ d, (amounts.map fun a ↦ a.amount d).sum ≤ (l.buckets .reserved).amount d
  fits : ∀ d, (∃ a ∈ amounts, a.has d = true) →
    (l.buckets .free).amount d + (amounts.map fun a ↦ a.amount d).sum < 2 ^ 64 ∧
      (d.isShareDimension = true →
        (l.buckets .free).amount d + (amounts.map fun a ↦ a.amount d).sum ≤ shareScale.toNat)

/-- A release succeeds exactly when the ledger covers its amount. -/
lemma releaseReserved_eq_ok {l : CapacityLedger} {a : ResourceVector} :
    (∃ l', CapacityLedger.releaseReserved a l = (l', success)) ↔ l.Covers [a] := by
  have hmove : (∃ l', CapacityLedger.releaseReserved a l = (l', success)) ↔
      ∃ s' t', moveCapacity (l.buckets .reserved) (l.buckets .free) a = .ok (s', t') := by
    have hok := @CapacityLedger.transfer_isOk_iff .reserved .free a l
    constructor
    · rintro ⟨l', h⟩
      obtain ⟨⟨s', t'⟩, hpair⟩ := hok.mp (congrArg Prod.snd h)
      exact ⟨s', t', hpair⟩
    · rintro ⟨s', t', h⟩
      exact ⟨_, Prod.ext rfl (hok.mpr ⟨(s', t'), h⟩)⟩
  rw [hmove]
  constructor
  · rintro ⟨s', t', h⟩
    obtain ⟨-, hsub, hadd⟩ := moveCapacity_eq_ok.mp h
    obtain ⟨hreserved, hle, rfl⟩ := ResourceVector.subAssign_eq_ok.mp hsub
    obtain ⟨hfree, hfits, rfl⟩ := ResourceVector.addAssign_eq_ok.mp hadd
    constructor
    · simpa using hreserved
    · simpa using hfree
    · intro d
      have hamount := ResourceVector.amount_minus hreserved hle d
      simp only [List.map_cons, List.map_nil, List.sum_cons, List.sum_nil]
      omega
    · rintro d ⟨b, hb, hd⟩
      obtain rfl := List.mem_singleton.mp hb
      have hhas : (l.buckets .free).has d = true := hasBit_of_subset hfree hd
      have hd' := hfits d hd
      simp only [List.map_cons, List.map_nil, List.sum_cons, List.sum_nil, Nat.add_zero,
        ResourceVector.amount_of_has hhas, ResourceVector.amount_of_has hd]
      exact hd'
  · intro h
    have hreserved := h.reserved a List.mem_cons_self
    have hfree := h.free a List.mem_cons_self
    have hle : ∀ d, a.has d = true → a.values d ≤ (l.buckets .reserved).values d := by
      intro d hd
      have henough := h.enough d
      simp only [List.map_cons, List.map_nil, List.sum_cons, List.sum_nil, Nat.add_zero,
        ResourceVector.amount_of_has hd,
        ResourceVector.amount_of_has (hasBit_of_subset hreserved hd)] at henough
      exact UInt64.le_iff_toNat_le.mpr henough
    have hfits : ∀ d, a.has d = true → ResourceVector.Fits ((l.buckets .free).values d) d
        (a.values d) := by
      intro d hd
      have hd' := h.fits d ⟨a, List.mem_cons_self, hd⟩
      simp only [List.map_cons, List.map_nil, List.sum_cons, List.sum_nil, Nat.add_zero,
        ResourceVector.amount_of_has hd,
        ResourceVector.amount_of_has (hasBit_of_subset hfree hd)] at hd'
      exact hd'
    refine ⟨_, _, moveCapacity_eq_ok.mpr ⟨?_,
      ResourceVector.subAssign_eq_ok.mpr ⟨hreserved, hle, rfl⟩,
      ResourceVector.addAssign_eq_ok.mpr ⟨hfree, hfits, rfl⟩⟩⟩
    apply ResourceVector.isSubsetOf_iff.mpr
    intro d hd
    exact ⟨hasBit_of_subset hreserved hd, hle d hd⟩

lemma CapacityLedger.Covers.head {l : CapacityLedger} {a : ResourceVector}
    {as : List ResourceVector} (h : l.Covers (a :: as)) : l.Covers [a] := by
  constructor
  · intro b hb
    obtain rfl := List.mem_singleton.mp hb
    exact h.reserved b List.mem_cons_self
  · intro b hb
    obtain rfl := List.mem_singleton.mp hb
    exact h.free b List.mem_cons_self
  · intro d
    have henough := h.enough d
    simp only [List.map_cons, List.map_nil, List.sum_cons, List.sum_nil] at henough ⊢
    omega
  · rintro d ⟨b, hb, hd⟩
    obtain rfl := List.mem_singleton.mp hb
    obtain ⟨hlt, hshare⟩ := h.fits d ⟨b, List.mem_cons_self, hd⟩
    simp only [List.map_cons, List.map_nil, List.sum_cons, List.sum_nil] at hlt hshare ⊢
    refine ⟨by omega, fun hd ↦ ?_⟩
    have := hshare hd
    omega

/-- Amounts of vectors without a dimension add up to nothing. -/
lemma sum_amount_eq_zero {as : List ResourceVector} {d : ResourceDimension}
    (h : ¬ ∃ a ∈ as, a.has d = true) : (as.map fun a ↦ a.amount d).sum = 0 := by
  apply List.sum_eq_zero
  intro n hn
  obtain ⟨a, ha, rfl⟩ := List.mem_map.mp hn
  apply ResourceVector.amount_of_not_has
  have hnot : ¬ a.has d = true := fun hd ↦ h ⟨a, ha, hd⟩
  simpa using hnot

/-- After one release the ledger covers the rest exactly when it covered everything before. -/
lemma covers_cons_iff {l l' : CapacityLedger} {a : ResourceVector} {as : List ResourceVector}
    (hone : l.Covers [a]) (hmoved : CapacityLedger.Moved .reserved .free a l l') :
    l.Covers (a :: as) ↔ l'.Covers as := by
  have htaken := hmoved.taken
  have hadded := hmoved.added
  constructor
  · intro h
    constructor
    · intro b hb
      rw [hmoved.mask]
      exact h.reserved b (List.mem_cons_of_mem _ hb)
    · intro b hb
      rw [hmoved.mask]
      exact h.free b (List.mem_cons_of_mem _ hb)
    · intro d
      have henough := h.enough d
      have := htaken d
      simp only [List.map_cons, List.sum_cons] at henough
      omega
    · rintro d ⟨b, hb, hd⟩
      obtain ⟨hlt, hshare⟩ := h.fits d ⟨b, List.mem_cons_of_mem _ hb, hd⟩
      have := hadded d
      simp only [List.map_cons, List.sum_cons] at hlt hshare
      refine ⟨by omega, fun hd ↦ ?_⟩
      have := hshare hd
      omega
  · intro h
    constructor
    · intro b hb
      rcases List.mem_cons.mp hb with rfl | hb
      · exact hone.reserved b List.mem_cons_self
      · rw [← hmoved.mask]
        exact h.reserved b hb
    · intro b hb
      rcases List.mem_cons.mp hb with rfl | hb
      · exact hone.free b List.mem_cons_self
      · rw [← hmoved.mask]
        exact h.free b hb
    · intro d
      have henough := h.enough d
      have := htaken d
      simp only [List.map_cons, List.sum_cons]
      omega
    · rintro d ⟨b, hb, hd⟩
      have hfree := hadded d
      simp only [List.map_cons, List.sum_cons]
      by_cases hrest : ∃ b ∈ as, b.has d = true
      · obtain ⟨hlt, hshare⟩ := h.fits d hrest
        refine ⟨by omega, fun hd ↦ ?_⟩
        have := hshare hd
        omega
      · -- only the first amount carries the dimension
        have hhead : a.has d = true := by
          rcases List.mem_cons.mp hb with rfl | hb
          · exact hd
          · exact absurd ⟨b, hb, hd⟩ hrest
        have hone' := hone.fits d ⟨a, List.mem_cons_self, hhead⟩
        simp only [List.map_cons, List.map_nil, List.sum_cons, List.sum_nil] at hone'
        rw [sum_amount_eq_zero hrest]
        exact hone'

/-- The amounts that a list of reservations gives back to one device's ledger; a reservation whose
partitions hold capacity themselves gives nothing back. -/
def released (holding : PartitionReservation → Bool) (id : AcceleratorId)
    (l : List PartitionReservation) : List ResourceVector :=
  (l.filter fun r ↦ r.accelerator = id && (r.holdsCapacity && !holding r)).map
    PartitionReservation.resources

section Released

variable {holding : PartitionReservation → Bool} {id : AcceleratorId} {r : PartitionReservation}
  {l : List PartitionReservation}

lemma released_cons_of_ne (h : r.accelerator ≠ id) :
    released holding id (r :: l) = released holding id l := by
  unfold released
  rw [List.filter_cons_of_neg]
  simp [h]

lemma released_cons_of_kept (h : (r.holdsCapacity && !holding r) = false) :
    released holding id (r :: l) = released holding id l := by
  unfold released
  rw [List.filter_cons_of_neg]
  rw [h, Bool.and_false]
  exact Bool.false_ne_true

lemma released_cons (h : (r.holdsCapacity && !holding r) = true) :
    released holding r.accelerator (r :: l) = r.resources :: released holding r.accelerator l := by
  unfold released
  rw [List.filter_cons_of_pos]
  · rfl
  · simp only [h, decide_true, Bool.and_true]

end Released

/-- No restored partition is reserved or being created, so a reservation whose partitions hold
nothing retires none of them. -/
lemma retireRestored_eq {now : UInt64} {reservation : PartitionReservation} (h : Conservative s)
    (hhold : partitionsHold s reservation = false) {p : PartitionId}
    (hp : p ∈ reservation.partitions) : retireRestored now p s = s := by
  have hkeep : s.partitions.modify p (fun record ↦
      if record.heldBucket.isSome then
        { record with
          heldBucket := none
          state := .retired
          lastTransitionAtMs := now
          lastTransitionReason := "reservation invalidated by restart" }
      else record) = s.partitions := by
    apply KeyedMap.ext_find?
    intro k
    rw [KeyedMap.find?_modify]
    split
    · rename_i hk
      subst hk
      cases hfind : s.partitions.find? k with
      | none => rfl
      | some r =>
          have hrestart := h.partitions k r hfind
          have hnone : r.heldBucket.isSome = false := by
            cases hsome : r.heldBucket.isSome with
            | false => rfl
            | true =>
                unfold partitionsHold at hhold
                rw [List.any_eq_false] at hhold
                have hk := hhold k hp
                rw [FabricState.findPartition, hfind, Option.any_some, hsome] at hk
                cases hstate : r.state <;> rw [hstate] at hk hrestart <;>
                  simp [restartState] at hk hrestart
          simp [hnone]
    · rfl
  unfold retireRestored FabricState.modifyPartition
  rw [hkeep]

lemma forM_modify_eq_self {ι : Type} {l : List ι} {g : ι → FabricState → FabricState}
    (h : ∀ i ∈ l, g i s = s) :
    (l.forM fun i ↦ (Procedure.modify (g i) : FabricM Unit)) s = (s, .ok ()) := by
  induction l with
  | nil => rfl
  | cons i rest ih =>
      have hrest := ih fun j hj ↦ h j (List.mem_cons_of_mem _ hj)
      change (rest.forM fun i ↦ (Procedure.modify (g i) : FabricM Unit)) (g i s) = _
      rw [h i List.mem_cons_self]
      exact hrest

/-- How a restored reservation gives its capacity back. -/
lemma releaseRestored_eq (now : UInt64) (reservation : PartitionReservation)
    (h : Conservative s) :
    releaseRestored now reservation s =
      match s.ledgers.find? reservation.accelerator with
      | none => (s, .ok ())
      | some l =>
        if reservation.holdsCapacity && !partitionsHold s reservation then
          match CapacityLedger.releaseReserved reservation.resources l with
          | (l', .ok _) => (s.setLedger reservation.accelerator l', .ok ())
          | (l', .error e) => (s.setLedger reservation.accelerator l',
              .error (makeError .persistenceCorruption
                "durable reservation cannot release capacity" e.toText))
        else (s, .ok ()) := by
  unfold releaseRestored
  rw [get_bind]
  cases hfind : s.ledgers.find? reservation.accelerator with
  | none => simp [KeyedMap.contains, hfind, Procedure.when]
  | some l =>
      have hcontains : s.ledgers.contains reservation.accelerator = true := by
        simp [KeyedMap.contains, hfind]
      simp only [hcontains, Bool.and_true]
      split
      · rename_i hrelease
        have hhold : partitionsHold s reservation = false := by
          simp only [Bool.and_eq_true, Bool.not_eq_true'] at hrelease
          exact hrelease.2
        rw [hrelease, when_true]
        have hledger : attempt (onLedger reservation.accelerator
            (CapacityLedger.releaseReserved reservation.resources)) s =
            (s.setLedger reservation.accelerator
              (CapacityLedger.releaseReserved reservation.resources l).1,
              .ok (CapacityLedger.releaseReserved reservation.resources l).2) := by
          rw [attempt_apply, onLedger, FabricState.findLedger, hfind]
        rw [bind_ok hledger]
        rcases CapacityLedger.releaseReserved reservation.resources l with ⟨l', e | u⟩
        · rfl
        · have hframe : Conservative (s.setLedger reservation.accelerator l') :=
            h.of_frame rfl rfl rfl rfl rfl rfl
          apply forM_modify_eq_self
          intro p hp
          exact retireRestored_eq hframe hhold hp
      · rename_i hkeep
        rw [Bool.not_eq_true] at hkeep
        rw [hkeep, when_false]
        rfl

/-- The reservation as an import stores it. -/
def restoredReservation (now : UInt64) (reservation : PartitionReservation) :
    PartitionReservation :=
  if reservationIsTerminal reservation.lifecycle then reservation
  else { reservation with
    lifecycle := .fenced
    reason := "restart invalidated live reservation authority"
    updatedAtMs := now }

def storeReservation (now : UInt64) (r : PartitionReservation) (s : FabricState) : FabricState :=
  { s with reservations := s.reservations.insert r.id (restoredReservation now r) }

lemma Conservative.storeReservation (h : Conservative s) (now : UInt64)
    (r : PartitionReservation) : Conservative (storeReservation now r s) := by
  unfold PartitionFabric.storeReservation restoredReservation
  split
  · exact h.insertReservation _ ‹_›
  · exact h.insertReservation { r with
      lifecycle := .fenced
      reason := "restart invalidated live reservation authority"
      updatedAtMs := now } rfl

/-- A reservation that gives nothing back is stored and nothing else changes. -/
lemma restoreReservation_kept (now : UInt64) (report : ReconciliationReport)
    {r : PartitionReservation} (h : Conservative s)
    (hkept : s.ledgers.find? r.accelerator = none ∨
      (r.holdsCapacity && !partitionsHold s r) = false) :
    ∃ report', restoreReservation now report r s = (storeReservation now r s, .ok report') := by
  unfold restoreReservation storeReservation restoredReservation
  cases hterminal : reservationIsTerminal r.lifecycle with
  | true => exact ⟨report, rfl⟩
  | false =>
      have hrelease : releaseRestored now r s = (s, .ok ()) := by
        rw [releaseRestored_eq now r h]
        rcases hkept with hnone | hfalse
        · rw [hnone]
        · split
          · rfl
          · rw [hfalse]
            rfl
      simp only [Bool.false_eq_true, if_false]
      rw [bind_ok hrelease]
      exact ⟨_, rfl⟩

/-- A reservation that gives its capacity back fails exactly when its device's ledger does not
cover it. -/
lemma restoreReservation_released (now : UInt64) (report : ReconciliationReport)
    {r : PartitionReservation} {l : CapacityLedger} (h : Conservative s)
    (hfind : s.ledgers.find? r.accelerator = some l)
    (hrelease : (r.holdsCapacity && !partitionsHold s r) = true) :
    (∃ l' report', CapacityLedger.releaseReserved r.resources l = (l', success) ∧
      restoreReservation now report r s =
        (storeReservation now r (s.setLedger r.accelerator l'), .ok report')) ∨
      (¬ l.Covers [r.resources] ∧ ∃ t e, restoreReservation now report r s = (t, .error e)) := by
  have hlive : reservationIsTerminal r.lifecycle = false := by
    rw [Bool.and_eq_true] at hrelease
    cases hlifecycle : r.lifecycle <;>
      simp [PartitionReservation.holdsCapacity, reservationHoldsCapacity, hlifecycle,
        reservationIsTerminal] at hrelease ⊢
  unfold restoreReservation storeReservation restoredReservation
  simp only [hlive, Bool.false_eq_true, if_false]
  have heq := releaseRestored_eq now r h
  simp only [hfind, hrelease, if_true] at heq
  rcases hresult : CapacityLedger.releaseReserved r.resources l with ⟨l', e | u⟩
  · right
    rw [hresult] at heq
    refine ⟨fun hcovers ↦ ?_, _, _, bind_error heq⟩
    obtain ⟨l'', hok⟩ := releaseReserved_eq_ok.mpr hcovers
    rw [hresult] at hok
    exact absurd (Prod.mk.inj hok).2 (by simp [success])
  · left
    rw [hresult] at heq
    refine ⟨l', { report with reconciliationRequired := true }, rfl, ?_⟩
    rw [bind_ok heq]
    rfl

/-- A procedure ends without an error. -/
def Completes {α : Type} (m : FabricM α) (s : FabricState) : Prop := ∃ t a, m s = (t, .ok a)

lemma completes_bind {α β : Type} {m : FabricM α} {f : α → FabricM β} {a : α}
    (h : m s = (t, .ok a)) : Completes (m >>= f) s ↔ Completes (f a) t := by
  unfold Completes
  rw [bind_ok h]

lemma not_completes_bind {α β : Type} {m : FabricM α} {f : α → FabricM β} {e : Error}
    (h : m s = (t, .error e)) : ¬ Completes (m >>= f) s := by
  rintro ⟨u, b, hb⟩
  rw [bind_error h] at hb
  exact absurd (Prod.mk.inj hb).2 (by simp)

/-- The reservations of a durable state are restored exactly when every ledger covers what it
gives back in all. -/
lemma restoreReservations_completes_iff (now : UInt64) {holding : PartitionReservation → Bool}
    (l : List PartitionReservation) (report : ReconciliationReport) (h : Conservative s)
    (hholding : partitionsHold s = holding) :
    Completes (l.foldlM (restoreReservation now) report) s ↔
      ∀ id ledger, s.ledgers.find? id = some ledger → ledger.Covers (released holding id l) := by
  induction l generalizing s report with
  | nil =>
      constructor
      · intro _ id ledger _
        constructor <;> simp [released]
      · intro _
        exact ⟨s, report, rfl⟩
  | cons r rest ih =>
      rw [List.foldlM_cons]
      by_cases hkept : s.ledgers.find? r.accelerator = none ∨
          (r.holdsCapacity && !partitionsHold s r) = false
      · obtain ⟨report', hstep⟩ := restoreReservation_kept now report h hkept
        rw [completes_bind hstep, ih report' (h.storeReservation now r) hholding]
        rw [hholding] at hkept
        apply forall_congr'
        intro id
        apply forall_congr'
        intro ledger
        apply imp_congr_right
        intro hfind
        rcases hkept with hnone | hfalse
        · have hne : r.accelerator ≠ id := by
            rintro rfl
            exact absurd (hnone.symm.trans hfind) (by simp)
          rw [released_cons_of_ne hne]
        · rw [released_cons_of_kept hfalse]
      · rw [not_or, Bool.not_eq_false] at hkept
        obtain ⟨ledger, hledger⟩ := Option.ne_none_iff_exists'.mp hkept.1
        have hcons : released holding r.accelerator (r :: rest) =
            r.resources :: released holding r.accelerator rest :=
          released_cons (hholding ▸ hkept.2)
        rcases restoreReservation_released now report h hledger hkept.2 with
          ⟨l', report', hrelease, hstep⟩ | ⟨huncovered, u, e, hstep⟩
        · have hone := releaseReserved_eq_ok.mp ⟨l', hrelease⟩
          have hmoved : CapacityLedger.Moved .reserved .free r.resources ledger l' := by
            rcases CapacityLedger.transfer_spec (by decide : CapacityBucket.reserved ≠ .free)
              r.resources ledger with ⟨l'', heq, hmoved⟩ | ⟨e, heq⟩
            · have hl : l'' = l' := (Prod.mk.inj (heq.symm.trans hrelease)).1
              exact hl ▸ hmoved
            · exact absurd (Prod.mk.inj (heq.symm.trans hrelease)).2 (by simp [success])
          have hframe : Conservative (s.setLedger r.accelerator l') :=
            h.of_frame rfl rfl rfl rfl rfl rfl
          rw [completes_bind hstep, ih report' (hframe.storeReservation now r) hholding]
          have hlookup : ∀ id, (s.ledgers.insert r.accelerator l').find? id =
              if id = r.accelerator then some l' else s.ledgers.find? id :=
            fun id ↦ KeyedMap.find?_insert _ _ _ _
          constructor
          · intro hall id m hm
            have hcovers := hall id
            simp only [storeReservation, FabricState.setLedger, hlookup] at hcovers
            by_cases hid : id = r.accelerator
            · subst hid
              obtain rfl : ledger = m := Option.some.inj (hledger.symm.trans hm)
              rw [hcons, covers_cons_iff hone hmoved]
              exact hcovers l' (if_pos rfl)
            · rw [released_cons_of_ne (Ne.symm hid)]
              exact hcovers m ((if_neg hid).trans hm)
          · intro hall id m hm
            simp only [storeReservation, FabricState.setLedger, hlookup] at hm
            by_cases hid : id = r.accelerator
            · subst hid
              obtain rfl : l' = m := Option.some.inj ((if_pos rfl).symm.trans hm)
              rw [← covers_cons_iff hone hmoved, ← hcons]
              exact hall r.accelerator ledger hledger
            · rw [← released_cons_of_ne (Ne.symm hid)]
              exact hall id m ((if_neg hid).symm.trans hm)
        · constructor
          · intro hcompletes
            exact absurd hcompletes (not_completes_bind hstep)
          · intro hall
            have hcovers := hall r.accelerator ledger hledger
            rw [hcons] at hcovers
            exact absurd hcovers.head huncovered

lemma completes_foldlM {ι β : Type} {l : List ι} {body : β → ι → FabricM β} {b : β}
    (h : ∀ b i s, Completes (body b i) s) : Completes (l.foldlM body b) s := by
  induction l generalizing b s with
  | nil => exact ⟨s, b, rfl⟩
  | cons i rest ih =>
      obtain ⟨t, b', hstep⟩ := h b i s
      rw [List.foldlM_cons, completes_bind hstep]
      exact ih

lemma restoreAttempt_completes (now : UInt64) (report : ReconciliationReport)
    (attempt : PartitionAttempt) (s : FabricState) :
    Completes (restoreAttempt now report attempt) s := by
  unfold restoreAttempt
  split
  · exact ⟨_, _, rfl⟩
  · exact ⟨_, _, rfl⟩

lemma restoreAssignment_completes (report : ReconciliationReport)
    (assignment : PartitionAssignment) (s : FabricState) :
    Completes (restoreAssignment report assignment) s := by
  unfold restoreAssignment Completes
  rw [get_bind]
  split
  · exact ⟨_, _, rfl⟩
  · exact ⟨_, _, rfl⟩

/-- The partition record as an import stores it. -/
def restoredPartition (now : UInt64) (record : PartitionRecord) : PartitionRecord :=
  if needsRevalidation record then
    { record with
      state := .revalidationRequired
      lastTransitionAtMs := now
      lastTransitionReason := "conservative revalidation after restart" }
  else record

lemma restorePartition_eq (now : UInt64) (report : ReconciliationReport)
    (record : PartitionRecord) (s : FabricState) :
    ∃ report', restorePartition now report record s =
      ({ s with partitions := s.partitions.insert record.id (restoredPartition now record) },
        .ok report') := by
  unfold restorePartition restoredPartition
  split
  · exact ⟨_, rfl⟩
  · exact ⟨report, rfl⟩

lemma restorePartitions_eq (s : FabricState) (now : UInt64) (l : List PartitionRecord)
    (report : ReconciliationReport) :
    ∃ report', l.foldlM (restorePartition now) report s =
      ({ s with partitions :=
          l.foldl (fun m r ↦ m.insert r.id (restoredPartition now r)) s.partitions },
        .ok report') := by
  induction l generalizing s report with
  | nil => exact ⟨report, rfl⟩
  | cons record rest ih =>
      obtain ⟨report₁, hstep⟩ := restorePartition_eq now report record s
      rw [List.foldlM_cons, bind_ok hstep]
      exact ih _ report₁

namespace DurableState

/-- The ledgers that an import installs; a later entry replaces an earlier one. -/
def ledgerMap (d : DurableState) : KeyedMap AcceleratorId CapacityLedger :=
  d.ledgers.foldl (fun m entry ↦ m.insert entry.1 entry.2) ∅

/-- Whether a durable partition of a reservation names a bucket. -/
def partitionsHold (d : DurableState) (reservation : PartitionReservation) : Bool :=
  reservation.partitions.any fun p ↦ d.partitions.any fun record ↦
    record.id = p && record.heldBucket.isSome

/-- Every durable ledger covers what the live reservations on its device give back. -/
def Releasable (d : DurableState) : Prop :=
  ∀ id ledger, d.ledgerMap.find? id = some ledger →
    ledger.Covers (released d.partitionsHold id d.reservations)

end DurableState

lemma checkDistinct_nodup {α : Type} {identity : α → UInt64} {first second : α → Status}
    {duplicate : Text} {seen : List UInt64} {l : List α}
    (h : checkDistinct identity first second duplicate seen l = .ok ()) :
    (l.map identity).Nodup ∧ ∀ x ∈ l, identity x ∉ seen := by
  induction l generalizing seen with
  | nil => simp
  | cons x rest ih =>
      unfold checkDistinct at h
      obtain ⟨-, h⟩ := check_bind_eq_ok.mp h
      split at h
      · exact absurd h (failure_ne_ok _ _ _ _)
      · rename_i hseen
        obtain ⟨-, h⟩ := check_bind_eq_ok.mp h
        obtain ⟨hnodup, hfresh⟩ := ih h
        constructor
        · rw [List.map_cons, List.nodup_cons]
          refine ⟨fun hmem ↦ ?_, hnodup⟩
          obtain ⟨y, hy, hid⟩ := List.mem_map.mp hmem
          exact hfresh y hy (hid ▸ List.mem_cons_self)
        · intro y hy
          rcases List.mem_cons.mp hy with rfl | hy
          · simpa using hseen
          · exact fun hmem ↦ hfresh y hy (List.mem_cons_of_mem _ hmem)

lemma validateImport_nodup {d : DurableState} {current : StateGeneration}
    (h : d.validateImport current = success) : (d.partitions.map PartitionRecord.id).Nodup := by
  unfold DurableState.validateImport at h
  obtain ⟨-, h⟩ := check_bind_eq_ok.mp h
  obtain ⟨hpartitions, -⟩ := check_bind_eq_ok.mp h
  exact (checkDistinct_nodup hpartitions).1

/-- The restored records hold capacity exactly where the durable ones do. -/
lemma partitionsHold_restored {d : DurableState} {now : UInt64}
    (hnodup : (d.partitions.map PartitionRecord.id).Nodup)
    (hs : s.partitions =
      d.partitions.foldl (fun m r ↦ m.insert r.id (restoredPartition now r)) ∅) :
    partitionsHold s = d.partitionsHold := by
  have hbucket : ∀ record, (restoredPartition now record).heldBucket = record.heldBucket := by
    intro record
    unfold restoredPartition
    split <;> rfl
  have hstate : ∀ record, (restoredPartition now record).state ≠ .reserved ∧
      (restoredPartition now record).state ≠ .creating := by
    intro record
    unfold restoredPartition
    split
    · simp
    · rename_i hkeep
      have hrestart := restartState_of_not_needsRevalidation (by simpa using hkeep)
      constructor <;> intro hbad <;> rw [hbad] at hrestart <;> simp [restartState] at hrestart
  have hfind : ∀ record ∈ d.partitions,
      s.partitions.find? record.id = some (restoredPartition now record) := by
    intro record hrecord
    have hstored : ∃ v, (d.partitions.foldl
        (fun m r ↦ m.insert r.id (restoredPartition now r))
        (∅ : KeyedMap PartitionId PartitionRecord)).find? record.id = some v :=
      KeyedMap.exists_foldl_insert (Or.inl ⟨record, hrecord, rfl⟩)
    obtain ⟨v, hv⟩ := hstored
    rw [hs, hv]
    obtain ⟨other, hother, hid, rfl⟩ := (KeyedMap.find?_foldl_insert hv).resolve_right (by simp)
    obtain rfl := List.inj_on_of_nodup_map hnodup hother hrecord hid
    rfl
  funext reservation
  unfold partitionsHold DurableState.partitionsHold
  apply List.any_congr rfl
  intro p
  rw [Bool.eq_iff_iff, Option.any_eq_true, List.any_eq_true]
  constructor
  · rintro ⟨r, hr, hholds⟩
    rw [FabricState.findPartition, hs] at hr
    obtain ⟨record, hrecord, hid, rfl⟩ :=
      (KeyedMap.find?_foldl_insert hr).resolve_right (by simp)
    simp only [Bool.and_eq_true, hbucket] at hholds
    exact ⟨record, hrecord, by simp [hid, hholds.1.1]⟩
  · rintro ⟨record, hrecord, hholds⟩
    simp only [Bool.and_eq_true, decide_eq_true_eq] at hholds
    obtain ⟨rfl, hheld⟩ := hholds
    refine ⟨_, hfind record hrecord, ?_⟩
    simp [hbucket, hheld, hstate record]

/-- The registry is exactly as it was. -/
structure SameRegistry (s t : FabricState) : Prop where
  accelerators : t.accelerators = s.accelerators
  ledgers : t.ledgers = s.ledgers
  profiles : t.profiles = s.profiles
  stableKeys : t.stableKeys = s.stableKeys
  keyIndex : t.keyIndex = s.keyIndex
  partitions : t.partitions = s.partitions
  reservations : t.reservations = s.reservations
  attempts : t.attempts = s.attempts
  assignments : t.assignments = s.assignments
  workers : t.workers = s.workers
  policy : t.policy = s.policy
  coordinatorEpoch : t.coordinatorEpoch = s.coordinatorEpoch
  stateGeneration : t.stateGeneration = s.stateGeneration
  ids : t.ids = s.ids

/-- An import that fails leaves the registry exactly as it was. -/
def ImportAtomic (d : DurableState) (now : UInt64) (s : FabricState) : Prop :=
  ∀ e, (importDurableState d now s).2 = .error e → SameRegistry s (importDurableState d now s).1

/-- The part of an import that cannot fail: attempts, assignments and workers. -/
def importRemainder (d : DurableState) (now : UInt64) (report : ReconciliationReport) :
    FabricM ReconciliationReport := do
  let report ← d.attempts.foldlM (restoreAttempt now) report
  let report ← d.assignments.foldlM restoreAssignment report
  Procedure.modify fun s ↦
    { s with workers := d.workers.foldl (fun m w ↦ m.insert w.id (restoreWorker now w)) ∅ }
  Procedure.modify FabricState.bumpStateGeneration
  pure report

/-- The import after its validation and the replacement of the registry. -/
def importRestored (d : DurableState) (now : UInt64) : FabricM ReconciliationReport := do
  restoreCounters d
  let id ← reportIdentity
  let report ← d.partitions.foldlM (restorePartition now) { id := id }
  let report ← d.reservations.foldlM (restoreReservation now) report
  importRemainder d now report

lemma importRemainder_completes (d : DurableState) (now : UInt64)
    (report : ReconciliationReport) (s : FabricState) :
    Completes (importRemainder d now report) s := by
  obtain ⟨t, r₁, h₁⟩ := completes_foldlM (s := s) (l := d.attempts) (b := report)
    (restoreAttempt_completes now)
  obtain ⟨u, r₂, h₂⟩ := completes_foldlM (s := t) (l := d.assignments) (b := r₁)
    restoreAssignment_completes
  unfold importRemainder
  rw [completes_bind h₁, completes_bind h₂]
  exact ⟨_, _, rfl⟩

lemma import_accepted {d : DurableState} {now : UInt64}
    (h : d.validateImport s.stateGeneration = success) :
    importDurableState d now s = importRestored d now (d.restoreRegistry s) := by
  unfold importDurableState
  rw [get_bind, h]
  rfl

/-- The three ways the counters are restored. -/
lemma restoreCounters_cases (d : DurableState) (s : FabricState) :
    (d.nextIdentity < s.ids.next ∧ ∃ e, restoreCounters d s = (s, .error e)) ∨
    (s.ids.next ≤ d.nextIdentity ∧ d.stateGeneration = uint64Max ∧ ∃ e, restoreCounters d s =
      ({ s with
          ids := ⟨d.nextIdentity⟩
          coordinatorEpoch :=
            if d.coordinatorEpoch > s.coordinatorEpoch then d.coordinatorEpoch
            else s.coordinatorEpoch }, .error e)) ∨
    (s.ids.next ≤ d.nextIdentity ∧ d.stateGeneration ≠ uint64Max ∧ restoreCounters d s =
      ({ s with
          ids := ⟨d.nextIdentity⟩
          coordinatorEpoch :=
            if d.coordinatorEpoch > s.coordinatorEpoch then d.coordinatorEpoch
            else s.coordinatorEpoch
          stateGeneration := d.stateGeneration + 1 }, .ok ())) := by
  unfold restoreCounters
  rw [get_bind]
  by_cases hfloor : d.nextIdentity < s.ids.next
  · left
    rw [IdAllocator.restoreFloor, if_pos hfloor]
    exact ⟨hfloor, _, rfl⟩
  · right
    have hle : s.ids.next ≤ d.nextIdentity := UInt64.not_lt.mp hfloor
    rw [IdAllocator.restoreFloor, if_neg hfloor]
    by_cases hmax : d.stateGeneration = uint64Max
    · left
      rw [next, if_pos hmax]
      exact ⟨hle, hmax, _, rfl⟩
    · right
      refine ⟨hle, hmax, ?_⟩
      rw [next, if_neg hmax]
      rfl

lemma reportIdentity_eq (s : FabricState) :
    ∃ ids id, reportIdentity s = ({ s with ids := ids }, .ok id) := by
  unfold reportIdentity
  rcases allocateId_cases s with ⟨e, h⟩ | ⟨ids, -, h⟩
  · have hattempt : attempt allocateId s = (s, .ok (.error e)) := by rw [attempt_apply, h]
    rw [bind_ok hattempt]
    exact ⟨s.ids, _, rfl⟩
  · have hattempt : attempt allocateId s = ({ s with ids := ids }, .ok (.ok s.ids.next)) := by
      rw [attempt_apply, h]
    rw [bind_ok hattempt]
    exact ⟨ids, _, rfl⟩

/-- Restoring reservations does not touch the state generation. -/
lemma restoreReservations_stateGeneration (s : FabricState) (now : UInt64)
    (l : List PartitionReservation) (report : ReconciliationReport) :
    Advances (Keeps FabricState.stateGeneration) (l.foldlM (restoreReservation now) report) s := by
  apply advances_foldlM
  intro report r _ t _
  apply advances_ite
  · intro _
    exact advances_modify_bind rfl (advances_pure _ _)
  · intro _
    apply advances_bind
    · apply advances_get_bind
      apply advances_when
      intro _
      apply advances_bind
      · apply advances_attempt
        unfold Advances onLedger
        split <;> rfl
      · intro u status _
        cases status with
        | error e => exact advances_throw _ _
        | ok _ => exact advances_forM fun _ _ _ _ ↦ advances_modify rfl
    · intro u _ _
      exact advances_modify_bind rfl (advances_pure _ _)

/-- Once the counters are restored an import fails exactly when a ledger does not cover its
releases, and it has changed the state generation by then. -/
lemma importRestored_loops (now : UInt64) {d : DurableState} {u : FabricState}
    (hnodup : (d.partitions.map PartitionRecord.id).Nodup) (hconservative : Conservative u)
    (hempty : u.partitions = ∅) (hledgers : u.ledgers = d.ledgerMap)
    (hcounters : restoreCounters d s = (u, .ok ())) :
    (Completes (importRestored d now) s ↔ d.Releasable) ∧
      (¬ Completes (importRestored d now) s →
        (importRestored d now s).1.stateGeneration = u.stateGeneration) := by
  obtain ⟨ids, id, hidentity⟩ := reportIdentity_eq u
  obtain ⟨report, hpartitions⟩ := restorePartitions_eq { u with ids := ids } now d.partitions
    { id := id }
  have hframe : Conservative { u with ids := ids } :=
    hconservative.of_frame rfl rfl rfl rfl rfl rfl
  have hrestored := Preserves.of_ok
    (advances_foldlM fun _ _ _ _ _ ↦ conservative_restorePartition) hframe hpartitions
  unfold importRestored
  rw [completes_bind hcounters, completes_bind hidentity, completes_bind hpartitions,
    bind_ok hcounters, bind_ok hidentity, bind_ok hpartitions]
  generalize hv : ({ u with
    ids := ids
    partitions := d.partitions.foldl (fun m r ↦ m.insert r.id (restoredPartition now r))
      ({ u with ids := ids } : FabricState).partitions } : FabricState) = v at *
  have hvpartitions : v.partitions =
      d.partitions.foldl (fun m r ↦ m.insert r.id (restoredPartition now r)) ∅ := by
    rw [← hv, ← hempty]
  have hvledgers : v.ledgers = d.ledgerMap := by rw [← hv, ← hledgers]
  have hvgeneration : v.stateGeneration = u.stateGeneration := by rw [← hv]
  have hiff := restoreReservations_completes_iff now d.reservations report hrestored
    (partitionsHold_restored hnodup hvpartitions)
  rw [hvledgers] at hiff
  have hgeneration := restoreReservations_stateGeneration v now d.reservations report
  rcases hloop : d.reservations.foldlM (restoreReservation now) report v with ⟨w, e | report'⟩
  · have hnot : ¬ Completes (d.reservations.foldlM (restoreReservation now) report) v := by
      rintro ⟨_, _, hok⟩
      rw [hloop] at hok
      exact absurd (Prod.mk.inj hok).2 (by simp)
    rw [bind_error hloop]
    refine ⟨⟨fun h ↦ absurd h (not_completes_bind hloop), fun h ↦ absurd (hiff.mpr h) hnot⟩, ?_⟩
    intro _
    unfold Advances Keeps at hgeneration
    rw [hloop] at hgeneration
    exact hgeneration.trans hvgeneration
  · have hrest := importRemainder_completes d now report' w
    rw [completes_bind hloop]
    exact ⟨⟨fun _ ↦ hiff.mp ⟨w, report', hloop⟩, fun _ ↦ hrest⟩, fun hnot ↦ absurd hrest hnot⟩

lemma validateImport_generation {d : DurableState} {current : StateGeneration}
    (h : d.validateImport current = success) : current ≤ d.stateGeneration := by
  unfold DurableState.validateImport at h
  obtain ⟨-, h⟩ := check_bind_eq_ok.mp h
  obtain ⟨-, h⟩ := check_bind_eq_ok.mp h
  obtain ⟨-, h⟩ := check_bind_eq_ok.mp h
  split at h
  · exact absurd h (failure_ne_ok _ _ _ _)
  · exact UInt64.not_lt.mp ‹_›

lemma importRestored_error {d : DurableState} {now : UInt64} {e : Error}
    (h : restoreCounters d s = (t, .error e)) : importRestored d now s = (t, .error e) := by
  unfold importRestored
  exact bind_error h

lemma sameRegistry_counters (s u : FabricState) (next : UInt64) (epoch : CoordinatorEpoch) :
    SameRegistry s { u with ids := ⟨next⟩, coordinatorEpoch := epoch } ↔
      next = s.ids.next ∧ epoch = s.coordinatorEpoch ∧
        SameRegistry s { u with ids := s.ids, coordinatorEpoch := s.coordinatorEpoch } := by
  constructor
  · intro h
    have hids : (⟨next⟩ : IdAllocator) = s.ids := h.ids
    refine ⟨?_, h.coordinatorEpoch, ?_⟩
    · rw [← hids]
    · exact ⟨h.accelerators, h.ledgers, h.profiles, h.stableKeys, h.keyIndex, h.partitions,
        h.reservations, h.attempts, h.assignments, h.workers, h.policy, rfl, h.stateGeneration,
        rfl⟩
  · rintro ⟨rfl, rfl, h⟩
    exact ⟨h.accelerators, h.ledgers, h.profiles, h.stableKeys, h.keyIndex, h.partitions,
      h.reservations, h.attempts, h.assignments, h.workers, h.policy, rfl, h.stateGeneration, rfl⟩

/-- A failed import leaves the registry alone exactly when the validation refuses it, when none
of the checks after the replacement of the registry fails, or when the counters fail over a
durable registry that is the live one. -/
theorem import_atomic_iff (d : DurableState) (now : UInt64) (s : FabricState) :
    ImportAtomic d now s ↔
      d.validateImport s.stateGeneration ≠ success ∨
      (s.ids.next ≤ d.nextIdentity ∧ d.stateGeneration ≠ uint64Max ∧ d.Releasable) ∨
      (d.nextIdentity < s.ids.next ∧ SameRegistry s (d.restoreRegistry s)) ∨
      (d.stateGeneration = uint64Max ∧ d.nextIdentity = s.ids.next ∧
        d.coordinatorEpoch ≤ s.coordinatorEpoch ∧ SameRegistry s (d.restoreRegistry s)) := by
  unfold ImportAtomic
  cases hvalid : d.validateImport s.stateGeneration with
  | error e =>
      rw [import_refused hvalid]
      refine ⟨fun _ ↦ Or.inl (by simp [success]), fun _ _ _ ↦ ?_⟩
      exact ⟨rfl, rfl, rfl, rfl, rfl, rfl, rfl, rfl, rfl, rfl, rfl, rfl, rfl, rfl⟩
  | ok u =>
      rw [import_accepted hvalid]
      have hrefused : ¬ (Except.ok u : Status) ≠ success := fun h ↦ h rfl
      rcases restoreCounters_cases d (d.restoreRegistry s) with
        ⟨hfloor, e, hcounters⟩ | ⟨hle, hmax, e, hcounters⟩ | ⟨hle, hmax, hcounters⟩
      · -- the identity counter is behind the live allocator
        have hfloor' : d.nextIdentity < s.ids.next := hfloor
        have hnotle : ¬ s.ids.next ≤ d.nextIdentity := UInt64.not_le.mpr hfloor'
        have hne : d.nextIdentity ≠ s.ids.next := UInt64.ne_of_lt hfloor'
        rw [importRestored_error hcounters]
        simp [hfloor', hnotle, hne, success]
      · -- the state generation is exhausted
        have hle' : s.ids.next ≤ d.nextIdentity := hle
        have hnotlt : ¬ d.nextIdentity < s.ids.next := UInt64.not_lt.mpr hle'
        have hepoch : (if d.coordinatorEpoch > s.coordinatorEpoch then d.coordinatorEpoch
            else s.coordinatorEpoch) = s.coordinatorEpoch ↔
            d.coordinatorEpoch ≤ s.coordinatorEpoch := by
          split
          · rename_i hgt
            constructor
            · intro heq
              exact absurd hgt (by rw [heq]; exact UInt64.lt_irrefl _)
            · intro hle
              exact absurd hgt (UInt64.not_lt.mpr hle)
          · rename_i hgt
            exact ⟨fun _ ↦ UInt64.not_lt.mp hgt, fun _ ↦ rfl⟩
        have hsame := sameRegistry_counters s (d.restoreRegistry s) d.nextIdentity
          (if d.coordinatorEpoch > s.coordinatorEpoch then d.coordinatorEpoch
            else s.coordinatorEpoch)
        rw [hepoch] at hsame
        rw [importRestored_error hcounters]
        constructor
        · intro h
          exact Or.inr (Or.inr (Or.inr ⟨hmax, hsame.mp (h e rfl)⟩))
        · rintro (h | ⟨-, h, -⟩ | ⟨h, -⟩ | ⟨-, h⟩) e' _
          · exact absurd h hrefused
          · exact absurd hmax h
          · exact absurd h hnotlt
          · exact hsame.mpr h
      · -- the counters are restored; only a release can fail
        have hle' : s.ids.next ≤ d.nextIdentity := hle
        have hnotlt : ¬ d.nextIdentity < s.ids.next := UInt64.not_lt.mpr hle'
        have hconservative := (conservative_restoreRegistry d s).of_frame
          (t := { d.restoreRegistry s with
            ids := ⟨d.nextIdentity⟩
            coordinatorEpoch :=
              if d.coordinatorEpoch > (d.restoreRegistry s).coordinatorEpoch then
                d.coordinatorEpoch
              else (d.restoreRegistry s).coordinatorEpoch
            stateGeneration := d.stateGeneration + 1 }) rfl rfl rfl rfl rfl rfl
        obtain ⟨hiff, hgeneration⟩ := importRestored_loops now
          (validateImport_nodup hvalid) hconservative rfl rfl hcounters
        by_cases hrelease : d.Releasable
        · obtain ⟨w, report, hok⟩ := hiff.mpr hrelease
          constructor
          · intro _
            exact Or.inr (Or.inl ⟨hle', hmax, hrelease⟩)
          · intro _ e he
            rw [hok] at he
            cases he
        · have hnot : ¬ Completes (importRestored d now) (d.restoreRegistry s) :=
            fun h ↦ hrelease (hiff.mp h)
          constructor
          · intro h
            exfalso
            cases hresult : (importRestored d now (d.restoreRegistry s)).2 with
            | ok report => exact hnot ⟨_, report, Prod.ext rfl hresult⟩
            | error e =>
                have hgen := (h e hresult).stateGeneration
                rw [hgeneration hnot] at hgen
                have hle := validateImport_generation hvalid
                have hlt := lt_add_one hmax
                rw [show d.stateGeneration + 1 = s.stateGeneration from hgen] at hlt
                exact absurd hlt (UInt64.not_lt.mpr hle)
          · rintro (h | ⟨-, -, h⟩ | ⟨h, -⟩ | ⟨h, -⟩)
            · exact absurd h hrefused
            · exact absurd h hrelease
            · exact absurd h hnotlt
            · exact absurd h hmax

lemma not_importAtomic {d : DurableState} {now : UInt64}
    (herror : (importDurableState d now s).2.isOk = false)
    (hsize : (importDurableState d now s).1.accelerators.size ≠ s.accelerators.size) :
    ¬ ImportAtomic d now s := by
  intro h
  cases hresult : (importDurableState d now s).2 with
  | ok report =>
      rw [hresult] at herror
      cases herror
  | error e => exact hsize (by rw [(h e hresult).accelerators])

/-- A durable state with fewer identities than the live instance fails after it has replaced the
live registry. -/
theorem import_drops_live_device :
    ¬ ImportAtomic { exportDurableState Sample.opened 9 with stateGeneration := 100 } 10
      (fabric.run Sample.dispatched Sample.opened) := by
  apply not_importAtomic
  · decide +kernel
  · decide +kernel

end PartitionFabric
