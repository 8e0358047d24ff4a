import PartitionFabric.Invariants.ImportAtomicity

/-!
What an import gives back of a reservation that was never dispatched. Its partitions are set to
await revalidation before the reservation is looked at, and then count as holding capacity of their
own, so that only a reservation without partitions is freed.
-/

namespace PartitionFabric

open Procedure

variable {s t : FabricState} {d : DurableState} {now : UInt64} {report report' : ReconciliationReport}
  {r : PartitionReservation}

/-- Releases amounts of reserved capacity one after the other. -/
def giveBack (amounts : List ResourceVector) (l : CapacityLedger) : CapacityLedger :=
  amounts.foldl (fun l amount ↦ (CapacityLedger.releaseReserved amount l).1) l

/-- Restoring the reservations leaves the partitions alone and gives back what they release. -/
lemma restoreReservations_ok {holding : PartitionReservation → Bool} (l : List PartitionReservation)
    (h : Conservative s) (hholding : partitionsHold s = holding)
    (hrun : l.foldlM (restoreReservation now) report s = (t, .ok report')) :
    t.partitions = s.partitions ∧ ∀ id, t.ledgers.find? id =
      (s.ledgers.find? id).map (giveBack (released holding id l)) := by
  induction l generalizing s report with
  | nil =>
      obtain rfl : s = t := (Prod.mk.inj hrun).1
      refine ⟨rfl, fun id ↦ ?_⟩
      cases s.ledgers.find? id with
      | none => rfl
      | some ledger => rfl
  | cons r rest ih =>
      rw [List.foldlM_cons] at hrun
      by_cases hkept : s.ledgers.find? r.accelerator = none ∨
          (r.holdsCapacity && !partitionsHold s r) = false
      · obtain ⟨report₁, hstep⟩ := restoreReservation_kept now report h hkept
        rw [bind_ok hstep] at hrun
        obtain ⟨hpartitions, hledgers⟩ := ih (h.storeReservation now r) hholding hrun
        refine ⟨hpartitions, fun id ↦ (hledgers id).trans ?_⟩
        change (s.ledgers.find? id).map _ = _
        rw [hholding] at hkept
        rcases hkept with hnone | hfalse
        · by_cases hid : r.accelerator = id
          · rw [← hid, hnone]
            rfl
          · rw [released_cons_of_ne hid]
        · rw [released_cons_of_kept hfalse]
      · rw [not_or, Bool.not_eq_false] at hkept
        obtain ⟨ledger, hledger⟩ := Option.ne_none_iff_exists'.mp hkept.1
        rcases restoreReservation_released now report h hledger hkept.2 with
          ⟨l', report₁, hrelease, hstep⟩ | ⟨-, u, e, hstep⟩
        · have hframe : Conservative (s.setLedger r.accelerator l') :=
            h.of_frame rfl rfl rfl rfl rfl rfl
          rw [bind_ok hstep] at hrun
          obtain ⟨hpartitions, hledgers⟩ := ih (hframe.storeReservation now r) hholding hrun
          refine ⟨hpartitions, fun id ↦ (hledgers id).trans ?_⟩
          change ((s.ledgers.insert r.accelerator l').find? id).map _ = _
          rw [KeyedMap.find?_insert]
          by_cases hid : id = r.accelerator
          · subst hid
            rw [if_pos rfl, hledger, released_cons (hholding ▸ hkept.2), Option.map_some,
              Option.map_some, giveBack, giveBack, List.foldl_cons, hrelease]
          · rw [if_neg hid, released_cons_of_ne (Ne.symm hid)]
        · rw [bind_error hstep] at hrun
          cases (Prod.mk.inj hrun).2

/-- What is restored last leaves the partitions and the ledgers alone. -/
lemma importRemainder_keeps : Advances (Keeps fun s ↦ (s.partitions, s.ledgers))
    (importRemainder d now report) s := by
  unfold importRemainder
  apply advances_bind
  · apply advances_foldlM
    intro report attempt _ u _
    exact advances_ite (fun _ ↦ advances_modify_bind rfl (advances_pure _ _))
      fun _ ↦ advances_modify_bind rfl (advances_pure _ _)
  intro u _ _
  apply advances_bind
  · apply advances_foldlM
    intro report assignment _ u _
    apply advances_get_bind
    exact advances_ite (fun _ ↦ advances_modify_bind rfl (advances_pure _ _))
      fun _ ↦ advances_pure _ _
  intro v _ _
  exact advances_modify_bind rfl (advances_modify_bind (bump_of fun _ ↦ rfl) (advances_pure _ _))

/-- The partitions and the ledgers after an import that went through. -/
lemma import_eq_ok (h : importDurableState d now s = (t, .ok report)) :
    (d.partitions.map PartitionRecord.id).Nodup ∧
    t.partitions = d.partitions.foldl (fun m r ↦ m.insert r.id (restoredPartition now r)) ∅ ∧
      ∀ id, t.ledgers.find? id =
        (d.ledgerMap.find? id).map (giveBack (released d.partitionsHold id d.reservations)) := by
  cases hvalid : d.validateImport s.stateGeneration with
  | error e =>
      rw [import_refused hvalid] at h
      cases (Prod.mk.inj h).2
  | ok valid =>
      rw [import_accepted hvalid] at h
      have hnodup := validateImport_nodup hvalid
      refine ⟨hnodup, ?_⟩
      rcases restoreCounters_cases d (d.restoreRegistry s) with
        ⟨-, e, hcounters⟩ | ⟨-, -, e, hcounters⟩ | ⟨-, -, hcounters⟩
      · rw [importRestored_error hcounters] at h
        cases (Prod.mk.inj h).2
      · rw [importRestored_error hcounters] at h
        cases (Prod.mk.inj h).2
      · generalize hu : ({ d.restoreRegistry s with
          ids := ⟨d.nextIdentity⟩
          coordinatorEpoch :=
            if d.coordinatorEpoch > (d.restoreRegistry s).coordinatorEpoch then d.coordinatorEpoch
            else (d.restoreRegistry s).coordinatorEpoch
          stateGeneration := d.stateGeneration + 1 } : FabricState) = u at hcounters
        have hconservative : Conservative u := by
          rw [← hu]
          exact (conservative_restoreRegistry d s).of_frame rfl rfl rfl rfl rfl rfl
        have hledgers : u.ledgers = d.ledgerMap := by
          rw [← hu]
          rfl
        have hempty : u.partitions = ∅ := by
          rw [← hu]
          rfl
        obtain ⟨ids, id, hidentity⟩ := reportIdentity_eq u
        obtain ⟨report₁, hpartitions⟩ := restorePartitions_eq { u with ids := ids } now d.partitions
          { id := id }
        have hframe : Conservative { u with ids := ids } :=
          hconservative.of_frame rfl rfl rfl rfl rfl rfl
        have hrestored := Preserves.of_ok
          (advances_foldlM fun _ _ _ _ _ ↦ conservative_restorePartition) hframe hpartitions
        unfold importRestored at h
        rw [bind_ok hcounters, bind_ok hidentity, bind_ok hpartitions] at h
        obtain ⟨v, report₂, hreservations, hrest⟩ := bind_eq_ok.mp h
        obtain ⟨hkept, hgiven⟩ := restoreReservations_ok d.reservations hrestored
          (partitionsHold_restored hnodup (by rw [hempty])) hreservations
        have hsame := importRemainder_keeps.of_run hrest
        obtain ⟨hpartitions', hledgers'⟩ := Prod.mk.inj hsame
        refine ⟨(hpartitions'.trans hkept).trans ?_, fun id ↦ ?_⟩
        · rw [hempty]
        · rw [hledgers', hgiven id, ← hledgers]

/-- A live reservation of a durable state whose partitions are all reserved and which no attempt
belongs to. -/
structure NeverDispatched (d : DurableState) (r : PartitionReservation) : Prop where
  listed : r ∈ d.reservations
  live : r.holdsCapacity = true
  reserved : ∀ p ∈ r.partitions, ∃ record ∈ d.partitions, record.id = p ∧ record.state = .reserved
  unattempted : ∀ a ∈ d.attempts, a.reservation ≠ r.id

/-- The partitions of a reservation are retired, and its resources are among what was given back to
the ledger of its device. -/
def Frees (d : DurableState) (r : PartitionReservation) (t : FabricState) : Prop :=
  (∀ p ∈ r.partitions, (t.findPartition p).map PartitionRecord.state = some .retired) ∧
    ∃ freed : List PartitionReservation, freed.Sublist d.reservations ∧ r ∈ freed ∧
      t.findLedger r.accelerator = (d.ledgerMap.find? r.accelerator).map (giveBack
        ((freed.filter fun r' ↦ r'.accelerator = r.accelerator).map
          PartitionReservation.resources))

/-- An import frees a reservation that was never dispatched exactly when the reservation has no
partitions. -/
theorem import_frees_iff (h : importDurableState d now s = (t, .ok report))
    (hr : NeverDispatched d r) : Frees d r t ↔ r.partitions = [] := by
  obtain ⟨hnodup, hpartitions, hledgers⟩ := import_eq_ok h
  constructor
  · rintro ⟨hretired, -⟩
    rw [List.eq_nil_iff_forall_not_mem]
    intro p hp
    obtain ⟨record, hrecord, rfl, hstate⟩ := hr.reserved p hp
    have hstored : ∃ v, t.partitions.find? record.id = some v := by
      rw [hpartitions]
      exact KeyedMap.exists_foldl_insert (Or.inl ⟨record, hrecord, rfl⟩)
    obtain ⟨v, hv⟩ := hstored
    have hv' := hv
    rw [hpartitions] at hv'
    obtain ⟨other, hother, hid, rfl⟩ := (KeyedMap.find?_foldl_insert hv').resolve_right (by simp)
    obtain rfl := List.inj_on_of_nodup_map hnodup hother hrecord hid
    have hawaits : (restoredPartition now other).state = .revalidationRequired := by
      unfold restoredPartition needsRevalidation
      rw [hstate]
      rfl
    have hnot := hretired other.id hp
    rw [FabricState.findPartition, hv, Option.map_some, hawaits] at hnot
    cases hnot
  · intro hnone
    refine ⟨fun p hp ↦ ?_, d.reservations.filter fun r ↦ r.holdsCapacity && !d.partitionsHold r,
      List.filter_sublist, ?_, ?_⟩
    · rw [hnone] at hp
      cases hp
    · have hempty : d.partitionsHold r = false := by
        unfold DurableState.partitionsHold
        rw [hnone]
        rfl
      exact List.mem_filter.mpr ⟨hr.listed, by rw [hr.live, hempty]; rfl⟩
    · rw [FabricState.findLedger, hledgers r.accelerator, released, List.filter_filter]

namespace Sample

/-- The registry with the reserved slice, as it is saved. -/
def saved : DurableState := exportDurableState (fabric.run reserved opened) 4

/-- The saved registry with the reservation only. -/
def savedBare : DurableState :=
  { saved with
    partitions := []
    reservations := saved.reservations.map fun r ↦
      { r with partitions := [], partitionGenerations := [] } }

end Sample

/-- A reservation without partitions is freed. -/
theorem import_frees_bare : Sample.savedBare.reservations ≠ [] ∧
    ∀ r ∈ Sample.savedBare.reservations,
      Frees Sample.savedBare r (importDurableState Sample.savedBare 5 Sample.opened).1 := by
  have hsome : Sample.savedBare.reservations.isEmpty = false := by decide +kernel
  have hok : (importDurableState Sample.savedBare 5 Sample.opened).2.isOk = true := by
    decide +kernel
  have hattempts : Sample.savedBare.attempts.isEmpty = true := by decide +kernel
  have hall : Sample.savedBare.reservations.all (fun r ↦ r.holdsCapacity && r.partitions.isEmpty) =
      true := by decide +kernel
  refine ⟨List.isEmpty_eq_false_iff.mp hsome, fun r hr ↦ ?_⟩
  have hboth := List.all_eq_true.mp hall r hr
  rw [Bool.and_eq_true, List.isEmpty_iff] at hboth
  have hnever : NeverDispatched Sample.savedBare r := by
    refine ⟨hr, hboth.1, fun p hp ↦ ?_, fun a ha ↦ ?_⟩
    · rw [hboth.2] at hp
      cases hp
    · rw [List.isEmpty_iff.mp hattempts] at ha
      cases ha
  generalize himport : importDurableState Sample.savedBare 5 Sample.opened = run at hok ⊢
  obtain ⟨t, e | report⟩ := run
  · cases hok
  · exact (import_frees_iff himport hnever).mpr hboth.2

/-- A reserved slice that was never dispatched awaits revalidation after a restart. -/
theorem import_keeps_reserved : ¬ ∀ (d : DurableState) (now : UInt64) (s t : FabricState)
    (report : ReconciliationReport) (r : PartitionReservation),
      d.validateDecoded s.limits = success → importDurableState d now s = (t, .ok report) →
        NeverDispatched d r → Frees d r t := by
  intro h
  have hvalid : Sample.saved.validateDecoded Sample.opened.limits = success := by decide +kernel
  have hok : (importDurableState Sample.saved 5 Sample.opened).2.isOk = true := by decide +kernel
  have hattempts : Sample.saved.attempts.isEmpty = true := by decide +kernel
  have hlisted : Sample.saved.reservations.any (fun r ↦
      r.holdsCapacity && decide (r.partitions = [4])) = true := by decide +kernel
  have hreserved : Sample.saved.partitions.any (fun record ↦
      record.id = 4 && record.state = .reserved) = true := by decide +kernel
  have hawaits : ((importDurableState Sample.saved 5 Sample.opened).1.findPartition 4).map
      PartitionRecord.state = some .revalidationRequired := by decide +kernel
  obtain ⟨r, hr, hboth⟩ := List.any_eq_true.mp hlisted
  obtain ⟨record, hrecord, hstate⟩ := List.any_eq_true.mp hreserved
  simp only [Bool.and_eq_true, decide_eq_true_eq] at hboth hstate
  have hnever : NeverDispatched Sample.saved r := by
    refine ⟨hr, hboth.1, fun p hp ↦ ⟨record, hrecord, ?_, hstate.2⟩, fun a ha ↦ ?_⟩
    · rw [hboth.2] at hp
      exact hstate.1.trans (List.mem_singleton.mp hp).symm
    · rw [List.isEmpty_iff.mp hattempts] at ha
      cases ha
  generalize himport : importDurableState Sample.saved 5 Sample.opened = run at hok hawaits
  obtain ⟨t, e | report⟩ := run
  · cases hok
  · obtain ⟨hretired, -⟩ := h Sample.saved 5 Sample.opened t report r hvalid himport hnever
    have hnot := hretired 4 (by rw [hboth.2]; exact List.mem_singleton_self 4)
    rw [hawaits] at hnot
    cases hnot

end PartitionFabric
