import PartitionFabric.Invariants.Assignments
import PartitionFabric.Invariants.Atomicity
import PartitionFabric.Invariants.DrainFrames

/-!
The counters of a drain: what each occupancy operation makes of them, and when they stay the number
of assignments that the draining partition has.
-/

namespace PartitionFabric

open Procedure

variable {s t : FabricState} {now : UInt64} {p q : PartitionId}

/-- The progress of a drain agrees with a number of assignments. -/
structure DrainProgress.Counts (drain : DrainProgress) (n : ℕ) : Prop where
  outstanding : drain.outstandingAssignments.toNat = n
  bounded : drain.outstandingAssignments ≤ drain.totalAssignments
  complete : drain.state = .drainComplete ↔ n = 0

/-- If the partition under a key drains, its progress agrees with its assignments. -/
def CountsAt (s : FabricState) (p : PartitionId) : Prop :=
  ∀ r, s.partitions.find? p = some r → r.state = .draining → r.drain.Counts (s.occupants p)

/-- Every drain agrees with the assignments, and everything stands under its own identity. -/
structure Counted (s : FabricState) : Prop where
  catalogued : Catalogued s
  counts : ∀ p, CountsAt s p

section Frames

/-- The occupants of a partition are the same when its assignments are. -/
lemma occupants_eq (h : ∀ k a, a.partition = p →
    (t.assignments.find? k = some a ↔ s.assignments.find? k = some a)) :
    t.occupants p = s.occupants p := by
  have hfilter : (t.assignments.filter fun _ a ↦ decide (a.partition = p)) =
      s.assignments.filter fun _ a ↦ decide (a.partition = p) := by
    apply KeyedMap.ext_find?
    intro k
    rw [KeyedMap.find?_filter, KeyedMap.find?_filter]
    ext a
    rw [Option.filter_eq_some_iff, Option.filter_eq_some_iff]
    exact and_congr_left fun hp ↦ h k a (of_decide_eq_true hp)
  unfold FabricState.occupants
  rw [List.countP_eq_length_filter, List.countP_eq_length_filter, ← KeyedMap.values_filter,
    ← KeyedMap.values_filter, hfilter]

lemma CountsAt.congr (h : CountsAt s p) (hpartition : t.partitions.find? p = s.partitions.find? p)
    (hoccupants : t.occupants p = s.occupants p) : CountsAt t p := by
  intro r hr hdraining
  rw [hoccupants]
  exact h r (hpartition ▸ hr) hdraining

/-- A step that disturbs no drain keeps the counters. -/
lemma Counted.of_leaves (hs : Counted s) (h : LeavesDrains s t) : Counted t := by
  refine ⟨h.catalogued hs.catalogued, fun p r' hr' hdraining ↦ ?_⟩
  obtain ⟨⟨r, hr, hstate, hdrain⟩, hsame⟩ := h.draining hs.catalogued p r' hr' hdraining
  rw [hdrain, occupants_eq hsame]
  exact hs.counts p r hr hstate

/-- A rewrite of one record keeps the counters of the others, and its own where it drains. -/
lemma counted_modify {f : PartitionRecord → PartitionRecord} (hid : ∀ r, (f r).id = r.id)
    (hcatalogued : Catalogued s) (hothers : ∀ q, q ≠ p → CountsAt s q)
    (h : ∀ r, s.partitions.find? p = some r → (f r).state = .draining →
      (f r).drain.Counts (s.occupants p)) : Counted (s.modifyPartition p f) := by
  refine ⟨⟨fun q r hr ↦ ?_, hcatalogued.assignments⟩, fun q ↦ ?_⟩
  · exact stored_modifyPartition hid hcatalogued.partitions hr
  · by_cases hq : q = p
    · subst hq
      intro r hr hdraining
      rw [FabricState.modifyPartition, KeyedMap.find?_modify, if_pos rfl] at hr
      obtain ⟨r₀, hr₀, rfl⟩ := Option.map_eq_some_iff.mp hr
      exact h r₀ hr₀ hdraining
    · exact (hothers q hq).congr (KeyedMap.find?_modify_of_ne _ _ hq) rfl

lemma counted_bump (hs : Counted s) : Counted s.bumpStateGeneration := hs.of_leaves leaves_bump

end Frames

section Starting

/-- What a drain that starts over the assignments of a partition asks: a record in order and a
ledger that closes, so that the transition does not stop after it wrote the record. -/
def Startable (r : PartitionRecord) (l : CapacityLedger) : Prop :=
  (r.restated .draining).Coherent ∧ l.Balanced

/-- A transition into a drain that fails has written nothing. -/
lemma transition_stops {reason : Text} {e : Error}
    (h : ∀ r l, s.findPartition p = some r → r.state ≠ .draining →
      s.findLedger r.accelerator = some l → r.Funded .draining l → Startable r l)
    (ht : transitionPartition now p .draining reason s = (t, .error e)) : t = s := by
  rcases transitionPartition_cases now p .draining reason s with
    hsame | ⟨r, l, l', held, hr, hallowed, hne, hl, hfollows, -⟩
  · rw [ht] at hsame
    exact hsame
  · obtain ⟨-, hresult⟩ := transitionPartition_moved now reason hr hallowed hne hl hfollows.funded
    have hsuccess := hresult.mpr (h r l hr hne hl hfollows.funded)
    rw [ht] at hsuccess
    cases hsuccess

/-- A transition writes no other record. -/
lemma transition_others {target : PartitionState} {reason : Text} {status : Result Unit}
    (ht : transitionPartition now p target reason s = (t, status)) (hq : q ≠ p) :
    t.partitions.find? q = s.partitions.find? q := by
  obtain rfl : (transitionPartition now p target reason s).1 = t := congrArg Prod.fst ht
  rcases transitionPartition_cases now p target reason s with
    h | ⟨r, l, l', held, -, -, -, -, -, h⟩
  · rw [h]
  · rw [h]
    exact KeyedMap.find?_insert_of_ne _ _ hq

lemma catalogued_transition {target : PartitionState} {reason : Text} (hs : Catalogued s) :
    Catalogued (transitionPartition now p target reason s).1 := by
  rcases transitionPartition_cases now p target reason s with
    h | ⟨r, l, l', held, hr, -, -, -, -, h⟩
  · rwa [h]
  · rw [h]
    refine ⟨fun q r' hr' ↦ ?_, hs.assignments⟩
    change (s.partitions.insert p _).find? q = some r' at hr'
    rw [KeyedMap.find?_insert] at hr'
    split at hr'
    · rename_i hq
      obtain rfl := Option.some.inj hr'
      exact (hs.partitions p r hr).trans hq.symm
    · exact hs.partitions q r' hr'

lemma counts_begun (drain : DrainProgress) (now : UInt64) {n : ℕ} (hn : n < 2 ^ 32) :
    (drain.begun n.toUInt32 now).Counts n := by
  have hnat : n.toUInt32.toNat = n := UInt32.toNat_ofNat_of_lt' hn
  have hzero : n.toUInt32 = 0 ↔ n = 0 := by
    rw [← UInt32.toNat_inj, hnat]
    rfl
  refine ⟨hnat, UInt32.le_refl _, ?_⟩
  unfold DrainProgress.begun
  by_cases h : n = 0
  · simp [h]
  · simp [hzero, h]

/-- A drain that starts counts the assignments of its partition. -/
lemma counted_start {reason : Text} {f : PartitionRecord → DrainProgress} {u : Unit}
    (hs : Counted s) (ht : transitionPartition now p .draining reason s = (t, .ok u))
    (h : ∀ r, (f r).Counts (s.occupants p)) :
    Counted (t.modifyPartition p fun r ↦ { r with drain := f r }) := by
  obtain rfl : (transitionPartition now p .draining reason s).1 = t := congrArg Prod.fst ht
  have hassignments := assignments_transition ht
  refine counted_modify (fun _ ↦ rfl) (catalogued_transition hs.catalogued) (fun q hq ↦ ?_)
    fun r _ _ ↦ ?_
  · exact (hs.counts q).congr (transition_others ht hq) (occupants_congr hassignments q)
  · rw [occupants_congr hassignments]
    exact h r

/-- What a drain of one partition asks of the state before it. -/
def startsCounted (s : FabricState) (p : PartitionId) : Prop :=
  ∀ r l, s.findPartition p = some r → r.state = .active ∨ r.state = .degraded →
    s.findLedger r.accelerator = some l → r.Funded .draining l →
      Startable r l ∧ s.occupants p < 2 ^ 32

lemma counted_beginDrain {reason : Text} (h : startsCounted s p) (hs : Counted s) :
    Counted (beginDrain p reason now s).1 := by
  unfold beginDrain
  rw [get_bind]
  cases hrecord : s.findPartition p with
  | none => exact hs
  | some record =>
    simp only
    rw [require_bind]
    split
    swap
    · exact hs
    rename_i hlive
    have hlive : record.state = .active ∨ record.state = .degraded := by simpa using hlive
    apply bind_fst
    · intro t e ht
      rw [transition_stops (fun r l hr _ hl hfunded ↦ ?_) ht]
      · exact hs
      · obtain rfl := Option.some.inj (hrecord.symm.trans hr)
        exact (h record l hrecord hlive hl hfunded).1
    · intro t u ht
      have hcount : s.occupants p < 2 ^ 32 := by
        rcases transitionPartition_cases now p .draining
          (if reason.isEmpty then "drain requested" else reason) s with
          hsame | ⟨r, l, l', held, hr, -, -, hl, hfollows, -⟩
        · rw [ht] at hsame
          obtain rfl : t = s := hsame
          have hstate := state_of_transition ht hrecord
          rcases hlive with hlive | hlive <;> cases hlive.symm.trans hstate
        · obtain rfl := Option.some.inj (hrecord.symm.trans hr)
          exact (h record l hrecord hlive hl hfollows.funded).2
      have hassignments := assignments_transition ht
      rw [modify_bind]
      refine counted_bump (counted_start hs ht fun r ↦ ?_)
      have hbegun := counts_begun r.drain now hcount
      rw [← occupants_congr hassignments p] at hbegun ⊢
      exact ⟨hbegun.outstanding, hbegun.bounded, hbegun.complete⟩

/-- What a drain of a device asks of the state before it. -/
def deviceStartsCounted (s : FabricState) (id : AcceleratorId) : Prop :=
  (∀ r ∈ s.partitionsOf id, r.state = .active ∨ r.state = .degraded →
    (r.restated .draining).Coherent ∧ s.occupants r.id < 2 ^ 32) ∧
    ∀ l, s.findLedger id = some l → l.Balanced

end Starting

section Progress

lemma counted_completeDrain (hs : Counted s) : Counted (completeDrain p now s).1 := by
  unfold completeDrain
  rw [get_bind]
  cases hrecord : s.findPartition p with
  | none => exact hs
  | some record =>
    simp only
    rw [require_bind]
    split
    swap
    · exact hs
    rename_i hdraining
    have hcounts := hs.counts p record hrecord (of_decide_eq_true hdraining)
    have houtstanding : (s.occupants p).toUInt32 = record.drain.outstandingAssignments := by
      rw [← hcounts.outstanding]
      simp
    split
    · rename_i hne
      rw [modify_bind]
      refine counted_modify (fun _ ↦ rfl) hs.catalogued (fun q _ ↦ hs.counts q) fun r hr _ ↦ ?_
      obtain rfl := Option.some.inj (hrecord.symm.trans hr)
      rw [houtstanding]
      refine ⟨hcounts.outstanding, hcounts.bounded, iff_of_false (by simp) fun hzero ↦ hne ?_⟩
      rw [hzero]
      rfl
    · rename_i hzero
      rw [modify_bind]
      refine counted_bump (counted_modify (fun _ ↦ rfl) hs.catalogued (fun q _ ↦ hs.counts q)
        fun r hr _ ↦ ?_)
      obtain rfl := Option.some.inj (hrecord.symm.trans hr)
      have hnone : s.occupants p = 0 := by
        rw [← hcounts.outstanding, ← houtstanding, not_not.mp hzero]
        rfl
      rw [houtstanding]
      exact ⟨hcounts.outstanding, hcounts.bounded, iff_of_true rfl hnone⟩

/-- A drain that is cancelled ends. -/
lemma leaves_cancelDrain : Advances LeavesDrains (cancelDrain p now) s := by
  apply advances_get_bind
  cases s.findPartition p with
  | none => exact advances_throw _ _
  | some record =>
    refine advances_require_bind fun _ ↦ advances_require_bind fun _ ↦ ?_
    refine advances_bind (leaves_transition (by decide)) fun t u ht ↦ ?_
    refine advances_modify_bind (leaves_modifyPartition fun r hr ↦ ⟨rfl, fun hdraining ↦ ?_⟩)
      (advances_modify leaves_bump)
    have hactive : r.state = .active := state_of_transition ht hr
    cases hactive.symm.trans hdraining

/-- The identity stands for no assignment of a partition that drains. -/
def sparesDrains (s : FabricState) (key : PartitionAssignmentId) : Prop :=
  ∀ a r, s.assignments.find? key = some a → s.findPartition a.partition = some r →
    r.state ≠ .draining

lemma counted_assign {key : PartitionAssignmentId} {a : PartitionAssignment}
    {mark : PartitionRecord → PartitionRecord} (hs : Counted s) (hid : a.id = key)
    (hmark : ∀ r, (mark r).id = r.id ∧ (mark r).state = r.state)
    (hactive : ∀ r, s.findPartition a.partition = some r → r.state ≠ .draining)
    (hspares : sparesDrains s key) : Counted (s.assign key a a.partition mark) := by
  have hstored : Counted { s with assignments := s.assignments.insert key a } := by
    refine ⟨⟨hs.catalogued.partitions, fun k b hb ↦ ?_⟩, fun p r hr hdraining ↦ ?_⟩
    · rw [KeyedMap.find?_insert] at hb
      split at hb
      · rename_i hk
        rw [← Option.some.inj hb, hid, hk]
      · exact hs.catalogued.assignments k b hb
    · refine (hs.counts p).congr (t := { s with assignments := s.assignments.insert key a }) rfl
        (occupants_eq fun k b hb ↦ ?_) r hr hdraining
      change (s.assignments.insert key a).find? k = some b ↔ _
      rw [KeyedMap.find?_insert]
      split
      · rename_i hk
        subst hk
        refine iff_of_false (fun hsame ↦ ?_) fun hsame ↦ hspares b r hsame (hb ▸ hr) hdraining
        obtain rfl := Option.some.inj hsame
        exact hactive r (hb ▸ hr) hdraining
      · exact Iff.rfl
  refine counted_bump (hstored.of_leaves (leaves_modifyPartition fun r hr ↦ ?_))
  exact ⟨(hmark r).1, fun h ↦ absurd ((hmark r).2.symm.trans h) (hactive r hr)⟩

lemma counted_unbindAssignment {id : PartitionAssignmentId}
    (h : ∀ a r, s.assignments.find? id = some a → s.findPartition a.partition = some r →
      r.state = .draining → r.drain.state = .draining) (hs : Counted s) :
    Counted (unbindAssignment id now s).1 := by
  unfold unbindAssignment
  rw [get_bind]
  cases hassignment : s.assignments.find? id with
  | none => exact hs
  | some a =>
    simp only
    rw [modify_bind, modify_bind]
    apply counted_bump
    have herased (k : PartitionAssignmentId) : (s.assignments.erase id).find? k =
        if k = id then none else s.assignments.find? k := KeyedMap.find?_erase _ _ _
    refine counted_modify (fun _ ↦ rfl) ⟨hs.catalogued.partitions, fun k b hb ↦ ?_⟩
      (fun q hq ↦ (hs.counts q).congr rfl (occupants_eq fun k b hb ↦ ?_)) fun r hr hdraining ↦ ?_
    · rw [herased] at hb
      split at hb
      · cases hb
      · exact hs.catalogued.assignments k b hb
    · change (s.assignments.erase id).find? k = some b ↔ _
      rw [herased]
      split
      · rename_i hk
        subst hk
        refine iff_of_false (by simp) fun hsame ↦ ?_
        obtain rfl := Option.some.inj (hassignment.symm.trans hsame)
        exact hq hb.symm
      · exact Iff.rfl
    · -- a drain in progress takes the number of assignments that remain
      have hcounts := hs.counts a.partition r hr hdraining
      have hrunning := h a r hassignment hr hdraining
      generalize hn : ({ s with assignments := s.assignments.erase id } :
        FabricState).occupants a.partition = n
      have hle : n ≤ s.occupants a.partition := by
        rw [← hn]
        have hperm := KeyedMap.values_perm hassignment
        unfold FabricState.occupants
        rw [hperm.countP_eq, List.countP_cons]
        exact Nat.le_add_right _ _
      have hlt : n < 2 ^ 32 :=
        lt_of_le_of_lt (hle.trans (le_of_eq hcounts.outstanding.symm)) (UInt32.toNat_lt _)
      have hnat : n.toUInt32.toNat = n := UInt32.toNat_ofNat_of_lt' hlt
      unfold PartitionRecord.vacate
      simp only [hrunning, if_true]
      split
      · rename_i hzero
        exact ⟨hzero ▸ rfl, UInt32.zero_le, iff_of_true rfl hzero⟩
      · rename_i hne
        refine ⟨hnat, ?_, iff_of_false (by simp) hne⟩
        refine UInt32.le_trans ?_ hcounts.bounded
        rw [UInt32.le_iff_toNat_le, hnat, hcounts.outstanding]
        exact hle

lemma counted_bindAssignment {assignment : PartitionAssignment}
    (h : ∀ r, s.findPartition assignment.partition = some r →
      bindable s assignment r = true → sparesDrains s assignment.id) (hs : Counted s) :
    Counted (bindAssignment assignment s).1 := by
  have hbinds : BindsOne assignment s (bindAssignment assignment s).1 := bindsOne_bindAssignment
  rcases hbinds with hsame | ⟨record, hrecord, hbindable, hstored⟩
  · rwa [hsame]
  · rw [hstored]
    refine counted_assign hs rfl (fun _ ↦ ⟨rfl, rfl⟩) (fun r hr ↦ ?_) (h record hrecord hbindable)
    obtain rfl := Option.some.inj (hrecord.symm.trans hr)
    unfold bindable at hbindable
    simp only [Bool.and_eq_true, decide_eq_true_eq] at hbindable
    rw [hbindable.1.1.2]
    decide

lemma counted_admitWorkload {requirement : WorkloadRequirement}
    (h : ∀ record accelerator, Admittable s requirement now record accelerator →
      sparesDrains s s.ids.next) (hs : Counted s) :
    Counted (admitWorkload requirement now s).1 := by
  have hadmits : AdmitsOne requirement now s (admitWorkload requirement now s).1 :=
    admitsOne_admitWorkload
  rcases hadmits with ⟨ids, -, hsame⟩ | ⟨record, accelerator, hadmittable, ids, -, hstored⟩
  · rw [hsame]
    exact hs.of_leaves (leaves_of_same rfl rfl)
  · rw [hstored]
    have hid : record.id = (evaluateAdmission s requirement now).partition :=
      hs.catalogued.partitions _ record hadmittable.found
    rw [← hid]
    refine counted_assign (hs.of_leaves (leaves_of_same rfl rfl)) rfl (fun _ ↦ ⟨rfl, rfl⟩)
      (fun r hr ↦ ?_) (h record accelerator hadmittable)
    change s.findPartition record.id = some r at hr
    rw [hid] at hr
    obtain rfl := Option.some.inj (hadmittable.found.symm.trans hr)
    rw [hadmittable.active]
    decide

end Progress

section Device

variable {id : AcceleratorId}

/-- What the drain of a device keeps from one of its partitions to the next. -/
structure DrainingDevice (s : FabricState) (id : AcceleratorId) (t : FabricState) : Prop where
  counted : Counted t
  assignments : t.assignments = s.assignments
  records : ∀ p r, t.findPartition p = some r → r.state = .draining ∨ s.findPartition p = some r
  balanced : ∀ l, t.findLedger id = some l → l.Balanced

lemma balanced_transition {target : PartitionState} {reason : Text} {status : Result Unit}
    (ht : transitionPartition now p target reason s = (t, status))
    (h : ∀ l, s.findLedger id = some l → l.Balanced) :
    ∀ l, t.findLedger id = some l → l.Balanced := by
  obtain rfl : (transitionPartition now p target reason s).1 = t := congrArg Prod.fst ht
  rcases transitionPartition_cases now p target reason s with
    hsame | ⟨r, l, l', held, -, -, -, hl, hfollows, hmoved⟩
  · rwa [hsame]
  · rw [hmoved]
    intro m hm
    change (s.ledgers.insert r.accelerator l').find? id = some m at hm
    rw [KeyedMap.find?_insert] at hm
    split at hm
    · rename_i hid
      obtain rfl := Option.some.inj hm
      exact hfollows.balanced_iff.mpr (h l (hid ▸ hl))
    · exact h m hm

lemma draining_beginDeviceDrain {reason : Text} {r : PartitionRecord}
    (hr : s.findPartition p = some r) (haccelerator : r.accelerator = id)
    (hcoherent : (r.restated .draining).Coherent) (hcount : s.occupants p < 2 ^ 32)
    (ht : DrainingDevice s id t) : DrainingDevice s id (beginDeviceDrain reason now p t).1 := by
  unfold beginDeviceDrain
  apply bind_fst
  · intro u e hrun
    rw [transition_stops (fun r' l hr' hne hl _ ↦ ?_) hrun]
    · exact ht
    · have hsame := (ht.records p r' hr').resolve_left hne
      obtain rfl := Option.some.inj (hr.symm.trans hsame)
      exact ⟨hcoherent, ht.balanced l (haccelerator ▸ hl)⟩
  · intro u v hrun
    have hassignments := assignments_transition hrun
    refine ⟨counted_start ht.counted hrun fun r' ↦ ?_, hassignments.trans ht.assignments,
      fun q r' hr' ↦ ?_, fun l hl ↦ ?_⟩
    · rw [occupants_congr hassignments, occupants_congr ht.assignments]
      exact counts_begun r'.drain now hcount
    · change (u.modifyPartition p _).partitions.find? q = some r' at hr'
      rw [FabricState.modifyPartition, KeyedMap.find?_modify] at hr'
      split at hr'
      · rename_i hq
        subst hq
        obtain ⟨r₀, hr₀, rfl⟩ := Option.map_eq_some_iff.mp hr'
        have hstate : r₀.state = .draining := state_of_transition hrun hr₀
        exact Or.inl hstate
      · rename_i hq
        rw [transition_others hrun hq] at hr'
        exact ht.records q r' hr'
    · exact balanced_transition hrun ht.balanced l hl

lemma counted_beginDrainAccelerator {reason : Text} (h : deviceStartsCounted s id)
    (hs : Counted s) : Counted (beginDrainAccelerator id reason now s).1 := by
  unfold beginDrainAccelerator
  rw [get_bind]
  change Counted ((Procedure.require _ _ >>= fun _ ↦ _ : FabricM Unit) s).1
  rw [require_bind]
  split
  swap
  · exact hs
  have hloop : Advances (Preserves (DrainingDevice s id))
      (((s.partitionsOf id).filter fun record ↦
        record.state = .active || record.state = .degraded).forM fun record ↦
          beginDeviceDrain reason now record.id) s := by
    apply advances_forM
    intro r hr t _ ht
    obtain ⟨hlisted, hlive⟩ := List.mem_filter.mp hr
    obtain ⟨hcoherent, hcount⟩ := h.1 r hlisted (by simpa using hlive)
    obtain ⟨hmem, haccelerator⟩ := List.mem_filter.mp hlisted
    obtain ⟨k, hk⟩ := KeyedMap.mem_values.mp hmem
    obtain rfl := hs.catalogued.partitions k r hk
    exact draining_beginDeviceDrain hk (by simpa using haccelerator) hcoherent hcount ht
  have hdrained := hloop ⟨hs, rfl, fun _ _ hr ↦ Or.inr hr, h.2⟩
  apply bind_fst
  · intro t e ht
    rw [ht] at hdrained
    exact hdrained.counted
  · intro t u ht
    rw [ht] at hdrained
    exact counted_bump hdrained.counted

end Device

section Runs

/-- The steps that keep the counters of drains. -/
def drainsCounted (s : FabricState) : Op → Prop
  | .beginDrain p _ _ => startsCounted s p
  | .beginDrainAccelerator id _ _ => deviceStartsCounted s id
  | .admitWorkload requirement now => ∀ record accelerator,
      Admittable s requirement now record accelerator → sparesDrains s s.ids.next
  | .bindAssignment assignment => ∀ r, s.findPartition assignment.partition = some r →
      bindable s assignment r = true → sparesDrains s assignment.id
  | .unbindAssignment id _ => ∀ a r, s.assignments.find? id = some a →
      s.findPartition a.partition = some r → r.state = .draining → r.drain.state = .draining
  | _ => True

lemma counted_step {op : Op} (hop : drainsCounted s op) (hs : Counted s) :
    Counted (op.step s) := by
  cases hoccupies : op.occupies with
  | false => exact hs.of_leaves (leavesDrains_step hoccupies)
  | true =>
    cases op with
    | beginDrain p reason now => exact counted_beginDrain hop hs
    | beginDrainAccelerator id reason now => exact counted_beginDrainAccelerator hop hs
    | completeDrain p now => exact counted_completeDrain hs
    | cancelDrain p now =>
      have hleaves : LeavesDrains s (cancelDrain p now s).1 := leaves_cancelDrain
      exact hs.of_leaves hleaves
    | admitWorkload requirement now => exact counted_admitWorkload hop hs
    | bindAssignment assignment => exact counted_bindAssignment hop hs
    | unbindAssignment id now => exact counted_unbindAssignment hop hs
    | _ => cases hoccupies

/-- In every run whose steps all keep them, the counters of a partition that drains are the number
of its assignments, within the total, and its drain is complete exactly when there is none. -/
theorem drain_counters_exact (hs : fabric.Reachable drainsCounted s) :
    ∀ p r, s.findPartition p = some r → r.state = .draining →
      r.drain.outstandingAssignments.toNat = s.occupants p ∧
        r.drain.outstandingAssignments ≤ r.drain.totalAssignments ∧
          (r.drain.state = .drainComplete ↔ s.occupants p = 0) := by
  have hcounted : Counted s := by
    refine hs.invariant ?_ fun s op hs hop ↦ counted_step hop hs
    rintro _ ⟨options, now, rfl⟩
    refine ⟨⟨fun p r hr ↦ ?_, fun k a ha ↦ ?_⟩, fun p r hr ↦ ?_⟩
    · exact absurd hr (by simp [FabricState.opened])
    · exact absurd ha (by simp [FabricState.opened])
    · exact absurd hr (by simp [FabricState.opened])
  intro p r hr hdraining
  have hcounts := hcounted.counts p r hr hdraining
  exact ⟨hcounts.outstanding, hcounts.bounded, hcounts.complete⟩

end Runs

namespace Sample

/-- A workload occupies the slice. -/
def settled : List Op := created ++ [.bindAssignment late]

/-- The drain of the occupied slice begins. -/
def emptying : List Op := settled ++ [.beginDrain 4 [] 6]

/-- The drain is complete when the slice is vacated. -/
def vacated : List Op := emptying ++ [.unbindAssignment 100 7]

/-- The completion of the drain is refused before the slice is vacated. -/
def blockedVacated : List Op := emptying ++ [.completeDrain 4 7, .unbindAssignment 100 8]

lemma startsCounted_settled : startsCounted (fabric.run settled opened) 4 := by
  intro r l hr _ hl _
  have hvalid : ((fabric.run settled opened).findPartition 4).all (fun r ↦
      (r.restated .draining).validate = .ok () &&
        ((fabric.run settled opened).findLedger r.accelerator).all fun l ↦
          l.validate = .ok ()) = true := by
    decide +kernel
  have hcount : (fabric.run settled opened).occupants 4 = 1 := by decide +kernel
  rw [hr, Option.all_some, hl, Option.all_some, Bool.and_eq_true] at hvalid
  rw [hcount]
  exact ⟨⟨PartitionRecord.validate_eq_ok.mp (of_decide_eq_true hvalid.1),
    CapacityLedger.validate_eq_ok.mp (of_decide_eq_true hvalid.2)⟩, by decide⟩

lemma follows_vacated : fabric.Follows drainsCounted vacated opened := by
  refine System.follows_append.mpr ⟨System.follows_append.mpr ⟨System.follows_append.mpr
    ⟨⟨trivial, trivial, trivial, trivial, trivial, trivial⟩, ?_, trivial⟩,
      startsCounted_settled, trivial⟩, ?_, trivial⟩
  · intro r _ _ a r' ha
    have hnone : ((fabric.run created opened).assignments.find? 100).isNone = true := by
      decide +kernel
    cases (Option.isNone_iff_eq_none.mp hnone).symm.trans ha
  · intro a r ha hr _
    have hrunning : ((fabric.run emptying opened).assignments.find? 100).all (fun a ↦
        ((fabric.run emptying opened).findPartition a.partition).all fun r ↦
          r.drain.state = .draining) = true := by
      decide +kernel
    rw [ha, Option.all_some, hr, Option.all_some] at hrunning
    exact of_decide_eq_true hrunning

end Sample

/-- A release does not reach the counters of a drain that a refused completion has blocked. -/
theorem drain_counters_stale : ∃ s, fabric.Reachable anyOp s ∧
    ∃ p r, s.findPartition p = some r ∧ r.state = .draining ∧
      r.drain.outstandingAssignments.toNat ≠ s.occupants p ∧
        ¬ (r.drain.state = .drainComplete ↔ s.occupants p = 0) := by
  let s := fabric.run Sample.blockedVacated Sample.opened
  have hs : fabric.Reachable anyOp s :=
    System.Reachable.run (.initial ⟨_, _, rfl⟩) (by decide)
  have hstale : (s.findPartition 4).any (fun r ↦ r.state = .draining &&
      r.drain.outstandingAssignments = 1 && r.drain.state = .drainBlocked) = true := by
    decide +kernel
  have hvacant : s.occupants 4 = 0 := by decide +kernel
  obtain ⟨r, hr, hall⟩ := (Option.any_eq_true _ _).mp hstale
  simp only [Bool.and_eq_true, decide_eq_true_eq] at hall
  obtain ⟨⟨hdraining, hone⟩, hblocked⟩ := hall
  refine ⟨s, hs, 4, r, hr, hdraining, ?_, ?_⟩
  · rw [hone, hvacant]
    decide
  · rw [hblocked, hvacant]
    decide

theorem drain_counters_vacated :
    let s := fabric.run Sample.vacated Sample.opened
    (s.findPartition 4).any (fun r ↦ r.state = .draining) = true ∧
      ∀ p r, s.findPartition p = some r → r.state = .draining →
        r.drain.outstandingAssignments.toNat = s.occupants p ∧
          r.drain.outstandingAssignments ≤ r.drain.totalAssignments ∧
            (r.drain.state = .drainComplete ↔ s.occupants p = 0) := by
  intro s
  have hs : fabric.Reachable drainsCounted s :=
    System.Reachable.run (.initial ⟨_, _, rfl⟩) Sample.follows_vacated
  exact ⟨by decide +kernel, drain_counters_exact hs⟩

end PartitionFabric
