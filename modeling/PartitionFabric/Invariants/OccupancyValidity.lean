import PartitionFabric.Invariants.DrainGate
import PartitionFabric.Invariants.MutationValidity

/-!
Drains and admissions keep the partition records in order.

A drain is checked against the lifecycle state of its record, its own count and its clock
readings; each operation says which of these it writes without looking.
-/

namespace PartitionFabric

open Procedure

variable {s t : FabricState} {now : UInt64} {p : PartitionId}

/-- Every record in order may start to drain. -/
lemma PartitionRecord.Coherent.movable_draining {r : PartitionRecord} (h : r.Coherent) :
    r.Movable .draining :=
  ⟨⟨fun _ ↦ rfl, h.drained.completed, h.drained.bounded, h.drained.finished, fun _ ↦ Or.inl rfl⟩,
    fun ht ↦ absurd ht (by decide)⟩

lemma sound_startDraining {reason : Text} :
    Advances (Preserves (Sound Any)) (transitionPartition now p .draining reason) s :=
  sound_transition (fun _ _ h ↦ h) fun _ _ hcoherent _ _ ↦ hcoherent.movable_draining

/-- Rewriting the drain of a record keeps it in order when the new drain fits its state. -/
lemma sound_redrain {f : PartitionRecord → DrainProgress}
    (h : ∀ r, s.partitions.find? p = some r → r.Coherent → Drained r.state (f r)) :
    Preserves (Sound Any) s (s.modifyPartition p fun r ↦ { r with drain := f r }) := by
  apply sound_modifyPartition
  intro r hr hcoherent _
  exact ⟨rfl, ⟨hcoherent.identified, hcoherent.dated, hcoherent.housed, h r hr hcoherent⟩, trivial⟩

lemma drained_begun {drain : DrainProgress} {n : UInt32} (h : n = 0 → now ≠ 0) :
    Drained .draining (drain.begun n now) := by
  unfold DrainProgress.begun
  by_cases hn : n = 0
  · simp only [hn, if_true]
    exact ⟨fun hd ↦ (by cases hd), fun _ ↦ h hn, UInt32.le_refl 0, fun _ ↦ rfl,
      fun _ ↦ Or.inl rfl⟩
  · simp only [hn, if_false]
    exact ⟨fun _ ↦ rfl, fun hd ↦ (by cases hd), UInt32.le_refl n,
      fun hd ↦ (by cases hd), fun _ ↦ Or.inl rfl⟩

/-- A drain that is complete when it starts needs a clock reading to say so. -/
def drainsInOrder (s : FabricState) (p : PartitionId) (now : UInt64) : Prop :=
  (s.occupants p).toUInt32 = 0 → now ≠ 0

lemma occupants_congr (h : t.assignments = s.assignments) (p : PartitionId) :
    t.occupants p = s.occupants p := by
  unfold FabricState.occupants
  rw [h]

lemma assignments_transition {target : PartitionState} {reason : Text} {status : Result Unit}
    (h : transitionPartition now p target reason s = (t, status)) :
    t.assignments = s.assignments := by
  have hkept : GateKept s (transitionPartition now p target reason s).1 := gateKept_transition
  rw [h] at hkept
  exact hkept.assignments

lemma sound_beginDeviceDrain {reason : Text} (h : drainsInOrder s p now) :
    Advances (Preserves (Sound Any)) (beginDeviceDrain reason now p) s := by
  apply advances_bind sound_startDraining
  intro t u ht
  apply advances_modify
  apply sound_redrain
  intro r hr _
  rw [state_of_transition ht hr, occupants_congr (assignments_transition ht)]
  exact drained_begun h

lemma assignments_beginDeviceDrain {reason : Text} :
    (beginDeviceDrain reason now p s).1.assignments = s.assignments := by
  have hkeeps : Advances (Keeps FabricState.assignments) (beginDeviceDrain reason now p) s :=
    advances_bind (R := Keeps FabricState.assignments) gateKept_transition.assignments
      fun _ _ _ ↦ advances_modify rfl
  exact hkeeps

lemma sound_beginDrain {reason : Text} (h : drainsInOrder s p now) :
    Advances (Preserves (Sound Any)) (beginDrain p reason now) s := by
  apply advances_get_bind
  cases s.findPartition p with
  | none => exact advances_throw _ _
  | some record =>
      apply advances_require_bind
      intro _
      apply advances_bind sound_startDraining
      intro t u ht
      refine advances_modify_bind ?_ sound_bump
      apply sound_redrain
      intro r hr _
      have hbegun : Drained .draining (r.drain.begun (t.occupants p).toUInt32 now) := by
        rw [occupants_congr (assignments_transition ht)]
        exact drained_begun h
      rw [state_of_transition ht hr]
      exact ⟨hbegun.running, hbegun.completed, hbegun.bounded, hbegun.finished, hbegun.occupied⟩

lemma sound_beginDrainAccelerator {id : AcceleratorId} {reason : Text}
    (h : ∀ r ∈ s.partitionsOf id, r.state = .active ∨ r.state = .degraded →
      drainsInOrder s r.id now) :
    Advances (Preserves (Sound Any)) (beginDrainAccelerator id reason now) s := by
  apply advances_get_bind
  apply advances_require_bind
  intro _
  apply advances_bind
  · intro hs
    -- the assignments, and so the counts, stay what they were before the loop
    have hloop : Advances (Preserves fun t ↦ t.assignments = s.assignments ∧ Sound Any t)
        (((s.partitionsOf id).filter fun record ↦
          record.state = .active || record.state = .degraded).forM fun record ↦
            beginDeviceDrain reason now record.id) s := by
      apply advances_forM
      rintro r hr t - ⟨hassignments, ht⟩
      obtain ⟨hmem, hstate⟩ := List.mem_filter.mp hr
      have horder : drainsInOrder t r.id now := by
        unfold drainsInOrder
        rw [occupants_congr hassignments]
        exact h r hmem (by simpa using hstate)
      exact ⟨assignments_beginDeviceDrain.trans hassignments, sound_beginDeviceDrain horder ht⟩
    exact (hloop ⟨rfl, hs⟩).2
  · intro t _ _
    exact sound_bump

/-- A drain is completed at a clock reading, or blocked by no more than it started over. -/
def completesInOrder (s : FabricState) (p : PartitionId) (now : UInt64) : Prop :=
  ∀ r, s.findPartition p = some r → r.state = .draining →
    if (s.occupants p).toUInt32 = 0 then now ≠ 0
    else (s.occupants p).toUInt32 ≤ r.drain.totalAssignments

lemma sound_completeDrain (h : completesInOrder s p now) :
    Advances (Preserves (Sound Any)) (completeDrain p now) s := by
  apply advances_get_bind
  cases hrecord : s.findPartition p with
  | none => exact advances_throw _ _
  | some record =>
      apply advances_require_bind
      intro hstate
      have hdraining : record.state = .draining := by simpa using hstate
      have horder := h record hrecord hdraining
      apply advances_ite
      · intro hne
        rw [if_neg hne] at horder
        refine advances_modify_bind ?_ (advances_throw _ _)
        apply sound_redrain
        intro r hr hcoherent
        obtain rfl := Option.some.inj (hrecord.symm.trans hr)
        exact ⟨fun hd ↦ (by cases hd), fun hd ↦ (by cases hd), horder, fun hd ↦ (by cases hd),
          fun _ ↦ Or.inl hdraining⟩
      · intro hzero
        have hnone : (s.occupants p).toUInt32 = 0 := not_not.mp hzero
        rw [if_pos hnone] at horder
        refine advances_modify_bind ?_ sound_bump
        apply sound_redrain
        intro r hr hcoherent
        obtain rfl := Option.some.inj (hrecord.symm.trans hr)
        refine ⟨fun hd ↦ (by cases hd), fun _ ↦ horder, ?_, fun _ ↦ hnone, fun _ ↦ Or.inl hdraining⟩
        rw [hnone]
        exact UInt32.zero_le

/-- A drain that runs is cancelled only while work is outstanding, which refuses it. -/
def cancelsInOrder (s : FabricState) (p : PartitionId) : Prop :=
  ∀ r, s.findPartition p = some r → r.drain.state = .draining → r.drain.outstandingAssignments ≠ 0

/-- A drain that runs is not safe to act on. -/
lemma destructionSafe_of_draining {record : PartitionRecord} (h : record.drain.state = .draining) :
    destructionSafe s record = false := by
  unfold destructionSafe DrainProgress.destructiveSafe
  simp [h]

lemma sound_cancelDrain (h : cancelsInOrder s p) :
    Advances (Preserves (Sound Any)) (cancelDrain p now) s := by
  apply advances_get_bind
  cases hrecord : s.findPartition p with
  | none => exact advances_throw _ _
  | some record =>
      apply advances_require_bind
      intro _
      apply advances_require_bind
      intro hsafe
      have hidle : record.drain.state ≠ .draining := by
        intro hdraining
        rw [destructionSafe_of_draining hdraining] at hsafe
        exact h record hrecord hdraining (by simpa using hsafe)
      have hmove : Advances (Preserves (Sound Any))
          (transitionPartition now p .active "drain cancelled") s := by
        apply sound_transition (fun _ _ h ↦ h)
        intro r hr hcoherent _ _
        obtain rfl := Option.some.inj (hrecord.symm.trans hr)
        exact ⟨⟨fun hd ↦ absurd hd hidle, hcoherent.drained.completed, hcoherent.drained.bounded,
          hcoherent.drained.finished, fun _ ↦ Or.inr rfl⟩, fun ht ↦ absurd ht (by decide)⟩
      apply advances_bind hmove
      intro t u ht
      refine advances_modify_bind ?_ sound_bump
      apply sound_redrain
      intro r hr hcoherent
      rw [state_of_transition ht hr]
      exact ⟨fun hd ↦ (by cases hd), fun hd ↦ (by cases hd), hcoherent.drained.bounded,
        fun hd ↦ (by cases hd), fun _ ↦ Or.inr rfl⟩

lemma drained_occupy {r : PartitionRecord} (h : r.Coherent) (hactive : r.state = .active)
    (hfresh : r.drain.state ≠ .drainComplete) : r.occupy.drain = r.drain := by
  unfold PartitionRecord.occupy
  have hidle : r.drain.state ≠ .draining := by
    intro hdraining
    have := h.drained.running hdraining
    rw [hactive] at this
    cases this
  simp [hfresh, hidle]

lemma sound_occupy (hactive : ∀ r, s.findPartition p = some r → r.state = .active)
    (hfresh : ∀ r, s.findPartition p = some r → r.drain.state ≠ .drainComplete) :
    Preserves (Sound Any) s (s.modifyPartition p PartitionRecord.occupy) := by
  apply sound_modifyPartition
  intro r hr hcoherent _
  have hdrain := drained_occupy hcoherent (hactive r hr) (hfresh r hr)
  refine ⟨rfl, ⟨hcoherent.identified, hcoherent.dated, hcoherent.housed, ?_⟩, trivial⟩
  rw [hdrain]
  exact hcoherent.drained

/-- The partition that an admission chooses has no completed drain on record. -/
def admitsInOrder (s : FabricState) (requirement : WorkloadRequirement) (now : UInt64) : Prop :=
  (evaluateAdmission s requirement now).outcome = .admitted →
    ∀ r, s.findPartition (evaluateAdmission s requirement now).partition = some r →
      r.drain.state ≠ .drainComplete

lemma sound_admitTo {requirement : WorkloadRequirement} {record : PartitionRecord}
    {accelerator : AcceleratorRecord} {decision : AdmissionDecision}
    (hrecord : s.findPartition p = some record) (hactive : record.state = .active)
    (hfresh : record.drain.state ≠ .drainComplete) :
    Advances (Preserves (Sound Any)) (admitTo requirement p record accelerator now decision) s := by
  apply advances_bind (advances_attempt (sound_of_untouched apart_allocateId))
  intro t status ht
  cases status with
  | error e => exact advances_pure _ _
  | ok id =>
      obtain ⟨-, -, fresh, rfl⟩ := allocateId_eq_ok (attempt_eq_ok ht)
      apply advances_get_bind
      simp only
      split
      · exact advances_pure _ _
      · refine advances_modify_bind (Untouched.sound ⟨rfl, le_refl _⟩) ?_
        refine advances_modify_bind (sound_occupy ?_ ?_) ?_
        · intro r hr
          obtain rfl := Option.some.inj (hrecord.symm.trans hr)
          exact hactive
        · intro r hr
          obtain rfl := Option.some.inj (hrecord.symm.trans hr)
          exact hfresh
        · exact advances_bind sound_bump fun _ _ _ ↦ advances_pure _ _

lemma sound_admitWorkload {requirement : WorkloadRequirement}
    (h : admitsInOrder s requirement now) :
    Advances (Preserves (Sound Any)) (admitWorkload requirement now) s := by
  apply advances_get_bind
  apply advances_bind (advances_attempt (sound_of_untouched apart_checkOpen))
  intro t status ht
  cases status with
  | error e => exact advances_pure _ _
  | ok u =>
      obtain rfl : s = t := (Prod.mk.inj ht).1
      apply advances_ite
      · intro _
        exact advances_pure _ _
      · intro hadmitted
        apply advances_get_bind
        cases hfound : (s.findPartition (evaluateAdmission s requirement now).partition).filter
            fun record ↦ record.state = .active with
        | none => exact advances_pure _ _
        | some record =>
            obtain ⟨hrecord, hactive⟩ := Option.filter_eq_some_iff.mp hfound
            simp only
            split
            · exact advances_pure _ _
            split
            · exact advances_pure _ _
            exact sound_admitTo hrecord (by simpa using hactive)
              (h (not_not.mp hadmitted) record hrecord)

lemma sound_bindAssignment {assignment : PartitionAssignment} :
    Advances (Preserves (Sound Any)) (bindAssignment assignment) s := by
  apply advances_lift_bind
  intro _ _
  apply advances_get_bind
  cases s.findPartition assignment.partition with
  | none => exact advances_throw _ _
  | some record =>
      refine advances_require_bind fun _ ↦ advances_require_bind fun _ ↦
        advances_require_bind fun _ ↦ ?_
      apply advances_bind
      · unfold identifyAssignment
        split
        · exact advances_pure _ _
        · exact sound_of_untouched apart_allocateId
      intro t id _
      refine advances_modify_bind (Untouched.sound ⟨rfl, le_refl _⟩) ?_
      refine advances_modify_bind ?_ sound_bump
      apply sound_modifyPartition
      intro r _ hcoherent _
      exact ⟨rfl, ⟨hcoherent.identified, hcoherent.dated, hcoherent.housed, hcoherent.drained⟩,
        trivial⟩

/-- The number of assignments that a partition keeps when one of them leaves. -/
def FabricState.remaining (s : FabricState) (id : PartitionAssignmentId) (p : PartitionId) : ℕ :=
  ({ s with assignments := s.assignments.erase id } : FabricState).occupants p

/-- A running drain ends at a clock reading, or goes on over no more than it started over. -/
def vacatesInOrder (s : FabricState) (id : PartitionAssignmentId) (now : UInt64) : Prop :=
  ∀ a r, s.assignments.find? id = some a → s.findPartition a.partition = some r →
    r.drain.state = .draining →
    if s.remaining id a.partition = 0 then now ≠ 0
    else (s.remaining id a.partition).toUInt32 ≤ r.drain.totalAssignments

lemma drained_vacate {r : PartitionRecord} {n : ℕ} (h : r.Coherent)
    (horder : r.drain.state = .draining →
      if n = 0 then now ≠ 0 else n.toUInt32 ≤ r.drain.totalAssignments) :
    Drained r.state (r.vacate n now).drain := by
  unfold PartitionRecord.vacate
  by_cases hdraining : r.drain.state = .draining
  · have hstate := h.drained.running hdraining
    have horder := horder hdraining
    simp only [hdraining, if_true]
    split
    · rename_i hzero
      rw [if_pos hzero] at horder
      exact ⟨fun hd ↦ (by cases hd), fun _ ↦ horder, UInt32.zero_le, fun _ ↦ rfl,
        fun _ ↦ Or.inl hstate⟩
    · rename_i hzero
      rw [if_neg hzero] at horder
      exact ⟨fun _ ↦ hstate, fun hd ↦ (by cases hd), horder, fun hd ↦ (by cases hd),
        fun _ ↦ Or.inl hstate⟩
  · simp only [hdraining, if_false]
    exact h.drained

lemma sound_unbindAssignment {id : PartitionAssignmentId} (h : vacatesInOrder s id now) :
    Advances (Preserves (Sound Any)) (unbindAssignment id now) s := by
  apply advances_get_bind
  cases hassignment : s.assignments.find? id with
  | none => exact advances_throw _ _
  | some assignment =>
      refine advances_modify_bind (Untouched.sound ⟨rfl, le_refl _⟩) ?_
      refine advances_modify_bind ?_ sound_bump
      apply sound_modifyPartition
      intro r hr hcoherent _
      refine ⟨rfl, ⟨hcoherent.identified, hcoherent.dated, hcoherent.housed, ?_⟩, trivial⟩
      exact drained_vacate hcoherent (h assignment r hassignment hr)

end PartitionFabric
