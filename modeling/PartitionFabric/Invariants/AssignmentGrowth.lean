import PartitionFabric.Invariants.Assignments
import PartitionFabric.Invariants.Identities
import PartitionFabric.Invariants.ProbeAgreement

/-!
What admission and binding add to the assignments. Admission stores under the identity that the
allocator hands out, binding under the one its caller chose; neither looks whether an assignment
already stands there.
-/

namespace PartitionFabric

open Procedure

variable {s : FabricState} {requirement : WorkloadRequirement} {now : UInt64}
  {assignment : PartitionAssignment}

/-- The assignments that exist stay as they are; a success adds exactly one to them and a failure
none. -/
structure AddsOne (succeeds : Prop)
    (m m' : KeyedMap PartitionAssignmentId PartitionAssignment) : Prop where
  kept : ∀ key a, m.find? key = some a → m'.find? key = some a
  added : succeeds → m'.size = m.size + 1
  unchanged : ¬succeeds → m' = m

lemma addsOne_of_failure {succeeds : Prop}
    {m m' : KeyedMap PartitionAssignmentId PartitionAssignment} (h : ¬succeeds) (heq : m' = m) :
    AddsOne succeeds m m' :=
  ⟨fun _ _ ha ↦ heq ▸ ha, fun hs ↦ absurd hs h, fun _ ↦ heq⟩

/-- A stored assignment is an addition exactly when nothing stood under its identity. -/
lemma addsOne_insert_iff {succeeds : Prop}
    {m : KeyedMap PartitionAssignmentId PartitionAssignment} {key : PartitionAssignmentId}
    {a : PartitionAssignment} (h : succeeds) :
    AddsOne succeeds m (m.insert key a) ↔ m.find? key = none := by
  constructor
  · exact fun hadds ↦ (KeyedMap.size_insert m key a).mp (hadds.added h)
  · refine fun hnone ↦ ⟨fun k b hb ↦ ?_, fun _ ↦ (KeyedMap.size_insert m key a).mpr hnone,
      absurd h⟩
    have hne : k ≠ key := by
      rintro rfl
      rw [hnone] at hb
      cases hb
    rwa [KeyedMap.find?_insert_of_ne m a hne]

/-- Admission adds an assignment exactly when it admits. -/
def AdmitAddsOne (s : FabricState) (requirement : WorkloadRequirement) (now : UInt64) : Prop :=
  ∃ t decision, admitWorkload requirement now s = (t, .ok decision) ∧
    AddsOne (decision.outcome = .admitted) s.assignments t.assignments

/-- Binding adds an assignment exactly when it succeeds. -/
def BindAddsOne (s : FabricState) (assignment : PartitionAssignment) : Prop :=
  AddsOne ((bindAssignment assignment s).2 = success) s.assignments
    (bindAssignment assignment s).1.assignments

section Admission

/-- A decision over a state: it admits and its assignment was stored under the identity at the
allocator's position, or it rejects and the assignments are as before. -/
def DecidesAdmission (s : FabricState) (decision : AdmissionDecision) (t : FabricState) : Prop :=
  (decision.outcome = .admitted ∧ ∃ a, a.partition = decision.partition ∧
      decision.assignment = s.ids.next ∧ t.assignments = s.assignments.insert s.ids.next a) ∨
    (decision.outcome ≠ .admitted ∧ t.assignments = s.assignments)

lemma decides_admitTo {p : PartitionId} {record : PartitionRecord}
    {accelerator : AcceleratorRecord} {decision : AdmissionDecision} :
    Meets (fun _ ↦ False) (DecidesAdmission s) (admitTo requirement p record accelerator now decision)
      s := by
  unfold Meets admitTo
  by_cases hmax : s.ids.next = uint64Max
  · rw [bind_ok (attempt_allocateId_exhausted hmax)]
    exact .inr ⟨by simp, rfl⟩
  · rw [bind_ok (attempt_allocateId hmax)]
    simp only
    rw [get_bind]
    cases (assignmentFor { s with ids := ⟨s.ids.next + 1⟩ } requirement record accelerator
        s.ids.next now).validate with
    | error e => exact .inr ⟨by simp, rfl⟩
    | ok u => exact .inl ⟨rfl, _, rfl, rfl, bump_assignments⟩

lemma decides_admitProbed {p : PartitionId} {decision : AdmissionDecision} :
    Meets (fun _ ↦ False) (DecidesAdmission s) (admitProbed requirement p now decision) s := by
  refine meets_get_bind ?_
  cases (s.findPartition p).filter fun record ↦ record.state = .active with
  | none => exact meets_pure (.inr ⟨by simp, rfl⟩)
  | some record =>
    simp only
    cases s.findAccelerator record.accelerator with
    | none => exact meets_pure (.inr ⟨by simp, rfl⟩)
    | some accelerator =>
      simp only
      cases hobstacle : commitObstacle s requirement record accelerator with
      | some obstacle => exact meets_pure (.inr ⟨commitObstacle_not_admitted hobstacle, rfl⟩)
      | none => exact decides_admitTo

/-- Admission always decides. -/
lemma decides_admitWorkload :
    ∃ t decision, admitWorkload requirement now s = (t, .ok decision) ∧
      DecidesAdmission s decision t := by
  have hmeets : Meets (fun _ ↦ False) (DecidesAdmission s) (admitWorkload requirement now) s := by
    refine meets_get_bind ?_
    unfold Meets
    rw [bind_apply, attempt_apply, checkOpen]
    cases s.closed with
    | true => exact .inr ⟨by simp, rfl⟩
    | false =>
      by_cases hprobe : (evaluateAdmission s requirement now).outcome = .admitted
      · simp only [hprobe]
        exact decides_admitProbed
      · simp only [Bool.false_eq_true, if_false, hprobe, ne_eq, not_false_eq_true, if_true]
        exact .inr ⟨hprobe, rfl⟩
  unfold Meets at hmeets
  cases hrun : admitWorkload requirement now s with
  | mk t result =>
    rw [hrun] at hmeets
    cases result with
    | error e => exact hmeets.elim
    | ok decision => exact ⟨t, decision, rfl, hmeets⟩

/-- A closed instance admits nothing. -/
lemma not_binds_of_closed (h : s.closed = true) : ¬Binds s requirement now := by
  rintro ⟨t, decision, hrun, hadmitted, -⟩
  have hchecked : Procedure.attempt checkOpen s =
      (s, .ok (failure .closed "runtime instance is closed")) := by
    rw [attempt_apply, checkOpen_closed h]
  unfold admitWorkload at hrun
  rw [get_bind, bind_ok hchecked] at hrun
  obtain rfl := Except.ok.inj (Prod.mk.inj hrun).2
  cases hadmitted

/-- Admission adds to the assignments exactly when it binds nothing or the identity at the
allocator's position is free. -/
lemma admitAddsOne_iff :
    AdmitAddsOne s requirement now ↔
      (Binds s requirement now → s.assignments.find? s.ids.next = none) := by
  obtain ⟨t, decision, hrun, hdecides⟩ := @decides_admitWorkload s requirement now
  have hadds : AdmitAddsOne s requirement now ↔
      AddsOne (decision.outcome = .admitted) s.assignments t.assignments := by
    refine ⟨?_, fun h ↦ ⟨t, decision, hrun, h⟩⟩
    rintro ⟨t', decision', hrun', h⟩
    obtain ⟨rfl, hresult⟩ := Prod.mk.inj (hrun.symm.trans hrun')
    rwa [Except.ok.inj hresult]
  rw [hadds]
  rcases hdecides with ⟨hadmitted, a, hpartition, hid, hstored⟩ | ⟨hrejected, hkept⟩
  · have hbinds : Binds s requirement now := by
      refine ⟨t, decision, hrun, hadmitted, a, ?_, hpartition⟩
      rw [hid, hstored, KeyedMap.find?_insert_self]
    rw [hstored, addsOne_insert_iff hadmitted]
    exact ⟨fun h _ ↦ h, fun h ↦ h hbinds⟩
  · refine iff_of_true (addsOne_of_failure hrejected hkept) ?_
    rintro ⟨t', decision', hrun', hadmitted, -⟩
    rw [Except.ok.inj (Prod.mk.inj (hrun.symm.trans hrun')).2] at hrejected
    exact absurd hadmitted hrejected

end Admission

section Binding

lemma error_ne_success (e : Error) : (.error e : Status) ≠ success := by simp [success]

/-- Binding stores an assignment that passes its checks, and refuses one that does not. -/
lemma bindAssignment_cases (s : FabricState) (assignment : PartitionAssignment) :
    ((∃ record ∈ s.findPartition assignment.partition, bindable s assignment record = true) ∧
        (bindAssignment assignment s).2 = success ∧ (bindAssignment assignment s).1.assignments =
          s.assignments.insert assignment.id assignment) ∨
      ((∀ record ∈ s.findPartition assignment.partition,
          bindable s assignment record = false) ∧
        (bindAssignment assignment s).2 ≠ success ∧
          (bindAssignment assignment s).1.assignments = s.assignments) := by
  unfold bindAssignment
  cases hcheck : assignment.validate with
  | error e => exact .inr ⟨fun record _ ↦ by rw [bindable, hcheck]; rfl, error_ne_success _, rfl⟩
  | ok u =>
    have hid := valid_of_assignment hcheck
    rw [bind_ok (show (Procedure.lift (.ok u) : FabricM Unit) s = (s, .ok u) from rfl), get_bind]
    cases hrecord : s.findPartition assignment.partition with
    | none => exact .inr ⟨fun record h ↦ by simp at h, error_ne_success _, rfl⟩
    | some record =>
      have hbindable : bindable s assignment record =
          (decide (record.generation = assignment.partitionGeneration) &&
            (decide (record.state = .active) &&
              decide (s.assignments.size < s.limits.maxAssignments))) := by
        have hok : Except.isOk assignment.validate = true := by rw [hcheck]; rfl
        simp [bindable, hok, hid, Bool.and_assoc]
      simp only [require_bind]
      cases hg : decide (record.generation = assignment.partitionGeneration) with
      | false => exact .inr ⟨by simp [hbindable, hg], error_ne_success _, rfl⟩
      | true =>
        cases ha : decide (record.state = .active) with
        | false => exact .inr ⟨by simp [hbindable, ha], error_ne_success _, rfl⟩
        | true =>
          cases hs : decide (s.assignments.size < s.limits.maxAssignments) with
          | false => exact .inr ⟨by simp [hbindable, hs], error_ne_success _, rfl⟩
          | true =>
            refine .inl ⟨⟨record, rfl, by simp [hbindable, hg, ha, hs]⟩, ?_⟩
            have hidentify : identifyAssignment assignment s = (s, .ok assignment.id) := by
              rw [identifyAssignment, if_pos hid]
              rfl
            simp only [if_true]
            rw [bind_ok hidentify]
            exact ⟨rfl, bump_assignments⟩

/-- Binding adds to the assignments exactly when it is refused or the identity that its caller
chose is free. -/
lemma bindAddsOne_iff :
    BindAddsOne s assignment ↔ ∀ record ∈ s.findPartition assignment.partition,
      bindable s assignment record = true → s.assignments.find? assignment.id = none := by
  unfold BindAddsOne
  rcases bindAssignment_cases s assignment with
    ⟨⟨record, hrecord, hbindable⟩, hok, hstored⟩ | ⟨hrefused, herror, hkept⟩
  · rw [hstored, addsOne_insert_iff hok]
    exact ⟨fun h _ _ _ ↦ h, fun h ↦ h record hrecord hbindable⟩
  · refine iff_of_true (addsOne_of_failure herror hkept) fun record hrecord hbindable ↦ ?_
    rw [hrefused record hrecord] at hbindable
    cases hbindable

end Binding

/-- In every reachable state, admission adds exactly the assignment it admits unless a suitable
partition would be bound under an identity that is taken, and binding unless its caller chose an
identity that is taken. -/
theorem assignments_not_lost_iff (hs : fabric.Reachable anyOp s) :
    (∀ requirement now, AdmitAddsOne s requirement now ↔ (s.closed = false →
      requirement.validate s.limits = success → ∀ record, FirstSuitable s requirement now record →
        Bindable s requirement record now → s.assignments.find? s.ids.next = none)) ∧
      ∀ assignment, BindAddsOne s assignment ↔ ∀ record ∈ s.findPartition assignment.partition,
        bindable s assignment record = true → s.assignments.find? assignment.id = none := by
  refine ⟨fun requirement now ↦ ?_, fun assignment ↦ bindAddsOne_iff⟩
  rw [admitAddsOne_iff]
  cases hclosed : s.closed with
  | true => exact iff_of_true (fun h ↦ absurd h (not_binds_of_closed hclosed)) (by simp)
  | false =>
    rw [binds_iff hclosed (stored_of_reachable hs)]
    constructor
    · exact fun h _ hvalid record hfirst hbindable ↦ h ⟨hvalid, record, hfirst, hbindable⟩
    · rintro h ⟨hvalid, record, hfirst, hbindable⟩
      exact h rfl hvalid record hfirst hbindable

namespace Sample

/-- A workload is bound to the created slice under the identity that the allocator hands out
next. -/
def taken : List Op := created ++ [.bindAssignment ahead]

end Sample

/-- The assignment that a caller stored under the allocator's next identity is lost to the next
admission. -/
theorem assignment_lost :
    ¬ ∀ s, fabric.Reachable anyOp s →
      (∀ requirement now, AdmitAddsOne s requirement now) ∧
        ∀ assignment, BindAddsOne s assignment := by
  intro h
  let s := fabric.run Sample.taken Sample.opened
  have hs : fabric.Reachable anyOp s := System.Reachable.run (.initial ⟨_, _, rfl⟩) (by decide)
  have hbound : (s.assignments.find? 6).any (fun a ↦ a.workloadId = ("w" : Text)) = true := by
    decide +kernel
  have hreplaced : ((admitWorkload Sample.sharing 7 s).1.assignments.find? 6).any
      (fun a ↦ a.workloadId = ("v" : Text)) = true := by decide +kernel
  obtain ⟨t, decision, hrun, hadds⟩ := (h s hs).1 Sample.sharing 7
  obtain ⟨a, ha, hw⟩ := (Option.any_eq_true _ _).mp hbound
  rw [hrun] at hreplaced
  obtain ⟨b, hb, hv⟩ := (Option.any_eq_true _ _).mp hreplaced
  obtain rfl := Option.some.inj ((hadds.kept 6 a ha).symm.trans hb)
  have hsame := (of_decide_eq_true hw).symm.trans (of_decide_eq_true hv)
  exact absurd hsame (by decide)

/-- Under an identity that nothing stands under, binding adds the assignment. -/
theorem assignments_not_lost_created :
    BindAddsOne (fabric.run Sample.created Sample.opened) Sample.ahead := by
  have hs : fabric.Reachable anyOp (fabric.run Sample.created Sample.opened) :=
    System.Reachable.run (.initial ⟨_, _, rfl⟩) (by decide)
  have hfree : ((fabric.run Sample.created Sample.opened).assignments.find? 6).isNone = true := by
    decide +kernel
  refine ((assignments_not_lost_iff hs).2 Sample.ahead).mpr fun _ _ _ ↦ ?_
  exact Option.isNone_iff_eq_none.mp hfree

end PartitionFabric
