import PartitionFabric.Invariants.DrainGate

/-!
The assignments of workloads to partitions: what admission and binding store, and that a workload
which claims its partition exclusively shares it with no other.
-/

namespace PartitionFabric

open Procedure

variable {s t : FabricState}

/-- The state after an assignment was stored and the record of its partition marked. -/
def FabricState.assign (s : FabricState) (key : PartitionAssignmentId) (a : PartitionAssignment)
    (p : PartitionId) (mark : PartitionRecord → PartitionRecord) : FabricState :=
  ({ s with assignments := s.assignments.insert key a }.modifyPartition p mark).bumpStateGeneration

section Assign

variable {key : PartitionAssignmentId} {a : PartitionAssignment} {p : PartitionId}
  {mark : PartitionRecord → PartitionRecord}

@[simp] lemma assign_assignments :
    (s.assign key a p mark).assignments = s.assignments.insert key a := bump_assignments

@[simp] lemma assign_partitions :
    (s.assign key a p mark).partitions = s.partitions.modify p mark := bump_partitions

end Assign

/-- Binding an assignment changes nothing, or stores it after it passed its checks. -/
def BindsOne (assignment : PartitionAssignment) (s t : FabricState) : Prop :=
  t = s ∨ ∃ record, s.findPartition assignment.partition = some record ∧
    bindable s assignment record = true ∧
    t = s.assign assignment.id assignment assignment.partition fun r ↦
      { r with assignmentState := .assigned }

instance (assignment : PartitionAssignment) : Std.Refl (BindsOne assignment) :=
  ⟨fun _ ↦ Or.inl rfl⟩

lemma valid_of_assignment {assignment : PartitionAssignment} {u : Unit}
    (h : assignment.validate = .ok u) : valid assignment.id = true := by
  unfold PartitionAssignment.validate at h
  split at h
  · exact absurd h (failure_ne_ok _ _ _ _)
  · rename_i hvalid
    simpa using hvalid

theorem bindsOne_bindAssignment {assignment : PartitionAssignment} :
    Advances (BindsOne assignment) (bindAssignment assignment) s := by
  refine advances_lift_bind fun u hvalid ↦ advances_get_bind ?_
  cases hrecord : s.findPartition assignment.partition with
  | none => exact advances_throw _ _
  | some record =>
      refine advances_require_bind fun hgeneration ↦ advances_require_bind fun hactive ↦ ?_
      refine advances_require_bind fun hsize ↦ ?_
      have hid := valid_of_assignment hvalid
      have hidentify : identifyAssignment assignment s = (s, .ok assignment.id) := by
        rw [identifyAssignment, if_pos hid]
        rfl
      have hbindable : bindable s assignment record = true := by
        unfold bindable
        rw [hvalid, hgeneration, hactive, hsize, hid]
        rfl
      unfold Advances
      rw [bind_apply, hidentify]
      exact Or.inr ⟨record, hrecord, hbindable, rfl⟩

/-- The checks that a workload passes before it is admitted to a partition. -/
structure Admittable (s : FabricState) (requirement : WorkloadRequirement) (now : UInt64)
    (record : PartitionRecord) (accelerator : AcceleratorRecord) : Prop where
  opened : s.closed = false
  found : s.findPartition (evaluateAdmission s requirement now).partition = some record
  active : record.state = .active
  device : s.findAccelerator record.accelerator = some accelerator
  unobstructed : commitObstacle s requirement record accelerator = none

/-- Admission hands out identities at most, or stores one assignment under a new identity. -/
def AdmitsOne (requirement : WorkloadRequirement) (now : UInt64) (s t : FabricState) : Prop :=
  (∃ ids : IdAllocator, s.ids.next ≤ ids.next ∧ t = { s with ids := ids }) ∨
    ∃ record accelerator, Admittable s requirement now record accelerator ∧
      ∃ ids : IdAllocator, s.ids.next < ids.next ∧ t = FabricState.assign { s with ids := ids }
        s.ids.next (assignmentFor s requirement record accelerator s.ids.next now)
        (evaluateAdmission s requirement now).partition PartitionRecord.occupy

instance (requirement : WorkloadRequirement) (now : UInt64) :
    Std.Refl (AdmitsOne requirement now) := ⟨fun s ↦ Or.inl ⟨s.ids, le_refl _, rfl⟩⟩

lemma admitsOne_admitTo {requirement : WorkloadRequirement} {record : PartitionRecord}
    {accelerator : AcceleratorRecord} {now : UInt64} {decision : AdmissionDecision}
    (h : Admittable s requirement now record accelerator) :
    Advances (AdmitsOne requirement now) (admitTo requirement
      (evaluateAdmission s requirement now).partition record accelerator now decision) s := by
  unfold Advances admitTo
  rw [bind_apply, attempt_apply]
  rcases allocateId_cases s with ⟨e, halloc⟩ | ⟨ids, hlt, halloc⟩
  · rw [halloc]
    exact Or.inl ⟨s.ids, le_refl _, rfl⟩
  · rw [halloc]
    simp only [get_bind]
    cases (assignmentFor { s with ids := ids } requirement record accelerator s.ids.next
        now).validate with
    | error e => exact Or.inl ⟨ids, le_of_lt hlt, rfl⟩
    | ok u => exact Or.inr ⟨record, accelerator, h, ids, hlt, rfl⟩

theorem admitsOne_admitWorkload {requirement : WorkloadRequirement} {now : UInt64} :
    Advances (AdmitsOne requirement now) (admitWorkload requirement now) s := by
  refine advances_get_bind ?_
  unfold Advances
  rw [bind_apply, attempt_apply, checkOpen]
  cases hclosed : s.closed with
  | true => exact refl_of _ s
  | false =>
      refine advances_ite (R := AdmitsOne requirement now) (fun _ ↦ advances_pure _ _)
        fun _ ↦ advances_get_bind ?_
      cases hfind : (s.findPartition (evaluateAdmission s requirement now).partition).filter
          fun record ↦ record.state = .active with
      | none => exact advances_pure _ _
      | some record =>
          obtain ⟨hfound, hactive⟩ := Option.filter_eq_some_iff.mp hfind
          simp only
          cases hdevice : s.findAccelerator record.accelerator with
          | none => exact advances_pure _ _
          | some accelerator =>
              simp only
              cases hobstacle : commitObstacle s requirement record accelerator with
              | some obstacle => exact advances_pure _ _
              | none =>
                  exact admitsOne_admitTo
                    ⟨hclosed, hfound, of_decide_eq_true hactive, hdevice, hobstacle⟩

/-- The operations that may store an assignment. -/
def Op.assigns : Op → Bool
  | .admitWorkload _ _ | .bindAssignment _ => true
  | _ => false

section Drains

variable {p : PartitionId} {now : UInt64}

lemma keepsAssignments_beginDrain {reason : Text} :
    Advances (Keeps FabricState.assignments) (beginDrain p reason now) s := by
  refine advances_get_bind ?_
  cases s.findPartition p with
  | none => exact advances_throw _ _
  | some record =>
      refine advances_require_bind fun _ ↦ ?_
      refine advances_bind gateKept_transition.assignments fun t _ _ ↦ ?_
      exact advances_modify_bind rfl (advances_modify bump_assignments)

lemma keepsAssignments_beginDrainAccelerator {id : AcceleratorId} {reason : Text} :
    Advances (Keeps FabricState.assignments) (beginDrainAccelerator id reason now) s := by
  refine advances_get_bind (advances_require_bind fun _ ↦ ?_)
  refine advances_bind (advances_forM fun r _ t _ ↦ ?_) fun _ _ _ ↦
    advances_modify bump_assignments
  exact advances_bind gateKept_transition.assignments fun _ _ _ ↦ advances_modify rfl

lemma keepsAssignments_completeDrain :
    Advances (Keeps FabricState.assignments) (completeDrain p now) s := by
  refine advances_get_bind ?_
  cases s.findPartition p with
  | none => exact advances_throw _ _
  | some record =>
      refine advances_require_bind fun _ ↦ advances_ite (fun _ ↦ ?_) fun _ ↦ ?_
      · exact advances_modify_bind rfl (advances_throw _ _)
      · exact advances_modify_bind rfl (advances_modify bump_assignments)

lemma keepsAssignments_cancelDrain :
    Advances (Keeps FabricState.assignments) (cancelDrain p now) s := by
  refine advances_get_bind ?_
  cases s.findPartition p with
  | none => exact advances_throw _ _
  | some record =>
      refine advances_require_bind fun _ ↦ advances_require_bind fun _ ↦ ?_
      refine advances_bind gateKept_transition.assignments fun t _ _ ↦ ?_
      exact advances_modify_bind rfl (advances_modify bump_assignments)

end Drains

/-- No assignment is stored that was not there before. -/
def AssignsNone (s t : FabricState) : Prop :=
  ∀ key a, t.assignments.find? key = some a → s.assignments.find? key = some a

instance : Std.Refl AssignsNone := ⟨fun _ _ _ h ↦ h⟩

instance : IsTrans FabricState AssignsNone := ⟨fun _ _ _ h h' key a ha ↦ h key a (h' key a ha)⟩

lemma AssignsNone.of_keeps (h : Keeps FabricState.assignments s t) : AssignsNone s t :=
  fun _ _ ha ↦ h ▸ ha

lemma assignsNone_unbindAssignment {id : PartitionAssignmentId} {now : UInt64} :
    Advances AssignsNone (unbindAssignment id now) s := by
  refine advances_get_bind ?_
  cases s.assignments.find? id with
  | none => exact advances_throw _ _
  | some assignment =>
      refine advances_modify_bind (fun key a ha ↦ ?_) ?_
      · rw [KeyedMap.find?_erase] at ha
        split at ha
        · exact absurd ha (by simp)
        · exact ha
      · exact advances_modify_bind (.of_keeps rfl) (advances_modify (.of_keeps bump_assignments))

/-- Only admission and binding store assignments. -/
theorem assignsNone_step {op : Op} (h : op.assigns = false) : AssignsNone s (op.step s) := by
  by_cases himport : op.isImport = false
  · by_cases ho : op.scope.occupancy
    · cases op with
      | beginDrain p reason now => exact .of_keeps keepsAssignments_beginDrain
      | beginDrainAccelerator id reason now =>
          exact .of_keeps keepsAssignments_beginDrainAccelerator
      | completeDrain p now => exact .of_keeps keepsAssignments_completeDrain
      | cancelDrain p now => exact .of_keeps keepsAssignments_cancelDrain
      | unbindAssignment id now => exact assignsNone_unbindAssignment
      | admitWorkload requirement now => exact absurd h (by simp [Op.assigns])
      | bindAssignment assignment => exact absurd h (by simp [Op.assigns])
      | _ => exact absurd ho (fun h ↦ h)
    · exact (evolves_step himport s).assignments.resolve_left ho
  · cases op with
    | importDurableState d now =>
        change AssignsNone s (importDurableState d now s).1
        rcases import_cases d now s with hsame | hrestores
        · rw [hsame]
          exact refl_of _ s
        · intro key a ha
          rw [(hrestores.dormant (dormant_restoreRegistry d s)).assignments key] at ha
          cases ha
    | _ => exact absurd rfl himport

/-- An assignment that claims its partition exclusively is the only one on it. -/
def Exclusive (m : KeyedMap PartitionAssignmentId PartitionAssignment) : Prop :=
  ∀ key a, m.find? key = some a → a.exclusive = true →
    ∀ other b, m.find? other = some b → b.partition = a.partition → other = key

/-- An assignment fits to those under other keys: on its partition neither it nor they claim
exclusive use. -/
def FitsAmong (m : KeyedMap PartitionAssignmentId PartitionAssignment)
    (key : PartitionAssignmentId) (a : PartitionAssignment) : Prop :=
  ∀ other b, m.find? other = some b → b.partition = a.partition → other ≠ key →
    a.exclusive = false ∧ b.exclusive = false

lemma Exclusive.mono {m m' : KeyedMap PartitionAssignmentId PartitionAssignment}
    (h : Exclusive m) (hsub : ∀ key a, m'.find? key = some a → m.find? key = some a) :
    Exclusive m' :=
  fun key a ha hexclusive other b hb hp ↦
    h key a (hsub key a ha) hexclusive other b (hsub other b hb) hp

/-- A fitting assignment keeps exclusive claims, and only a fitting one does. -/
lemma Exclusive.insert_iff {m : KeyedMap PartitionAssignmentId PartitionAssignment}
    {key : PartitionAssignmentId} {a : PartitionAssignment} (h : Exclusive m) :
    Exclusive (m.insert key a) ↔ FitsAmong m key a := by
  constructor
  · intro hinsert other b hb hp hne
    have ha : (m.insert key a).find? key = some a := KeyedMap.find?_insert_self m key a
    have hb' : (m.insert key a).find? other = some b := by
      rwa [KeyedMap.find?_insert_of_ne m a hne]
    constructor
    · by_contra hexclusive
      exact hne (hinsert key a ha (by simpa using hexclusive) other b hb' hp)
    · by_contra hexclusive
      exact hne (hinsert other b hb' (by simpa using hexclusive) key a ha hp.symm).symm
  · intro hfits k c hc hexclusive other b hb hp
    rw [KeyedMap.find?_insert] at hc hb
    split at hc
    · rename_i hk
      obtain rfl := Option.some.inj hc
      split at hb
      · rename_i hother
        rw [hother, hk]
      · rename_i hother
        rw [(hfits other b hb hp hother).1] at hexclusive
        cases hexclusive
    · rename_i hk
      split at hb
      · obtain rfl := Option.some.inj hb
        rw [(hfits k c hc hp.symm hk).2] at hexclusive
        cases hexclusive
      · exact h k c hc hexclusive other b hb hp

/-- Some assignment claims the partition exclusively. -/
def Claimed (s : FabricState) (p : PartitionId) : Prop :=
  ∃ key a, s.assignments.find? key = some a ∧ a.partition = p ∧ a.exclusive = true

/-- The steps that bring no workload together with one that claims exclusive use. -/
def claimsRespected (s : FabricState) : Op → Prop
  | .admitWorkload requirement now =>
    (requirement.exclusive || s.policy.exclusiveByDefault) = false →
      ∀ record ∈ s.findPartition (evaluateAdmission s requirement now).partition,
        ¬ Claimed s record.id
  | .bindAssignment assignment => ∀ record ∈ s.findPartition assignment.partition,
      bindable s assignment record = true → FitsAmong s.assignments assignment.id assignment
  | _ => True

/-- A workload that demands exclusive use is admitted to vacant partitions only. -/
lemma vacant_of_unobstructed {requirement : WorkloadRequirement} {record : PartitionRecord}
    {accelerator : AcceleratorRecord} (h : commitObstacle s requirement record accelerator = none)
    (hexclusive : (requirement.exclusive || s.policy.exclusiveByDefault) = true) :
    ¬ Occupied s record.id := by
  unfold commitObstacle at h
  rw [hexclusive] at h
  repeat' split at h
  all_goals first | contradiction | rename_i hnone
  refine occupants_eq_zero.mp ?_
  simpa using hnone

lemma fitsAmong_of_admittable {requirement : WorkloadRequirement} {now : UInt64}
    {record : PartitionRecord} {accelerator : AcceleratorRecord} {key : PartitionAssignmentId}
    (h : Admittable s requirement now record accelerator)
    (hclaims : claimsRespected s (.admitWorkload requirement now)) :
    FitsAmong s.assignments key (assignmentFor s requirement record accelerator key now) := by
  intro other b hb hp _
  cases hexclusive : requirement.exclusive || s.policy.exclusiveByDefault with
  | true => exact absurd ⟨other, b, hb, hp⟩ (vacant_of_unobstructed h.unobstructed hexclusive)
  | false =>
      refine ⟨hexclusive, ?_⟩
      by_contra hclaimed
      exact hclaims hexclusive record h.found ⟨other, b, hb, hp, by simpa using hclaimed⟩

lemma exclusive_step {op : Op} (h : Exclusive s.assignments) (hop : claimsRespected s op) :
    Exclusive (op.step s).assignments := by
  cases hassigns : op.assigns with
  | false => exact h.mono (assignsNone_step hassigns)
  | true =>
      cases op with
      | admitWorkload requirement now =>
          have hadmits : AdmitsOne requirement now s (Op.step (.admitWorkload requirement now) s) :=
            admitsOne_admitWorkload
          rcases hadmits with ⟨ids, -, heq⟩ | ⟨record, accelerator, hadmittable, ids, -, heq⟩
          · rw [heq]
            exact h
          · rw [heq, assign_assignments]
            exact h.insert_iff.mpr (fitsAmong_of_admittable hadmittable hop)
      | bindAssignment assignment =>
          have hbinds : BindsOne assignment s (Op.step (.bindAssignment assignment) s) :=
            bindsOne_bindAssignment
          rcases hbinds with heq | ⟨record, hrecord, hbindable, heq⟩
          · rw [heq]
            exact h
          · rw [heq, assign_assignments]
            exact h.insert_iff.mpr (hop record hrecord hbindable)
      | _ => cases hassigns

/-- In every run whose steps respect exclusive claims, an exclusive assignment is the only one on
its partition. -/
theorem exclusive_claims (hs : fabric.Reachable claimsRespected s) : Exclusive s.assignments := by
  refine hs.invariant (I := fun s ↦ Exclusive s.assignments) ?_ fun s op h hop ↦
    exclusive_step h hop
  rintro _ ⟨options, now, rfl⟩ key a ha
  cases ha

namespace Sample

/-- A workload on the created slice, with the whole slice for itself. -/
def claiming : PartitionAssignment := { late with exclusive := true }

/-- The slice is claimed. -/
def claimed : List Op := created ++ [.bindAssignment claiming]

/-- A second workload, which demands no exclusive use. -/
def sharing : WorkloadRequirement := { workloadId := "v", requiredProfile := profile.id }

end Sample

/-- A shared workload is admitted to a slice that another one claims exclusively. -/
theorem shared_after_exclusive :
    ¬ ∀ s, fabric.Reachable anyOp s → Exclusive s.assignments := by
  intro h
  let s := fabric.run (Sample.claimed ++ [.admitWorkload Sample.sharing 6]) Sample.opened
  have hs : fabric.Reachable anyOp s :=
    System.Reachable.run (.initial ⟨_, _, rfl⟩) (by decide)
  have hfirst : (s.assignments.find? 100).any (fun a ↦ a.exclusive && a.partition = 4) = true := by
    decide +kernel
  have hsecond : (s.assignments.find? 6).any (fun a ↦ a.partition = 4) = true := by
    decide +kernel
  obtain ⟨a, ha, hboth⟩ := (Option.any_eq_true _ _).mp hfirst
  obtain ⟨b, hb, hp⟩ := (Option.any_eq_true _ _).mp hsecond
  obtain ⟨hexclusive, hpartition⟩ := Bool.and_eq_true_iff.mp hboth
  have heq := h s hs 100 a ha hexclusive 6 b hb
    ((of_decide_eq_true hp).trans (of_decide_eq_true hpartition).symm)
  exact absurd heq (by decide)

namespace Sample

/-- A workload on one of two created slices. -/
def occupant (id : PartitionAssignmentId) (p : PartitionId) (exclusive : Bool) :
    PartitionAssignment :=
  { late with id := id, partition := p, exclusive := exclusive }

/-- Two slices are created; the first is claimed, and two workloads share the second. -/
def apportioned : List Op :=
  [.registerBackendAccelerator device 1, .plan { profile := profile.id, count := 2 } 2,
    .reserve 2 3, .execute 3 4, .applyMutationResult 6 accepted (some (layout ["a", "b"])) 5,
    .bindAssignment (occupant 100 4 true), .bindAssignment (occupant 101 5 false),
    .bindAssignment (occupant 102 5 false)]

end Sample

instance (m : KeyedMap PartitionAssignmentId PartitionAssignment) (key : PartitionAssignmentId)
    (a : PartitionAssignment) : Decidable (FitsAmong m key a) :=
  decidable_of_iff (∀ e ∈ m.entries, e.2.partition = a.partition → e.1 ≠ key →
      a.exclusive = false ∧ e.2.exclusive = false)
    ⟨fun h other b hb ↦ h (other, b) (KeyedMap.find?_eq_some_iff_mem.mp hb),
      fun h e he ↦ h e.1 e.2 (KeyedMap.find?_eq_some_iff_mem.mpr he)⟩

theorem exclusive_claims_apportioned :
    let s := fabric.run Sample.apportioned Sample.opened
    s.assignments.values.map (fun a ↦ (a.id, a.partition, a.exclusive)) =
        [(100, 4, true), (101, 5, false), (102, 5, false)] ∧
      Exclusive s.assignments := by
  intro s
  have hs : fabric.Reachable claimsRespected s := by
    refine System.Reachable.run (.initial ⟨_, _, rfl⟩)
      ⟨trivial, trivial, trivial, trivial, trivial, ?_, ?_, ?_, trivial⟩
    all_goals
      unfold claimsRespected
      decide +kernel
  exact ⟨by decide +kernel, exclusive_claims hs⟩

end PartitionFabric
