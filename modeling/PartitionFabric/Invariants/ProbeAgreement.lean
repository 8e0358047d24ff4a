import PartitionFabric.Foundation.Selection
import PartitionFabric.Invariants.DrainGate
import PartitionFabric.Invariants.PlanUse
import PartitionFabric.Invariants.Reserving
import PartitionFabric.Invariants.Restart

/-!
Whether admission binds a workload exactly when its probe says so. The probe settles on the first
partition that passes its checks; admission makes further checks of that one partition and tries no
other.
-/

namespace PartitionFabric

open Procedure

variable {s : FabricState} {requirement : WorkloadRequirement} {now : UInt64}
  {record : PartitionRecord} {accelerator : AcceleratorRecord}

/-- Every record is stored under its own identity. -/
lemma stored_of_reachable (hs : fabric.Reachable anyOp s) :
    ∀ p r, s.partitions.find? p = some r → r.id = p := by
  refine hs.invariant (I := fun s ↦ ∀ p r, s.partitions.find? p = some r → r.id = p) ?_
    fun s op hstored _ ↦ ?_
  · rintro _ ⟨options, now, rfl⟩ p r hr
    cases hr
  · cases himport : op.isImport with
    | false =>
        intro p r' hr'
        rcases (evolves_step himport s).origin p r' hr' with ⟨hid, -⟩ | ⟨r, hr, hevolves⟩
        · exact hid
        · exact hevolves.id.trans (hstored p r hr)
    | true =>
        cases op with
        | importDurableState d now =>
            change ∀ p r, (importDurableState d now s).1.partitions.find? p = some r → r.id = p
            rcases import_cases d now s with hsame | hrestores
            · rwa [hsame]
            · intro p r hr
              exact ((hrestores.dormant (dormant_restoreRegistry d s)).partitions p r hr).1
        | _ => cases himport

/-- Whether a partition passes the checks of the probe. -/
def suitable (s : FabricState) (requirement : WorkloadRequirement) (now : UInt64)
    (record : PartitionRecord) : Bool :=
  match notCandidate s record with
  | .ok accelerator => (candidateObstacle s requirement now record accelerator).isNone
  | .error _ => false

/-- A candidate is active on a registered device. -/
lemma candidate_of_suitable (h : suitable s requirement now record = true) :
    record.state = .active ∧ ∃ accelerator, s.findAccelerator record.accelerator = some accelerator ∧
      candidateObstacle s requirement now record accelerator = none := by
  unfold suitable at h
  cases hcandidate : notCandidate s record with
  | error reason =>
      rw [hcandidate] at h
      cases h
  | ok accelerator =>
      rw [hcandidate] at h
      refine ⟨notCandidate_eq_ok hcandidate, accelerator, ?_, Option.isNone_iff_eq_none.mp h⟩
      unfold notCandidate at hcandidate
      split at hcandidate
      · cases hcandidate
      · rename_i hfind
        split at hcandidate
        · cases hcandidate
        · split at hcandidate
          · cases hcandidate
          · split at hcandidate
            · cases hcandidate
            · rw [hfind, Except.ok.inj hcandidate]

/-- The search ends at the first record that is suitable, and admits nothing without one. -/
lemma searchCandidates_eq (records : List PartitionRecord) (considered : UInt32)
    (seen : List AdmissionOutcome) :
    ((searchCandidates s requirement now records considered seen).outcome = .admitted ↔
      (records.find? (suitable s requirement now)).isSome = true) ∧
    ∀ record, records.find? (suitable s requirement now) = some record →
      (searchCandidates s requirement now records considered seen).partition = record.id := by
  induction records generalizing considered seen with
  | nil =>
      refine ⟨iff_of_false ?_ (by simp), fun record h ↦ by cases h⟩
      exact searchCandidates_not_admitted fun _ h ↦ by cases h
  | cons record rest ih =>
      unfold searchCandidates
      cases hcandidate : notCandidate s record with
      | error reason =>
          have hunsuitable : suitable s requirement now record = false := by
            unfold suitable
            rw [hcandidate]
          rw [List.find?_cons_of_neg (by simp [hunsuitable])]
          exact ih _ _
      | ok accelerator =>
          simp only
          cases hobstacle : candidateObstacle s requirement now record accelerator with
          | some reason =>
              have hunsuitable : suitable s requirement now record = false := by
                unfold suitable
                rw [hcandidate]
                simp [hobstacle]
              rw [List.find?_cons_of_neg (by simp [hunsuitable])]
              exact ih _ _
          | none =>
              have hsuitable : suitable s requirement now record = true := by
                unfold suitable
                rw [hcandidate]
                simp [hobstacle]
              rw [List.find?_cons_of_pos hsuitable]
              exact ⟨iff_of_true rfl rfl, fun r hr ↦ by rw [← Option.some.inj hr]⟩

/-- The suitable partition with the least identity. -/
structure FirstSuitable (s : FabricState) (requirement : WorkloadRequirement) (now : UInt64)
    (record : PartitionRecord) : Prop where
  recorded : s.findPartition record.id = some record
  suits : suitable s requirement now record = true
  first : ∀ p r, p < record.id → s.findPartition p = some r →
    suitable s requirement now r = false

lemma find?_suitable (hstored : ∀ p r, s.partitions.find? p = some r → r.id = p) :
    s.partitions.values.find? (suitable s requirement now) = some record ↔
      FirstSuitable s requirement now record := by
  have hvalues := KeyedMap.find?_values_eq_some (m := s.partitions) (f := id)
    (p := suitable s requirement now) (b := record)
  rw [List.map_id] at hvalues
  rw [hvalues]
  constructor
  · rintro ⟨k, r, hr, rfl, hsuits, hfirst⟩
    obtain rfl := hstored k r hr
    exact ⟨hr, hsuits, fun p r' hp hr' ↦ hfirst p r' hp hr'⟩
  · intro h
    exact ⟨record.id, record, h.recorded, rfl, h.suits, fun p r' hp hr' ↦ h.first p r' hp hr'⟩

/-- A valid requirement is offered the first suitable partition. -/
lemma evaluateAdmission_names (hstored : ∀ p r, s.partitions.find? p = some r → r.id = p)
    (hvalid : requirement.validate s.limits = success)
    (hfirst : FirstSuitable s requirement now record) :
    (evaluateAdmission s requirement now).partition = record.id := by
  unfold evaluateAdmission
  rw [hvalid]
  exact (searchCandidates_eq s.partitions.values 0 []).2 record
    ((find?_suitable hstored).mpr hfirst)

/-- The probe admits when the requirement is valid and some partition is suitable, and names the
first such partition. -/
lemma evaluateAdmission_iff (hstored : ∀ p r, s.partitions.find? p = some r → r.id = p) :
    (evaluateAdmission s requirement now).outcome = .admitted ↔
      requirement.validate s.limits = success ∧ ∃ record, FirstSuitable s requirement now record ∧
        (evaluateAdmission s requirement now).partition = record.id := by
  unfold evaluateAdmission
  cases hvalid : requirement.validate s.limits with
  | error e => simp [success]
  | ok u =>
      obtain ⟨hadmits, hnames⟩ := @searchCandidates_eq s requirement now s.partitions.values 0 []
      simp only [success, true_and]
      rw [hadmits, Option.isSome_iff_exists]
      refine exists_congr fun record ↦ ?_
      rw [find?_suitable hstored]
      exact ⟨fun h ↦ ⟨h, hnames record ((find?_suitable hstored).mpr h)⟩, And.left⟩

/-- What admission checks of a partition once the probe has settled on it. -/
def Bindable (s : FabricState) (requirement : WorkloadRequirement) (record : PartitionRecord)
    (now : UInt64) : Prop :=
  ∃ accelerator, s.findAccelerator record.accelerator = some accelerator ∧
    commitObstacle s requirement record accelerator = none ∧ s.ids.next ≠ uint64Max ∧
      (assignmentFor s requirement record accelerator s.ids.next now).validate = success

/-- Admission binds an assignment to a partition. -/
def Binds (s : FabricState) (requirement : WorkloadRequirement) (now : UInt64) : Prop :=
  ∃ t decision, admitWorkload requirement now s = (t, .ok decision) ∧
    decision.outcome = .admitted ∧ ∃ assignment,
      t.assignments.find? decision.assignment = some assignment ∧
        assignment.partition = decision.partition

lemma FirstSuitable.unique {record' : PartitionRecord}
    (h : FirstSuitable s requirement now record) (h' : FirstSuitable s requirement now record') :
    record = record' := by
  rcases lt_trichotomy record.id record'.id with hlt | heq | hlt
  · cases h.suits.symm.trans (h'.first _ _ hlt h.recorded)
  · have hsame := h.recorded
    rw [heq, h'.recorded] at hsame
    exact (Option.some.inj hsame).symm
  · cases h'.suits.symm.trans (h.first _ _ hlt h'.recorded)

lemma commitObstacle_not_admitted {outcome : AdmissionOutcome} {message : Text}
    (h : commitObstacle s requirement record accelerator = some (outcome, message)) :
    outcome ≠ .admitted := by
  unfold commitObstacle at h
  repeat' split at h
  all_goals
    cases h <;> decide

/-- A partition that nothing stands in the way of is bound when there is an identity for its
assignment and the assignment is valid. -/
lemma admitTo_iff {p : PartitionId} {decision : AdmissionDecision} :
    (∃ t decision', admitTo requirement p record accelerator now decision s = (t, .ok decision') ∧
      decision'.outcome = .admitted ∧ ∃ assignment,
        t.assignments.find? decision'.assignment = some assignment ∧
          assignment.partition = decision'.partition) ↔
    s.ids.next ≠ uint64Max ∧
      (assignmentFor s requirement record accelerator s.ids.next now).validate = success := by
  unfold admitTo
  by_cases hmax : s.ids.next = uint64Max
  · rw [bind_ok (attempt_allocateId_exhausted hmax)]
    refine iff_of_false ?_ fun h ↦ h.1 hmax
    rintro ⟨t, decision', hrun, hadmitted, -⟩
    obtain rfl := Except.ok.inj (Prod.mk.inj hrun).2
    cases hadmitted
  · rw [bind_ok (attempt_allocateId hmax)]
    simp only [success]
    rw [get_bind]
    have hsame : assignmentFor { s with ids := ⟨s.ids.next + 1⟩ } requirement record accelerator
        s.ids.next now = assignmentFor s requirement record accelerator s.ids.next now := rfl
    rw [hsame]
    cases hvalid : (assignmentFor s requirement record accelerator s.ids.next now).validate with
    | error e =>
        refine iff_of_false ?_ fun h ↦ by cases h.2
        rintro ⟨t, decision', hrun, hadmitted, -⟩
        obtain rfl := Except.ok.inj (Prod.mk.inj hrun).2
        cases hadmitted
    | ok u =>
        refine iff_of_true ⟨_, _, rfl, rfl, assignmentFor s requirement record accelerator s.ids.next
          now, ?_, rfl⟩ ⟨hmax, rfl⟩
        exact (congrArg (KeyedMap.find? · s.ids.next) bump_assignments).trans
          (KeyedMap.find?_insert_self _ _ _)

/-- Admission binds exactly when the first suitable partition is bindable. -/
lemma binds_iff (hopen : s.closed = false)
    (hstored : ∀ p r, s.partitions.find? p = some r → r.id = p) :
    Binds s requirement now ↔ requirement.validate s.limits = success ∧
      ∃ record, FirstSuitable s requirement now record ∧ Bindable s requirement record now := by
  have hchecked : Procedure.attempt checkOpen s = (s, .ok success) := by
    rw [attempt_apply, checkOpen_opened hopen]
    rfl
  unfold Binds admitWorkload
  rw [get_bind, bind_ok hchecked]
  simp only [success]
  by_cases hadmits : (evaluateAdmission s requirement now).outcome = .admitted
  · obtain ⟨hvalid, record, hfirst, hpartition⟩ := (evaluateAdmission_iff hstored).mp hadmits
    obtain ⟨hactive, accelerator, hfind, -⟩ := candidate_of_suitable hfirst.suits
    have hrecord : (s.findPartition record.id).filter (fun r ↦ r.state = .active) = some record := by
      rw [hfirst.recorded]
      simp [hactive]
    rw [if_neg (not_not.mpr hadmits), hpartition]
    unfold admitProbed
    rw [get_bind, hrecord]
    simp only
    rw [hfind]
    simp only
    have hbindable : (requirement.validate s.limits = success ∧
        ∃ record, FirstSuitable s requirement now record ∧ Bindable s requirement record now) ↔
          commitObstacle s requirement record accelerator = none ∧ s.ids.next ≠ uint64Max ∧
            (assignmentFor s requirement record accelerator s.ids.next now).validate = success := by
      constructor
      · rintro ⟨-, record', hfirst', accelerator', hfind', hbinds⟩
        obtain rfl := hfirst.unique hfirst'
        obtain rfl := Option.some.inj (hfind.symm.trans hfind')
        exact hbinds
      · exact fun h ↦ ⟨hvalid, record, hfirst, accelerator, hfind, h⟩
    refine Iff.trans ?_ hbindable.symm
    cases hobstacle : commitObstacle s requirement record accelerator with
    | some obstacle =>
        obtain ⟨outcome, message⟩ := obstacle
        refine iff_of_false ?_ fun h ↦ by cases h.1
        rintro ⟨t, decision, hrun, hadmitted, -⟩
        obtain rfl := Except.ok.inj (Prod.mk.inj hrun).2
        exact commitObstacle_not_admitted hobstacle hadmitted
    | none => exact admitTo_iff.trans (and_iff_right rfl).symm
  · rw [if_pos hadmits]
    refine iff_of_false ?_ ?_
    · rintro ⟨t, decision, hrun, hadmitted, -⟩
      obtain rfl := Except.ok.inj (Prod.mk.inj hrun).2
      exact hadmits hadmitted
    · rintro ⟨hvalid, record, hfirst, -⟩
      have hnames := evaluateAdmission_names hstored hvalid hfirst
      exact hadmits ((evaluateAdmission_iff hstored).mpr ⟨hvalid, record, hfirst, hnames⟩)

/-- The probe tells whether admission binds, and admission binds wherever some partition passes all
of its checks. -/
def ProbeAgrees (s : FabricState) (requirement : WorkloadRequirement) (now : UInt64) : Prop :=
  ((evaluateAdmission s requirement now).outcome = .admitted ↔ Binds s requirement now) ∧
    ((requirement.validate s.limits = success ∧ ∃ p record, s.findPartition p = some record ∧
      suitable s requirement now record = true ∧ Bindable s requirement record now) →
        Binds s requirement now)

/-- What admission asks of a suitable partition beyond the checks of the probe: its profile is still
published, nothing occupies it where partitions are exclusive by default, and an assignment can be
made out to it. -/
structure Vouched (s : FabricState) (requirement : WorkloadRequirement) (now : UInt64)
    (record : PartitionRecord) : Prop where
  profile : ∀ accelerator, s.findAccelerator record.accelerator = some accelerator →
    accelerator.capability.supportsProfile record.profile = true
  vacant : s.policy.exclusiveByDefault = true → s.occupants record.id = 0
  identity : s.ids.next ≠ uint64Max
  assignment : ∀ accelerator, s.findAccelerator record.accelerator = some accelerator →
    (assignmentFor s requirement record accelerator s.ids.next now).validate = success

lemma obstacle_none_iff {α : Type} {c : Bool} {a : α} {rest : Option α} :
    (if c = true then some a else rest) = none ↔ c = false ∧ rest = none := by
  cases c <;> simp

/-- What a suitable partition already satisfies of what admission checks again. -/
lemma candidateObstacle_none (h : candidateObstacle s requirement now record accelerator = none) :
    requirement.isolation.required.isSubsetOf record.isolation.guarantees = true ∧
      (requirement.minimumResources.empty = true ∨
        requirement.minimumResources.isSubsetOf record.resources = true) ∧
      (requirement.exclusive = true → s.occupants record.id = 0) := by
  unfold candidateObstacle at h
  simp only [obstacle_none_iff] at h
  obtain ⟨-, -, -, -, hresources, hisolation, -, hexclusive, -⟩ := h
  refine ⟨by simpa using hisolation, ?_, fun hown ↦ ?_⟩
  · cases hempty : requirement.minimumResources.empty with
    | true => exact Or.inl rfl
    | false =>
        rw [hempty, Bool.not_false, Bool.true_and, Bool.not_eq_false'] at hresources
        exact Or.inr hresources
  · rw [hown, Bool.true_and, decide_eq_false_iff_not, gt_iff_lt, Nat.not_lt] at hexclusive
    exact Nat.le_zero.mp hexclusive

/-- With room for an assignment a suitable partition is bindable when it is vouched for. -/
lemma bindable_iff (hroom : s.assignments.size < s.limits.maxAssignments)
    (hsuits : suitable s requirement now record = true) :
    Bindable s requirement record now ↔ Vouched s requirement now record := by
  obtain ⟨-, accelerator, hfind, hobstacle⟩ := candidate_of_suitable hsuits
  obtain ⟨hisolation, hresources, hexclusive⟩ := candidateObstacle_none hobstacle
  have hcommit : commitObstacle s requirement record accelerator = none ↔
      accelerator.capability.supportsProfile record.profile = true ∧
        (s.policy.exclusiveByDefault = true → s.occupants record.id = 0) := by
    unfold commitObstacle
    have hresources' : (!requirement.minimumResources.empty &&
        !requirement.minimumResources.isSubsetOf record.resources) = false := by
      rcases hresources with h | h <;> simp [h]
    rw [hisolation, hresources', if_neg (Nat.not_le.mpr hroom)]
    cases hprofile : accelerator.capability.supportsProfile record.profile with
    | false => simp
    | true =>
        cases hdefault : s.policy.exclusiveByDefault with
        | false =>
            cases hown : requirement.exclusive with
            | false => simp
            | true => simp [hexclusive hown]
        | true => simp
  constructor
  · rintro ⟨a, ha, hnone, hidentity, hvalid⟩
    obtain rfl := Option.some.inj (hfind.symm.trans ha)
    obtain ⟨hprofile, hvacant⟩ := hcommit.mp hnone
    refine ⟨fun a ha ↦ ?_, hvacant, hidentity, fun a ha ↦ ?_⟩
    · rwa [← Option.some.inj (hfind.symm.trans ha)]
    · rwa [← Option.some.inj (hfind.symm.trans ha)]
  · intro h
    exact ⟨accelerator, hfind, hcommit.mpr ⟨h.profile _ hfind, h.vacant⟩, h.identity,
      h.assignment _ hfind⟩

/-- With room for an assignment, probe and admission agree exactly when the first suitable partition
is vouched for. -/
theorem probe_agrees_iff (hs : fabric.Reachable anyOp s) (hopen : s.closed = false)
    (hroom : s.assignments.size < s.limits.maxAssignments) :
    ProbeAgrees s requirement now ↔ (requirement.validate s.limits = success →
      ∀ record, FirstSuitable s requirement now record → Vouched s requirement now record) := by
  have hstored := stored_of_reachable hs
  have hbinds := @binds_iff s requirement now hopen hstored
  have hprobe := @evaluateAdmission_iff s requirement now hstored
  constructor
  · rintro ⟨hagrees, -⟩ hvalid record hfirst
    have hnames := evaluateAdmission_names hstored hvalid hfirst
    obtain ⟨-, record', hfirst', hbindable⟩ :=
      hbinds.mp (hagrees.mp (hprobe.mpr ⟨hvalid, record, hfirst, hnames⟩))
    obtain rfl := hfirst.unique hfirst'
    exact (bindable_iff hroom hfirst.suits).mp hbindable
  · intro h
    have hbound : requirement.validate s.limits = success →
        (∃ record, FirstSuitable s requirement now record) → Binds s requirement now := by
      rintro hvalid ⟨record, hfirst⟩
      exact hbinds.mpr ⟨hvalid, record, hfirst,
        (bindable_iff hroom hfirst.suits).mpr (h hvalid record hfirst)⟩
    refine ⟨⟨fun hadmits ↦ ?_, fun hbind ↦ ?_⟩, ?_⟩
    · obtain ⟨hvalid, record, hfirst, -⟩ := hprobe.mp hadmits
      exact hbound hvalid ⟨record, hfirst⟩
    · obtain ⟨hvalid, record, hfirst, -⟩ := hbinds.mp hbind
      exact hprobe.mpr ⟨hvalid, record, hfirst, evaluateAdmission_names hstored hvalid hfirst⟩
    · rintro ⟨hvalid, p, record, hr, hsuits, -⟩
      -- some partition is suitable, so there is a first one
      have hsome : (s.partitions.values.find? (suitable s requirement now)).isSome = true :=
        List.find?_isSome.mpr ⟨record, KeyedMap.mem_values.mpr ⟨p, hr⟩, hsuits⟩
      obtain ⟨first, hfind⟩ := Option.isSome_iff_exists.mp hsome
      exact hbound hvalid ⟨first, (find?_suitable hstored).mp hfind⟩

namespace Sample

/-- A workload that asks for a slice. -/
def workload : WorkloadRequirement := { workloadId := "w", requiredProfile := profile.id }

/-- Partitions are exclusive by default, and a workload occupies the slice. -/
def exclusive : List Op :=
  created ++ [.setPolicy { makeDefaultPolicy 1 with exclusiveByDefault := true },
    .bindAssignment late]

end Sample

/-- The vacant slice is suitable and vouched for. -/
theorem probe_agrees_created :
    ProbeAgrees (fabric.run Sample.created Sample.opened) Sample.workload 7 := by
  let s := fabric.run Sample.created Sample.opened
  have hs : fabric.Reachable anyOp s := System.Reachable.run (.initial ⟨_, _, rfl⟩) (by decide)
  have hopen : s.closed = false := by decide +kernel
  have hroom : s.assignments.size < s.limits.maxAssignments := by decide +kernel
  have hvouched : s.partitions.values.all (fun r ↦ (s.findAccelerator r.accelerator).all fun a ↦
      a.capability.supportsProfile r.profile &&
        decide ((assignmentFor s Sample.workload r a s.ids.next 7).validate = success)) = true := by
    decide +kernel
  have hvacant : s.policy.exclusiveByDefault = false := by decide +kernel
  have hidentity : s.ids.next ≠ uint64Max := by decide +kernel
  refine (probe_agrees_iff hs hopen hroom).mpr fun _ record hfirst ↦ ?_
  clear_value s
  have hrecord := List.all_eq_true.mp hvouched record
    (KeyedMap.mem_values.mpr ⟨record.id, hfirst.recorded⟩)
  refine ⟨fun a ha ↦ ?_, fun h ↦ ?_, hidentity, fun a ha ↦ ?_⟩
  · rw [ha, Option.all_some, Bool.and_eq_true] at hrecord
    exact hrecord.1
  · rw [hvacant] at h
    cases h
  · rw [ha, Option.all_some, Bool.and_eq_true, decide_eq_true_eq] at hrecord
    exact hrecord.2

/-- The probe admits a workload to an occupied slice that admission then refuses to share. -/
theorem probe_disagrees : ¬ ∀ s, fabric.Reachable anyOp s → s.closed = false →
    s.assignments.size < s.limits.maxAssignments → ∀ requirement now,
      ProbeAgrees s requirement now := by
  intro h
  let s := fabric.run Sample.exclusive Sample.opened
  have hs : fabric.Reachable anyOp s := System.Reachable.run (.initial ⟨_, _, rfl⟩) (by decide)
  have hopen : s.closed = false := by decide +kernel
  have hroom : s.assignments.size < s.limits.maxAssignments := by decide +kernel
  have hprobe : (evaluateAdmission s Sample.workload 8).outcome = .admitted := by decide +kernel
  have hrefused : (admitWorkload Sample.workload 8 s).2.toOption.all
      (fun decision ↦ decision.outcome ≠ .admitted) = true := by decide +kernel
  clear_value s
  obtain ⟨t, decision, hrun, hadmitted, -⟩ := (h s hs hopen hroom Sample.workload 8).1.mp hprobe
  rw [hrun] at hrefused
  exact of_decide_eq_true hrefused hadmitted

end PartitionFabric
