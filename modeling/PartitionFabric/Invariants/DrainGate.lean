import PartitionFabric.Invariants.Publication

/-!
The drain gate: what a recorded drain says about the assignments of its partition, and that
destructive mutations are dispatched for vacant partitions only.
-/

namespace PartitionFabric

open Procedure

variable {s t : FabricState}

/-- Some assignment references the partition. -/
def Occupied (s : FabricState) (p : PartitionId) : Prop :=
  ∃ key a, s.assignments.find? key = some a ∧ a.partition = p

lemma occupants_eq_zero {p : PartitionId} : s.occupants p = 0 ↔ ¬ Occupied s p := by
  unfold FabricState.occupants Occupied
  rw [List.countP_eq_zero]
  constructor
  · rintro h ⟨key, a, ha, rfl⟩
    exact h a (KeyedMap.mem_values.mpr ⟨key, ha⟩) (by simp)
  · intro h a ha hp
    obtain ⟨key, hkey⟩ := KeyedMap.mem_values.mp ha
    exact h ⟨key, a, hkey, by simpa using hp⟩

/-- A drain that is recorded complete with nothing outstanding belongs to a vacant partition. -/
structure Gated (s : FabricState) : Prop where
  ids : ∀ p r, s.partitions.find? p = some r → r.id = p
  safe : ∀ p r, s.partitions.find? p = some r → r.drain.destructiveSafe = true → ¬ Occupied s p

/-- Behind the gate nothing occupies a partition that may be destroyed. -/
lemma Gated.vacant (h : Gated s) {p : PartitionId} {r : PartitionRecord}
    (hr : s.partitions.find? p = some r) (hsafe : destructionSafe s r = true) :
    ¬ Occupied s r.id := by
  unfold destructionSafe at hsafe
  by_cases hdrain : r.drain.destructiveSafe = true
  · rw [h.ids p r hr]
    exact h.safe p r hr hdrain
  · rw [if_neg hdrain] at hsafe
    split at hsafe
    · exact absurd hsafe (by decide)
    · split at hsafe
      · exact absurd hsafe (by decide)
      · rename_i hnone
        rintro ⟨key, a, ha, hp⟩
        refine hnone (List.any_eq_true.mpr ⟨a, KeyedMap.mem_values.mpr ⟨key, ha⟩, ?_⟩)
        simpa using hp

lemma destructiveSafe_of_notDraining {drain : DrainProgress} (h : drain.state = .notDraining) :
    drain.destructiveSafe = false := by
  rw [DrainProgress.destructiveSafe, h]
  rfl

/-- A step that adds no assignment and completes no drain keeps the gate. -/
lemma Evolves.gated {π : Scope} {floor : UInt64} (h : Evolves π floor s t)
    (ho : ¬ π.occupancy) (hg : Gated s) : Gated t := by
  have hsub : ∀ p, Occupied t p → Occupied s p := by
    rintro p ⟨key, a, ha, hp⟩
    exact ⟨key, a, h.assignments.resolve_left ho key a ha, hp⟩
  refine ⟨fun p r' hr' ↦ ?_, fun p r' hr' hsafe ↦ ?_⟩
  · rcases h.origin p r' hr' with ⟨hid, -⟩ | ⟨r, hr, hevolves⟩
    · exact hid
    · exact hevolves.id.trans (hg.ids p r hr)
  · rcases h.origin p r' hr' with ⟨-, hfresh⟩ | ⟨r, hr, hevolves⟩
    · rw [destructiveSafe_of_notDraining (hfresh.drain.resolve_left ho)] at hsafe
      exact absurd hsafe (by decide)
    · rcases hevolves.drain.resolve_left ho with hsame | hnone
      · rw [hsame] at hsafe
        exact fun hocc ↦ hg.safe p r hr hsafe (hsub p hocc)
      · rw [destructiveSafe_of_notDraining hnone] at hsafe
        exact absurd hsafe (by decide)

lemma Dormant.gated (h : Dormant s) : Gated s := by
  refine ⟨fun p r hr ↦ (h.partitions p r hr).1, ?_⟩
  rintro p r - - ⟨key, a, ha, -⟩
  rw [h.assignments key] at ha
  cases ha

/-- A step that keeps the gate and the assignments. -/
structure GateKept (s t : FabricState) : Prop where
  gated : Gated s → Gated t
  assignments : t.assignments = s.assignments

instance : Std.Refl GateKept := ⟨fun _ ↦ ⟨fun h ↦ h, rfl⟩⟩

instance : IsTrans FabricState GateKept :=
  ⟨fun _ _ _ h h' ↦ ⟨h'.gated ∘ h.gated, h'.assignments.trans h.assignments⟩⟩

lemma GateKept.occupants (h : GateKept s t) (p : PartitionId) : t.occupants p = s.occupants p := by
  unfold FabricState.occupants
  rw [h.assignments]

lemma GateKept.of_evolves (h : Evolves { activates := True } 0 s t) (ha : t.assignments = s.assignments) :
    GateKept s t := ⟨h.gated fun h ↦ h, ha⟩

lemma gateKept_transition {now : UInt64} {key : PartitionId} {target : PartitionState}
    {reason : Text} : Advances GateKept (transitionPartition now key target reason) s := by
  refine GateKept.of_evolves (advances_transition_of trivial fun _ ↦ trivial) ?_
  rcases transitionPartition_cases now key target reason s with
    h | ⟨record, ledger, ledger', held, -, -, -, -, -, h⟩
  · rw [h]
  · rw [h]
    rfl

lemma gateKept_bump : GateKept s s.bumpStateGeneration :=
  .of_evolves (evolves_bump s) bump_assignments

/-- A rewrite that keeps the identity of a record leaves every record under its own. -/
lemma stored_modifyPartition {p q : PartitionId} {f : PartitionRecord → PartitionRecord}
    {r : PartitionRecord} (hid : ∀ r, (f r).id = r.id)
    (hs : ∀ q r, s.partitions.find? q = some r → r.id = q)
    (hr : (s.modifyPartition p f).partitions.find? q = some r) : r.id = q := by
  rw [FabricState.modifyPartition, KeyedMap.find?_modify] at hr
  split at hr
  · obtain ⟨r₀, hr₀, rfl⟩ := Option.map_eq_some_iff.mp hr
    exact (hid r₀).trans (hs q r₀ hr₀)
  · exact hs q r hr

/-- A rewrite of one record keeps the gate when it completes no drain over an occupant. -/
lemma gateKept_modify {p : PartitionId} {f : PartitionRecord → PartitionRecord}
    (hid : ∀ r, (f r).id = r.id)
    (h : ∀ r, (f r).drain.destructiveSafe = true → ¬ Occupied s p) :
    GateKept s (s.modifyPartition p f) := by
  refine ⟨fun hg ↦ ⟨fun q r hr ↦ ?_, fun q r hr hsafe ↦ ?_⟩, rfl⟩
  · exact stored_modifyPartition hid hg.ids hr
  · rw [FabricState.modifyPartition, KeyedMap.find?_modify] at hr
    split at hr
    · rename_i hq
      obtain ⟨r₀, -, rfl⟩ := Option.map_eq_some_iff.mp hr
      rw [hq]
      exact h r₀ hsafe
    · exact hg.safe q r hr hsafe

/-- The number of occupants survives its 32-bit representation as zero or not zero. -/
def countsExact (s : FabricState) (p : PartitionId) : Prop :=
  s.occupants p % 2 ^ 32 = 0 → s.occupants p = 0

lemma vacant_of_count {p : PartitionId} (h : countsExact s p)
    (hzero : (s.occupants p).toUInt32 = 0) : ¬ Occupied s p := by
  refine occupants_eq_zero.mp (h ?_)
  have := congrArg UInt32.toNat hzero
  simpa using this

lemma begun_safe (drain : DrainProgress) (now : UInt64) {n : UInt32}
    (h : (drain.begun n now).destructiveSafe = true) : n = 0 := by
  unfold DrainProgress.destructiveSafe DrainProgress.begun at h
  simp only [Bool.and_eq_true, decide_eq_true_eq] at h
  exact h.2

lemma gateKept_beginDrain {p : PartitionId} {reason : Text} {now : UInt64}
    (h : countsExact s p) : Advances GateKept (beginDrain p reason now) s := by
  refine advances_get_bind ?_
  cases s.findPartition p with
  | none => exact advances_throw _ _
  | some record =>
      refine advances_require_bind fun _ ↦ ?_
      refine advances_bind_of gateKept_transition fun t _ _ hst ↦ ?_
      have ht : countsExact t p := by
        unfold countsExact
        rwa [hst.occupants]
      refine advances_modify_bind (gateKept_modify (fun _ ↦ rfl) fun r hsafe ↦ ?_)
        (advances_modify gateKept_bump)
      exact vacant_of_count ht (begun_safe r.drain now hsafe)

lemma gateKept_beginDrainAccelerator {id : AcceleratorId} {reason : Text} {now : UInt64}
    (h : ∀ r ∈ s.partitionsOf id, countsExact s r.id) :
    Advances GateKept (beginDrainAccelerator id reason now) s := by
  refine advances_get_bind (advances_require_bind fun _ ↦ ?_)
  refine advances_bind (advances_forM fun r hr t hst ↦ ?_) fun _ _ _ ↦
    advances_modify gateKept_bump
  refine advances_bind_of gateKept_transition fun u _ _ htu ↦ ?_
  have hu : countsExact u r.id := by
    unfold countsExact
    rw [htu.occupants, hst.occupants]
    exact h r (List.mem_filter.mp hr).1
  refine advances_modify (gateKept_modify (fun _ ↦ rfl) fun r' hsafe ↦ ?_)
  exact vacant_of_count hu (begun_safe r'.drain now hsafe)

lemma gateKept_completeDrain {p : PartitionId} {now : UInt64} (h : countsExact s p) :
    Advances GateKept (completeDrain p now) s := by
  refine advances_get_bind ?_
  cases s.findPartition p with
  | none => exact advances_throw _ _
  | some record =>
      refine advances_require_bind fun _ ↦ advances_ite (fun _ ↦ ?_) fun hzero ↦ ?_
      · refine advances_modify_bind (gateKept_modify (fun _ ↦ rfl) fun r hsafe ↦ ?_)
          (advances_throw _ _)
        exact absurd hsafe (by simp [DrainProgress.destructiveSafe])
      · refine advances_modify_bind (gateKept_modify (fun _ ↦ rfl) fun r _ ↦ ?_)
          (advances_modify gateKept_bump)
        exact vacant_of_count h (by simpa using hzero)

lemma gateKept_cancelDrain {p : PartitionId} {now : UInt64} :
    Advances GateKept (cancelDrain p now) s := by
  refine advances_get_bind ?_
  cases s.findPartition p with
  | none => exact advances_throw _ _
  | some record =>
      refine advances_require_bind fun _ ↦ advances_require_bind fun _ ↦ ?_
      refine advances_bind gateKept_transition fun t _ _ ↦ ?_
      refine advances_modify_bind (gateKept_modify (fun _ ↦ rfl) fun r hsafe ↦ ?_)
        (advances_modify gateKept_bump)
      exact absurd hsafe (by simp [DrainProgress.destructiveSafe])

/-- A new assignment keeps the gate when its partition does not count as drained afterwards. -/
lemma gated_occupy {key : PartitionAssignmentId} {a : PartitionAssignment}
    {f : PartitionRecord → PartitionRecord} (hid : ∀ r, (f r).id = r.id)
    (h : ∀ r, s.partitions.find? a.partition = some r → (f r).drain.destructiveSafe = false)
    (hg : Gated s) :
    Gated ({ s with assignments := s.assignments.insert key a }.modifyPartition a.partition f) := by
  refine ⟨fun q r hr ↦ ?_, fun q r hr hsafe ↦ ?_⟩
  · exact stored_modifyPartition hid hg.ids hr
  · rw [FabricState.modifyPartition, KeyedMap.find?_modify] at hr
    split at hr
    · rename_i hq
      obtain ⟨r₀, hr₀, rfl⟩ := Option.map_eq_some_iff.mp hr
      rw [h r₀ (hq ▸ hr₀)] at hsafe
      exact absurd hsafe (by decide)
    · rename_i hq
      rintro ⟨key', b, hb, hp⟩
      rw [FabricState.modifyPartition, KeyedMap.find?_insert] at hb
      split at hb
      · obtain rfl := Option.some.inj hb
        exact hq hp.symm
      · exact hg.safe q r hr hsafe ⟨key', b, hb, hp⟩

/-- A recorded drain over the largest count would wrap to none. -/
def DrainProgress.saturated (drain : DrainProgress) : Bool :=
  drain.state = .drainComplete && drain.outstandingAssignments = 0xFFFFFFFF

lemma occupy_unsafe {r : PartitionRecord} (h : r.drain.saturated = false) :
    r.occupy.drain.destructiveSafe = false := by
  unfold PartitionRecord.occupy DrainProgress.destructiveSafe
  unfold DrainProgress.saturated at h
  simp only [Bool.and_eq_false_iff, decide_eq_false_iff_not] at h ⊢
  by_cases hcomplete : r.drain.state = .drainComplete
  · right
    simp only [hcomplete, decide_true, Bool.true_or, if_true]
    have hne := h.resolve_left (fun hnot ↦ hnot hcomplete)
    intro hzero
    refine hne ?_
    have : r.drain.outstandingAssignments + 1 + 0xFFFFFFFF = 0 + 0xFFFFFFFF := by rw [hzero]
    rw [UInt32.add_assoc] at this
    simpa using this
  · left
    split
    · exact hcomplete
    · exact hcomplete

/-- A step that keeps the gate. -/
def KeepsGate (s t : FabricState) : Prop := Gated s → Gated t

instance : Std.Refl KeepsGate := ⟨fun _ h ↦ h⟩

instance : IsTrans FabricState KeepsGate := ⟨fun _ _ _ h h' ↦ h' ∘ h⟩

lemma keepsGate_allocateId : Advances KeepsGate allocateId s := by
  have h : Advances (Evolves {} 0) allocateId s := advances_allocateId
  exact Evolves.gated h fun h ↦ h

lemma allocateId_partitions {id : UInt64} (h : allocateId s = (t, .ok id)) :
    t.partitions = s.partitions := by
  rcases allocateId_cases s with ⟨e, h'⟩ | ⟨ids, -, h'⟩
  · rw [h'] at h
    exact absurd h (by simp)
  · rw [h'] at h
    exact (Prod.mk.inj h).1 ▸ rfl

lemma keepsGate_admitTo {requirement : WorkloadRequirement} {p : PartitionId}
    {record : PartitionRecord} {accelerator : AcceleratorRecord} {now : UInt64}
    {decision : AdmissionDecision} (hrecord : s.partitions.find? p = some record)
    (hdrain : record.drain.saturated = false) (hid : record.id = p) :
    Advances KeepsGate (admitTo requirement p record accelerator now decision) s := by
  refine advances_bind (advances_attempt keepsGate_allocateId) fun t status ht ↦ ?_
  cases status with
  | error e => exact advances_pure _ _
  | ok id =>
      have hpartitions := allocateId_partitions (attempt_eq_ok ht)
      refine advances_get_bind ?_
      simp only
      cases (assignmentFor t requirement record accelerator id now).validate with
      | error e => exact advances_pure _ _
      | ok u =>
          refine advances_modify_modify_bind (fun hg ↦ ?_)
            (advances_modify_bind gateKept_bump.gated (advances_pure _ _))
          subst hid
          refine gated_occupy (fun _ ↦ rfl) (fun r hr ↦ ?_) hg
          rw [hpartitions] at hr
          obtain rfl := Option.some.inj (hrecord.symm.trans hr)
          exact occupy_unsafe hdrain

lemma keepsGate_admitWorkload {requirement : WorkloadRequirement} {now : UInt64}
    (hdrain : ∀ r ∈ s.findPartition (evaluateAdmission s requirement now).partition,
      r.drain.saturated = false) :
    Advances KeepsGate (admitWorkload requirement now) s := by
  refine advances_get_bind (advances_bind (advances_attempt (refl_of _ s)) fun t status ht ↦ ?_)
  obtain rfl : s = t := (Prod.mk.inj ht).1
  cases status with
  | error e => exact advances_pure _ _
  | ok u =>
      refine advances_ite (fun _ ↦ advances_pure _ _) fun _ ↦ advances_get_bind ?_
      cases hfind : (s.findPartition (evaluateAdmission s requirement now).partition).filter
          fun record ↦ record.state = .active with
      | none => exact advances_pure _ _
      | some record =>
          have hrecord := (Option.filter_eq_some_iff.mp hfind).1
          simp only
          cases s.findAccelerator record.accelerator with
          | none => exact advances_pure _ _
          | some accelerator =>
              simp only
              cases commitObstacle s requirement record accelerator with
              | some obstacle => exact advances_pure _ _
              | none =>
                  intro hg
                  exact keepsGate_admitTo hrecord (hdrain record hrecord)
                    (hg.ids _ record hrecord) hg

/-- The checks that an assignment passes before it is bound. -/
def bindable (s : FabricState) (assignment : PartitionAssignment) (record : PartitionRecord) :
    Bool :=
  assignment.validate.isOk && record.generation = assignment.partitionGeneration &&
    record.state = .active && s.assignments.size < s.limits.maxAssignments &&
    (valid assignment.id || s.ids.allocate.isOk)

lemma identifyAssignment_eq_ok {assignment : PartitionAssignment} {id : PartitionAssignmentId}
    (h : identifyAssignment assignment s = (t, .ok id)) :
    t.partitions = s.partitions ∧ (valid assignment.id || s.ids.allocate.isOk) = true := by
  unfold identifyAssignment at h
  cases hvalid : valid assignment.id with
  | true =>
      rw [hvalid, if_pos rfl] at h
      exact ⟨(Prod.mk.inj h).1 ▸ rfl, by simp⟩
  | false =>
      rw [hvalid, if_neg (by decide)] at h
      refine ⟨allocateId_partitions h, ?_⟩
      unfold allocateId at h
      cases hids : s.ids.allocate with
      | error e =>
          rw [hids] at h
          exact absurd h (by simp)
      | ok p => rfl

lemma keepsGate_identifyAssignment {assignment : PartitionAssignment} :
    Advances KeepsGate (identifyAssignment assignment) s :=
  advances_ite (fun _ ↦ advances_pure _ _) fun _ ↦ keepsGate_allocateId

lemma keepsGate_bindAssignment {assignment : PartitionAssignment}
    (hdrain : ∀ r ∈ s.findPartition assignment.partition, bindable s assignment r = true →
      r.drain.destructiveSafe = false) :
    Advances KeepsGate (bindAssignment assignment) s := by
  refine advances_lift_bind fun _ hvalid ↦ advances_get_bind ?_
  cases hrecord : s.findPartition assignment.partition with
  | none => exact advances_throw _ _
  | some record =>
      refine advances_require_bind fun hgeneration ↦ advances_require_bind fun hactive ↦ ?_
      refine advances_require_bind fun hsize ↦ ?_
      refine advances_bind keepsGate_identifyAssignment fun t id hid ↦ ?_
      obtain ⟨hpartitions, hids⟩ := identifyAssignment_eq_ok hid
      have hbindable : bindable s assignment record = true := by
        unfold bindable
        rw [hvalid, hgeneration, hactive, hsize, hids]
        rfl
      refine advances_modify_modify_bind (fun hg ↦ ?_) (advances_modify gateKept_bump.gated)
      refine gated_occupy (fun _ ↦ rfl) (fun r hr ↦ ?_) hg
      rw [hpartitions] at hr
      obtain rfl := Option.some.inj (hrecord.symm.trans hr)
      exact hdrain record hrecord hbindable

lemma vacate_safe {r : PartitionRecord} {remaining : ℕ} {now : UInt64}
    (h : (r.vacate remaining now).drain.destructiveSafe = true) :
    r.drain.destructiveSafe = true ∨ remaining = 0 := by
  unfold PartitionRecord.vacate at h
  simp only at h
  split at h
  · rename_i hdraining
    split at h
    · exact Or.inr ‹_›
    · simp [DrainProgress.destructiveSafe, hdraining] at h
  · exact Or.inl h

lemma keepsGate_unbindAssignment {id : PartitionAssignmentId} {now : UInt64} :
    Advances KeepsGate (unbindAssignment id now) s := by
  refine advances_get_bind ?_
  cases s.assignments.find? id with
  | none => exact advances_throw _ _
  | some assignment =>
      have herase : Evolves {} 0 s { s with assignments := s.assignments.erase id } := by
        refine evolves_dropAssignments fun k a ha ↦ ?_
        rw [KeyedMap.find?_erase] at ha
        split at ha
        · exact absurd ha (by simp)
        · exact ha
      refine advances_modify_bind (herase.gated fun h ↦ h) ?_
      refine advances_modify_bind (fun hg ↦ ?_) (advances_modify gateKept_bump.gated)
      refine ⟨fun q r hr ↦ ?_, fun q r hr hsafe ↦ ?_⟩
      · rw [FabricState.modifyPartition, KeyedMap.find?_modify] at hr
        split at hr
        · obtain ⟨r₀, hr₀, rfl⟩ := Option.map_eq_some_iff.mp hr
          exact hg.ids q r₀ hr₀
        · exact hg.ids q r hr
      · rw [FabricState.modifyPartition, KeyedMap.find?_modify] at hr
        split at hr
        · rename_i hq
          obtain ⟨r₀, hr₀, rfl⟩ := Option.map_eq_some_iff.mp hr
          rcases vacate_safe hsafe with hbefore | hzero
          · exact hg.safe q r₀ hr₀ hbefore
          · rw [hq]
            exact occupants_eq_zero.mp hzero
        · exact hg.safe q r hr hsafe

/-- The steps that do not put an assignment behind the gate, and do not register a destructive
attempt past it. -/
def gateRespected (s : FabricState) : Op → Prop
  | .bindAssignment assignment => ∀ r ∈ s.findPartition assignment.partition,
      bindable s assignment r = true → r.drain.destructiveSafe = false
  | .admitWorkload requirement now =>
    ∀ r ∈ s.findPartition (evaluateAdmission s requirement now).partition,
      r.drain.saturated = false
  | .beginDrain p _ _ => countsExact s p
  | .beginDrainAccelerator id _ _ => ∀ r ∈ s.partitionsOf id, countsExact s r.id
  | .completeDrain p _ => countsExact s p
  | .registerAttempt id kind _ _ _ => kind ≠ .createPartition →
      ∀ r ∈ s.findReservation id, r.lifecycle = .active → ∀ p ∈ r.partitions, ¬ Occupied s p
  | _ => True

lemma gated_step {op : Op} (hop : gateRespected s op) (hg : Gated s) : Gated (op.step s) := by
  by_cases himport : op.isImport = false
  · by_cases ho : op.scope.occupancy
    · cases op with
      | beginDrain p reason now => exact (gateKept_beginDrain hop).gated hg
      | beginDrainAccelerator id reason now => exact (gateKept_beginDrainAccelerator hop).gated hg
      | completeDrain p now => exact (gateKept_completeDrain hop).gated hg
      | cancelDrain p now => exact gateKept_cancelDrain.gated hg
      | admitWorkload requirement now => exact keepsGate_admitWorkload hop hg
      | bindAssignment assignment => exact keepsGate_bindAssignment hop hg
      | unbindAssignment id now => exact keepsGate_unbindAssignment hg
      | _ => exact absurd ho (fun h ↦ h)
    · exact (evolves_step himport s).gated ho hg
  · cases op with
    | importDurableState d now =>
        change Gated (importDurableState d now s).1
        rcases import_cases d now s with hsame | hrestores
        · rwa [hsame]
        · exact (hrestores.dormant (dormant_restoreRegistry d s)).gated
    | _ => exact absurd rfl himport

/-- A destructive attempt lists vacant partitions only. -/
def Vacates (s : FabricState) (attempt : PartitionAttempt) : Prop :=
  attempt.kind ≠ .createPartition → ∀ p ∈ attempt.partitions, ¬ Occupied s p

/-- A step dispatches destructive mutations for vacant partitions only. -/
def DispatchesVacant (s : FabricState) (op : Op) : Prop :=
  ∀ key attempt, (op.step s).findAttempt key = some attempt →
    s.findAttempt key ≠ some attempt → attempt.state.inFlight = true → Vacates s attempt

lemma Evolves.dispatchesVacant {π : Scope} {floor : UInt64} {op : Op}
    (h : Evolves π floor s (op.step s)) (hreg : ∀ a, π.registers a → Vacates s a) :
    DispatchesVacant s op := by
  intro key attempt hattempt hnew hflight
  obtain ⟨a, ha, hevolves⟩ := h.attempts key attempt hattempt
  obtain rfl := hevolves.flight hflight
  rcases ha with hold | ⟨-, hregistered⟩
  · exact absurd hold hnew
  · exact hreg _ hregistered

lemma vacant_replacedBy {id : AcceleratorId} {affected : List PartitionRecord} (hg : Gated s)
    (h : replacedBy s id = .ok affected) : ∀ p ∈ affected.map PartitionRecord.id,
      ¬ Occupied s p := by
  unfold replacedBy at h
  simp only at h
  split at h
  · exact absurd h (failure_ne_ok _ _ _ _)
  · rename_i hnone
    obtain rfl := Except.ok.inj h
    intro p hp
    obtain ⟨r, hr, rfl⟩ := List.mem_map.mp hp
    have hsafe := List.find?_eq_none.mp hnone r hr
    obtain ⟨key, hkey⟩ := KeyedMap.mem_values.mp
      (List.mem_filter.mp (List.mem_filter.mp hr).1).1
    exact hg.vacant hkey (by simpa using hsafe)

lemma dispatchesVacant_step {op : Op} (hop : gateRespected s op) (hg : Gated s) :
    DispatchesVacant s op := by
  by_cases himport : op.isImport = false
  · have hfloor : s.ids.next ≤ s.ids.next := le_refl _
    cases op with
    | registerAttempt id kind worker boot now =>
        have h : Advances (Evolves { registers := Vacates s } s.ids.next)
            (registerAttempt id kind worker boot now) s := by
          refine advances_registerAttempt hfloor (fun _ _ ↦ trivial) fun r hr hactive a ha hne ↦ ?_
          rw [ha.partitions]
          exact hop (ha.kind ▸ hne) r hr hactive
        exact Evolves.dispatchesVacant h fun _ ha ↦ ha
    | execute id now =>
        have h : Advances (Evolves { registers := Vacates s } s.ids.next) (execute id now) s :=
          advances_execute hfloor (fun _ _ _ ↦ trivial) trivial trivial fun _ _ _ _ a ha hne ↦
            absurd ha.kind hne
        exact Evolves.dispatchesVacant h fun _ ha ↦ ha
    | destroyPartition p now =>
        have h : Advances (Evolves
            { registers := Vacates s, plans := fun _ ↦ True, reserves := True } s.ids.next)
            (destroyPartition p now) s := by
          refine advances_destroyPartition trivial hfloor (fun _ _ _ _ _ _ ↦ trivial)
            (fun _ _ ↦ trivial)
            fun r hr hsafe a ha _ ↦ ?_
          rw [ha.partitions]
          simpa using hg.vacant hr hsafe
        exact Evolves.dispatchesVacant h fun _ ha ↦ ha
    | executeReconfiguration planId now =>
        have h : Advances (Evolves
            { registers := Vacates s, plans := fun _ ↦ True, reserves := True } s.ids.next)
            (executeReconfiguration planId now) s := by
          refine advances_executeReconfiguration trivial hfloor (fun _ _ _ _ _ _ _ _ ↦ trivial)
            trivial fun id affected haffected a ha _ ↦ ?_
          rw [ha.partitions]
          exact vacant_replacedBy hg haffected
        exact Evolves.dispatchesVacant h fun _ ha ↦ ha
    | _ => exact (evolves_step himport s).dispatchesVacant fun _ ha ↦ absurd ha fun h ↦ h
  · cases op with
    | importDurableState d now =>
        intro key attempt hattempt hnew hflight
        change (importDurableState d now s).1.findAttempt key = some attempt at hattempt
        rcases import_cases d now s with hsame | hrestores
        · rw [hsame] at hattempt
          exact absurd hattempt hnew
        · -- an import brings no attempt back in flight
          have hdormant := hrestores.dormant (dormant_restoreRegistry d s)
          rw [hdormant.attempts key attempt hattempt] at hflight
          exact absurd hflight (by decide)
    | _ => exact absurd rfl himport

/-- In every run that respects the gate, a partition that may be destroyed is vacant, and
destructive mutations are dispatched for vacant partitions only. -/
theorem drain_gate (hs : fabric.Reachable gateRespected s) :
    (∀ p r, s.findPartition p = some r → destructionSafe s r = true → ¬ Occupied s r.id) ∧
      ∀ op, gateRespected s op → DispatchesVacant s op := by
  have hg : Gated s := by
    refine hs.invariant ?_ fun s op hg hop ↦ gated_step hop hg
    rintro _ ⟨options, now, rfl⟩
    refine ⟨fun p r hr ↦ ?_, fun p r hr ↦ ?_⟩
    all_goals exact absurd hr (by simp [FabricState.opened])
  exact ⟨fun p r hr hsafe ↦ hg.vacant hr hsafe, fun op hop ↦ dispatchesVacant_step hop hg⟩

namespace Sample

/-- The slice is drained. -/
def drained : List Op := created ++ [.beginDrain 4 [] 6]

/-- The device of the drained slice disappears and returns, and the slice is adopted. -/
def adopted : List Op :=
  drained ++ [.setPolicy { makeDefaultPolicy 1 with allowExternalAdoption := true },
    .reconcile 1 { layout ["a"] with devicePresent := false } 7,
    .reconcile 1 (layout ["a"]) 8, .reconcile 1 (layout ["a"]) 9]

/-- A workload on the adopted slice. -/
def late : PartitionAssignment :=
  { id := 100
    partition := 4
    partitionGeneration := 1
    accelerator := 1
    acceleratorGeneration := 1
    workloadId := "w" }

/-- The adopted slice is occupied. -/
def occupied : List Op := adopted ++ [.bindAssignment late]

end Sample

/-- The drain of a slice survives its adoption, so a workload bound to it afterwards stands
behind the gate, and its slice is destroyed under it. -/
theorem drain_gate_after_adoption : ∃ s, fabric.Reachable anyOp s ∧
    (∃ r, s.findPartition 4 = some r ∧ destructionSafe s r = true ∧ Occupied s r.id) ∧
    ¬ DispatchesVacant s (.destroyPartition 4 10) := by
  let s := fabric.run Sample.occupied Sample.opened
  have hs : fabric.Reachable anyOp s :=
    System.Reachable.run (.initial ⟨_, _, rfl⟩) (by decide)
  have hassigned : (s.assignments.find? 100).any (fun a ↦ a.partition = 4) = true := by
    decide +kernel
  have hoccupied : Occupied s 4 := by
    obtain ⟨a, ha, hp⟩ := (Option.any_eq_true _ _).mp hassigned
    exact ⟨100, a, ha, of_decide_eq_true hp⟩
  refine ⟨s, hs, ?_, fun h ↦ ?_⟩
  · have hsafe : (s.findPartition 4).any (fun r ↦ destructionSafe s r && r.id = 4) = true := by
      decide +kernel
    obtain ⟨r, hr, hboth⟩ := (Option.any_eq_true _ _).mp hsafe
    obtain ⟨hdestroy, hid⟩ := Bool.and_eq_true_iff.mp hboth
    exact ⟨r, hr, hdestroy, of_decide_eq_true hid ▸ hoccupied⟩
  · have hdispatched : (((Op.destroyPartition 4 10).step s).findAttempt 11).any (fun a ↦
        a.state.inFlight && a.kind ≠ .createPartition && a.partitions = [4]) = true := by
      decide +kernel
    obtain ⟨a, ha, hall⟩ := (Option.any_eq_true _ _).mp hdispatched
    obtain ⟨hboth, hparts⟩ := Bool.and_eq_true_iff.mp hall
    obtain ⟨hflight, hkind⟩ := Bool.and_eq_true_iff.mp hboth
    have hnew : s.findAttempt 11 ≠ some a := by
      have hnone : (s.findAttempt 11).isNone = true := by decide +kernel
      rw [Option.isNone_iff_eq_none.mp hnone]
      exact Option.some_ne_none a ∘ Eq.symm
    refine h 11 a ha hnew hflight (of_decide_eq_true hkind) 4 ?_ hoccupied
    rw [of_decide_eq_true hparts]
    exact List.mem_singleton_self 4

theorem drain_gate_drained :
    let s := fabric.run Sample.drained Sample.opened
    ¬ Occupied s 4 ∧ DispatchesVacant s (.destroyPartition 4 7) := by
  intro s
  have hs : fabric.Reachable gateRespected s := by
    refine System.Reachable.run (.initial ⟨_, _, rfl⟩) (System.follows_append.mpr ⟨?_, ?_, trivial⟩)
    · exact ⟨trivial, trivial, trivial, trivial, trivial, trivial⟩
    · have hnone : (fabric.run Sample.created Sample.opened).occupants 4 = 0 := by decide +kernel
      exact fun _ ↦ hnone
  have hsafe : (s.findPartition 4).any (fun r ↦ destructionSafe s r && r.id = 4) = true := by
    decide +kernel
  obtain ⟨r, hr, hboth⟩ := (Option.any_eq_true _ _).mp hsafe
  obtain ⟨hdestroy, hid⟩ := Bool.and_eq_true_iff.mp hboth
  obtain ⟨hvacant, hdispatch⟩ := drain_gate hs
  exact ⟨of_decide_eq_true hid ▸ hvacant 4 r hr hdestroy, hdispatch _ trivial⟩

end PartitionFabric
