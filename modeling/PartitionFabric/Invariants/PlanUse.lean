import PartitionFabric.Invariants.Closure

/-!
When a plan that was just built may be used: what the planner binds against what the validation
of a binding counts.
-/

namespace PartitionFabric

open Procedure

variable {s : FabricState}

lemma named_restoreRegistry (d : DurableState) (s : FabricState) : Named (d.restoreRegistry s) := by
  intro k a ha _
  obtain ⟨record, -, hid, rfl⟩ := (KeyedMap.find?_foldl_insert ha).resolve_right (by simp)
  exact hid

lemma named_step (op : Op) (hn : Named s) : Named (op.step s) := by
  by_cases himport : op.isImport = false
  · exact (evolves_step himport s).named hn
  · cases op <;> simp only [Op.isImport, not_true_eq_false, Bool.true_eq_false, not_false_eq_true]
      at himport
    rename_i d now
    change Named (importDurableState d now s).1
    rcases import_cases d now s with hsame | hrestores
    · rwa [hsame]
    · unfold Named
      rw [hrestores.accelerators]
      exact named_restoreRegistry d s

/-- The guard of unrestricted runs. -/
abbrev anyOp (_ : FabricState) (_ : Op) : Prop := True

lemma named_of_reachable (hs : fabric.Reachable anyOp s) : Named s := by
  refine hs.invariant ?_ fun _ op hn _ ↦ named_step op hn
  rintro _ ⟨options, now, rfl⟩ k a ha
  exact absurd ha (by simp [FabricState.opened])

/-- The evidence window of a request: its own, or the one of the policy. -/
def planWindow (s : FabricState) (request : PartitionRequest) : UInt64 :=
  if request.maxEvidenceAgeMs ≠ 0 then request.maxEvidenceAgeMs else s.policy.maxEvidenceAgeMs

/-- A binding built now is expired at once exactly when its end wraps past zero. -/
lemma expiredAt_now (binding : PlanBinding) (window now : UInt64)
    (h : binding.validUntilMs = if window = 0 then 0 else now + window) :
    binding.expiredAt now = false ↔ now.toNat + window.toNat ≤ 2 ^ 64 := by
  have hnow := now.toNat_lt
  have hwindow := window.toNat_lt
  unfold PlanBinding.expiredAt
  rw [h]
  by_cases hzero : window = 0
  · subst hzero
    simp only [if_true, bne_self_eq_false, Bool.false_and, true_iff]
    simpa using Nat.le_of_lt hnow
  · rw [if_neg hzero]
    simp only [Bool.and_eq_false_iff, bne_eq_false_iff_eq, decide_eq_false_iff_not, gt_iff_lt,
      UInt64.lt_iff_toNat_lt, ← UInt64.toNat_inj, UInt64.toNat_add, UInt64.toNat_zero]
    have hpos : 0 < window.toNat := by
      rw [Nat.pos_iff_ne_zero]
      exact fun h ↦ hzero (UInt64.toNat_inj.mp h)
    omega

/-- Every record of the device takes part in its layout. -/
def allInLayout (s : FabricState) (id : AcceleratorId) : Prop :=
  ∀ record ∈ s.partitionsOf id, inLayout record = true

/-- A binding that lists every record of its device binds each of them. -/
lemma unboundRecord_eq_none {binding : PlanBinding}
    (h : binding.layout = (s.partitionsOf binding.accelerator).map fun r ↦ (r.id, r.generation)) :
    unboundRecord s binding = none := by
  unfold unboundRecord
  rw [List.find?_eq_none]
  intro record hrecord
  have hmem : (record.id, record.generation) ∈ binding.layout := by
    rw [h]
    exact List.mem_map.mpr ⟨record, hrecord, rfl⟩
  simp [hmem]

/-- The count of the validation agrees with such a binding when nothing on the device is dead. -/
lemma seen_eq_length {binding : PlanBinding}
    (h : binding.layout = (s.partitionsOf binding.accelerator).map fun r ↦ (r.id, r.generation)) :
    (s.partitionsOf binding.accelerator).countP inLayout = binding.layout.length ↔
      allInLayout s binding.accelerator := by
  rw [h, List.length_map, List.countP_eq_length]
  rfl

/-- A plan that was just built is usable in the state it was built from exactly when the selected
device has no retired, failed or unpartitioned record and the validity window does not wrap. -/
theorem fresh_plan_usable (hs : fabric.Reachable anyOp s) {request : PartitionRequest}
    {now : UInt64} (hfeasible : (buildPlan s request now).feasible = true) :
    validatePlanBinding s (buildPlan s request now) now s.policy.requireFreshEvidence = success ↔
      (∀ id ∈ selectedDevice s request now, allInLayout s id) ∧
        now.toNat + (planWindow s request).toNat ≤ 2 ^ 64 := by
  obtain ⟨key, a, profile, ha, -, hhard, hselected, hbinding⟩ := buildPlan_feasible hfeasible
  obtain ⟨hfresh, hvalid, -⟩ := hardRejection_none hhard
  have hfind : s.findAccelerator a.id = some a := by
    rw [named_of_reachable hs key a ha hvalid]
    exact ha
  have hexpired := expiredAt_now (buildPlan s request now).binding (planWindow s request) now
    (by rw [hbinding]; rfl)
  have hlayout : (buildPlan s request now).binding.layout =
      (s.partitionsOf (buildPlan s request now).binding.accelerator).map
        fun r ↦ (r.id, r.generation) := by
    rw [hbinding]
  have haccelerator : (buildPlan s request now).binding.accelerator = a.id := by
    rw [hbinding]
  have hdevice : (∀ id ∈ selectedDevice s request now, allInLayout s id) ↔
      allInLayout s a.id := by
    rw [hselected]
    simp
  rw [hdevice, ← hexpired, ← haccelerator, ← seen_eq_length hlayout]
  unfold validatePlanBinding
  rw [if_neg (by rw [hbinding]; simp), buildPlan_terminal, if_neg (by decide)]
  cases (buildPlan s request now).binding.expiredAt now with
  | true => simp [success]
  | false =>
      rw [if_neg (by decide), haccelerator, if_neg (by simp [hvalid]), hfind]
      simp only
      rw [if_neg (by rw [hbinding]; simp [hfind]), if_neg (by rw [hbinding]; simp [hfind]),
        if_neg (by rw [hbinding]; simp [hfind]), if_neg (by simpa using hfresh),
        unboundRecord_eq_none hlayout]
      simp only
      split
      · rename_i hne
        simp [success, hne]
      · rename_i heq
        simpa using heq

/-- The plan for a second slice counts the released first one, which the validation skips. -/
theorem fresh_plan_unusable : ∃ s request now, fabric.Reachable anyOp s ∧
    (buildPlan s request now).feasible = true ∧
    validatePlanBinding s (buildPlan s request now) now s.policy.requireFreshEvidence ≠
      success := by
  refine ⟨fabric.run (Sample.reserved ++ [.releaseReservation 3 [] 4]) Sample.opened,
    { profile := 1 }, 5, ?_, by decide +kernel, by decide +kernel⟩
  exact System.Reachable.run (.initial ⟨_, _, rfl⟩) (by decide)

/-- Two slices are reserved on the first of two devices, and then given up again. -/
theorem fresh_plan_usable_slices :
    let s := fabric.run
      [.registerBackendAccelerator Sample.device 1,
        .registerBackendAccelerator
          { Sample.device with stableKey := "gpu-b", physicalTotals := Sample.memory 8 } 1,
        .plan { profile := 1, count := 2 } 2, .reserve 3 3] Sample.opened
    let t := fabric.run [.releaseReservation 4 [] 4] s
    (buildPlan s { profile := 1 } 5).binding.layout = [(5, 1), (6, 1)] ∧
      validatePlanBinding s (buildPlan s { profile := 1 } 5) 5 s.policy.requireFreshEvidence =
        success ∧
      validatePlanBinding t (buildPlan t { profile := 1 } 5) 5 t.policy.requireFreshEvidence ≠
        success := by
  intro s t
  have hs : fabric.Reachable anyOp s := System.Reachable.run (.initial ⟨_, _, rfl⟩) (by decide)
  have ht : fabric.Reachable anyOp t := System.Reachable.run hs (by decide)
  have hlayout : ∀ record ∈ s.partitions.values, inLayout record = true := by decide +kernel
  refine ⟨by decide +kernel, (fresh_plan_usable hs (by decide +kernel)).mpr
    ⟨fun id _ record hrecord ↦ hlayout record (List.mem_filter.mp hrecord).1, by decide +kernel⟩,
    fun husable ↦ ?_⟩
  have hall := ((fresh_plan_usable ht (by decide +kernel)).mp husable).1 1 (by decide +kernel)
  have hretired : ¬ ∀ record ∈ t.partitionsOf 1, inLayout record = true := by decide +kernel
  exact hretired hall

end PartitionFabric
