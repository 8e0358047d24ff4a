import PartitionFabric.Invariants.Selection

/-!
The limits that requests and policies declare for a plan: what the planner schedules, and when
the device that the ranking selects happens to keep within them.
-/

namespace PartitionFabric

variable {s : FabricState} {request : PartitionRequest} {profile : PartitionProfile}
  {now : UInt64} {a : AcceleratorRecord} {outcome : PlanOutcome}

/-- The steps that change what exists on a device. -/
def PlanStepKind.physical : PlanStepKind → Bool
  | .reconfigureLayout | .createPartition | .destroyPartition => true
  | _ => false

/-- The physical mutations that a plan schedules. -/
def PartitionPlan.mutations (plan : PartitionPlan) : ℕ :=
  plan.steps.countP fun step ↦ step.kind.physical

lemma countP_pushSteps (s : FabricState) (binding : PlanBinding) (id : PartitionProfileId)
    (steps : List PlanStep) :
    (pushSteps s binding id steps).countP (fun step ↦ step.kind.physical) =
      (steps.take s.limits.maxPlanSteps).countP fun step ↦ step.kind.physical := by
  unfold pushSteps
  generalize steps.take s.limits.maxPlanSteps = kept
  rw [List.mapIdx_eq_zipIdx_map, List.countP_map]
  calc kept.zipIdx.countP _ = kept.zipIdx.countP ((fun step ↦ step.kind.physical) ∘ Prod.fst) := rfl
    _ = (kept.zipIdx.map Prod.fst).countP fun step ↦ step.kind.physical := List.countP_map.symm
    _ = kept.countP fun step ↦ step.kind.physical := by rw [List.zipIdx_map_fst]

/-- What a block of a list contributes to a prefix of it. -/
lemma countP_take_block {α : Type*} {p : α → Bool} {before block after : List α} (n : ℕ)
    (hbefore : ∀ x ∈ before, p x = false) (hblock : ∀ x ∈ block, p x = true)
    (hafter : ∀ x ∈ after, p x = false) :
    ((before ++ block ++ after).take n).countP p = min block.length (n - before.length) := by
  have hnone {l : List α} (h : ∀ x ∈ l, p x = false) (m : ℕ) : (l.take m).countP p = 0 :=
    List.countP_eq_zero.mpr fun x hx ↦ by simp [h x (List.mem_of_mem_take hx)]
  have hall (m : ℕ) : (block.take m).countP p = min m block.length := by
    rw [List.countP_eq_length.mpr fun x hx ↦ hblock x (List.mem_of_mem_take hx),
      List.length_take]
  rw [List.append_assoc, List.take_append, List.take_append, List.countP_append,
    List.countP_append, hnone hbefore, hnone hafter, hall]
  omega

/-- The steps that come before anything physical: the reservation and the drains. -/
def preparingSteps (chosen : CandidateEvaluation) : ℕ :=
  if chosen.outcome = .feasibleNow then 1
  else 1 + 2 * chosen.fragmentation.partitionsToDrain.length

/-- The mutations that serving a request takes: a creation for each partition, and the layout
change that makes room for them. -/
def neededMutations (request : PartitionRequest) (outcome : PlanOutcome) : ℕ :=
  if outcome = .feasibleAfterReconfiguration then request.count.toNat + 1
  else request.count.toNat

/-- A plan schedules the mutations that serving the request takes, as far as the bound on its
steps lets it. -/
lemma countP_planSteps {chosen : CandidateEvaluation} (n : ℕ) (capability : PartitionCapability)
    (hfeasible : planOutcomeFeasible chosen.outcome = true) :
    ((planSteps request capability chosen).take n).countP (fun step ↦ step.kind.physical) =
      min (neededMutations request chosen.outcome) (n - preparingSteps chosen) := by
  have hdrains (partitions : List PartitionId) (drain await : PartitionId → PlanStep) :
      (partitions.flatMap fun p ↦ [drain p, await p]).length = 2 * partitions.length := by
    rw [List.length_flatMap]
    simp [Nat.mul_comm]
  have hquiet (reservation : PlanStep) (partitions : List PartitionId)
      (drain await : PartitionId → PlanStep) (hreservation : reservation.kind.physical = false)
      (hdrain : ∀ p, (drain p).kind.physical = false)
      (hawait : ∀ p, (await p).kind.physical = false) :
      ∀ step ∈ [reservation] ++ partitions.flatMap fun p ↦ [drain p, await p],
        step.kind.physical = false := by
    intro step hstep
    rcases List.mem_append.mp hstep with hfirst | hrest
    · rw [List.mem_singleton.mp hfirst]
      exact hreservation
    · obtain ⟨p, -, hp⟩ := List.mem_flatMap.mp hrest
      rcases List.mem_pair.mp hp with rfl | rfl
      · exact hdrain p
      · exact hawait p
  unfold planSteps preparingSteps neededMutations
  cases hout : chosen.outcome with
  | feasibleNow =>
      simp only [reduceCtorEq, decide_false, Bool.or_self, Bool.false_eq_true, if_false,
        List.append_nil, if_true]
      refine (countP_take_block n ?_ ?_ ?_).trans ?_
      · simp [PlanStepKind.physical]
      · simp [PlanStepKind.physical]
      · simp [PlanStepKind.physical]
      · simp
  | feasibleAfterDrain =>
      simp only [reduceCtorEq, decide_true, decide_false, Bool.or_false, if_true,
        Bool.false_eq_true, if_false, List.append_nil]
      refine (countP_take_block n (hquiet _ _ _ _ rfl (fun _ ↦ rfl) fun _ ↦ rfl) ?_ ?_).trans ?_
      · simp [PlanStepKind.physical]
      · simp [PlanStepKind.physical]
      · simp only [List.length_append, List.length_cons, List.length_nil, List.length_map,
          List.length_range, hdrains]
  | feasibleAfterReconfiguration =>
      simp only [reduceCtorEq, decide_true, decide_false, Bool.or_true, if_true, if_false]
      rw [List.append_assoc (_ ++ _) [_] (List.map _ _)]
      refine (countP_take_block n (hquiet _ _ _ _ rfl (fun _ ↦ rfl) fun _ ↦ rfl) ?_ ?_).trans ?_
      · simp [PlanStepKind.physical]
      · simp [PlanStepKind.physical]
      · simp only [List.length_append, List.length_cons, List.length_nil, List.length_map,
          List.length_range, hdrains]
        omega
  | _ =>
      rw [hout] at hfeasible
      cases hfeasible

/-- The mutations of a plan bound to a device. -/
lemma mutations_eq (hserves : ServedBy s request profile now a outcome) {plan : PartitionPlan}
    (hplans : PlansFor s request profile now a plan) :
    plan.mutations = min (neededMutations request outcome) (s.limits.maxPlanSteps -
      preparingSteps { outcome := outcome, fragmentation := deviceReport s request a }) := by
  unfold PartitionPlan.mutations
  rw [hplans.steps, countP_pushSteps, evaluateCandidate_of_serves hserves,
    countP_planSteps _ _ hserves.feasible]
  rfl

/-- A device without partitions has room for a number of instances of a profile. -/
structure EmptyDeviceHolds (s : FabricState) (a : AcceleratorRecord) (profile : PartitionProfile)
    (count : UInt32) : Prop where
  slots : count ≤ a.capability.maxPartitionCount
  multiplicity : count ≤ (multiplicityCap s a profile 0 0).1
  compute : 0 < a.capability.totalComputeSlices →
    count.toNat * profile.computeSliceCount.toNat ≤ a.capability.totalComputeSlices.toNat
  memory : 0 < a.capability.totalMemorySlices →
    count.toNat * profile.memorySliceCount.toNat ≤ a.capability.totalMemorySlices.toNat

/-- The device that a plan is bound to, as the registry knows it. -/
def FabricState.boundDevice (s : FabricState) (id : AcceleratorId) : AcceleratorRecord :=
  (s.findAccelerator id).getD {}

/-- A feasible plan keeps within what the request and the policy declare. -/
structure HonoursLimits (s : FabricState) (now : UInt64) (plan : PartitionPlan) : Prop where
  minimum : ∀ planned ∈ plan.plannedPartitions,
    plan.request.minimumResources.isSubsetOf planned.resources = true
  isolation : s.policy.minimumIsolation.required.isSubsetOf
    (s.boundDevice plan.binding.accelerator).capability.isolation = true
  age : plan.request.maxEvidenceAgeMs ≠ 0 →
    now.toNat ≤ (s.boundDevice plan.binding.accelerator).evidence.observedAtMs.toNat +
      plan.request.maxEvidenceAgeMs.toNat
  mutations : plan.mutations ≤ s.policy.maxPartitionMutationsPerPlan.toNat
  downtime : plan.outcome = .feasibleAfterReconfiguration →
    s.policy.maxReconfigurationDowntimeMs ≠ 0 →
    (s.boundDevice plan.binding.accelerator).capability.reconfigurationEstimateMs ≤
      s.policy.maxReconfigurationDowntimeMs
  target : plan.outcome = .feasibleAfterReconfiguration → ∀ profile,
    s.findProfile plan.request.profile = some profile →
    EmptyDeviceHolds s (s.boundDevice plan.binding.accelerator) profile plan.request.count

/-- What a request and the registry must happen to satisfy at the device that ranks first. -/
structure WithinLimits (s : FabricState) (request : PartitionRequest)
    (profile : PartitionProfile) (now : UInt64) (a : AcceleratorRecord) (outcome : PlanOutcome) :
    Prop where
  minimum : request.minimumResources.isSubsetOf profile.resources = true
  isolation : s.policy.minimumIsolation.required.isSubsetOf
    (s.boundDevice a.id).capability.isolation = true
  age : request.maxEvidenceAgeMs ≠ 0 → now.toNat ≤
    (s.boundDevice a.id).evidence.observedAtMs.toNat + request.maxEvidenceAgeMs.toNat
  mutations : neededMutations request outcome ≤ s.policy.maxPartitionMutationsPerPlan.toNat ∨
    s.limits.maxPlanSteps ≤ s.policy.maxPartitionMutationsPerPlan.toNat +
      preparingSteps { outcome := outcome, fragmentation := deviceReport s request a }
  rebuilt : outcome = .feasibleAfterReconfiguration →
    (s.policy.maxReconfigurationDowntimeMs ≠ 0 →
      (s.boundDevice a.id).capability.reconfigurationEstimateMs ≤
        s.policy.maxReconfigurationDowntimeMs) ∧
    EmptyDeviceHolds s (s.boundDevice a.id) profile request.count

lemma buildPlan_request (s : FabricState) (request : PartitionRequest) (now : UInt64) :
    (buildPlan s request now).request = request := by
  unfold buildPlan
  simp only
  cases request.validate s.limits with
  | error e => rfl
  | ok u =>
      simp only
      cases s.findProfile request.profile with
      | none => rfl
      | some profile =>
          simp only
          cases bestEligible (s.accelerators.values.map
            (evaluateCandidate s request profile now)) <;> rfl

lemma count_ne_zero_of_validate {limits : Limits} (h : request.validate limits = success) :
    request.count ≠ 0 := by
  unfold PartitionRequest.validate at h
  split at h
  · exact absurd h (failure_ne_ok _ _ _ _)
  · split at h
    · exact absurd h (failure_ne_ok _ _ _ _)
    · assumption

/-- A plan bound to a device honours the limits exactly when they hold there. -/
lemma honoursLimits_iff {plan : PartitionPlan} (hvalid : request.validate s.limits = success)
    (hprofile : s.findProfile request.profile = some profile) (hrequest : plan.request = request)
    (hserves : ServedBy s request profile now a plan.outcome)
    (hplans : PlansFor s request profile now a plan) :
    HonoursLimits s now plan ↔ WithinLimits s request profile now a plan.outcome := by
  have hmutations := mutations_eq hserves hplans
  have hsome : 0 ∈ List.range request.count.toNat := by
    have hcount : request.count.toNat ≠ 0 := fun h ↦
      count_ne_zero_of_validate hvalid (UInt32.toNat.inj h)
    exact List.mem_range.mpr (Nat.pos_of_ne_zero hcount)
  constructor
  · intro h
    have hdevice := hplans.accelerator
    refine ⟨?_, hdevice ▸ h.isolation, fun hne ↦ ?_, ?_, fun hout ↦ ⟨fun hne ↦ ?_, ?_⟩⟩
    · have hplanned := h.minimum
      rw [hplans.planned, hrequest] at hplanned
      exact List.forall_mem_map.mp hplanned 0 hsome
    · have hage := h.age
      rw [hrequest, hdevice] at hage
      exact hage hne
    · have hbound := h.mutations
      rw [hmutations] at hbound
      omega
    · exact hdevice ▸ h.downtime hout hne
    · have htarget := h.target hout profile
      rw [hrequest, hdevice] at htarget
      exact htarget hprofile
  · intro h
    refine ⟨fun planned hmem ↦ ?_, ?_, ?_, ?_, fun hout hne ↦ ?_, fun hout profile' hfound ↦ ?_⟩
    · rw [hplans.planned] at hmem
      obtain ⟨ordinal, -, rfl⟩ := List.mem_map.mp hmem
      rw [hrequest]
      exact h.minimum
    · rw [hplans.accelerator]
      exact h.isolation
    · rw [hrequest, hplans.accelerator]
      exact h.age
    · have hbound := h.mutations
      rw [hmutations]
      omega
    · rw [hplans.accelerator]
      exact (h.rebuilt hout).1 hne
    · rw [hrequest] at hfound ⊢
      obtain rfl := Option.some.inj (hprofile.symm.trans hfound)
      rw [hplans.accelerator]
      exact (h.rebuilt hout).2

/-- Feasible plans honour the declared limits exactly when the device that the ranking selects
without looking at them happens to keep within them. -/
theorem plan_limits_iff (s : FabricState) (request : PartitionRequest) (now : UInt64) :
    ((buildPlan s request now).feasible = true →
        HonoursLimits s now (buildPlan s request now)) ↔
      ∀ profile key a outcome, request.validate s.limits = success →
        s.findProfile request.profile = some profile →
        BindsTo s request profile now key a outcome →
        WithinLimits s request profile now a outcome := by
  have hrequest := buildPlan_request s request now
  constructor
  · intro h profile key a outcome hvalid hprofile hbinds
    obtain ⟨hfeasible, rfl, hplans⟩ := feasible_of_bindsTo hvalid hprofile hbinds
    exact (honoursLimits_iff hvalid hprofile hrequest hbinds.serves hplans).mp (h hfeasible)
  · intro h hfeasible
    obtain ⟨hvalid, profile, key, a, hprofile, hbinds, hplans⟩ := feasible_bindsTo hfeasible
    exact (honoursLimits_iff hvalid hprofile hrequest hbinds.serves hplans).mpr
      (h profile key a _ hvalid hprofile hbinds)

/-- A slice is planned for a request that needs more memory than a slice has. -/
theorem minimum_not_honoured :
    ¬ ((buildPlan Sample.registered { Sample.slice with minimumResources := Sample.memory 64 }
        2).feasible = true → HonoursLimits Sample.registered 2
      (buildPlan Sample.registered { Sample.slice with minimumResources := Sample.memory 64 } 2)) := by
  intro h
  let plan := buildPlan Sample.registered
    { Sample.slice with minimumResources := Sample.memory 64 } 2
  have hfeasible : plan.feasible = true := by decide +kernel
  have hshort : plan.plannedPartitions.all (fun planned ↦
      plan.request.minimumResources.isSubsetOf planned.resources) = false := by decide +kernel
  have hhonours : HonoursLimits Sample.registered 2 plan := h hfeasible
  clear_value plan
  rw [List.all_eq_true.mpr hhonours.minimum] at hshort
  cases hshort

end PartitionFabric
