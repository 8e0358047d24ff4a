import Mathlib.Data.Int.ConditionallyCompleteOrder
import PartitionFabric.Fabric.Plans
import PartitionFabric.Foundation.Selection

/-!
What a feasible plan says about the device it binds.
-/

namespace PartitionFabric

/-- The ranking keeps the first of the eligible candidates with the least score. -/
lemma bestEligible_eq (cs : List CandidateEvaluation) : bestEligible cs =
    (cs.filter CandidateEvaluation.eligible).argmin fun c ↦ c.score.total := by
  rw [← foldl_keepLesser_filter]
  unfold bestEligible keepLesser
  congr 1
  funext best c
  cases c.eligible with
  | false => rfl
  | true =>
      rw [Bool.not_true, if_neg Bool.false_ne_true, if_pos rfl]
      cases best <;> rfl

/-- The chosen candidate is one of the eligible ones. -/
theorem bestEligible_mem {cs : List CandidateEvaluation} {b : CandidateEvaluation}
    (h : bestEligible cs = some b) : b ∈ cs ∧ b.eligible = true := by
  rw [bestEligible_eq] at h
  exact List.mem_filter.mp (List.argmin_mem h)

/-- The headline failure is that of the first rejected candidate with the least severity. -/
lemma bestFailure_eq (cs : List CandidateEvaluation) : bestFailure cs =
    ((cs.filter fun c ↦ !c.eligible).argmin fun c ↦ failureSeverity c.outcome).elim
      .noEligibleAccelerator CandidateEvaluation.outcome := by
  let failure (c : CandidateEvaluation) : ℕ × PlanOutcome :=
    (failureSeverity c.outcome, c.outcome)
  have hscan : cs.foldl (fun best c ↦ if !c.eligible then keepLesser Prod.fst best (failure c)
      else best) none =
      ((cs.filter fun c ↦ !c.eligible).argmin fun c ↦ failureSeverity c.outcome).map failure := by
    rw [← List.foldl_filter, ← List.foldl_map, foldl_keepLesser, argmin_map]
    rfl
  trans (cs.foldl (fun best c ↦ if !c.eligible then keepLesser Prod.fst best (failure c)
    else best) none).elim .noEligibleAccelerator Prod.snd
  · unfold bestFailure
    congr 2
    funext best c
    cases c.eligible with
    | true => rfl
    | false =>
        rw [Bool.not_false, if_pos rfl, if_neg Bool.false_ne_true]
        cases best <;> rfl
  · rw [hscan]
    cases (cs.filter fun c ↦ !c.eligible).argmin fun c ↦ failureSeverity c.outcome <;> rfl

lemma bestFailure_cases (cs : List CandidateEvaluation) :
    bestFailure cs = .noEligibleAccelerator ∨
      ∃ c ∈ cs, c.eligible = false ∧ bestFailure cs = c.outcome := by
  rw [bestFailure_eq]
  cases hbest : (cs.filter fun c ↦ !c.eligible).argmin fun c ↦ failureSeverity c.outcome with
  | none => exact Or.inl rfl
  | some c =>
      obtain ⟨hc, hel⟩ := List.mem_filter.mp (List.argmin_mem hbest)
      exact Or.inr ⟨c, hc, by simpa using hel, rfl⟩

/-- An analysis names no obstacle only when the request is feasible at once. -/
lemma analyzeFragmentation_none {s : FabricState} {accelerator : AcceleratorRecord}
    {ledger : CapacityLedger} {request : PartitionRequest}
    (h : (analyzeFragmentation s accelerator ledger request).classification = .none) :
    (analyzeFragmentation s accelerator ledger request).feasibleNow = true := by
  unfold analyzeFragmentation analyzeRecovery at *
  grind

lemma permittedOutcome_eligible (s : FabricState) (request : PartitionRequest)
    (report : FragmentationReport) :
    (permittedOutcome s request report).2 = planOutcomeFeasible
      (permittedOutcome s request report).1 := by
  unfold permittedOutcome
  split
  · rfl
  · split
    · rfl
    · split <;> rfl

lemma reject_eq_some {c : Prop} [Decidable c] {o out : PlanOutcome} {rest : Option PlanOutcome}
    (h : (if c then some o else rest) = some out) : o = out ∨ rest = some out := by
  split at h
  · exact Or.inl (Option.some.inj h)
  · exact Or.inr h

lemma reject_eq_none {c : Prop} [Decidable c] {o : PlanOutcome} {rest : Option PlanOutcome}
    (h : (if c then some o else rest) = none) : ¬ c ∧ rest = none := by
  split at h
  · exact absurd h (by simp)
  · exact ⟨‹_›, h⟩

lemma hardRejection_infeasible {s : FabricState} {request : PartitionRequest}
    {profile : PartitionProfile} {accelerator : AcceleratorRecord} {now : UInt64}
    {outcome : PlanOutcome} (h : hardRejection s request profile accelerator now = some outcome) :
    planOutcomeFeasible outcome = false := by
  unfold hardRejection at h
  iterate 14
    rcases reject_eq_some h with rfl | h
    · rfl
  exact absurd h (by simp)

/-- A candidate is eligible exactly when its outcome is feasible, and then its device met every
hard constraint. -/
theorem evaluateCandidate_spec (s : FabricState) (request : PartitionRequest)
    (profile : PartitionProfile) (now : UInt64) (accelerator : AcceleratorRecord) :
    (evaluateCandidate s request profile now accelerator).accelerator = accelerator.id ∧
      (evaluateCandidate s request profile now accelerator).eligible = planOutcomeFeasible
        (evaluateCandidate s request profile now accelerator).outcome ∧
      ((evaluateCandidate s request profile now accelerator).eligible = true →
        hardRejection s request profile accelerator now = none) := by
  unfold evaluateCandidate
  simp only
  cases hhard : hardRejection s request profile accelerator now with
  | some outcome => exact ⟨rfl, (hardRejection_infeasible hhard).symm, by simp⟩
  | none =>
      cases s.findLedger accelerator.id with
      | none => exact ⟨rfl, rfl, by simp⟩
      | some ledger =>
          simp only
          split
          · have hperm := permittedOutcome_eligible s request
              (analyzeFragmentation s accelerator ledger request)
            split
            · rename_i hel
              exact ⟨rfl, by rw [← hperm, hel], fun _ ↦ trivial⟩
            · rename_i hel
              exact ⟨rfl, by rw [← hperm]; simpa using hel, fun _ ↦ trivial⟩
          · rename_i hnot
            refine ⟨rfl, ?_, fun _ ↦ trivial⟩
            have hclass : (analyzeFragmentation s accelerator ledger request).classification ≠
                .none := fun h ↦ hnot (by simp [analyzeFragmentation_none h])
            cases hc : (analyzeFragmentation s accelerator ledger request).classification with
            | none => exact absurd hc hclass
            | _ => rfl

/-- The device that the ranking of the eligible candidates selects for a request. -/
def selectedDevice (s : FabricState) (request : PartitionRequest) (now : UInt64) :
    Option AcceleratorId :=
  (s.findProfile request.profile).bind fun profile ↦
    (bestEligible (s.accelerators.values.map (evaluateCandidate s request profile now))).map
      CandidateEvaluation.accelerator

/-- A feasible plan is bound to a device that met every hard constraint of its request. -/
theorem buildPlan_feasible {s : FabricState} {request : PartitionRequest} {now : UInt64}
    (h : (buildPlan s request now).feasible = true) :
    ∃ key accelerator profile, s.accelerators.find? key = some accelerator ∧
      s.profiles.find? request.profile = some profile ∧
      hardRejection s request profile accelerator now = none ∧
      selectedDevice s request now = some accelerator.id ∧
      (buildPlan s request now).binding =
        { policyGeneration := s.policyGeneration
          coordinatorEpoch := s.coordinatorEpoch
          stateGeneration := s.stateGeneration
          plannedAtMs := now
          validUntilMs :=
            if (if request.maxEvidenceAgeMs ≠ 0 then request.maxEvidenceAgeMs
                else s.policy.maxEvidenceAgeMs) = 0 then 0
            else now + (if request.maxEvidenceAgeMs ≠ 0 then request.maxEvidenceAgeMs
                else s.policy.maxEvidenceAgeMs)
          accelerator := accelerator.id
          acceleratorGeneration := ((s.findAccelerator accelerator.id).getD {}).generation
          acceleratorBoot := ((s.findAccelerator accelerator.id).getD {}).bootId
          capabilityGeneration :=
            ((s.findAccelerator accelerator.id).getD {}).capability.generation
          topologyGeneration := ((s.findAccelerator accelerator.id).getD {}).topologyGeneration
          evidenceGeneration := ((s.findAccelerator accelerator.id).getD {}).evidence.generation
          layout := (s.partitionsOf accelerator.id).map fun r ↦ (r.id, r.generation) } := by
  unfold buildPlan PartitionPlan.feasible at h
  unfold buildPlan
  simp only at h ⊢
  cases hvalid : request.validate s.limits with
  | error e =>
      rw [hvalid] at h
      simp only at h
      split at h
      · exact absurd h (by decide)
      · exact absurd h (by decide)
  | ok u =>
      rw [hvalid] at h
      simp only at h ⊢
      cases hprofile : s.findProfile request.profile with
      | none =>
          rw [hprofile] at h
          simp only at h
          exact absurd h (by decide)
      | some profile =>
          rw [hprofile] at h
          simp only at h ⊢
          cases hbest : bestEligible (s.accelerators.values.map
            (evaluateCandidate s request profile now)) with
          | none =>
              rw [hbest] at h
              simp only at h
              rcases bestFailure_cases (s.accelerators.values.map
                (evaluateCandidate s request profile now)) with hfail | ⟨c, hc, hel, hfail⟩
              · rw [hfail] at h
                exact absurd h (by decide)
              · obtain ⟨a, -, rfl⟩ := List.mem_map.mp hc
                rw [hfail, ← (evaluateCandidate_spec s request profile now a).2.1, hel] at h
                exact absurd h (by decide)
          | some best =>
              obtain ⟨hmem, hel⟩ := bestEligible_mem hbest
              obtain ⟨a, ha, rfl⟩ := List.mem_map.mp hmem
              obtain ⟨key, hkey⟩ := KeyedMap.mem_values.mp ha
              obtain ⟨hid, -, hhard⟩ := evaluateCandidate_spec s request profile now a
              refine ⟨key, a, profile, hkey, hprofile, hhard hel, ?_, by simp only [hid]⟩
              rw [selectedDevice, hprofile, Option.bind_some, hbest, Option.map_some, hid]

lemma buildPlan_terminal (s : FabricState) (request : PartitionRequest) (now : UInt64) :
    (buildPlan s request now).terminal = false := by
  unfold buildPlan
  simp only
  cases request.validate s.limits with
  | error e => rfl
  | ok u =>
      simp only
      cases s.findProfile request.profile with
      | none => rfl
      | some profile =>
          simp only
          cases bestEligible (s.accelerators.values.map (evaluateCandidate s request profile now)) with
          | none => rfl
          | some best => rfl

/-- What the hard constraints say about the evidence and the generations of a device. -/
lemma hardRejection_none {s : FabricState} {request : PartitionRequest}
    {profile : PartitionProfile} {accelerator : AcceleratorRecord} {now : UInt64}
    (h : hardRejection s request profile accelerator now = none) :
    (s.policy.requireFreshEvidence = true → accelerator.evidence.isFreshAt now = true) ∧
      valid accelerator.id = true ∧ known accelerator.generation = true := by
  unfold hardRejection at h
  iterate 6
    replace h := (reject_eq_none h).2
  obtain ⟨hfresh, h⟩ := reject_eq_none h
  obtain ⟨hgov, -⟩ := reject_eq_none h
  refine ⟨fun hreq ↦ by simpa [hreq] using hfresh, ?_⟩
  unfold AcceleratorRecord.isGovernableAt at hgov
  simp only [Bool.not_eq_true', Bool.not_eq_false] at hgov
  split at hgov
  · exact absurd hgov (by simp)
  · rename_i hbasic
    simp only [Bool.or_eq_true, not_or, Bool.not_eq_true', Bool.not_eq_false] at hbasic
    exact ⟨hbasic.1.1, hbasic.1.2⟩

/-- What a plan's binding says still holds: the plan is neither discarded nor consumed and its
window has not passed, its device stands as it was planned against, and the layout of the device is
the one that was bound. -/
structure BindingHolds (s : FabricState) (plan : PartitionPlan) (now : UInt64) (fresh : Bool) :
    Prop where
  policy : plan.binding.policyGeneration = s.policyGeneration
  usable : plan.terminal = false
  unexpired : plan.binding.expiredAt now = false
  bound : valid plan.binding.accelerator = true
  device : ∃ a, s.findAccelerator plan.binding.accelerator = some a ∧
    a.generation = plan.binding.acceleratorGeneration ∧ a.bootId = plan.binding.acceleratorBoot ∧
    a.capability.generation = plan.binding.capabilityGeneration ∧
    (fresh = true → a.evidence.isFreshAt now = true)
  layout : unboundRecord s plan.binding = none
  complete : (s.partitionsOf plan.binding.accelerator).countP inLayout = plan.binding.layout.length

/-- A binding is valid exactly when all that it says still holds. -/
lemma validatePlanBinding_iff {s : FabricState} {plan : PartitionPlan} {now : UInt64}
    {fresh : Bool} : validatePlanBinding s plan now fresh = success ↔
      BindingHolds s plan now fresh := by
  constructor
  · intro h
    unfold validatePlanBinding at h
    split at h
    · exact absurd h (failure_ne_ok _ _ _ _)
    rename_i hpolicy
    split at h
    · exact absurd h (failure_ne_ok _ _ _ _)
    rename_i hterminal
    split at h
    · exact absurd h (failure_ne_ok _ _ _ _)
    rename_i hexpired
    split at h
    · exact absurd h (failure_ne_ok _ _ _ _)
    rename_i hvalid
    split at h
    · exact absurd h (failure_ne_ok _ _ _ _)
    rename_i a ha
    split at h
    · exact absurd h (failure_ne_ok _ _ _ _)
    rename_i hgeneration
    split at h
    · exact absurd h (failure_ne_ok _ _ _ _)
    rename_i hboot
    split at h
    · exact absurd h (failure_ne_ok _ _ _ _)
    rename_i hcapability
    split at h
    · exact absurd h (failure_ne_ok _ _ _ _)
    rename_i hfresh
    split at h
    · exact absurd h (failure_ne_ok _ _ _ _)
    rename_i hlayout
    simp only at h
    split at h
    · exact absurd h (failure_ne_ok _ _ _ _)
    rename_i hseen
    refine ⟨not_not.mp hpolicy, by simpa using hterminal, by simpa using hexpired,
      by simpa using hvalid, ⟨a, ha, not_not.mp hgeneration, not_not.mp hboot,
        not_not.mp hcapability, fun hreq ↦ ?_⟩, hlayout, not_not.mp hseen⟩
    simpa [hreq] using hfresh
  · intro h
    obtain ⟨a, ha, hgeneration, hboot, hcapability, hfresh⟩ := h.device
    have hstale : (fresh && !a.evidence.isFreshAt now) = false := by
      cases fresh with
      | false => rfl
      | true => rw [hfresh rfl]; rfl
    unfold validatePlanBinding
    rw [if_neg (not_not.mpr h.policy), h.usable, if_neg Bool.false_ne_true, h.unexpired,
      if_neg Bool.false_ne_true, h.bound, Bool.not_true, if_neg Bool.false_ne_true, ha]
    simp only [hstale, h.layout]
    rw [if_neg (not_not.mpr hgeneration), if_neg (not_not.mpr hboot),
      if_neg (not_not.mpr hcapability), if_neg Bool.false_ne_true, if_neg (not_not.mpr h.complete)]

/-- A valid binding names a registered device in the generation it was planned against. -/
lemma validatePlanBinding_device {s : FabricState} {plan : PartitionPlan} {now : UInt64}
    {fresh : Bool} (h : validatePlanBinding s plan now fresh = .ok ()) :
    ∃ a, s.accelerators.find? plan.binding.accelerator = some a ∧
      a.generation = plan.binding.acceleratorGeneration := by
  obtain ⟨a, ha, hgeneration, -⟩ := (validatePlanBinding_iff.mp h).device
  exact ⟨a, ha, hgeneration⟩

end PartitionFabric
