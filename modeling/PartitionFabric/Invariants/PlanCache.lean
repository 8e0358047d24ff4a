import PartitionFabric.Invariants.Binding
import PartitionFabric.Invariants.Retention
import PartitionFabric.Invariants.Selection

/-!
When a registered plan that is returned again agrees with a fresh one: what the planner reads, where
in a run a plan was planned, and the comparison of the two.
-/

namespace PartitionFabric

open Procedure

variable {s u : FabricState} {request r : PartitionRequest} {profile : PartitionProfile}
  {now t : UInt64} {p existing : PartitionPlan}

section Reading

/-- What the planner reads of a state. -/
def planningPart (s : FabricState) :=
  (s.limits, s.policy, s.profiles, s.accelerators, s.ledgers, s.partitions)

/-- A state with what the planner reads taken from another one. -/
def FabricState.readAs (u s : FabricState) : FabricState :=
  { u with
    limits := s.limits
    policy := s.policy
    profiles := s.profiles
    accelerators := s.accelerators
    ledgers := s.ledgers
    partitions := s.partitions }

lemma readAs_eq (h : planningPart u = planningPart s) : u.readAs s = u := by
  simp only [planningPart, Prod.mk.injEq] at h
  obtain ⟨hlimits, hpolicy, hprofiles, haccelerators, hledgers, hpartitions⟩ := h
  unfold FabricState.readAs
  rw [← hlimits, ← hpolicy, ← hprofiles, ← haccelerators, ← hledgers, ← hpartitions]

/-- Requests that ask for the same, whoever asks and however they are tagged. -/
def AsksSame (r request : PartitionRequest) : Prop :=
  r = { request with requester := r.requester, requestTag := r.requestTag }

/-- The freshness of a device's evidence and health is the same at two times. -/
structure SteadyDevice (a : AcceleratorRecord) (t now : UInt64) : Prop where
  evidence : a.evidence.isFreshAt t = a.evidence.isFreshAt now
  health : a.health.usableAt t = a.health.usableAt now

lemma hardRejection_congr {a : AcceleratorRecord} (h : SteadyDevice a t now) :
    hardRejection s request profile a t = hardRejection s request profile a now := by
  unfold hardRejection AcceleratorRecord.isGovernableAt
  rw [h.evidence, h.health]

/-- The evaluation of a device depends on what the planner reads, on what is asked, and on the
freshness of the device. -/
lemma evaluateCandidate_congr {a : AcceleratorRecord} (hread : planningPart u = planningPart s)
    (hasks : AsksSame r request) (hsteady : SteadyDevice a t now) :
    evaluateCandidate u r profile t a = evaluateCandidate s request profile now a := by
  have htime : evaluateCandidate s request profile t a =
      evaluateCandidate s request profile now a := by
    unfold evaluateCandidate
    rw [hardRejection_congr hsteady]
  rw [← readAs_eq hread, hasks]
  exact htime

/-- What a plan answers: its outcome, the device it binds and the partitions it plans. -/
def PartitionPlan.answer (p : PartitionPlan) : PlanOutcome × AcceleratorId × List PlannedPartition :=
  (p.outcome, p.binding.accelerator, p.plannedPartitions)

/-- The answer of the planner to a valid request depends on what it reads. -/
lemma buildPlan_answer_congr (hread : planningPart u = planningPart s) (hasks : AsksSame r request)
    (hvalid : r.validate u.limits = success) (hvalid' : request.validate s.limits = success)
    (hsteady : ∀ a ∈ s.accelerators.values, SteadyDevice a t now) :
    (buildPlan u r t).answer = (buildPlan s request now).answer := by
  have hprofile : u.findProfile r.profile = s.findProfile request.profile := by
    rw [← readAs_eq hread, hasks]
    rfl
  have hcount : r.count = request.count := by rw [hasks]
  have hcandidates (profile : PartitionProfile) :
      u.accelerators.values.map (evaluateCandidate u r profile t) =
        s.accelerators.values.map (evaluateCandidate s request profile now) := by
    have haccelerators : u.accelerators = s.accelerators := by
      rw [← readAs_eq hread]
      rfl
    rw [haccelerators]
    exact List.map_congr_left fun a ha ↦ evaluateCandidate_congr hread hasks (hsteady a ha)
  unfold buildPlan PartitionPlan.answer
  simp only [hvalid, hvalid', success, hprofile]
  cases s.findProfile request.profile with
  | none => rfl
  | some profile =>
    simp only [hcandidates, hcount]
    cases bestEligible (s.accelerators.values.map (evaluateCandidate s request profile now)) with
    | none => rfl
    | some best => rfl

/-- A plan that binds a device answers a valid request. -/
lemma validate_of_bound (h : valid (buildPlan u r t).binding.accelerator = true) :
    r.validate u.limits = success := by
  cases hvalid : r.validate u.limits with
  | ok v => rfl
  | error e =>
    unfold buildPlan at h
    simp only [hvalid] at h
    cases h

end Reading

section Origins

variable {k : PartitionPlanId} {op₀ : Op}

/-- The plan registered under a key, whether or not it was discarded since. -/
def registeredPlan (s : FabricState) (k : PartitionPlanId) : Option PartitionPlan :=
  (s.plans.find? k).map fun p ↦ { p with terminal := false }

/-- What an operation asks the planner. -/
def Op.asks : Op → Option (PartitionRequest × UInt64)
  | .plan request now => some (request, now)
  | .planOn id request now => some (request.narrow id, now)
  | _ => none

/-- The plan under a key stands there since an operation of the run registered it. -/
inductive PlannedAt (k : PartitionPlanId) (u : FabricState) (op₀ : Op) : FabricState → Prop where
  | registered : fabric.Reachable anyOp u → registeredPlan (op₀.step u) k ≠ registeredPlan u k →
      PlannedAt k u op₀ (op₀.step u)
  | kept {s : FabricState} (op : Op) : PlannedAt k u op₀ s →
      registeredPlan (op.step s) k = registeredPlan s k → PlannedAt k u op₀ (op.step s)

/-- Every registered plan was registered somewhere in the run. -/
lemma plannedAt_of_reachable (hs : fabric.Reachable anyOp s) (hp : s.plans.find? k = some p) :
    ∃ u op₀, PlannedAt k u op₀ s := by
  induction hs generalizing p with
  | initial h =>
    obtain ⟨options, now, rfl⟩ := h
    cases hp
  | @step s op hs _ ih =>
    by_cases hsame : registeredPlan (op.step s) k = registeredPlan s k
    · have hbefore : (registeredPlan s k).isSome = true := by
        rw [← hsame]
        change ((op.step s).plans.find? k |>.map _).isSome = true
        rw [Option.isSome_map]
        exact Option.isSome_of_eq_some hp
      obtain ⟨q, hq⟩ := Option.isSome_iff_exists.mp hbefore
      obtain ⟨p', hp', -⟩ := Option.map_eq_some_iff.mp hq
      obtain ⟨u, op₀, h⟩ := ih hp'
      exact ⟨u, op₀, .kept op h hsame⟩
    · exact ⟨s, op, .registered hs hsame⟩

/-- Planning a request fails without registering anything, returns a plan that is still current, or
registers the plan that it built. -/
lemma plan_cases (s : FabricState) (request : PartitionRequest) (now : UInt64) :
    (∃ t e, plan request now s = (t, .error e) ∧ planningPart t = planningPart s ∧
      ∀ k p, t.plans.find? k = some p → s.plans.find? k = some p) ∨
    (∃ existing, currentPlan s request now = some existing ∧
      plan request now s = (s, .ok existing)) ∨
    currentPlan s request now = none ∧ ∃ t id, plan request now s =
        (t, .ok { buildPlan s request now with id := id, generation := 1 }) ∧
      planningPart t = planningPart s ∧
        t.plans = s.plans.insert id { buildPlan s request now with id := id, generation := 1 } := by
  unfold plan
  rw [bind_apply, checkOpen]
  cases s.closed with
  | true => exact Or.inl ⟨s, _, rfl, rfl, fun _ _ h ↦ h⟩
  | false =>
    simp only [Bool.false_eq_true, if_false, success, get_bind]
    cases hcurrent : currentPlan s request now with
    | some existing =>
      unfold currentPlan at hcurrent
      rw [hcurrent]
      exact Or.inr (Or.inl ⟨existing, rfl, rfl⟩)
    | none =>
      have hnone := hcurrent
      unfold currentPlan at hnone
      rw [hnone]
      simp only
      by_cases hfull : s.limits.maxPendingPlans ≤ s.plans.size
      · rw [bind_error (makePlanRoom_full hfull)]
        refine Or.inl ⟨_, _, rfl, rfl, fun k p hp ↦ ?_⟩
        rcases KeyedMap.find?_prune (fun plan : PartitionPlan ↦ plan.terminal)
          s.limits.maxPendingPlans k with h | ⟨h, -⟩
        · exact h ▸ hp
        · cases h.symm.trans hp
      · rw [bind_ok (makePlanRoom_room (not_le.mp hfull)), get_bind]
        unfold registerPlan
        rcases allocateId_cases s with ⟨e, halloc⟩ | ⟨ids, -, halloc⟩
        · rw [bind_error halloc]
          exact Or.inl ⟨s, e, rfl, rfl, fun _ _ h ↦ h⟩
        · rw [bind_ok halloc, modify_bind]
          exact Or.inr (Or.inr ⟨trivial, _, s.ids.next, rfl, rfl, rfl⟩)

/-- Planning a request leaves the plans that were registered, and may register the plan for it. -/
lemma plan_registers (hp : (plan request now s).1.plans.find? k = some p) :
    s.plans.find? k = some p ∨
      ∃ id, p = { buildPlan s request now with id := id, generation := 1 } := by
  rcases plan_cases s request now with ⟨t, e, hrun, -, hkept⟩ | ⟨existing, -, hrun⟩ |
    ⟨-, t, id, hrun, -, ht⟩
  · rw [hrun] at hp
    exact Or.inl (hkept k p hp)
  · rw [hrun] at hp
    exact Or.inl hp
  · rw [hrun, ht, KeyedMap.find?_insert] at hp
    split at hp
    · exact Or.inr ⟨id, (Option.some.inj hp).symm⟩
    · exact Or.inl hp

/-- Planning a request changes nothing that the planner reads. -/
lemma planningPart_plan : planningPart ((Op.plan request now).step s) = planningPart s := by
  change planningPart (PartitionFabric.plan request now s).1 = planningPart s
  rcases plan_cases s request now with ⟨t, e, hrun, hread, -⟩ | ⟨existing, -, hrun⟩ |
    ⟨-, t, id, hrun, hread, -⟩
  · rw [hrun]
    exact hread
  · rw [hrun]
  · rw [hrun]
    exact hread

/-- A planning operation registers what the planner answers. -/
lemma asks_registers (hasks : op₀.asks = some (r, t)) (hp : (op₀.step u).plans.find? k = some p) :
    u.plans.find? k = some p ∨ ∃ id, p = { buildPlan u r t with id := id, generation := 1 } := by
  cases op₀ with
  | plan request now =>
    obtain ⟨rfl, rfl⟩ := Prod.mk.inj (Option.some.inj hasks)
    change (Procedure.ignore (PartitionFabric.plan request now) u).1.plans.find? k = some p at hp
    rw [ignore_apply] at hp
    exact plan_registers hp
  | planOn id request now =>
    obtain ⟨rfl, rfl⟩ := Prod.mk.inj (Option.some.inj hasks)
    change (Procedure.ignore (PartitionFabric.planOn id request now) u).1.plans.find? k = some p at hp
    rw [ignore_apply] at hp
    have hstate : (PartitionFabric.planOn id request now u).1 =
        (PartitionFabric.plan (request.narrow id) now u).1 := by
      unfold PartitionFabric.planOn
      change ((PartitionFabric.plan (request.narrow id) now >>= _) u).1 = _
      rw [bind_apply]
      rcases PartitionFabric.plan (request.narrow id) now u with ⟨v, e | planned⟩
      · rfl
      · simp only [require_bind]
        split <;> rfl
    rw [hstate] at hp
    exact plan_registers hp
  | _ => cases hasks

/-- A plan that a planning operation registered gives the answer of the planner there. -/
lemma PlannedAt.answer (h : PlannedAt k u op₀ s) (hasks : op₀.asks = some (r, t))
    (hp : s.plans.find? k = some p) : p.answer = (buildPlan u r t).answer := by
  induction h generalizing p with
  | registered hu hnew =>
    rcases asks_registers hasks hp with hbefore | ⟨id, rfl⟩
    · refine absurd ?_ hnew
      unfold registeredPlan
      rw [hp, hbefore]
    · rfl
  | @kept v op h hsame ih =>
    have hafter : registeredPlan (op.step v) k = some { p with terminal := false } := by
      unfold registeredPlan
      rw [hp]
      rfl
    rw [hsame] at hafter
    obtain ⟨q, hq, heq⟩ := Option.map_eq_some_iff.mp hafter
    calc p.answer = { p with terminal := false }.answer := rfl
      _ = { q with terminal := false }.answer := congrArg PartitionPlan.answer heq.symm
      _ = q.answer := rfl
      _ = (buildPlan u r t).answer := ih hq

end Origins

section Returning

/-- A registered plan that may be returned again for a request: it was not discarded, it carries the
request's digest and the current policy generation, and its binding is valid. -/
def Current (s : FabricState) (request : PartitionRequest) (now : UInt64) (p : PartitionPlan) :
    Prop :=
  p.terminal = false ∧ p.requestDigest = requestDigest request ∧
    p.binding.policyGeneration = s.policyGeneration ∧
      validatePlanBinding s p now false = success

lemma currentPlan_eq_some (h : currentPlan s request now = some existing) :
    (∃ k, s.plans.find? k = some existing) ∧ Current s request now existing := by
  have hmem := List.mem_of_find?_eq_some h
  have hholds := List.find?_some h
  simp only [Bool.and_eq_true, Bool.not_eq_true', decide_eq_true_eq] at hholds
  obtain ⟨⟨⟨hlive, hdigest⟩, hpolicy⟩, hbinding⟩ := hholds
  refine ⟨KeyedMap.mem_values.mp hmem, hlive, hdigest, hpolicy, ?_⟩
  cases hvalid : validatePlanBinding s existing now false with
  | ok v => rfl
  | error e =>
    rw [hvalid] at hbinding
    cases hbinding

/-- Since a plan was registered, nothing changed that decides the answer to a request: the plan was
planned for what the request asks, the planner reads what it read then, and the evidence and the
health of every device are as fresh as they were then. -/
structure UnchangedSince (u : FabricState) (op₀ : Op) (s : FabricState) (request : PartitionRequest)
    (now : UInt64) : Prop where
  planned : ∃ r t, op₀.asks = some (r, t) ∧ AsksSame r request ∧
    ∀ a ∈ s.accelerators.values, SteadyDevice a t now
  read : planningPart u = planningPart s

/-- A registered plan that is returned again answers as a fresh one does when nothing that decides
the answer changed since it was registered. -/
theorem cached_plan_answers {v : FabricState} {k : PartitionPlanId} {op₀ : Op}
    (hplanned : PlannedAt k u op₀ s) (hk : s.plans.find? k = some existing)
    (hunchanged : UnchangedSince u op₀ s request now) (hvalid : request.validate s.limits = success)
    (hrun : plan request now s = (v, .ok existing)) :
    (buildPlan s request now).answer = existing.answer := by
  rcases plan_cases s request now with ⟨w, e, hfails, -⟩ | ⟨p, hcurrent, hagain⟩ |
    ⟨-, w, id, hbuilt, -⟩
  · cases hfails.symm.trans hrun
  · obtain rfl := Except.ok.inj (Prod.mk.inj (hagain.symm.trans hrun)).2
    obtain ⟨-, hcurrent⟩ := currentPlan_eq_some hcurrent
    obtain ⟨⟨r, t, hasks, hsame, hsteady⟩, hread⟩ := hunchanged
    have hanswer := hplanned.answer hasks hk
    have hbound : valid (buildPlan u r t).binding.accelerator = true := by
      have hdevice : (buildPlan u r t).binding.accelerator = p.binding.accelerator :=
        (congrArg (fun answer ↦ answer.2.1) hanswer).symm
      have husable := usable_of_validatePlanBinding hcurrent.2.2.2
      rw [PartitionPlan.usable, Bool.and_eq_true] at husable
      rw [hdevice]
      exact husable.2
    rw [hanswer]
    exact (buildPlan_answer_congr hread hsame (validate_of_bound hbound) hvalid hsteady).symm
  · obtain rfl := Except.ok.inj (Prod.mk.inj (hbuilt.symm.trans hrun)).2
    rfl

end Returning

namespace Sample

/-- A slice is planned on a registered device. -/
def planned : FabricState := (Op.plan slice 2).step registered

/-- The device is reported unhealthy after the slice was planned. -/
def outdated : List Op :=
  [.registerBackendAccelerator device 1, .plan slice 2,
    .updateHealth 1 { state := .unhealthy, stamp := evidence }]

end Sample

/-- A slice that is planned twice in a row. -/
theorem cached_plan_answers_slice : ∃ existing,
    plan Sample.slice 3 Sample.planned = (Sample.planned, .ok existing) ∧
      (buildPlan Sample.planned Sample.slice 3).answer = existing.answer := by
  have hu : fabric.Reachable anyOp Sample.registered :=
    System.Reachable.run (.initial ⟨_, _, rfl⟩) (by decide)
  have hnone : Sample.registered.plans.keys = [] := by decide +kernel
  have hsteady : Sample.planned.accelerators.values.all (fun a ↦
      a.evidence.isFreshAt 2 == a.evidence.isFreshAt 3 &&
        a.health.usableAt 2 == a.health.usableAt 3) = true := by decide +kernel
  have hvalid : Sample.slice.validate Sample.planned.limits = success := by decide +kernel
  have hcurrent : (currentPlan Sample.planned Sample.slice 3).isSome = true := by decide +kernel
  have hok : (plan Sample.slice 3 Sample.planned).2.isOk = true := by decide +kernel
  have hstep : Sample.planned = (Op.plan Sample.slice 2).step Sample.registered := rfl
  obtain ⟨existing, hexisting⟩ := Option.isSome_iff_exists.mp hcurrent
  obtain ⟨⟨k, hk⟩, -⟩ := currentPlan_eq_some hexisting
  have hplanned : PlannedAt k Sample.registered (.plan Sample.slice 2) Sample.planned := by
    rw [hstep]
    apply PlannedAt.registered hu
    intro hsame
    rw [← hstep] at hsame
    have hafter : (registeredPlan Sample.planned k).isSome = true := by
      unfold registeredPlan
      rw [hk]
      rfl
    rw [hsame, registeredPlan, Option.isSome_map] at hafter
    obtain ⟨q, hq⟩ := Option.isSome_iff_exists.mp hafter
    have hmem := KeyedMap.mem_keys.mpr ⟨q, hq⟩
    rw [hnone] at hmem
    exact absurd hmem List.not_mem_nil
  have hunchanged : UnchangedSince Sample.registered (.plan Sample.slice 2) Sample.planned
      Sample.slice 3 := by
    have hasks : (Op.plan Sample.slice 2).asks = some (Sample.slice, 2) := rfl
    have hsame : AsksSame Sample.slice Sample.slice := rfl
    have hall : ∀ a ∈ Sample.planned.accelerators.values, SteadyDevice a 2 3 := by
      intro a ha
      have hfresh := List.all_eq_true.mp hsteady a ha
      rw [Bool.and_eq_true, beq_iff_eq, beq_iff_eq] at hfresh
      exact ⟨hfresh.1, hfresh.2⟩
    refine ⟨⟨Sample.slice, 2, hasks, hsame, hall⟩, ?_⟩
    rw [hstep]
    exact planningPart_plan.symm
  rcases plan_cases Sample.planned Sample.slice 3 with ⟨w, e, hfails, -⟩ | ⟨p, hp, hagain⟩ |
    ⟨hnever, -⟩
  · rw [hfails] at hok
    cases hok
  · obtain rfl := Option.some.inj (hexisting.symm.trans hp)
    exact ⟨existing, hagain, cached_plan_answers hplanned hk hunchanged hvalid hagain⟩
  · cases hexisting.symm.trans hnever

/-- A plan is returned again although its device is not selected any more. -/
theorem cached_plan_outdated : ¬∀ s v k request now existing, fabric.Reachable anyOp s →
    s.plans.find? k = some existing → plan request now s = (v, .ok existing) →
      (buildPlan s request now).answer = existing.answer := by
  intro h
  let s := fabric.run Sample.outdated Sample.opened
  have hs : fabric.Reachable anyOp s := System.Reachable.run (.initial ⟨_, _, rfl⟩) (by decide)
  have hagain : (plan Sample.slice 3 s).2.map PartitionPlan.outcome = .ok .feasibleNow := by
    decide +kernel
  have hfresh : (buildPlan s Sample.slice 3).outcome = .policyRejected := by decide +kernel
  have hcurrent : (currentPlan s Sample.slice 3).isSome = true := by decide +kernel
  clear_value s
  obtain ⟨existing, hexisting⟩ := Option.isSome_iff_exists.mp hcurrent
  obtain ⟨⟨k, hk⟩, -⟩ := currentPlan_eq_some hexisting
  rcases plan_cases s Sample.slice 3 with ⟨w, e, hfails, -⟩ | ⟨p, hp, hrun⟩ | ⟨hnever, -⟩
  · rw [hfails] at hagain
    cases hagain
  · obtain rfl := Option.some.inj (hexisting.symm.trans hp)
    have hanswer := congrArg Prod.fst (h s s k Sample.slice 3 existing hs hk hrun)
    rw [hrun] at hagain
    have houtcome : existing.outcome = .feasibleNow := Except.ok.inj hagain
    cases hfresh.symm.trans (hanswer.trans houtcome)
  · cases hexisting.symm.trans hnever

end PartitionFabric
