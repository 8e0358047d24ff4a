import PartitionFabric.Invariants.Publication

/-!
What a plan was made under and what its validation compares: the epoch, the topology and the
profiles of a plan that passes.

The validation looks at none of the three, so they agree only when no step changes one of them
under a plan that may still be used.
-/

namespace PartitionFabric

open Procedure

variable {s t : FabricState} {op : Op} {plan : PartitionPlan}

section Currency

/-- A plan that may still be used: it is bound to a device, and was not discarded or consumed. -/
def PartitionPlan.usable (plan : PartitionPlan) : Bool :=
  !plan.terminal && valid plan.binding.accelerator

/-- A profile is registered at a generation and with resources. -/
def ProfileAt (s : FabricState) (id : PartitionProfileId) (generation : PartitionProfileGeneration)
    (resources : ResourceVector) : Prop :=
  ∃ q, s.findProfile id = some q ∧ q.generation = generation ∧ q.resources = resources

/-- The epoch of a plan is the current one, its device has the topology it was made under, and its
profiles are registered as they were planned. -/
structure PlanCurrent (s : FabricState) (plan : PartitionPlan) : Prop where
  epoch : plan.binding.coordinatorEpoch = s.coordinatorEpoch
  topology : ∀ a, s.findAccelerator plan.binding.accelerator = some a →
    a.topologyGeneration = plan.binding.topologyGeneration
  profiles : ∀ planned ∈ plan.plannedPartitions,
    ProfileAt s planned.profile planned.profileGeneration planned.resources

/-- The open plans of the registry. -/
def OpenPlan (s : FabricState) (plan : PartitionPlan) : Prop :=
  ∃ k, s.plans.find? k = some plan ∧ plan.usable = true

/-- Every open plan is current, and profiles and devices stand under their own identities. -/
structure PlansCurrent (s : FabricState) : Prop where
  plans : ∀ plan, OpenPlan s plan → PlanCurrent s plan
  profiles : ∀ k q, s.findProfile k = some q → q.id = k
  devices : Named s

/-- The plans that a step starts from or registers. -/
def Planned (π : Scope) (s : FabricState) (plan : PartitionPlan) : Prop :=
  (∃ k, s.plans.find? k = some plan) ∨ π.plans plan

/-- A scope changes nothing that an open plan depends on, and registers current plans only. -/
structure Respects (π : Scope) (s : FabricState) : Prop where
  plans : ∀ plan, π.plans plan → plan.usable = true → PlanCurrent s plan
  epoch : π.epoch → ∀ plan, Planned π s plan → plan.usable = false
  topology : ∀ k g, π.topology k g → ∀ plan, Planned π s plan → plan.usable = true →
    plan.binding.accelerator = k → plan.binding.topologyGeneration = g
  publishes : ∀ k g r, π.publishes k g r → ∀ plan, Planned π s plan → plan.usable = true →
    ∀ planned ∈ plan.plannedPartitions, planned.profile = k →
      planned.profileGeneration = g ∧ planned.resources = r
  lenient : π.Lenient

lemma PlanEvolves.usable_of_usable {p p' : PartitionPlan} (h : PlanEvolves p p')
    (hopen : p'.usable = true) : p.usable = true := by
  unfold PartitionPlan.usable at hopen ⊢
  simp only [Bool.and_eq_true, Bool.not_eq_true'] at hopen ⊢
  rw [h.accelerator] at hopen
  refine ⟨?_, hopen.2⟩
  cases hterminal : p.terminal with
  | false => rfl
  | true =>
    rw [h.terminal hterminal] at hopen
    cases hopen.1

/-- A step within a scope that respects the plans leaves every open plan current. -/
theorem PlansCurrent.evolve {π : Scope} {floor : UInt64} (hs : PlansCurrent s)
    (h : Evolves π floor s t) (hπ : Respects π s) : PlansCurrent t := by
  refine ⟨?_, ?_, h.named hs.devices⟩
  · rintro plan ⟨k, hk, hopen⟩
    obtain ⟨p, horigin, hevolves⟩ := h.tenure.plans k plan hk
    have hp : s.plans.find? k = some p ∨ π.plans p := horigin.imp_right fun hnew ↦ hnew.2
    have hpopen : p.usable = true := hevolves.usable_of_usable hopen
    have hplanned : Planned π s p := hp.imp_left fun hp ↦ ⟨k, hp⟩
    have hcurrent : PlanCurrent s p := by
      rcases hp with hp | hp
      · exact hs.plans p ⟨k, hp, hpopen⟩
      · exact hπ.plans p hp hpopen
    refine ⟨?_, fun a ha ↦ ?_, fun planned hmem ↦ ?_⟩
    · rw [hevolves.coordinatorEpoch, hcurrent.epoch]
      rcases h.tenure.epoch with hepoch | hepoch
      · rw [hπ.epoch hepoch p hplanned] at hpopen
        cases hpopen
      · exact hepoch.symm
    · rw [hevolves.accelerator] at ha
      rw [hevolves.topologyGeneration]
      rcases h.tenure.topologies _ a ha with htopology | ⟨b, hb, hsame⟩
      · exact (hπ.topology _ _ htopology p hplanned hpopen rfl).symm
      · rw [hsame]
        exact hcurrent.topology b hb
    · rw [hevolves.plannedPartitions] at hmem
      obtain ⟨q, hq, hgeneration, hresources⟩ := hcurrent.profiles planned hmem
      obtain ⟨q', hq'⟩ := h.tenure.profiles _ q hq
      refine ⟨q', hq', ?_⟩
      rcases h.tenure.published _ q' hq' with ⟨hpublishes, -⟩ | ⟨q₀, hq₀, hgeneration', hresources', -⟩
      · have hagree := hπ.publishes _ _ _ hpublishes p hplanned hpopen planned hmem rfl
        exact ⟨hagree.1.symm, hagree.2.symm⟩
      · obtain rfl := Option.some.inj (hq₀.symm.trans hq)
        exact ⟨hgeneration'.trans hgeneration, hresources'.trans hresources⟩
  · intro k q' hq'
    rcases h.tenure.published k q' hq' with ⟨-, hid⟩ | ⟨q, hq, -, -, hid⟩
    · exact hid
    · exact hid.trans (hs.profiles k q hq)

end Currency

section Making

/-- The planner plans with registered profiles under the current epoch and topology. -/
lemma planCurrent_buildPlan (hnamed : ∀ k q, s.findProfile k = some q → q.id = k)
    (request : PartitionRequest) (now : UInt64)
    (h : (buildPlan s request now).usable = true) : PlanCurrent s (buildPlan s request now) := by
  unfold buildPlan at h ⊢
  simp only at h ⊢
  cases hvalid : request.validate s.limits with
  | error e =>
    rw [hvalid] at h
    cases h
  | ok u =>
    rw [hvalid] at h
    simp only at h ⊢
    cases hprofile : s.findProfile request.profile with
    | none =>
      rw [hprofile] at h
      cases h
    | some profile =>
      rw [hprofile] at h
      simp only at h ⊢
      cases hbest : bestEligible (s.accelerators.values.map
          (evaluateCandidate s request profile now)) with
      | none =>
        rw [hbest] at h
        cases h
      | some best =>
        simp only
        refine ⟨rfl, fun a ha ↦ ?_, fun planned hmem ↦ ?_⟩
        · rw [ha]
          rfl
        · obtain ⟨ordinal, -, rfl⟩ := List.mem_map.mp hmem
          refine ⟨profile, ?_, rfl, rfl⟩
          rw [hnamed _ _ hprofile]
          exact hprofile

/-- A reconfiguration is planned under the current epoch and topology, with whatever profiles the
caller names. -/
lemma planCurrent_buildReconfigurationPlan {id : AcceleratorId} {desired : List PlannedPartition}
    (hdesired : ∀ planned ∈ desired,
      ProfileAt s planned.profile planned.profileGeneration planned.resources)
    (hledger : ∀ a, s.findAccelerator id = some a → ∃ l, s.findLedger id = some l)
    (context : PartitionRequest) (now : UInt64) :
    PlanCurrent s (buildReconfigurationPlan s id desired context now) := by
  unfold buildReconfigurationPlan
  simp only
  cases ha : s.findAccelerator id with
  | none =>
    refine ⟨rfl, fun a ha' ↦ ?_, hdesired⟩
    rw [show s.findAccelerator id = some a from ha'] at ha
    cases ha
  | some accelerator =>
    obtain ⟨ledger, hl⟩ := hledger accelerator ha
    have htopology : ∀ a, s.findAccelerator id = some a →
        a.topologyGeneration = accelerator.topologyGeneration := by
      intro a ha'
      rw [Option.some.inj (ha'.symm.trans ha)]
    rw [hl]
    simp only
    cases checkReconfiguration s accelerator ledger desired context with
    | error outcome => exact ⟨rfl, htopology, hdesired⟩
    | ok u => exact ⟨rfl, htopology, hdesired⟩

/-- A destructive plan is made under the current epoch and topology of a device that stands under
its own identity. -/
lemma planCurrent_destructivePlan {key : AcceleratorId} {accelerator : AcceleratorRecord}
    {affected : List PartitionRecord} (hnamed : Named s)
    (ha : s.findAccelerator key = some accelerator)
    (haffected : accelerator.id = key → ∀ record ∈ affected,
      ProfileAt s record.profile record.profileGeneration record.resources)
    {id : PartitionPlanId} {now : UInt64}
    (h : (destructivePlan s accelerator affected id now).usable = true) :
    PlanCurrent s (destructivePlan s accelerator affected id now) := by
  have hvalid : valid accelerator.id = true := by simpa [PartitionPlan.usable, destructivePlan] using h
  have hid : accelerator.id = key := hnamed key accelerator ha hvalid
  refine ⟨rfl, fun a ha' ↦ ?_, fun planned hmem ↦ ?_⟩
  · have hsame : s.findAccelerator accelerator.id = some a := ha'
    rw [hid] at hsame
    rw [Option.some.inj (hsame.symm.trans ha)]
    rfl
  · obtain ⟨entry, hentry, rfl⟩ := List.mem_map.mp hmem
    exact haffected hid entry.1 (List.fst_mem_of_mem_zipIdx hentry)

end Making

section Steps

/-- A topology is the one that every open plan of a device was made under. -/
def TopologyAgrees (s : FabricState) (k : AcceleratorId) (g : TopologyGeneration) : Prop :=
  ∀ plan, OpenPlan s plan → plan.binding.accelerator = k → plan.binding.topologyGeneration = g

/-- A generation and resources are those that every open plan planned a profile with. -/
def ProfileAgrees (s : FabricState) (k : PartitionProfileId) (g : PartitionProfileGeneration)
    (r : ResourceVector) : Prop :=
  ∀ plan, OpenPlan s plan → ∀ planned ∈ plan.plannedPartitions, planned.profile = k →
    planned.profileGeneration = g ∧ planned.resources = r

/-- No plan is open. -/
def NonePlanned (s : FabricState) : Prop := ∀ plan, ¬OpenPlan s plan

/-- A record has the resources of its profile as it is registered. -/
def ProfileOf (s : FabricState) (record : PartitionRecord) : Prop :=
  ProfileAt s record.profile record.profileGeneration record.resources

/-- A step changes no epoch, topology or profile under an open plan, and plans with profiles as
they are registered. -/
def KeepsBindings (s : FabricState) : Op → Prop
  | .registerProfile profile => ProfileAgrees s profile.id profile.generation profile.resources
  | .registerBackendAccelerator accelerator _ =>
    (∀ p ∈ accelerator.profiles, ProfileAgrees s p.id p.generation p.resources) ∧
      TopologyAgrees s (s.deviceOf accelerator) accelerator.capability.topologyGeneration ∧
      (s.findAccelerator (s.deviceOf accelerator) = none →
        TopologyAgrees s (s.deviceOf accelerator) 0)
  | .registerAccelerator record _ => TopologyAgrees s record.id record.topologyGeneration ∧
    TopologyAgrees s record.id record.capability.topologyGeneration
  | .publishCapability capability _ =>
    TopologyAgrees s capability.accelerator capability.topologyGeneration
  | .planReconfiguration id desired _ _ =>
    (∀ planned ∈ desired, ProfileAt s planned.profile planned.profileGeneration planned.resources) ∧
      ∀ a, s.findAccelerator id = some a → ∃ l, s.findLedger id = some l
  | .destroyPartition p _ | .createDestructionReservation p _ =>
    ∀ record, s.findPartition p = some record → ProfileOf s record
  | .executeReconfiguration planId _ => ∀ plan, s.plans.find? planId = some plan →
    ∀ record ∈ s.partitionsOf plan.binding.accelerator, inLayout record = true → ProfileOf s record
  | .advanceCoordinatorEpoch _ => NonePlanned s
  | .installCoordinatorEpoch epoch => s.coordinatorEpoch < epoch → NonePlanned s
  | .importDurableState _ _ => False
  | _ => True

/-- What a step that registers plans may do. -/
def planning (s : FabricState) : Scope :=
  { registers := fun _ ↦ True
    plans := fun plan ↦ plan.usable = true → PlanCurrent s plan
    discards := fun _ ↦ True
    reserves := True }

lemma respects_planning (s : FabricState) : Respects (planning s) s :=
  ⟨fun _ h ↦ h, fun h ↦ h.elim, fun _ _ h ↦ h.elim, fun _ _ _ h ↦ h.elim,
    fun _ ↦ trivial, fun _ _ _ _ ↦ trivial, fun _ ↦ trivial, trivial⟩

/-- What the other steps may do; the attempts of one device may be decided. -/
def operating (s : FabricState) (decided : Option AcceleratorId) : Scope :=
  { natives := True
    occupancy := True
    decides := decided
    registers := fun _ ↦ True
    totals := False
    workers := True
    epoch := NonePlanned s
    binds := fun _ ↦ True
    resettles := fun _ ↦ True
    forgets := fun _ ↦ True
    replaces := fun _ ↦ True
    renumbers := fun _ ↦ True
    topology := TopologyAgrees s
    publishes := ProfileAgrees s
    reserves := True
    evicts := fun _ ↦ True
    activates := True
    reincarnates := fun _ ↦ True
    numbers := False
    closes := True }

lemma respects_operating (s : FabricState) (decided : Option AcceleratorId) :
    Respects (operating s decided) s := by
  have hopen : ∀ plan, Planned (operating s decided) s plan → plan.usable = true →
      OpenPlan s plan := by
    rintro plan (⟨k, hk⟩ | hnew) husable
    · exact ⟨k, hk, husable⟩
    · exact hnew.elim
  refine ⟨fun _ h ↦ h.elim, fun hnone plan hplanned ↦ ?_, fun k g h plan hplanned husable ↦ ?_,
    fun k g r h plan hplanned husable ↦ ?_,
    fun _ ↦ trivial, fun _ _ _ _ ↦ trivial, fun _ ↦ trivial, trivial⟩
  · cases husable : plan.usable with
    | false => rfl
    | true => exact absurd (hopen plan hplanned husable) (hnone plan)
  · exact h plan (hopen plan hplanned husable)
  · exact h plan (hopen plan hplanned husable)

lemma mem_replacedBy {id : AcceleratorId} {affected : List PartitionRecord}
    (h : replacedBy s id = .ok affected) {record : PartitionRecord} (hmem : record ∈ affected) :
    record ∈ s.partitionsOf id ∧ inLayout record = true := by
  unfold replacedBy at h
  simp only at h
  split at h
  · exact absurd h (by simp [failure])
  · obtain rfl := Except.ok.inj h
    simpa using hmem

/-- A step that keeps the bindings works within a scope that respects the plans. -/
lemma within_respecting (hs : PlansCurrent s) (h : KeepsBindings s op) :
    ∃ π, Respects π s ∧ op.Within π s := by
  cases op with
  | plan request now =>
    refine ⟨planning s, respects_planning s, fun _ _ _ _ ↦ trivial, fun m id husable ↦ ?_⟩
    have hcurrent := planCurrent_buildPlan (s := { s with plans := m }) hs.profiles request now husable
    exact ⟨hcurrent.epoch, hcurrent.topology, hcurrent.profiles⟩
  | planOn id request now =>
    refine ⟨planning s, respects_planning s, fun _ _ _ _ ↦ trivial, fun m id husable ↦ ?_⟩
    have hcurrent := planCurrent_buildPlan (s := { s with plans := m }) hs.profiles _ now husable
    exact ⟨hcurrent.epoch, hcurrent.topology, hcurrent.profiles⟩
  | planReconfiguration id desired context now =>
    refine ⟨planning s, respects_planning s, fun _ _ _ ↦ trivial, fun m planId _ ↦ ?_⟩
    have hcurrent := planCurrent_buildReconfigurationPlan (s := { s with plans := m }) h.1 h.2
      context now
    exact ⟨hcurrent.epoch, hcurrent.topology, hcurrent.profiles⟩
  | destroyPartition p now =>
    refine ⟨planning s, respects_planning s, trivial, fun _ ↦ trivial,
      fun record accelerator hr ha ids planId husable ↦ ?_⟩
    have hcurrent := planCurrent_destructivePlan (s := { s with ids := ids }) hs.devices ha
      (fun _ record' hmem ↦ List.mem_singleton.mp hmem ▸ h record hr) husable
    exact ⟨hcurrent.epoch, hcurrent.topology, hcurrent.profiles⟩
  | createDestructionReservation p now =>
    refine ⟨planning s, respects_planning s, trivial,
      fun record accelerator hr ha ids planId husable ↦ ?_⟩
    have hcurrent := planCurrent_destructivePlan (s := { s with ids := ids }) hs.devices ha
      (fun _ record' hmem ↦ List.mem_singleton.mp hmem ▸ h record hr) husable
    exact ⟨hcurrent.epoch, hcurrent.topology, hcurrent.profiles⟩
  | executeReconfiguration planId now =>
    refine ⟨planning s, respects_planning s, trivial, fun _ ↦ trivial,
      fun plan accelerator affected hplan ha haffected ids id husable ↦ ?_⟩
    have hof : accelerator.id = plan.binding.accelerator → ∀ record ∈ affected,
        ProfileOf s record := by
      intro hid record hmem
      obtain ⟨hof, hlayout⟩ := mem_replacedBy haffected hmem
      rw [hid] at hof
      exact h plan hplan record hof hlayout
    have hcurrent := planCurrent_destructivePlan (s := { s with ids := ids }) hs.devices ha hof husable
    exact ⟨hcurrent.epoch, hcurrent.topology, hcurrent.profiles⟩
  | registerBackendAccelerator accelerator now =>
    refine ⟨operating s none, respects_operating s none, h.1, h.2.1, h.2.2, fun _ ↦ .inr ?_,
      trivial⟩
    exact ⟨trivial, trivial⟩
  | registerAccelerator record now =>
    exact ⟨operating s none, respects_operating s none, fun ht ↦ ht.elim, fun _ _ ↦ .inl trivial,
      h.1, h.2, fun _ ↦ trivial, fun _ _ ↦ .inl trivial, False.elim⟩
  | registerProfile profile => exact ⟨operating s none, respects_operating s none, h⟩
  | publishCapability capability now => exact ⟨operating s none, respects_operating s none, h⟩
  | advanceCoordinatorEpoch now => exact ⟨operating s none, respects_operating s none, trivial, h⟩
  | installCoordinatorEpoch epoch => exact ⟨operating s none, respects_operating s none, h⟩
  | reconcile id observed now =>
    exact ⟨operating s (some id), respects_operating s _, trivial, trivial, rfl,
      fun _ _ _ ↦ ⟨trivial, trivial⟩⟩
  | importDurableState durable now => exact h.elim
  | registerAttempt id kind worker boot now =>
    exact ⟨operating s none, respects_operating s none, fun _ ↦ trivial⟩
  | execute id now => exact ⟨operating s none, respects_operating s none, fun _ ↦ trivial⟩
  | applyMutationResult key mutation observed now =>
    exact ⟨operating s none, respects_operating s none, trivial, trivial, fun _ _ ↦ trivial⟩
  | reserve planId now =>
    exact ⟨operating s none, respects_operating s none, trivial, fun _ _ _ ↦ trivial⟩
  | cancelDrain p now => exact ⟨operating s none, respects_operating s none, trivial, trivial⟩
  | bindAssignment assignment =>
    exact ⟨operating s none, respects_operating s none, trivial, False.elim⟩
  | noteWorker worker now =>
    exact ⟨operating s none, respects_operating s none, trivial, False.elim⟩
  | close now => exact ⟨operating s none, respects_operating s none, trivial, trivial⟩
  | _ => exact ⟨operating s none, respects_operating s none, trivial⟩

lemma plansCurrent_step (h : KeepsBindings s op) (hs : PlansCurrent s) :
    PlansCurrent (op.step s) := by
  obtain ⟨π, hπ, hwithin⟩ := within_respecting hs h
  exact hs.evolve (evolves_within hwithin (hπ.lenient.minds s op)) hπ

lemma plansCurrent_of_reachable (hs : fabric.Reachable KeepsBindings s) : PlansCurrent s := by
  refine hs.invariant ?_ fun _ _ hs hop ↦ plansCurrent_step hop hs
  rintro _ ⟨options, now, rfl⟩
  refine ⟨?_, fun k q hq ↦ ?_, fun k a ha ↦ ?_⟩
  · rintro plan ⟨k, hk, -⟩
    cases hk
  · cases hq
  · cases ha

end Steps

section Use

/-- The plan was made under the current epoch and the current topology of its device, and its
profiles are registered at the planned generations with the planned resources. -/
def MadeUnderCurrent (s : FabricState) (plan : PartitionPlan) : Prop :=
  plan.binding.coordinatorEpoch = s.coordinatorEpoch ∧
    (∃ a, s.findAccelerator plan.binding.accelerator = some a ∧
      plan.binding.topologyGeneration = a.topologyGeneration) ∧
    ∀ planned ∈ plan.plannedPartitions,
      ProfileAt s planned.profile planned.profileGeneration planned.resources

lemma usable_of_validatePlanBinding {now : UInt64} {fresh : Bool}
    (h : validatePlanBinding s plan now fresh = success) : plan.usable = true := by
  have hholds := validatePlanBinding_iff.mp h
  simp [PartitionPlan.usable, hholds.usable, hholds.bound]

/-- A reservation is made from a registered plan that passes validation. -/
lemma reserve_validates {planId : PartitionPlanId} {now : UInt64} {r : PartitionReservation}
    (h : reserve planId now s = (t, .ok r)) :
    ∃ plan, s.plans.find? planId = some plan ∧
      validatePlanBinding s plan now s.policy.requireFreshEvidence = success := by
  obtain ⟨u, _, hopen, h⟩ := bind_eq_ok.mp h
  obtain rfl : s = u := (Prod.mk.inj hopen).1
  rw [get_bind] at h
  cases hplan : s.plans.find? planId with
  | none =>
    rw [hplan] at h
    cases (Prod.mk.inj h).2
  | some plan =>
    rw [hplan] at h
    refine ⟨plan, rfl, ?_⟩
    obtain ⟨v, _, hfeasible, h⟩ := bind_eq_ok.mp h
    cases hvalidate : validatePlanBinding s plan now s.policy.requireFreshEvidence with
    | error e =>
      rw [hvalidate] at h
      cases (Prod.mk.inj h).2
    | ok u => rfl

/-- What is executed is a reservation of a registered plan that passes validation. -/
lemma execute_validates {id : PartitionReservationId} {now : UInt64}
    {request : PartitionMutationRequest} (h : execute id now s = (t, .ok request)) :
    ∃ r plan, s.findReservation id = some r ∧ s.plans.find? r.plan = some plan ∧
      validatePlanBinding s plan now s.policy.requireFreshEvidence = success := by
  obtain ⟨u, _, hopen, h⟩ := bind_eq_ok.mp h
  obtain rfl : s = u := (Prod.mk.inj hopen).1
  rw [get_bind] at h
  cases hr : s.findReservation id with
  | none =>
    rw [hr] at h
    cases (Prod.mk.inj h).2
  | some r =>
    rw [hr] at h
    obtain ⟨v, _, hactive, h⟩ := bind_eq_ok.mp h
    obtain ⟨w, _, hworker, h⟩ := bind_eq_ok.mp h
    cases hplan : s.plans.find? r.plan with
    | none =>
      rw [hplan] at h
      cases (Prod.mk.inj h).2
    | some plan =>
      rw [hplan] at h
      dsimp only at h
      refine ⟨r, plan, rfl, hplan, ?_⟩
      cases hvalidate : validatePlanBinding s plan now s.policy.requireFreshEvidence with
      | error e =>
        rw [hvalidate] at h
        obtain ⟨x, _, -, h⟩ := bind_eq_ok.mp h
        obtain ⟨y, _, -, h⟩ := bind_eq_ok.mp h
        cases (Prod.mk.inj h).2
      | ok u => rfl

/-- As long as no epoch, topology or profile changes under an open plan, a plan that passes
validation was made under the current ones, and so is what a reservation or an execution acts on. -/
theorem plan_binding_complete (hs : fabric.Reachable KeepsBindings s) :
    (∀ k plan now fresh, s.plans.find? k = some plan →
      validatePlanBinding s plan now fresh = success → MadeUnderCurrent s plan) ∧
    (∀ planId now t r, reserve planId now s = (t, .ok r) →
      ∃ plan, s.plans.find? planId = some plan ∧ MadeUnderCurrent s plan) ∧
    (∀ id now t request, execute id now s = (t, .ok request) →
      ∃ r plan, s.findReservation id = some r ∧ s.plans.find? r.plan = some plan ∧
        MadeUnderCurrent s plan) := by
  have hcurrent : ∀ k plan now fresh, s.plans.find? k = some plan →
      validatePlanBinding s plan now fresh = success → MadeUnderCurrent s plan := by
    intro k plan now fresh hplan hvalidate
    have h := (plansCurrent_of_reachable hs).plans plan
      ⟨k, hplan, usable_of_validatePlanBinding hvalidate⟩
    obtain ⟨a, ha, -⟩ := validatePlanBinding_device hvalidate
    exact ⟨h.epoch, ⟨a, ha, (h.topology a ha).symm⟩, h.profiles⟩
  refine ⟨hcurrent, fun planId now t r h ↦ ?_, fun id now t request h ↦ ?_⟩
  · obtain ⟨plan, hplan, hvalidate⟩ := reserve_validates h
    exact ⟨plan, hplan, hcurrent _ plan now _ hplan hvalidate⟩
  · obtain ⟨r, plan, hr, hplan, hvalidate⟩ := execute_validates h
    exact ⟨r, plan, hr, hplan, hcurrent _ plan now _ hplan hvalidate⟩

lemma nonePlanned_opened : NonePlanned Sample.opened := by
  rintro plan ⟨k, hk, -⟩
  cases hk

/-- The plan of a slice on a registered device passes validation under what it was made under. -/
theorem plan_binding_complete_planned :
    let s := fabric.run [.registerBackendAccelerator Sample.device 1,
      .plan { profile := Sample.profile.id } 2] Sample.opened
    ∃ plan, s.plans.find? 2 = some plan ∧ validatePlanBinding s plan 3 true = success ∧
      MadeUnderCurrent s plan := by
  intro s
  have hs : fabric.Reachable KeepsBindings s := by
    refine .run (.initial ⟨_, _, rfl⟩) ⟨⟨?_, ?_, ?_⟩, trivial, trivial⟩
    · exact fun _ _ plan hopen ↦ absurd hopen (nonePlanned_opened plan)
    · exact fun plan hopen ↦ absurd hopen (nonePlanned_opened plan)
    · exact fun _ plan hopen ↦ absurd hopen (nonePlanned_opened plan)
  have hvalid : (s.plans.find? 2).map (fun plan ↦ validatePlanBinding s plan 3 true) =
      some success := by
    decide +kernel
  obtain ⟨plan, hplan, hvalidate⟩ := Option.map_eq_some_iff.mp hvalid
  exact ⟨plan, hplan, hvalidate, (plan_binding_complete hs).1 2 plan 3 true hplan hvalidate⟩

/-- A plan passes validation after the epoch it was made under has ended. -/
theorem plan_binding_ignores_epoch :
    ¬∀ s k plan now fresh, fabric.Reachable withoutImports s → s.plans.find? k = some plan →
      validatePlanBinding s plan now fresh = success → MadeUnderCurrent s plan := by
  intro h
  let s := fabric.run [.registerBackendAccelerator Sample.device 1,
    .plan { profile := Sample.profile.id } 2, .advanceCoordinatorEpoch 3] Sample.opened
  have hs : fabric.Reachable withoutImports s := .run (.initial ⟨_, _, rfl⟩) (by decide)
  have hvalid : (s.plans.find? 2).map (fun plan ↦ (validatePlanBinding s plan 4 true,
      decide (plan.binding.coordinatorEpoch = s.coordinatorEpoch))) = some (success, false) := by
    decide +kernel
  obtain ⟨plan, hplan, hstate⟩ := Option.map_eq_some_iff.mp hvalid
  obtain ⟨hvalidate, hepoch⟩ := Prod.mk.inj hstate
  have hcurrent := h s 2 plan 4 true hs hplan hvalidate
  exact of_decide_eq_false hepoch hcurrent.1

end Use

end PartitionFabric
