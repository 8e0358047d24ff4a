import PartitionFabric.Invariants.Lifecycle

/-!
What the planner selects: the hard constraints that every bound device meets, the ranking among
those that meet them, and what a plan says about the device it binds.
-/

namespace PartitionFabric

section Constraints

/-- What a request and the policy demand of a device whatever its rank. -/
structure MeetsConstraints (s : FabricState) (request : PartitionRequest)
    (profile : PartitionProfile) (now : UInt64) (a : AcceleratorRecord) : Prop where
  admitted : request.selector.admits a.id = true
  backend : request.selector.backend ≠ [] → request.selector.backend = a.backend
  vendor : request.selector.vendor ≠ [] → request.selector.vendor = a.identifiers.vendor
  family : request.selector.deviceFamily ≠ [] →
    request.selector.deviceFamily = a.identifiers.model
  locality : request.selector.localityDomain ≠ [] →
    request.selector.localityDomain = a.locality.name
  observed : a.evidence.isObserved = true
  fresh : s.policy.requireFreshEvidence = true ∨ request.maxEvidenceAgeMs ≠ 0 →
    a.evidence.isFreshAt now = true
  governable : a.isGovernableAt now
    (s.policy.requireFreshEvidence || request.maxEvidenceAgeMs ≠ 0) = true
  known : a.capability.support ≠ .unknown ∧ PartitionFabric.known a.capability.generation = true
  supported : a.capability.declaresSupported = true
  published : a.capability.supportsProfile request.profile = true
  profileBackend : profile.backend ≠ [] → profile.backend = a.backend
  isolation : request.isolation.required.isSubsetOf a.capability.isolation = true
  healthy : s.policy.requireHealthyDevice = true → a.health.stamp.isObserved = true →
    a.health.usableAt now = true → a.health.state = .healthy

variable {s : FabricState} {request : PartitionRequest} {profile : PartitionProfile}
  {now : UInt64} {a : AcceleratorRecord}

lemma reject_eq_none_iff {c : Prop} [Decidable c] {o : PlanOutcome} {rest : Option PlanOutcome} :
    (if c then some o else rest) = none ↔ ¬ c ∧ rest = none := by
  split <;> simp [*]

/-- The chain of tests lets a device pass exactly when it meets every constraint. -/
theorem hardRejection_eq_none :
    hardRejection s request profile a now = none ↔ MeetsConstraints s request profile now a := by
  unfold hardRejection
  simp only [reject_eq_none_iff, Bool.not_eq_true', Bool.not_eq_false, Bool.and_eq_true,
    Bool.or_eq_true, decide_eq_true_eq, not_and, not_or, List.isEmpty_eq_false_iff, not_not,
    ne_eq, and_true]
  constructor
  · rintro ⟨h₁, h₂, h₃, h₄, h₅, h₆, h₇, h₈, h₉, h₁₀, h₁₁, h₁₂, h₁₃, h₁₄⟩
    exact ⟨h₁, h₂, h₃, h₄, h₅, h₆, by simpa using h₇, by simpa using h₈, h₉, h₁₀, h₁₁, h₁₂,
      h₁₃, by simpa using h₁₄⟩
  · rintro ⟨h₁, h₂, h₃, h₄, h₅, h₆, h₇, h₈, h₉, h₁₀, h₁₁, h₁₂, h₁₃, h₁₄⟩
    exact ⟨h₁, h₂, h₃, h₄, h₅, h₆, by simpa using h₇, by simpa using h₈, h₉, h₁₀, h₁₁, h₁₂,
      h₁₃, by simpa using h₁₄⟩

/-- The disruption that an outcome implies is allowed by the policy and by the request. -/
def Permits (s : FabricState) (request : PartitionRequest) : PlanOutcome → Prop
  | .feasibleNow => True
  | .feasibleAfterDrain => s.policy.allowDrain = true ∧ request.allowDrain = true
  | .feasibleAfterReconfiguration => s.policy.allowDestructiveReconfiguration = true ∧
      request.allowDestructiveReconfiguration = true
  | _ => False

lemma permits_of_permittedOutcome {report : FragmentationReport} {outcome : PlanOutcome}
    (h : permittedOutcome s request report = (outcome, true)) :
    Permits s request outcome ∧ (report.feasibleNow || report.feasibleAfterDrain ||
      report.reconfigurationCanHelp || report.feasibleAfterReconfiguration) = true := by
  unfold permittedOutcome at h
  split at h
  · rename_i hnow
    obtain rfl := (Prod.mk.inj h).1
    exact ⟨trivial, by simp [hnow]⟩
  · split at h
    · rename_i hdrain
      simp only [Bool.and_eq_true] at hdrain
      obtain rfl := (Prod.mk.inj h).1
      exact ⟨⟨hdrain.1.2, hdrain.2⟩, by simp [hdrain.1.1]⟩
    · split at h
      · rename_i hhelp
        simp only [Bool.and_eq_true] at hhelp
        obtain rfl := (Prod.mk.inj h).1
        exact ⟨⟨hhelp.1.2, hhelp.2⟩, by simp [hhelp.1.1]⟩
      · cases (Prod.mk.inj h).2

end Constraints

section Ranking

variable {s : FabricState} {request : PartitionRequest} {profile : PartitionProfile}
  {now : UInt64} {a b : AcceleratorRecord} {outcome : PlanOutcome}

/-- The analysis of a device that has a ledger. -/
def deviceReport (s : FabricState) (request : PartitionRequest) (a : AcceleratorRecord) :
    FragmentationReport :=
  analyzeFragmentation s a ((s.findLedger a.id).getD {}) request

/-- The device may serve the request with this outcome. -/
structure ServedBy (s : FabricState) (request : PartitionRequest) (profile : PartitionProfile)
    (now : UInt64) (a : AcceleratorRecord) (outcome : PlanOutcome) : Prop where
  constraints : MeetsConstraints s request profile now a
  ledger : (s.findLedger a.id).isSome = true
  permitted : permittedOutcome s request (deviceReport s request a) = (outcome, true)

/-- The score of a device that serves the request with an outcome; less is better. -/
def rankOf (s : FabricState) (request : PartitionRequest) (profile : PartitionProfile)
    (a : AcceleratorRecord) (outcome : PlanOutcome) : ℤ :=
  ((scoreTerms s a request profile (deviceReport s request a) outcome).map
    PlanScoreTerm.contribution).sum

lemma ServedBy.unique {outcome' : PlanOutcome} (h : ServedBy s request profile now a outcome)
    (h' : ServedBy s request profile now a outcome') : outcome = outcome' :=
  (Prod.mk.inj (h.permitted.symm.trans h'.permitted)).1

lemma ServedBy.permits (h : ServedBy s request profile now a outcome) : Permits s request outcome :=
  (permits_of_permittedOutcome h.permitted).1

lemma ServedBy.feasible (h : ServedBy s request profile now a outcome) :
    planOutcomeFeasible outcome = true := by
  have hpermitted := permittedOutcome_eligible s request (deviceReport s request a)
  rw [h.permitted] at hpermitted
  exact hpermitted.symm

/-- The candidate of a device that may serve the request. -/
lemma evaluateCandidate_of_serves (h : ServedBy s request profile now a outcome) :
    evaluateCandidate s request profile now a =
      { accelerator := a.id
        acceleratorGeneration := a.generation
        eligible := true
        outcome := outcome
        fragmentation := deviceReport s request a
        score := ⟨rankOf s request profile a outcome,
          scoreTerms s a request profile (deviceReport s request a) outcome⟩ } := by
  obtain ⟨ledger, hledger⟩ := Option.isSome_iff_exists.mp h.ledger
  have hreport : analyzeFragmentation s a ledger request = deviceReport s request a := by
    rw [deviceReport, hledger, Option.getD_some]
  unfold evaluateCandidate
  simp only [hardRejection_eq_none.mpr h.constraints, hledger, hreport, h.permitted,
    (permits_of_permittedOutcome h.permitted).2, if_true]
  rfl

/-- A candidate is eligible exactly when its device may serve the request with its outcome. -/
theorem eligible_iff_serves : (evaluateCandidate s request profile now a).eligible = true ↔
    ServedBy s request profile now a (evaluateCandidate s request profile now a).outcome := by
  constructor
  · intro hel
    have hhard := (evaluateCandidate_spec s request profile now a).2.2 hel
    cases hledger : s.findLedger a.id with
    | none =>
        unfold evaluateCandidate at hel
        simp only [hhard, hledger, Bool.false_eq_true] at hel
    | some ledger =>
        have hserves : ∃ o, permittedOutcome s request
            (analyzeFragmentation s a ledger request) = (o, true) := by
          unfold evaluateCandidate at hel
          simp only [hhard, hledger] at hel
          split at hel
          · split at hel
            · rename_i hpermitted
              exact ⟨_, Prod.ext rfl hpermitted⟩
            · cases hel
          · cases hel
        obtain ⟨o, hpermitted⟩ := hserves
        have h : ServedBy s request profile now a o :=
          ⟨hardRejection_eq_none.mp hhard, by rw [hledger]; rfl,
            by rw [deviceReport, hledger]; exact hpermitted⟩
        rw [evaluateCandidate_of_serves h]
        exact h
  · intro h
    rw [evaluateCandidate_of_serves h]

lemma ServedBy.eligible (h : ServedBy s request profile now a outcome) :
    (evaluateCandidate s request profile now a).eligible = true := by
  rw [evaluateCandidate_of_serves h]

/-- The device under this identity serves the request and ranks first: no serving device has a
lower score, and those with an equal one have larger identities. -/
structure RanksFirst (s : FabricState) (request : PartitionRequest) (profile : PartitionProfile)
    (now : UInt64) (key : AcceleratorId) (a : AcceleratorRecord) (outcome : PlanOutcome) :
    Prop where
  found : s.accelerators.find? key = some a
  serves : ServedBy s request profile now a outcome
  least : ∀ j b o, s.accelerators.find? j = some b → ServedBy s request profile now b o →
    rankOf s request profile a outcome ≤ rankOf s request profile b o ∧
      (rankOf s request profile b o = rankOf s request profile a outcome → key ≤ j)

lemma RanksFirst.key_unique {key key' : AcceleratorId} {outcome' : PlanOutcome}
    (h : RanksFirst s request profile now key a outcome)
    (h' : RanksFirst s request profile now key' b outcome') : key = key' := by
  have hle := h.least key' b outcome' h'.found h'.serves
  have hge := h'.least key a outcome h.found h.serves
  have heq := le_antisymm hle.1 hge.1
  exact le_antisymm (hle.2 heq.symm) (hge.2 heq)

/-- The device that the search for the identity that ranks first finds. -/
structure BindsTo (s : FabricState) (request : PartitionRequest) (profile : PartitionProfile)
    (now : UInt64) (key : AcceleratorId) (a : AcceleratorRecord) (outcome : PlanOutcome) :
    Prop where
  found : s.accelerators.find? key = some a
  serves : ServedBy s request profile now a outcome
  best : ∃ k b o, RanksFirst s request profile now k b o ∧ b.id = a.id
  first : ∀ j b o, j < key → s.accelerators.find? j = some b → b.id = a.id →
    ¬ ServedBy s request profile now b o

lemma BindsTo.unique {key key' : AcceleratorId} {outcome' : PlanOutcome}
    (h : BindsTo s request profile now key a outcome)
    (h' : BindsTo s request profile now key' b outcome') :
    key = key' ∧ a = b ∧ outcome = outcome' := by
  obtain ⟨k, c, o, hfirst, hid⟩ := h.best
  obtain ⟨k', c', o', hfirst', hid'⟩ := h'.best
  obtain rfl := hfirst.key_unique hfirst'
  obtain rfl := Option.some.inj (hfirst.found.symm.trans hfirst'.found)
  have hsame : a.id = b.id := hid.symm.trans hid'
  have hkey : key = key' := by
    rcases lt_trichotomy key key' with hlt | heq | hgt
    · exact absurd h.serves (h'.first key a outcome hlt h.found hsame)
    · exact heq
    · exact absurd h'.serves (h.first key' b outcome' hgt h'.found hsame.symm)
  subst hkey
  obtain rfl := Option.some.inj (h.found.symm.trans h'.found)
  exact ⟨rfl, rfl, h.serves.unique h'.serves⟩

/-- Every registered device is evaluated, in the order of the identities. -/
def candidatesFor (s : FabricState) (request : PartitionRequest) (profile : PartitionProfile)
    (now : UInt64) : List CandidateEvaluation :=
  s.accelerators.values.map (evaluateCandidate s request profile now)

lemma mem_candidatesFor {c : CandidateEvaluation} :
    c ∈ candidatesFor s request profile now ↔ ∃ key a, s.accelerators.find? key = some a ∧
      evaluateCandidate s request profile now a = c := by
  unfold candidatesFor
  rw [List.mem_map]
  constructor
  · rintro ⟨a, ha, rfl⟩
    obtain ⟨key, hkey⟩ := KeyedMap.mem_values.mp ha
    exact ⟨key, a, hkey, rfl⟩
  · rintro ⟨key, a, ha, rfl⟩
    exact ⟨a, KeyedMap.mem_values.mpr ⟨key, ha⟩, rfl⟩

/-- The running minimum over the candidates is the candidate of the device that ranks first. -/
theorem ranksFirst_of_best {best : CandidateEvaluation}
    (h : bestEligible (candidatesFor s request profile now) = some best) :
    ∃ key a outcome, RanksFirst s request profile now key a outcome ∧
      best.accelerator = a.id := by
  rw [bestEligible_eq] at h
  obtain ⟨key, a, ha, rfl, hel, hleast⟩ := KeyedMap.argmin_values h
  have hserves := eligible_iff_serves.mp hel
  refine ⟨key, a, _, ⟨ha, hserves, fun j b o hb ho ↦ ?_⟩, by
    rw [evaluateCandidate_of_serves hserves]⟩
  have hscore (o : PlanOutcome) (b : AcceleratorRecord)
      (ho : ServedBy s request profile now b o) :
      (evaluateCandidate s request profile now b).score.total =
        rankOf s request profile b o := by
    rw [evaluateCandidate_of_serves ho]
  have hother := hleast j b hb ho.eligible
  rwa [hscore _ _ hserves, hscore _ _ ho] at hother

lemma best_none_iff : bestEligible (candidatesFor s request profile now) = none ↔
    ∀ c ∈ candidatesFor s request profile now, c.eligible = false := by
  rw [bestEligible_eq, List.argmin_eq_none, List.filter_eq_nil_iff]
  simp

/-- The second search finds the device that the plan is bound to. -/
theorem bindsTo_of_best {best : CandidateEvaluation}
    (h : bestEligible (candidatesFor s request profile now) = some best) :
    ∃ key a outcome, BindsTo s request profile now key a outcome ∧ best.accelerator = a.id ∧
      (candidatesFor s request profile now).find? (fun c ↦
        c.accelerator = best.accelerator && c.eligible) =
          some (evaluateCandidate s request profile now a) := by
  obtain ⟨k, b, o, hfirst, hid⟩ := ranksFirst_of_best h
  have hb := hfirst.serves
  cases hsearch : (candidatesFor s request profile now).find? fun c ↦
      c.accelerator = best.accelerator && c.eligible with
  | none =>
      have hmem : evaluateCandidate s request profile now b ∈
          candidatesFor s request profile now := mem_candidatesFor.mpr ⟨k, b, hfirst.found, rfl⟩
      have hnone := List.find?_eq_none.mp hsearch _ hmem
      rw [evaluateCandidate_of_serves hb] at hnone
      simp [hid] at hnone
  | some c =>
      obtain ⟨key, a, ha, rfl, hc, hearlier⟩ := KeyedMap.find?_values_eq_some.mp hsearch
      simp only [Bool.and_eq_true, decide_eq_true_eq] at hc
      have hserves := eligible_iff_serves.mp hc.2
      have hsame : a.id = best.accelerator :=
        (evaluateCandidate_spec s request profile now a).1.symm.trans hc.1
      refine ⟨key, a, _, ⟨ha, hserves, ⟨k, b, o, hfirst, hid.symm.trans hsame.symm⟩,
        fun j d o' hj hd hdid hdserves ↦ ?_⟩, hsame.symm, rfl⟩
      have hpassed := hearlier j d hj hd
      rw [evaluateCandidate_of_serves hdserves] at hpassed
      simp [hdid, hsame] at hpassed

end Ranking

section Plans

variable {s : FabricState} {request : PartitionRequest} {profile : PartitionProfile}
  {now : UInt64}

/-- What a feasible plan holds. -/
structure PlansFor (s : FabricState) (request : PartitionRequest) (profile : PartitionProfile)
    (now : UInt64) (a : AcceleratorRecord) (plan : PartitionPlan) : Prop where
  accelerator : plan.binding.accelerator = a.id
  candidates : plan.candidates = candidatesFor s request profile now
  steps : plan.steps = pushSteps s plan.binding profile.id (planSteps request
    ((s.findAccelerator a.id).getD {}).capability (evaluateCandidate s request profile now a))
  planned : plan.plannedPartitions = (List.range request.count.toNat).map fun ordinal ↦
    { profile := profile.id
      profileGeneration := profile.generation
      resources := profile.resources
      ordinal := ordinal.toUInt32
      vendorNativeProfile := profile.vendorNative }

/-- A plan without an eligible candidate. -/
lemma buildPlan_of_none (hvalid : request.validate s.limits = success)
    (hprofile : s.findProfile request.profile = some profile)
    (hnone : bestEligible (candidatesFor s request profile now) = none) :
    (buildPlan s request now).candidates = candidatesFor s request profile now ∧
      (buildPlan s request now).outcome = bestFailure (candidatesFor s request profile now) ∧
      (buildPlan s request now).binding = {} := by
  unfold candidatesFor at *
  unfold buildPlan
  simp only [hvalid, success, hprofile, hnone]
  exact ⟨trivial, trivial, trivial⟩

/-- A plan with an eligible candidate is bound to the device that the second search finds. -/
theorem buildPlan_of_best {best : CandidateEvaluation}
    (hvalid : request.validate s.limits = success)
    (hprofile : s.findProfile request.profile = some profile)
    (hbest : bestEligible (candidatesFor s request profile now) = some best) :
    ∃ key a, BindsTo s request profile now key a (buildPlan s request now).outcome ∧
      PlansFor s request profile now a (buildPlan s request now) := by
  obtain ⟨key, a, outcome, hbinds, hid, hchosen⟩ := bindsTo_of_best hbest
  have houtcome : (buildPlan s request now).outcome = outcome := by
    unfold candidatesFor at *
    unfold buildPlan
    simp only [hvalid, success, hprofile, hbest, hchosen, Option.getD_some]
    rw [evaluateCandidate_of_serves hbinds.serves]
  refine ⟨key, a, houtcome ▸ hbinds, ?_⟩
  unfold candidatesFor at hbest hchosen
  unfold buildPlan
  simp only [hvalid, success, hprofile, hbest, hchosen, Option.getD_some]
  exact ⟨hid, rfl, by rw [hid], rfl⟩

/-- Only a valid request for a registered profile gets a feasible plan. -/
lemma buildPlan_accepted (h : (buildPlan s request now).feasible = true) :
    request.validate s.limits = success ∧ ∃ profile,
      s.findProfile request.profile = some profile := by
  unfold buildPlan PartitionPlan.feasible at h
  cases hvalid : request.validate s.limits with
  | error e =>
      simp only [hvalid] at h
      split at h <;> exact absurd h (by decide)
  | ok u =>
      refine ⟨rfl, ?_⟩
      cases hprofile : s.findProfile request.profile with
      | none =>
          simp only [hvalid, hprofile] at h
          exact absurd h (by decide)
      | some profile => exact ⟨profile, rfl⟩

/-- A plan without an eligible candidate is infeasible. -/
lemma buildPlan_infeasible (hvalid : request.validate s.limits = success)
    (hprofile : s.findProfile request.profile = some profile)
    (hnone : bestEligible (candidatesFor s request profile now) = none) :
    (buildPlan s request now).feasible = false := by
  unfold PartitionPlan.feasible
  rw [(buildPlan_of_none hvalid hprofile hnone).2.1]
  rcases bestFailure_cases (candidatesFor s request profile now) with hfail | ⟨c, hc, hel, hfail⟩
  · rw [hfail]
    rfl
  · obtain ⟨-, a, -, rfl⟩ := mem_candidatesFor.mp hc
    rw [hfail, ← (evaluateCandidate_spec s request profile now a).2.1, hel]

/-- A feasible plan is bound to the device that the ranking selects. -/
theorem feasible_bindsTo (h : (buildPlan s request now).feasible = true) :
    request.validate s.limits = success ∧ ∃ profile key a,
      s.findProfile request.profile = some profile ∧
      BindsTo s request profile now key a (buildPlan s request now).outcome ∧
      PlansFor s request profile now a (buildPlan s request now) := by
  obtain ⟨hvalid, profile, hprofile⟩ := buildPlan_accepted h
  cases hbest : bestEligible (candidatesFor s request profile now) with
  | none =>
      rw [buildPlan_infeasible hvalid hprofile hbest] at h
      cases h
  | some best =>
      obtain ⟨key, a, hbinds, hplans⟩ := buildPlan_of_best hvalid hprofile hbest
      exact ⟨hvalid, profile, key, a, hprofile, hbinds, hplans⟩

/-- A device to bind to makes the plan feasible. -/
theorem feasible_of_bindsTo {key : AcceleratorId} {a : AcceleratorRecord} {outcome : PlanOutcome}
    (hvalid : request.validate s.limits = success)
    (hprofile : s.findProfile request.profile = some profile)
    (hbinds : BindsTo s request profile now key a outcome) :
    (buildPlan s request now).feasible = true ∧ (buildPlan s request now).outcome = outcome ∧
      PlansFor s request profile now a (buildPlan s request now) := by
  cases hbest : bestEligible (candidatesFor s request profile now) with
  | none =>
      have hel := best_none_iff.mp hbest _ (mem_candidatesFor.mpr ⟨key, a, hbinds.found, rfl⟩)
      rw [hbinds.serves.eligible] at hel
      cases hel
  | some best =>
      obtain ⟨key', a', hbinds', hplans⟩ := buildPlan_of_best hvalid hprofile hbest
      obtain ⟨-, rfl, rfl⟩ := hbinds.unique hbinds'
      exact ⟨hbinds.serves.feasible, rfl, hplans⟩

/-- A device that meets the constraints stands under its own identity. -/
lemma MeetsConstraints.named {a : AcceleratorRecord} {key : AcceleratorId}
    (h : MeetsConstraints s request profile now a) (hnamed : Named s)
    (ha : s.accelerators.find? key = some a) : a.id = key :=
  hnamed key a ha (hardRejection_none (hardRejection_eq_none.mpr h)).2.1

/-- A feasible plan is bound to a device that meets every hard constraint, and the disruption it
needs is permitted. -/
theorem feasible_meets_constraints (h : (buildPlan s request now).feasible = true) :
    ∃ profile key a, s.findProfile request.profile = some profile ∧
      s.accelerators.find? key = some a ∧
      (buildPlan s request now).binding.accelerator = a.id ∧
      MeetsConstraints s request profile now a ∧
      Permits s request (buildPlan s request now).outcome ∧
      (Named s → s.findAccelerator (buildPlan s request now).binding.accelerator = some a) := by
  obtain ⟨-, profile, key, a, hprofile, hbinds, hplans⟩ := feasible_bindsTo h
  refine ⟨profile, key, a, hprofile, hbinds.found, hplans.accelerator, hbinds.serves.constraints,
    hbinds.serves.permits, fun hnamed ↦ ?_⟩
  rw [hplans.accelerator, hbinds.serves.constraints.named hnamed hbinds.found]
  exact hbinds.found

namespace Sample

/-- One device is registered. -/
def registered : FabricState := fabric.run [.registerBackendAccelerator device 1] opened

/-- A slice on whichever device is best. -/
def slice : PartitionRequest := { profile := Sample.profile.id }

end Sample

theorem feasible_meets_constraints_slice :
    (buildPlan Sample.registered Sample.slice 2).feasible = true ∧
      ∃ profile a, MeetsConstraints Sample.registered Sample.slice profile 2 a ∧
        (buildPlan Sample.registered Sample.slice 2).binding.accelerator = a.id := by
  have hfeasible : (buildPlan Sample.registered Sample.slice 2).feasible = true := by
    decide +kernel
  obtain ⟨profile, _, a, -, -, hbound, hmeets, -⟩ := feasible_meets_constraints hfeasible
  exact ⟨hfeasible, profile, a, hmeets, hbound⟩

/-- The bound device has an eligible candidate of least score and, among those, the least
identity; without an eligible candidate the plan is infeasible, carries no binding, and reports
the mildest failure. -/
theorem selection_optimal (hvalid : request.validate s.limits = success)
    (hprofile : s.findProfile request.profile = some profile) :
    (buildPlan s request now).candidates =
        s.accelerators.values.map (evaluateCandidate s request profile now) ∧
      ((buildPlan s request now).feasible = true → ∃ key a, s.accelerators.find? key = some a ∧
        (buildPlan s request now).binding.accelerator = a.id ∧
        (evaluateCandidate s request profile now a).eligible = true ∧
        ∀ j b, s.accelerators.find? j = some b →
          (evaluateCandidate s request profile now b).eligible = true →
          (evaluateCandidate s request profile now a).score.total ≤
              (evaluateCandidate s request profile now b).score.total ∧
            ((evaluateCandidate s request profile now b).score.total =
                (evaluateCandidate s request profile now a).score.total → j ≠ key →
              key < j ∧ (Named s → a.id < b.id))) ∧
      ((∀ c ∈ (buildPlan s request now).candidates, c.eligible = false) →
        (buildPlan s request now).feasible = false ∧ (buildPlan s request now).binding = {} ∧
        ((buildPlan s request now).candidates = [] →
          (buildPlan s request now).outcome = .noEligibleAccelerator) ∧
        ((buildPlan s request now).candidates ≠ [] → ∃ c ∈ (buildPlan s request now).candidates,
          (buildPlan s request now).outcome = c.outcome ∧
          ∀ d ∈ (buildPlan s request now).candidates,
            failureSeverity c.outcome ≤ failureSeverity d.outcome)) := by
  cases hbest : bestEligible (candidatesFor s request profile now) with
  | none =>
      obtain ⟨hcandidates, houtcome, hbinding⟩ :=
        buildPlan_of_none hvalid hprofile hbest
      have hinfeasible := buildPlan_infeasible hvalid hprofile hbest
      refine ⟨hcandidates, fun h ↦ ?_, fun hall ↦ ⟨hinfeasible, hbinding, ?_, ?_⟩⟩
      · rw [hinfeasible] at h
        cases h
      · intro hempty
        rw [houtcome, ← hcandidates, hempty]
        rfl
      · intro hne
        rw [hcandidates] at hall hne ⊢
        have hrejected : (candidatesFor s request profile now).filter (fun c ↦ !c.eligible) =
            candidatesFor s request profile now :=
          List.filter_eq_self.mpr fun c hc ↦ by rw [hall c hc]; rfl
        rw [houtcome, bestFailure_eq, hrejected]
        cases hleast : (candidatesFor s request profile now).argmin
            fun c ↦ failureSeverity c.outcome with
        | none => exact absurd (List.argmin_eq_none.mp hleast) hne
        | some c =>
            exact ⟨c, List.argmin_mem hleast, rfl, fun d hd ↦
              List.le_of_mem_argmin (f := fun c ↦ failureSeverity c.outcome) hd hleast⟩
  | some best =>
      obtain ⟨_, _, hbinds, hplans⟩ := buildPlan_of_best hvalid hprofile hbest
      obtain ⟨key, a, o, hfirst, hsame⟩ := hbinds.best
      have heval := evaluateCandidate_of_serves hfirst.serves
      refine ⟨hplans.candidates, fun _ ↦ ⟨key, a, hfirst.found, hplans.accelerator.trans hsame.symm,
        hfirst.serves.eligible, fun j b hb hel ↦ ?_⟩, fun hall ↦ ?_⟩
      · have hserves := eligible_iff_serves.mp hel
        obtain ⟨hle, htie⟩ := hfirst.least j b _ hb hserves
        rw [heval, evaluateCandidate_of_serves hserves]
        refine ⟨hle, fun heq hne ↦ ?_⟩
        have hlt : key < j := lt_of_le_of_ne (htie heq) (Ne.symm hne)
        refine ⟨hlt, fun hnamed ↦ ?_⟩
        rwa [hfirst.serves.constraints.named hnamed hfirst.found,
          hserves.constraints.named hnamed hb]
      · have hrejected := best_none_iff.mpr fun c hc ↦ hall c (hplans.candidates ▸ hc)
        rw [hbest] at hrejected
        cases hrejected

namespace Sample

/-- Four devices: the second and the third are alike and have the most room, and the last one
offers no slices. -/
def fleet : FabricState := fabric.run
  [.registerBackendAccelerator device 1,
    .registerBackendAccelerator { device with stableKey := "gpu-b", physicalTotals := memory 32 } 1,
    .registerBackendAccelerator { device with stableKey := "gpu-c", physicalTotals := memory 32 } 1,
    .registerBackendAccelerator
      { device with
        stableKey := "gpu-d"
        capability := { capability with supportedProfiles := [2] }
        profiles := [{ Sample.profile with id := 2, vendorNative := "2g" }] } 1] opened

/-- More slices than any device of the fleet takes. -/
def slices : PartitionRequest := { slice with count := 9 }

end Sample

/-- A slice goes to the second device, which the third one ties with; for too many slices the
device without any gives the mildest failure. -/
theorem selection_optimal_fleet :
    (buildPlan Sample.fleet Sample.slice 2).candidates.map
        (fun c ↦ (c.accelerator, c.eligible, c.score.total)) =
        [(1, true, -150), (2, true, -450), (3, true, -450), (4, false, 0)] ∧
      (∃ a, Sample.fleet.accelerators.find? 2 = some a ∧
        (buildPlan Sample.fleet Sample.slice 2).binding.accelerator = a.id ∧
        ∀ j b, Sample.fleet.accelerators.find? j = some b →
          (evaluateCandidate Sample.fleet Sample.slice Sample.profile 2 b).eligible = true →
          (evaluateCandidate Sample.fleet Sample.slice Sample.profile 2 a).score.total ≤
              (evaluateCandidate Sample.fleet Sample.slice Sample.profile 2 b).score.total ∧
            ((evaluateCandidate Sample.fleet Sample.slice Sample.profile 2 b).score.total =
                (evaluateCandidate Sample.fleet Sample.slice Sample.profile 2 a).score.total →
              j ≠ 2 → 2 < j ∧ a.id < b.id)) ∧
      (buildPlan Sample.fleet Sample.slices 2).feasible = false ∧
      (buildPlan Sample.fleet Sample.slices 2).binding = {} ∧
      (buildPlan Sample.fleet Sample.slices 2).candidates.map
        (fun c ↦ failureSeverity c.outcome) = [9, 9, 9, 3] ∧
      ∃ c ∈ (buildPlan Sample.fleet Sample.slices 2).candidates,
        (buildPlan Sample.fleet Sample.slices 2).outcome = c.outcome ∧
        ∀ d ∈ (buildPlan Sample.fleet Sample.slices 2).candidates,
          failureSeverity c.outcome ≤ failureSeverity d.outcome := by
  have hprofile : Sample.fleet.findProfile 1 = some Sample.profile := by decide +kernel
  have hentries : ∀ e ∈ Sample.fleet.accelerators.entries, e.2.id = e.1 := by decide +kernel
  have hnamed : Named Sample.fleet := fun k a ha _ ↦
    hentries (k, a) (KeyedMap.find?_eq_some_iff_mem.mp ha)
  have hbound : (buildPlan Sample.fleet Sample.slice 2).binding.accelerator = 2 := by
    decide +kernel
  have hscores : (buildPlan Sample.fleet Sample.slice 2).candidates.map
      (fun c ↦ (c.accelerator, c.eligible, c.score.total)) =
      [(1, true, -150), (2, true, -450), (3, true, -450), (4, false, 0)] := by decide +kernel
  have hfailures : (buildPlan Sample.fleet Sample.slices 2).candidates.map
      (fun c ↦ failureSeverity c.outcome) = [9, 9, 9, 3] := by decide +kernel
  have hsome : (buildPlan Sample.fleet Sample.slices 2).candidates ≠ [] := by
    intro hempty
    rw [hempty] at hfailures
    cases hfailures
  obtain ⟨-, hselected, -⟩ := @selection_optimal Sample.fleet Sample.slice Sample.profile 2
    (by decide +kernel) hprofile
  obtain ⟨-, -, hfailed⟩ := @selection_optimal Sample.fleet Sample.slices Sample.profile 2
    (by decide +kernel) hprofile
  obtain ⟨key, a, ha, hbinding, -, hleast⟩ := hselected (by decide +kernel)
  obtain ⟨hinfeasible, hunbound, -, hmildest⟩ := hfailed (by decide +kernel)
  have hkey : a.id = key := hentries (key, a) (KeyedMap.find?_eq_some_iff_mem.mp ha)
  obtain rfl : key = 2 := by rw [← hkey, ← hbinding, hbound]
  refine ⟨hscores, ⟨a, ha, hbinding, fun j b hb heligible ↦ ?_⟩, hinfeasible, hunbound, hfailures,
    hmildest hsome⟩
  obtain ⟨hle, htie⟩ := hleast j b hb heligible
  exact ⟨hle, fun hsame hne ↦ ⟨(htie hsame hne).1, (htie hsame hne).2 hnamed⟩⟩

/-- A device under a smaller identity than the bound one may serve with the same outcome. -/
def Overtaken (s : FabricState) (request : PartitionRequest) (now : UInt64) : Prop :=
  request.validate s.limits = success ∧ ∃ profile key a outcome j b,
    s.findProfile request.profile = some profile ∧
    BindsTo s request profile now key a outcome ∧
    j < key ∧ s.accelerators.find? j = some b ∧ ServedBy s request profile now b outcome

/-- A plan names its device as the chosen candidate. -/
def NamesChosen (plan : PartitionPlan) : Prop :=
  plan.feasible = true → ∃ c, plan.chosen = some c ∧ c.accelerator = plan.binding.accelerator

/-- The chosen candidate of a plan that binds a device is the first one with its outcome. -/
lemma chosen_of_bindsTo {key : AcceleratorId} {a : AcceleratorRecord}
    (hbinds : BindsTo s request profile now key a (buildPlan s request now).outcome)
    (hplans : PlansFor s request profile now a (buildPlan s request now)) :
    ∃ j b, (buildPlan s request now).chosen = some (evaluateCandidate s request profile now b) ∧
      j ≤ key ∧ s.accelerators.find? j = some b ∧
      ServedBy s request profile now b (buildPlan s request now).outcome ∧
      ∀ i c, i < j → s.accelerators.find? i = some c →
        ¬ ServedBy s request profile now c (buildPlan s request now).outcome := by
  generalize hplan : buildPlan s request now = plan at hbinds hplans ⊢
  have hpasses {b : AcceleratorRecord} :
      ((evaluateCandidate s request profile now b).eligible &&
        (evaluateCandidate s request profile now b).outcome = plan.outcome) = true ↔
      ServedBy s request profile now b plan.outcome := by
    rw [Bool.and_eq_true, decide_eq_true_eq, eligible_iff_serves]
    constructor
    · rintro ⟨hserves, heq⟩
      exact heq ▸ hserves
    · intro hserves
      have heq : (evaluateCandidate s request profile now b).outcome = plan.outcome := by
        rw [evaluateCandidate_of_serves hserves]
      exact ⟨heq.symm ▸ hserves, heq⟩
  unfold PartitionPlan.chosen
  rw [hplans.candidates]
  cases hsearch : (candidatesFor s request profile now).find? fun c ↦
      c.eligible && c.outcome = plan.outcome with
  | none =>
      have hnone := List.find?_eq_none.mp hsearch _
        (mem_candidatesFor.mpr ⟨key, a, hbinds.found, rfl⟩)
      exact absurd (hpasses.mpr hbinds.serves) hnone
  | some c =>
      obtain ⟨j, b, hb, rfl, hc, hearlier⟩ := KeyedMap.find?_values_eq_some.mp hsearch
      refine ⟨j, b, rfl, ?_, hb, hpasses.mp hc, fun i d hi hd hserves ↦ ?_⟩
      · refine not_lt.mp fun hlt ↦ ?_
        have hskipped := hearlier key a hlt hbinds.found
        rw [hpasses.mpr hbinds.serves] at hskipped
        cases hskipped
      · have hskipped := hearlier i d hi hd
        rw [hpasses.mpr hserves] at hskipped
        cases hskipped

/-- The chosen candidate of a plan is the bound device unless one before it may serve with the
same outcome. -/
theorem chosen_names_bound_iff (s : FabricState) (request : PartitionRequest) (now : UInt64) :
    NamesChosen (buildPlan s request now) ↔ ¬ Overtaken s request now := by
  constructor
  · rintro hnames ⟨hvalid, profile, key, a, outcome, i, d, hprofile, hbinds, hi, hd, hserves⟩
    obtain ⟨hfeasible, rfl, hplans⟩ := feasible_of_bindsTo hvalid hprofile hbinds
    obtain ⟨j, b, hchosen, -, hb, hbserves, hnone⟩ := chosen_of_bindsTo hbinds hplans
    obtain ⟨c, hc, hbound⟩ := hnames hfeasible
    obtain rfl := Option.some.inj (hchosen.symm.trans hc)
    rw [evaluateCandidate_of_serves hbserves, hplans.accelerator] at hbound
    have hle : j ≤ i := not_lt.mp fun hlt ↦ hnone i d hlt hd hserves
    exact hbinds.first j b _ (lt_of_le_of_lt hle hi) hb hbound hbserves
  · intro hnot hfeasible
    obtain ⟨hvalid, profile, key, a, hprofile, hbinds, hplans⟩ := feasible_bindsTo hfeasible
    obtain ⟨j, b, hchosen, hle, hb, hbserves, -⟩ := chosen_of_bindsTo hbinds hplans
    refine ⟨_, hchosen, ?_⟩
    rcases hle.lt_or_eq with hlt | rfl
    · exact absurd ⟨hvalid, profile, key, a, _, j, b, hprofile, hbinds, hlt, hb, hbserves⟩ hnot
    · obtain rfl := Option.some.inj (hb.symm.trans hbinds.found)
      rw [evaluateCandidate_of_serves hbserves, hplans.accelerator]

namespace Sample

/-- A second device, on which a slice leaves more room for others. -/
def twoDevices : FabricState := fabric.run
  [.registerBackendAccelerator device 1, .registerBackendAccelerator
    { device with stableKey := "gpu-b", physicalTotals := memory 32 } 1] opened

end Sample

/-- The better device is bound, and the plan still names the first one as chosen. -/
theorem chosen_not_bound : ¬ NamesChosen (buildPlan Sample.twoDevices Sample.slice 2) := by
  intro h
  have hfeasible : (buildPlan Sample.twoDevices Sample.slice 2).feasible = true := by
    decide +kernel
  have hdiffers : (buildPlan Sample.twoDevices Sample.slice 2).chosen.any (fun c ↦
      c.accelerator ≠ (buildPlan Sample.twoDevices Sample.slice 2).binding.accelerator) = true := by
    decide +kernel
  obtain ⟨c, hc, hbound⟩ := h hfeasible
  rw [hc, Option.any_some] at hdiffers
  exact of_decide_eq_true hdiffers hbound

end Plans

end PartitionFabric
